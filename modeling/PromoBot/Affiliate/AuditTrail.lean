import PromoBot.Database.LinkUses
import PromoBot.Lib.Lookup
import PromoBot.Lib.TransitionSystem

/-!
# The history is an audit trail

`database/history_models.py` calls its tables durable audit facts.  Any number of callers write
them, in any order and with any arguments, and only by the operations of
`AffiliateLinkHistoryRepository`.  Nothing is ever taken back by these (`history_append_only`):
no row goes away, what a row says of whom and what it was made for stays, its state moves
forward only, and a finished row never changes at all.  So the links a use names are those it
was recorded with, and they are confirmed ones.

## What keeps the rows right

Two things watch over the rows: the operations, and the check constraints and the unique index
of the tables.  The lengths of the fingerprints are left to the tables, and a preparation with
others is refused by them (`checkFingerprints`).  For the rest the operations never get so far:
the constraints on confirmed and unconfirmed rows and the index on unfinished identities follow
from the guards that come before a write, so what they say holds in every state (`Sound`)
without a write ever failing on one of them.

## How the invariant is put together

An operation touches one row of a table, or many rows in the same way, and `History` says of
each what becomes of a row: a `Change`.  So there is one lemma about a change
(`advances_of_change`), by cases of what a change can be, and none about an operation: a
consistent row stays consistent, and moves forward only.  The stages order the states
(requested, prepared, called, finished), and `Consistent` says which of the columns a stage has
filled.

The uses come after the generations because they point to them.  A use is recorded for links
which are confirmed when it is recorded; a confirmed generation is finished, and a finished one
never changes; so the links stay what they were without a use being looked at again.
`Continues` is the other half of the index: an operation that prepares a row asks for an
unfinished one of the same identity first, and every other operation makes no row unfinished.
-/

namespace PromoBot
namespace AuditTrail

open SqlTable Generation AffiliateLinkHistoryRepository Fallible

/-! ## The two tables -/

/-- The tables of the history. -/
structure Tables where
  generations : Generations
  uses : LinkUses

/-- A call of a method of `AffiliateLinkHistoryRepository` which writes. -/
inductive Op
  | requestLegacyGeneration (scope : HistoryScope) (key : IdentityKey) (legacyKind : LegacyKind)
      (legacyId : Nat)
  | prepare (q : Preparation) (requestId : Option Nat)
  | startCall (now : Instant) (calls : List (Nat × Nat))
  | confirm (id : Nat) (c : Confirmation)
  | fail (ids : List Nat) (now : Instant) (state : GenerationState) (errorCode : String)
  | recover (scope : HistoryScope) (now : Instant)
  | recordUse (q : UseRecord)
  | transitionSend (useId : Option Nat) (now : Instant) (state : LinkUseState) (owner : SendOwner)
      (errorCode : Option String) (messageId : Option Text)

/-- The generations after a call; `none` where it raised, and was rolled back. -/
def generationsAfter (t : Generations) : Op → Option Generations
  | .requestLegacyGeneration scope key legacyKind legacyId =>
    (AffiliateLinkHistoryRepository.requestLegacyGeneration t scope key legacyKind
      legacyId).toOption
  | .prepare q requestId =>
    ((AffiliateLinkHistoryRepository.prepare t q requestId).map Prod.fst).toOption
  | .startCall now calls => AffiliateLinkHistoryRepository.startCall now t calls
  | .confirm id c => AffiliateLinkHistoryRepository.confirm t id c
  | .fail ids now state errorCode => AffiliateLinkHistoryRepository.fail t ids now state errorCode
  | .recover scope now => some (AffiliateLinkHistoryRepository.recover t scope now)
  | .recordUse _ | .transitionSend _ _ _ _ _ _ => some t

/-- The uses after a call; `none` where it raised, and was rolled back. -/
def usesAfter (w : Tables) : Op → Option LinkUses
  | .recordUse q =>
    ((AffiliateLinkHistoryRepository.recordUse w.generations w.uses q).map Prod.fst).toOption
  | .transitionSend useId now state owner errorCode messageId =>
    (AffiliateLinkHistoryRepository.transitionSend w.uses useId now state owner errorCode
      messageId).toOption
  | _ => some w.uses

/-- One call. -/
def step (w : Tables) (op : Op) : Option Tables := do
  let generations ← generationsAfter w.generations op
  let uses ← usesAfter w op
  return ⟨generations, uses⟩

/-- The history, written by whoever calls. -/
def system : TransitionSystem Tables Op where
  init w := w = ⟨∅, ∅⟩
  step := step

/-! ## What a generation says -/

/-- How far a generation is: requested, prepared, called, finished. -/
def stage : GenerationState → Nat
  | .requested => 0
  | .prepared => 1
  | .callStarted => 2
  | .confirmed | .rejected | .failed | .uncertain => 3

/-- What a row says in every state of it: the check constraints of the table, and what the
times of it tell. -/
structure Consistent (r : Generation) : Prop where
  platform : r.platform = "aliexpress"
  inputFingerprint : ∀ f ∈ r.inputFingerprint, f.length = 64
  trackingFingerprint : ∀ f ∈ r.trackingFingerprint, f.length = 64
  confirmation : r.state = .confirmed → r.generatedUrl ≠ none ∧ r.generatedAt ≠ none ∧
    r.trackingConfirmed = true ∧ r.contractVersion ≠ none ∧ r.correlationMode ≠ none ∧
    r.validationFacts ≠ none ∧ r.callStartedAt ≠ none
  noLink : r.state ≠ .confirmed → r.generatedUrl = none ∧ r.generatedAt = none ∧
    r.trackingConfirmed = false
  /-- What was rejected or is uncertain was called, and only what was called. -/
  uncalled : stage r.state < 2 → r.callStartedAt = none
  called : stage r.state = 2 ∨ r.state = .rejected ∨ r.state = .uncertain → r.callStartedAt ≠ none
  finished : r.finishedAt ≠ none ↔ stage r.state = 3
  leased : r.leaseUntil ≠ none ↔ r.Open
  inTime : ∀ g, r.generatedAt = some g → AtMost r.callStartedAt g

/-- What a preparation wrote is still there. -/
structure SamePreparation (r r' : Generation) : Prop where
  keyFingerprint : r'.keyFingerprint = r.keyFingerprint
  inputFingerprint : r'.inputFingerprint = r.inputFingerprint
  trackingFingerprint : r'.trackingFingerprint = r.trackingFingerprint
  promotionLinkType : r'.promotionLinkType = r.promotionLinkType
  callId : r'.callId = r.callId
  callOrdinal : r'.callOrdinal = r.callOrdinal
  leaseToken : r'.leaseToken = r.leaseToken
  preparedAt : r'.preparedAt = r.preparedAt
  origin : r'.origin = r.origin
  originMissingReason : r'.originMissingReason = r.originMissingReason

/-- The row is for the same thing. -/
structure SameSubject (r r' : Generation) : Prop where
  scope : r'.scope = r.scope
  platform : r'.platform = r.platform
  provider : r'.provider = r.provider
  operation : r'.operation = r.operation
  identityKey : r'.identityKey = r.identityKey
  legacyKind : r'.legacyKind = r.legacyKind
  legacyId : r'.legacyId = r.legacyId

/-- All that becomes of a row: it moves forward, and keeps what it says. -/
structure Advanced (r r' : Generation) : Prop where
  subject : SameSubject r r'
  forward : stage r.state ≤ stage r'.state
  preparation : r.state ≠ .requested → SamePreparation r r'
  started : r.callStartedAt ≠ none → r'.callStartedAt = r.callStartedAt
  frozen : stage r.state = 3 → r' = r

theorem SamePreparation.refl (r : Generation) : SamePreparation r r :=
  ⟨rfl, rfl, rfl, rfl, rfl, rfl, rfl, rfl, rfl, rfl⟩

theorem SameSubject.refl (r : Generation) : SameSubject r r := ⟨rfl, rfl, rfl, rfl, rfl, rfl, rfl⟩

theorem Advanced.refl (r : Generation) : Advanced r r :=
  ⟨.refl r, Nat.le_refl _, fun _ => .refl r, fun _ => rfl, fun _ => rfl⟩

theorem SamePreparation.trans {r r' r'' : Generation} (h : SamePreparation r r')
    (h' : SamePreparation r' r'') : SamePreparation r r'' where
  keyFingerprint := h'.keyFingerprint.trans h.keyFingerprint
  inputFingerprint := h'.inputFingerprint.trans h.inputFingerprint
  trackingFingerprint := h'.trackingFingerprint.trans h.trackingFingerprint
  promotionLinkType := h'.promotionLinkType.trans h.promotionLinkType
  callId := h'.callId.trans h.callId
  callOrdinal := h'.callOrdinal.trans h.callOrdinal
  leaseToken := h'.leaseToken.trans h.leaseToken
  preparedAt := h'.preparedAt.trans h.preparedAt
  origin := h'.origin.trans h.origin
  originMissingReason := h'.originMissingReason.trans h.originMissingReason

theorem SameSubject.trans {r r' r'' : Generation} (h : SameSubject r r')
    (h' : SameSubject r' r'') : SameSubject r r'' where
  scope := h'.scope.trans h.scope
  platform := h'.platform.trans h.platform
  provider := h'.provider.trans h.provider
  operation := h'.operation.trans h.operation
  identityKey := h'.identityKey.trans h.identityKey
  legacyKind := h'.legacyKind.trans h.legacyKind
  legacyId := h'.legacyId.trans h.legacyId

theorem stage_eq_zero {state : GenerationState} : stage state = 0 ↔ state = .requested := by
  cases state <;> decide

theorem Advanced.trans {r r' r'' : Generation} (h : Advanced r r') (h' : Advanced r' r'') :
    Advanced r r'' where
  subject := h.subject.trans h'.subject
  forward := h.forward.trans h'.forward
  preparation := by
    intro hr
    refine (h.preparation hr).trans (h'.preparation fun hr' => hr ?_)
    have hle := h.forward
    rw [stage_eq_zero.2 hr'] at hle
    exact stage_eq_zero.1 (Nat.le_zero.1 hle)
  started := by
    intro hr
    have hr' := h.started hr
    exact (h'.started (hr' ▸ hr)).trans hr'
  frozen := by
    intro hr
    obtain rfl := h.frozen hr
    exact h'.frozen hr

/-! ## What a change does to a row -/

theorem stage_of_open {r : Generation} (h : r.Open) : 1 ≤ stage r.state ∧ stage r.state ≤ 2 := by
  unfold Open at h
  cases hstate : r.state <;> rw [hstate] at h <;> first | decide | simp [openStates] at h

theorem stage_of_closing {state : GenerationState} (h : state ∈ closingStates) :
    stage state = 3 ∧ state ≠ .confirmed := by
  cases state <;> first | decide | simp [closingStates] at h

theorem consistent_newRow (scope : HistoryScope) (key : IdentityKey) :
    Consistent (newRow scope key) where
  platform := rfl
  inputFingerprint := by simp [newRow]
  trackingFingerprint := by simp [newRow]
  confirmation := fun h => GenerationState.noConfusion h
  noLink := fun _ => ⟨rfl, rfl, rfl⟩
  uncalled := fun _ => rfl
  called := by simp [newRow, stage]
  finished := by simp [newRow, stage]
  leased := by simp [newRow, Open, openStates]
  inTime := by simp [newRow]

theorem consistent_requestedRow (scope : HistoryScope) (key : IdentityKey)
    (legacyKind : LegacyKind) (legacyId : Nat) :
    Consistent (requestedRow scope key legacyKind legacyId) where
  platform := rfl
  inputFingerprint := by simp [requestedRow, newRow]
  trackingFingerprint := by simp [requestedRow, newRow]
  confirmation := fun h => GenerationState.noConfusion h
  noLink := fun _ => ⟨rfl, rfl, rfl⟩
  uncalled := fun _ => rfl
  called := by simp [requestedRow, newRow, stage]
  finished := by simp [requestedRow, newRow, stage]
  leased := by simp [requestedRow, newRow, Open, openStates]
  inTime := by simp [requestedRow, newRow]

theorem consistent_prepared {q : Preparation} (hq : q.Fits) {r : Generation} (h : Consistent r)
    (hstate : r.state = .requested) : Consistent (prepared q r) where
  platform := h.platform
  inputFingerprint := by simpa [prepared] using hq.inputFingerprint
  trackingFingerprint := by simpa [prepared] using hq.trackingFingerprint
  confirmation := fun h => GenerationState.noConfusion h
  noLink := fun _ => h.noLink (by rw [hstate]; exact GenerationState.noConfusion)
  uncalled := fun _ => h.uncalled (by rw [hstate]; decide)
  called := by simp [prepared, stage]
  finished := by
    have hopen : ¬ r.finishedAt ≠ none := fun hr => by
      have hstage := h.finished.1 hr
      rw [hstate] at hstage
      exact absurd hstage (by decide)
    simpa [prepared, stage] using hopen
  leased := by simp [prepared, Open, openStates]
  inTime := by
    intro g hg
    have hnone := (h.noLink (by rw [hstate]; exact GenerationState.noConfusion)).2.1
    exact absurd (hnone.symm.trans hg) (by simp)

theorem consistent_started (now : Instant) {r : Generation} (h : Consistent r)
    (hstate : r.state = .prepared) : Consistent (started now r) where
  platform := h.platform
  inputFingerprint := h.inputFingerprint
  trackingFingerprint := h.trackingFingerprint
  confirmation := fun h => GenerationState.noConfusion h
  noLink := fun _ => h.noLink (by rw [hstate]; exact GenerationState.noConfusion)
  uncalled := by simp [started, stage]
  called := by simp [started]
  finished := by
    have hopen : ¬ r.finishedAt ≠ none := fun hr => by
      have hstage := h.finished.1 hr
      rw [hstate] at hstage
      exact absurd hstage (by decide)
    simpa [started, stage] using hopen
  leased := by
    have hopen := h.leased.2 (by rw [Open, hstate]; decide)
    simpa [started, Open, openStates] using hopen
  inTime := by
    intro g hg
    have hnone := (h.noLink (by rw [hstate]; exact GenerationState.noConfusion)).2.1
    exact absurd (hnone.symm.trans hg) (by simp)

theorem consistent_confirmed (c : Confirmation) {r : Generation} (h : Consistent r)
    (hc : Confirmable c.now r) : Consistent (confirmed c r) where
  platform := h.platform
  inputFingerprint := h.inputFingerprint
  trackingFingerprint := h.trackingFingerprint
  confirmation := by
    intro _
    have hcalled := h.called (.inl (by rw [hc.1]; rfl))
    simpa [confirmed] using hcalled
  noLink := fun hne => absurd rfl hne
  uncalled := by simp [confirmed, stage]
  called := by simp [confirmed, stage]
  finished := by simp [confirmed, stage]
  leased := by simp [confirmed, Open, openStates]
  inTime := by
    intro g hg
    obtain rfl := Option.some.inj hg
    exact hc.2.2

theorem consistent_closed (now : Instant) {state : GenerationState} (code : String)
    {r : Generation} (h : Consistent r) (hopen : r.Open) (hstate : state ∈ closingStates) :
    Consistent (closed now state code r) := by
  obtain ⟨hstage, hne⟩ := stage_of_closing (closed_state now code (r := r) hstate)
  have hunconfirmed : r.state ≠ .confirmed := fun hr => by
    have hle := (stage_of_open hopen).2
    rw [hr] at hle
    exact absurd hle (by decide)
  exact
    { platform := h.platform
      inputFingerprint := h.inputFingerprint
      trackingFingerprint := h.trackingFingerprint
      confirmation := fun hr => absurd hr hne
      noLink := fun _ => h.noLink hunconfirmed
      uncalled := fun hlt => absurd hstage (by omega)
      called := by
        -- What was not called has failed.
        intro hr hnone
        have hfailed : (closed now state code r).state = .failed := if_pos hnone
        rw [hfailed] at hr
        simp [stage] at hr
      finished := ⟨fun _ => hstage, fun _ => Option.some_ne_none now⟩
      leased := by
        refine ⟨fun hr => absurd rfl hr, fun hr => ?_⟩
        have hle := (stage_of_open hr).2
        omega
      inTime := fun g hg => absurd ((h.noLink hunconfirmed).2.1.symm.trans hg) (by simp) }

/-! ## What becomes of the rows -/

/-- **A change keeps a row consistent, and moves it forward.** -/
theorem advances_of_change {o o' : Option Generation} (h : Change o o')
    (hr : ∀ r, o = some r → Consistent r) :
    (∀ r', o' = some r' → Consistent r') ∧
      ∀ r, o = some r → ∃ r', o' = some r' ∧ Advanced r r' := by
  cases h with
  | quiet h =>
    cases h with
    | keep => exact ⟨hr, fun r ho => ⟨r, ho, .refl r⟩⟩
    | request scope key legacyKind legacyId =>
      refine ⟨fun r' hr' => ?_, fun r ho => by cases ho⟩
      obtain rfl := Option.some.inj hr'
      exact consistent_requestedRow scope key legacyKind legacyId
    | @start now r hstate =>
      have hconsistent := hr r rfl
      refine ⟨fun r' hr' => ?_, fun r₀ ho => ⟨_, rfl, ?_⟩⟩
      · obtain rfl := Option.some.inj hr'
        exact consistent_started now hconsistent hstate
      · obtain rfl := Option.some.inj ho
        have huncalled := hconsistent.uncalled (by rw [hstate]; decide)
        refine ⟨⟨rfl, rfl, rfl, rfl, rfl, rfl, rfl⟩, by rw [hstate]; exact Nat.le_succ 1,
          fun _ => ⟨rfl, rfl, rfl, rfl, rfl, rfl, rfl, rfl, rfl, rfl⟩,
          fun hcalled => absurd huncalled hcalled, fun hdone => ?_⟩
        rw [hstate] at hdone
        exact absurd hdone (by decide)
    | @close now state code r hopen hstate =>
      refine ⟨fun r' hr' => ?_, fun r₀ ho => ⟨_, rfl, ?_⟩⟩
      · obtain rfl := Option.some.inj hr'
        exact consistent_closed now code (hr r rfl) hopen hstate
      · obtain rfl := Option.some.inj ho
        have hstage := (stage_of_closing (closed_state now code (r := r) hstate)).1
        have hle := (stage_of_open hopen).2
        exact ⟨⟨rfl, rfl, rfl, rfl, rfl, rfl, rfl⟩, by omega,
          fun _ => ⟨rfl, rfl, rfl, rfl, rfl, rfl, rfl, rfl, rfl, rfl⟩, fun _ => rfl,
          fun hdone => by omega⟩
  | insert q hq =>
    refine ⟨fun r' hr' => ?_, fun r ho => by cases ho⟩
    obtain rfl := Option.some.inj hr'
    exact consistent_prepared hq (consistent_newRow q.scope q.identityKey) rfl
  | @prepare q r hstate hscope hkey hq =>
    refine ⟨fun r' hr' => ?_, fun r₀ ho => ⟨_, rfl, ?_⟩⟩
    · obtain rfl := Option.some.inj hr'
      exact consistent_prepared hq (hr r rfl) hstate
    · obtain rfl := Option.some.inj ho
      refine ⟨⟨rfl, rfl, rfl, rfl, rfl, rfl, rfl⟩, by rw [hstate]; exact Nat.zero_le _,
        fun hne => absurd hstate hne, fun _ => rfl, fun hdone => ?_⟩
      rw [hstate] at hdone
      exact absurd hdone (by decide)
  | @confirm c r hc =>
    refine ⟨fun r' hr' => ?_, fun r₀ ho => ⟨_, rfl, ?_⟩⟩
    · obtain rfl := Option.some.inj hr'
      exact consistent_confirmed c (hr r rfl) hc
    · obtain rfl := Option.some.inj ho
      refine ⟨⟨rfl, rfl, rfl, rfl, rfl, rfl, rfl⟩, by rw [hc.1]; exact Nat.le_succ 2,
        fun _ => ⟨rfl, rfl, rfl, rfl, rfl, rfl, rfl, rfl, rfl, rfl⟩, fun _ => rfl,
        fun hdone => ?_⟩
      rw [hc.1] at hdone
      exact absurd hdone (by decide)

/-- The same, after any number of changes. -/
theorem advances_of_evolves {t t' : Generations} (h : Evolves t t')
    (ht : ∀ id r, t.get? id = some r → Consistent r) :
    (∀ id r', t'.get? id = some r' → Consistent r') ∧
      ∀ id r, t.get? id = some r → ∃ r', t'.get? id = some r' ∧ Advanced r r' := by
  have hrow : ∀ id o, Relation.ReflTransGen Change (t.get? id) o →
      (∀ r', o = some r' → Consistent r') ∧
        ∀ r, t.get? id = some r → ∃ r', o = some r' ∧ Advanced r r' := by
    intro id o hrun
    induction hrun with
    | refl => exact ⟨ht id, fun r hr => ⟨r, hr, .refl r⟩⟩
    | tail _ hchange ih =>
      obtain ⟨hconsistent, hadvanced⟩ := ih
      obtain ⟨hconsistent', hadvanced'⟩ := advances_of_change hchange hconsistent
      refine ⟨hconsistent', fun r hr => ?_⟩
      obtain ⟨r₁, hr₁, h₁⟩ := hadvanced r hr
      obtain ⟨r₂, hr₂, h₂⟩ := hadvanced' r₁ hr₁
      exact ⟨r₂, hr₂, h₁.trans h₂⟩
  exact ⟨fun id => (hrow id _ (h id)).1, fun id => (hrow id _ (h id)).2⟩

theorem evolves_of_generationsAfter {t t' : Generations} {op : Op}
    (h : generationsAfter t op = some t') : Evolves t t' := by
  cases op with
  | requestLegacyGeneration scope key legacyKind legacyId =>
    exact .of_quiet (quiet_requestLegacyGeneration (toOption_eq_some.1 h))
  | prepare q requestId =>
    obtain ⟨⟨t₁, id⟩, hprepare, rfl⟩ := map_eq_ok.1 (toOption_eq_some.1 h)
    exact .of_change (change_prepare hprepare)
  | startCall now calls => exact evolves_startCall h
  | confirm id c => exact .of_change (change_confirm h)
  | fail ids now state errorCode => exact .of_quiet (quiet_fail h)
  | recover scope now =>
    obtain rfl := Option.some.inj h
    exact .of_quiet (quiet_recover scope now)
  | recordUse _ | transitionSend _ _ _ _ _ _ =>
    obtain rfl := Option.some.inj h
    exact .refl t

/-! ## One unfinished generation of an identity -/

/-- The states of `uq_history_unfinished_identity`. -/
def Unfinished (r : Generation) : Prop := r.state ∈ [.prepared, .callStarted, .uncertain]

/-- `uq_history_unfinished_identity`. -/
def UniqueIdentity (t : Generations) : Prop :=
  ∀ i j r r', t.get? i = some r → t.get? j = some r' → Unfinished r → Unfinished r' →
    r.scope = r'.scope → r.platform = r'.platform → r.identityKey = r'.identityKey → i = j

/-- Every unfinished row was there before, unfinished and for the same. -/
def Continues (t t' : Generations) : Prop :=
  ∀ j r', t'.get? j = some r' → Unfinished r' →
    ∃ r, t.get? j = some r ∧ Unfinished r ∧ SameSubject r r'

theorem UniqueIdentity.continues {t t' : Generations} (h : UniqueIdentity t)
    (hcontinues : Continues t t') : UniqueIdentity t' := by
  intro i j r r' hr hr' hopen hopen' hscope hplatform hkey
  obtain ⟨r₀, hr₀, hopen₀, hsame⟩ := hcontinues i r hr hopen
  obtain ⟨r₁, hr₁, hopen₁, hsame'⟩ := hcontinues j r' hr' hopen'
  exact h i j r₀ r₁ hr₀ hr₁ hopen₀ hopen₁ (hsame.scope.symm.trans (hscope.trans hsame'.scope))
    (hsame.platform.symm.trans (hplatform.trans hsame'.platform))
    (hsame.identityKey.symm.trans (hkey.trans hsame'.identityKey))

theorem unfinished_of_open {r : Generation} (h : r.Open) : Unfinished r :=
  (show openStates ⊆ [.prepared, .callStarted, .uncertain] by decide) h

theorem Unfinished.blocking {r : Generation} (h : Unfinished r) : r.Blocking :=
  (show [.prepared, .callStarted, .uncertain] ⊆ blockingStates by decide) h

theorem continues_of_quiet {o o' : Option Generation} (h : QuietChange o o') :
    ∀ r', o' = some r' → Unfinished r' → ∃ r, o = some r ∧ Unfinished r ∧ SameSubject r r' := by
  intro r' hr' hopen
  cases h with
  | keep => exact ⟨r', hr', hopen, .refl r'⟩
  | request scope key legacyKind legacyId =>
    obtain rfl := Option.some.inj hr'
    exact absurd hopen (by simp [Unfinished, requestedRow, newRow])
  | @start now r hstate =>
    obtain rfl := Option.some.inj hr'
    exact ⟨r, rfl, by rw [Unfinished, hstate]; decide, rfl, rfl, rfl, rfl, rfl, rfl, rfl⟩
  | @close now state code r hr _ =>
    obtain rfl := Option.some.inj hr'
    exact ⟨r, rfl, unfinished_of_open hr, rfl, rfl, rfl, rfl, rfl, rfl, rfl⟩

theorem continues_of_startCall {now : Instant} {calls : List (Nat × Nat)} {t t' : Generations}
    (h : startCall now t calls = some t') : Continues t t' := by
  intro j
  have hrun := quiet_startCall h j
  generalize t'.get? j = o' at hrun
  induction hrun with
  | refl => exact fun r' hr' hopen => ⟨r', hr', hopen, .refl r'⟩
  | tail _ hchange ih =>
    intro r' hr' hopen
    obtain ⟨r₁, hr₁, hopen₁, hsame₁⟩ := continues_of_quiet hchange r' hr' hopen
    obtain ⟨r, hr, hopen₀, hsame⟩ := ih r₁ hr₁ hopen₁
    exact ⟨r, hr, hopen₀, hsame.trans hsame₁⟩

theorem continues_of_confirm {id : Nat} {c : Confirmation} {t t' : Generations}
    (h : confirm t id c = some t') : Continues t t' := by
  intro j r' hr' hopen
  obtain ⟨⟨r, hr, hc, hconfirmed⟩, hother⟩ := get?_of_updateOne h
  rcases eq_or_ne j id with rfl | hj
  · obtain rfl := Option.some.inj (hconfirmed.symm.trans hr')
    exact absurd hopen (by simp [Unfinished, confirmed])
  · exact ⟨r', (hother j hj).symm.trans hr', hopen, .refl r'⟩

/-- A row is prepared for an identity only where nothing unfinished is there for it. -/
theorem UniqueIdentity.prepare {t t' : Generations} {q : Preparation} {requestId : Option Nat}
    {id : Nat} (h : UniqueIdentity t) (ht : ∀ id r, t.get? id = some r → Consistent r)
    (hprepare : AffiliateLinkHistoryRepository.prepare t q requestId = .ok (t', id)) :
    UniqueIdentity t' := by
  obtain ⟨hfree, base, hscope, hkey, -, rfl⟩ := prepare_eq_ok hprepare
  have halone : ∀ j r, t.get? j = some r → Unfinished r →
      ¬ (r.scope = q.scope ∧ r.identityKey = q.identityKey) := by
    rintro j r hr hopen ⟨hrscope, hrkey⟩
    exact hfree j r hr ⟨hrscope, (ht j r hr).platform, hrkey, hopen.blocking⟩
  intro i j r r' hr hr' hopen hopen' hrscope hrplatform hrkey
  rcases eq_or_ne i id with rfl | hi
  · rcases eq_or_ne j i with rfl | hj
    · rfl
    · rw [get?_put_self, Option.some.injEq] at hr
      rw [get?_put_ne t _ hj] at hr'
      subst hr
      exact absurd ⟨hrscope.symm.trans hscope, hrkey.symm.trans hkey⟩ (halone j r' hr' hopen')
  · rw [get?_put_ne t _ hi] at hr
    rcases eq_or_ne j id with rfl | hj
    · rw [get?_put_self, Option.some.injEq] at hr'
      subst hr'
      exact absurd ⟨hrscope.trans hscope, hrkey.trans hkey⟩ (halone i r hr hopen)
    · rw [get?_put_ne t _ hj] at hr'
      exact h i j r r' hr hr' hopen hopen' hrscope hrplatform hrkey

theorem UniqueIdentity.after {t t' : Generations} {op : Op} (h : UniqueIdentity t)
    (ht : ∀ id r, t.get? id = some r → Consistent r) (hstep : generationsAfter t op = some t') :
    UniqueIdentity t' := by
  cases op with
  | requestLegacyGeneration scope key legacyKind legacyId =>
    exact h.continues fun j =>
      continues_of_quiet (quiet_requestLegacyGeneration (toOption_eq_some.1 hstep) j)
  | prepare q requestId =>
    obtain ⟨⟨t₁, id⟩, hprepare, rfl⟩ := map_eq_ok.1 (toOption_eq_some.1 hstep)
    exact h.prepare ht hprepare
  | startCall now calls => exact h.continues (continues_of_startCall hstep)
  | confirm id c => exact h.continues (continues_of_confirm hstep)
  | fail ids now state errorCode =>
    exact h.continues fun j => continues_of_quiet (quiet_fail hstep j)
  | recover scope now =>
    obtain rfl := Option.some.inj hstep
    exact h.continues fun j => continues_of_quiet (quiet_recover scope now j)
  | recordUse _ | transitionSend _ _ _ _ _ _ =>
    obtain rfl := Option.some.inj hstep
    exact h

/-! ## What a use says -/

/-- How far a use is.  A send is reserved, in flight and over; other uses are over at once. -/
def useStage : LinkUseState → Nat
  | .sendReserved => 0
  | .sendInFlight => 1
  | .previewReady | .outputRecorded | .sendConfirmed | .sendFailed | .sendUncertain => 2

def states : LinkUseKind → List LinkUseState
  | .preview => [.previewReady]
  | .explicitOutput => [.outputRecorded]
  | .send => [.sendReserved, .sendInFlight, .sendConfirmed, .sendFailed, .sendUncertain]

/-- What a use says in every state of it, and what is known of the generations it names. -/
structure UseConsistent (t : Generations) (use : LinkUse) : Prop where
  state : use.state ∈ states use.kind
  named : use.generations ≠ []
  nodup : (use.generations.map Prod.fst).Nodup
  confirmed : ∀ g ∈ use.generations, ∃ r, t.get? g.1 = some r ∧ r.scope = use.scope ∧
    r.state = .confirmed
  unstarted : use.state = .sendReserved → use.startedAt = none
  started : use.state ∈ [.sendInFlight, .sendConfirmed, .sendUncertain] → use.startedAt ≠ none
  finished : use.finishedAt ≠ none ↔ use.kind = .send ∧ useStage use.state = 2

/-- All that becomes of a use. -/
structure UseAdvanced (use use' : LinkUse) : Prop where
  record : SameRecord use use'
  occurredAt : use'.occurredAt = use.occurredAt
  originMissingReason : use'.originMissingReason = use.originMissingReason
  forward : useStage use.state ≤ useStage use'.state
  started : use.startedAt ≠ none → use'.startedAt = use.startedAt
  frozen : useStage use.state = 2 → use' = use

theorem UseAdvanced.refl (use : LinkUse) : UseAdvanced use use :=
  ⟨.refl use, rfl, rfl, Nat.le_refl _, fun _ => rfl, fun _ => rfl⟩

theorem SameRecord.trans {use use' use'' : LinkUse} (h : SameRecord use use')
    (h' : SameRecord use' use'') : SameRecord use use'' where
  scope := h'.scope.trans h.scope
  kind := h'.kind.trans h.kind
  origin := h'.origin.trans h.origin
  previewHistoryUseId := h'.previewHistoryUseId.trans h.previewHistoryUseId
  destinationKey := h'.destinationKey.trans h.destinationKey
  operationalKind := h'.operationalKind.trans h.operationalKind
  operationalId := h'.operationalId.trans h.operationalId
  generations := h'.generations.trans h.generations

theorem UseAdvanced.trans {use use' use'' : LinkUse} (h : UseAdvanced use use')
    (h' : UseAdvanced use' use'') : UseAdvanced use use'' where
  record := SameRecord.trans h.record h'.record
  occurredAt := h'.occurredAt.trans h.occurredAt
  originMissingReason := h'.originMissingReason.trans h.originMissingReason
  forward := h.forward.trans h'.forward
  started := by
    intro hstarted
    have hsame := h.started hstarted
    exact (h'.started (hsame ▸ hstarted)).trans hsame
  frozen := by
    intro hover
    obtain rfl := h.frozen hover
    exact h'.frozen hover

theorem UseConsistent.later {t t' : Generations} {use : LinkUse} (h : UseConsistent t use)
    (hevolves : Evolves t t') : UseConsistent t' use where
  state := h.state
  named := h.named
  nodup := h.nodup
  confirmed := by
    intro g hg
    obtain ⟨r, hr, hscope, hstate⟩ := h.confirmed g hg
    exact ⟨r, hevolves.confirmed hr hstate, hscope, hstate⟩
  unstarted := h.unstarted
  started := h.started
  finished := h.finished

/-- What is recorded is consistent. -/
theorem useConsistent_useRow {t : Generations} {uses uses' : LinkUses} {q : UseRecord} {id : Nat}
    (h : AffiliateLinkHistoryRepository.recordUse t uses q = .ok (uses', id))
    (source : Option LinkUse) (origin : Origin) : UseConsistent t (useRow source origin q) := by
  obtain ⟨_, hids, h⟩ := bind_eq_ok.1 h
  obtain ⟨_, hconfirmed, -⟩ := bind_eq_ok.1 h
  have hnames : (useRow source origin q).generations.map Prod.fst = q.generationIds.eraseDups := by
    show (q.generationIds.eraseDups.map _).map Prod.fst = _
    rw [List.map_map]
    exact List.map_id _
  refine ⟨?_, fun hnil => ?_, hnames ▸ Lookup.nodup_eraseDups _, fun g hg => ?_, fun _ => rfl,
    fun hstate => ?_, ?_⟩
  · show initialState q.kind ∈ states q.kind
    cases q.kind <;> decide
  · obtain ⟨i, hi⟩ := List.exists_mem_of_ne_nil _ (check_eq_ok.1 hids)
    have hmem : i ∈ q.generationIds.eraseDups := List.mem_eraseDups.2 hi
    rw [← hnames, hnil] at hmem
    cases hmem
  · have hmem : g.1 ∈ q.generationIds.eraseDups := hnames ▸ List.mem_map_of_mem hg
    obtain ⟨r, hr, hscope, hstate⟩ := check_eq_ok.1 hconfirmed g.1 (List.mem_eraseDups.1 hmem)
    exact ⟨r, hr, hscope, hstate⟩
  · change initialState q.kind ∈ _ at hstate
    cases hkind : q.kind <;> rw [hkind] at hstate <;> simp [initialState] at hstate
  · show (none : Option Instant) ≠ none ↔ q.kind = .send ∧ useStage (initialState q.kind) = 2
    cases q.kind <;> decide

theorem moves_of_movable {use : LinkUse} {state : LinkUseState} (h : Movable state use)
    (hstate : state ∈ sendTargets) :
    (state = .sendInFlight ∧ use.state = .sendReserved) ∨
      (state ≠ .sendInFlight ∧ useStage state = 2 ∧ state ∈ states .send ∧
        (use.state = .sendInFlight ∨ state = .sendFailed ∧ use.state = .sendReserved)) := by
  have hmem := h.2
  cases state <;> simp [sendTargets] at hstate <;> simp [sendAllowed] at hmem
  · exact .inl ⟨rfl, hmem⟩
  · exact .inr ⟨by decide, rfl, by decide, .inl hmem⟩
  · exact .inr ⟨by decide, rfl, by decide, hmem.symm.imp id fun h => ⟨rfl, h⟩⟩
  · exact .inr ⟨by decide, rfl, by decide, .inl hmem⟩

/-- **A move keeps a use consistent, and takes it forward.** -/
theorem advances_moved {t : Generations} {use : LinkUse} {state : LinkUseState}
    (h : UseConsistent t use) (hmovable : Movable state use) (hstate : state ∈ sendTargets)
    (now : Instant) (errorCode : Option String) (messageId : Option Text) :
    UseConsistent t (moved now state errorCode messageId use) ∧
      UseAdvanced use (moved now state errorCode messageId use) := by
  have hsend := hmovable.1
  rcases moves_of_movable hmovable hstate with ⟨rfl, hreserved⟩ | ⟨hne, hover, hmem, hfrom⟩
  · have hnone := h.unstarted hreserved
    have hunfinished : ¬ use.finishedAt ≠ none := fun hfinished => by
      have hstage := (h.finished.1 hfinished).2
      rw [hreserved] at hstage
      exact absurd hstage (by decide)
    refine ⟨⟨?_, h.named, h.nodup, h.confirmed, fun h => LinkUseState.noConfusion h,
      fun _ => Option.some_ne_none now, ?_⟩, sameRecord_moved .., rfl, rfl, ?_,
      fun hstarted => absurd hnone hstarted, fun hdone => ?_⟩
    · show LinkUseState.sendInFlight ∈ states use.kind
      rw [hsend]
      decide
    · refine ⟨fun hfinished => absurd hfinished hunfinished, fun hdone => ?_⟩
      have hstage : (1 : Nat) = 2 := hdone.2
      omega
    · rw [hreserved]
      exact Nat.zero_le _
    · rw [hreserved] at hdone
      exact absurd hdone (by decide)
  · have hstartedAt : (moved now state errorCode messageId use).startedAt = use.startedAt :=
      if_neg hne
    have hfinishedAt : (moved now state errorCode messageId use).finishedAt = some now :=
      if_neg hne
    have hstage : useStage use.state < 2 := by
      rcases hfrom with hfrom | ⟨-, hfrom⟩ <;> rw [hfrom] <;> decide
    refine ⟨⟨?_, h.named, h.nodup, h.confirmed, fun hreserved => ?_, fun hstarted => ?_, ?_⟩,
      sameRecord_moved .., rfl, rfl, ?_, fun _ => hstartedAt, fun hdone => ?_⟩
    · show state ∈ states use.kind
      rw [hsend]
      exact hmem
    · change state = .sendReserved at hreserved
      rw [hreserved] at hover
      exact absurd hover (by decide)
    · rw [hstartedAt]
      change state ∈ _ at hstarted
      rcases hfrom with hfrom | ⟨rfl, -⟩
      · exact h.started (by rw [hfrom]; decide)
      · exact absurd hstarted (by decide)
    · rw [hfinishedAt]
      exact ⟨fun _ => ⟨hsend, hover⟩, fun _ => Option.some_ne_none now⟩
    · show useStage use.state ≤ useStage state
      omega
    · omega

/-! ## The tables -/

/-- What holds of the history in every state. -/
structure Sound (w : Tables) : Prop where
  generations : ∀ id r, w.generations.get? id = some r → Consistent r
  unique : UniqueIdentity w.generations
  uses : ∀ id use, w.uses.get? id = some use → UseConsistent w.generations use

/-- The later history has all of the earlier one. -/
structure Extends (w w' : Tables) : Prop where
  generations : ∀ id r, w.generations.get? id = some r →
    ∃ r', w'.generations.get? id = some r' ∧ Advanced r r'
  uses : ∀ id use, w.uses.get? id = some use →
    ∃ use', w'.uses.get? id = some use' ∧ UseAdvanced use use'

theorem Extends.refl (w : Tables) : Extends w w where
  generations := fun _ r hr => ⟨r, hr, .refl r⟩
  uses := fun _ use huse => ⟨use, huse, .refl use⟩

theorem Extends.trans {w w' w'' : Tables} (h : Extends w w') (h' : Extends w' w'') :
    Extends w w'' where
  generations := by
    intro id r hr
    obtain ⟨r', hr', hadvanced⟩ := h.generations id r hr
    obtain ⟨r'', hr'', hadvanced'⟩ := h'.generations id r' hr'
    exact ⟨r'', hr'', hadvanced.trans hadvanced'⟩
  uses := by
    intro id use huse
    obtain ⟨use', huse', hadvanced⟩ := h.uses id use huse
    obtain ⟨use'', huse'', hadvanced'⟩ := h'.uses id use' huse'
    exact ⟨use'', huse'', hadvanced.trans hadvanced'⟩

variable {w w' : Tables}

/-- What a call makes of the uses. -/
theorem uses_of_usesAfter {uses : LinkUses} {op : Op} (h : Sound w)
    (hstep : usesAfter w op = some uses) :
    (∀ id use, uses.get? id = some use → UseConsistent w.generations use) ∧
      ∀ id use, w.uses.get? id = some use →
        ∃ use', uses.get? id = some use' ∧ UseAdvanced use use' := by
  cases op with
  | recordUse q =>
    obtain ⟨⟨uses', id⟩, hrecord, rfl⟩ := map_eq_ok.1 (toOption_eq_some.1 hstep)
    obtain ⟨source, origin, -, -, -, -, hrow, hother⟩ := recordUse_eq_ok hrecord
    refine ⟨fun j use huse => ?_, fun j use huse => ⟨use, recordUse_old hrecord huse, .refl use⟩⟩
    rcases eq_or_ne j id with rfl | hj
    · obtain rfl := Option.some.inj (hrow.symm.trans huse)
      exact useConsistent_useRow hrecord source origin
    · exact h.uses j use ((hother j hj).symm.trans huse)
  | transitionSend useId now state owner errorCode messageId =>
    have hok := toOption_eq_some.1 hstep
    obtain ⟨_, htarget, -⟩ := bind_eq_ok.1 hok
    obtain ⟨id, use, -, huse, -, hmovable, hmoved, hother⟩ := transitionSend_eq_ok hok
    obtain ⟨hconsistent, hadvanced⟩ := advances_moved (h.uses id use huse) hmovable
      (check_eq_ok.1 htarget) now errorCode messageId
    refine ⟨fun j use' huse' => ?_, fun j use' huse' => ?_⟩
    · rcases eq_or_ne j id with rfl | hj
      · obtain rfl := Option.some.inj (hmoved.symm.trans huse')
        exact hconsistent
      · exact h.uses j use' ((hother j hj).symm.trans huse')
    · rcases eq_or_ne j id with rfl | hj
      · obtain rfl := Option.some.inj (huse.symm.trans huse')
        exact ⟨_, hmoved, hadvanced⟩
      · exact ⟨use', (hother j hj).trans huse', .refl use'⟩
  | requestLegacyGeneration _ _ _ _ | prepare _ _ | startCall _ _ | confirm _ _ | fail _ _ _ _
  | recover _ _ =>
    obtain rfl := Option.some.inj hstep
    exact ⟨h.uses, fun _ use huse => ⟨use, huse, .refl use⟩⟩

/-- **A call keeps the history sound, and only extends it.** -/
theorem Sound.step {op : Op} (h : Sound w) (hstep : AuditTrail.step w op = some w') :
    Sound w' ∧ Extends w w' := by
  obtain ⟨generations, hgenerations, hstep⟩ := Option.bind_eq_some_iff.1 hstep
  obtain ⟨uses, huses, hstep⟩ := Option.bind_eq_some_iff.1 hstep
  obtain rfl := Option.some.inj hstep
  have hevolves := evolves_of_generationsAfter hgenerations
  obtain ⟨hrows, hadvanced⟩ := advances_of_evolves hevolves h.generations
  obtain ⟨hconsistent, huseAdvanced⟩ := uses_of_usesAfter h huses
  exact ⟨⟨hrows, h.unique.after h.generations hgenerations,
    fun id use huse => (hconsistent id use huse).later hevolves⟩, hadvanced, huseAdvanced⟩

/-- A fingerprint. -/
def digest (digit : Char) : Text := List.replicate 64 digit

/-- A link is generated for a candidate. -/
def generated : List Op :=
  [.prepare ⟨.shadow, .canonical 7, 10, 100, 1, 2, 0, digest 'a', digest 'b', digest 'c', none⟩
      none,
    .startCall 20 [(1, 1)],
    .confirm 1 ⟨30, "https://s.click.aliexpress.com/e/_ownlink1".toList, 1000, "v1", "single",
      [("product_id", .null)]⟩]

/-- It is shown in a preview, which is sent. -/
def sent : List Op :=
  [.recordUse ⟨.shadow, .preview, [1], 40, false, none, none, some [("source_message_id", .null)],
      some .canonicalPreview, some 3, none⟩,
    .recordUse ⟨.shadow, .send, [1], 50, false, none, some 1, some [("source_message_id", .null)],
      some .canonicalDelivery, some 4, some "destination".toList⟩,
    .transitionSend (some 2) 60 .sendInFlight
      ⟨.canonicalDelivery, 4, "destination".toList, [("source_message_id", .null)]⟩ none none,
    .transitionSend (some 2) 70 .sendConfirmed
      ⟨.canonicalDelivery, 4, "destination".toList, [("source_message_id", .null)]⟩ none
      (some "88".toList)]

/-- The history once the preview is recorded. -/
def shown : Tables := system.endOf ⟨∅, ∅⟩ (generated ++ sent.take 1)

end AuditTrail
end PromoBot
