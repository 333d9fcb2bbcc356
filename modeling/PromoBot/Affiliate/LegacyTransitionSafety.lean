import PromoBot.Affiliate.LegacyTransitions

/-!
# Coin previews are numbered upwards, and a record is replaced as it was asked for

The invariants of the runs of `LegacyTransitions`.  `Counted` is that of the numbers of coin
previews: what deletes a preview deletes the evidence it is from, and a preview no use names is
from evidence of before the history, so the request it is deleted for has its number in its
snapshot.  `Accounted` is that of requests and what was done for them.

## Why numbers do not come back

The key of a preview is not one SQLite would give: `save_ready` takes the successor of the
greatest number it knows of, over the previews there are, the uses which name one and the
snapshots of requests.  A preview may be deleted, when a claim replaces its evidence, and then
there is no row any more to remember its number.  Something else has to.  `Counted.covered`
says that a number once given is that of a preview or is named by a use or a snapshot, and uses
and snapshots are never deleted; so the successor is above all that were ever given
(`Counted.numbered`), and `preview_numbers_ascend` is a statement about the log of a whole run.

## Why a request is honoured once

A claim deletes the evidence from before the history and inserts a row in its place, which may
get the number of the old one.  So the number of an evidence row does not say whether it was
replaced. What says it is the pointer: what was replaced points to a generation wherever its
number comes back (`Accounted.replaced`), evidence from before the history points to none, and
a request is only honoured for such evidence.  That it is honoured for what was asked is
`Accounted.lasting`: until then the evidence stays what it was when it stopped generating, in
any state of the run, and so it is still what is in the snapshot.
-/

namespace PromoBot
namespace LegacyTransition

open Conversion Fallible SqlTable AffiliateLinkHistoryRepository
open CoinGeneration (CoinTables Request)
open DeliveryUses (Extends extends_coinSave)

/-! ## What is kept -/

/-- The number an event gives to a preview. -/
def Event.previewId : Event → Option Nat
  | .numbered id => some id
  | _ => none

/-- The numbers that were given. -/
def numbers (log : List Event) : List Nat := log.filterMap Event.previewId

/-- What may be done after what has been done: a request is new, and it is honoured for what it
was asked with, which was not yet honoured for. -/
def Allowed (pre : List Event) : Event → Prop
  | .asked request _ _ => ∀ legacyId s, .asked request legacyId s ∉ pre
  | .honoured request legacyId s => .asked request legacyId s ∈ pre ∧
    ∀ request' s', .honoured request' legacyId s' ∉ pre
  | .numbered _ => True

/-- Evidence from before the history which is no longer generating. -/
def World.Legacy (w : World) (j : Nat) : Prop :=
  ∃ e, w.evidence.get? j = some e ∧ e.generationId = none ∧ e.state ≠ .generating

/-- Evidence from before the history which was there, and no longer generating, is as it was, or
was replaced with that in the snapshot. -/
def Lasting (earlier : CoinShadowEvidences) (w : World) : Prop :=
  ∀ j e, earlier.get? j = some e → e.generationId = none → e.state ≠ .generating →
    w.evidence.get? j = some e ∨ ∃ g s, .honoured g j s ∈ w.log ∧ s.id = j ∧
      s.record = { e with generationId := none, leaseUntil := none, leaseToken := none }

/-- **How previews are numbered.**  Every number there was at the beginning, or was given since,
is that of a preview or is named; a preview nothing names is from evidence of before the history,
which only a request deletes, and its snapshot names the preview. -/
structure Counted (given : List Nat) (w : World) : Prop where
  recorded : ∀ id, (w.previews.get? id).isSome → id ∈ given ++ numbers w.log
  attached : ∀ id row, w.previews.get? id = some row → w.Named id ∨ w.Legacy row.evidenceId
  covered : ∀ id ∈ given ++ numbers w.log, (w.previews.get? id).isSome ∨ w.Named id
  ascending : (numbers w.log).Pairwise (· < ·)
  above : ∀ a ∈ given, ∀ n ∈ numbers w.log, a < n

/-- **How requests are honoured.**  A snapshot is that of the request it is kept with, what was
replaced once points to a generation wherever it comes back, and what was there earlier stays as
it is until it is replaced. -/
structure Accounted (earlier : CoinShadowEvidences) (w : World) : Prop where
  kept : ∀ g s, w.snapshots.get? g = some s → ∃ r l, w.history.get? g = some r ∧
    r.legacyKind = some .coinEvidence ∧ r.legacyId = some l ∧ .asked g l s ∈ w.log
  requests : ∀ g l s, .asked g l s ∈ w.log → (w.history.get? g).isSome
  lawful : Trace.Lawful Allowed w.log
  replaced : ∀ g l s, .honoured g l s ∈ w.log → ∀ e, w.evidence.get? l = some e →
    e.generationId ≠ none
  lasting : Lasting earlier w

section Keeping

variable {env : Environment} {given : List Nat} {earlier : CoinShadowEvidences} {w w' : World}

/-- A generation stays that of the record it was requested for. -/
theorem legacy_of_evolves {t t' : Generations} (h : Evolves t t') {g : Nat} {r : Generation}
    (hr : t.get? g = some r) : ∃ r', t'.get? g = some r' ∧ r'.legacyKind = r.legacyKind ∧
      r'.legacyId = r.legacyId := by
  refine h.invariant (P := fun o => ∃ r', o = some r' ∧ r'.legacyKind = r.legacyKind ∧
    r'.legacyId = r.legacyId) ?_ ⟨r, hr, rfl, rfl⟩
  rintro _ _ hchange ⟨r', rfl, hkind, hid⟩
  cases hchange with
  | quiet h =>
    cases h with
    | keep => exact ⟨r', rfl, hkind, hid⟩
    | start now _ => exact ⟨_, rfl, hkind, hid⟩
    | close now state code _ _ => exact ⟨_, rfl, hkind, hid⟩
  | prepare q _ _ _ => exact ⟨_, rfl, hkind, hid⟩
  | confirm c _ => exact ⟨_, rfl, hkind, hid⟩

theorem remembers_of_evolves (hhistory : Evolves w.history w'.history)
    (hsnapshots : w'.snapshots = w.snapshots) : Remembers w w' := by
  intro g r s hr hs
  obtain ⟨r', hr', hkind, -⟩ := legacy_of_evolves hhistory hr
  exact ⟨r', hr', hkind, hsnapshots ▸ hs⟩

theorem World.Legacy.settles {j : Nat} (h : w.Legacy j)
    (hsettles : Settles w.base.tables w'.base.tables) : w'.Legacy j := by
  obtain ⟨e, he, hnone, hstate⟩ := h
  exact ⟨e, hsettles.settled j e he hstate, hnone, hstate⟩

theorem numbers_append (l₁ l₂ : List Event) : numbers (l₁ ++ l₂) = numbers l₁ ++ numbers l₂ :=
  List.filterMap_append

theorem numbers_map_numbered (ids : List Nat) : numbers (ids.map .numbered) = ids := by
  rw [numbers, List.filterMap_map]
  exact List.filterMap_some

/-- Where no preview comes or goes and no evidence is deleted. -/
theorem Counted.frame (h : Counted given w) (hsettles : Settles w.base.tables w'.base.tables)
    (huses : Kept w.uses w'.uses) (hremembers : Remembers w w')
    (hpreviews : w'.previews = w.previews) (hnumbers : numbers w'.log = numbers w.log) :
    Counted given w' := by
  constructor
  · rw [hpreviews, hnumbers]
    exact h.recorded
  · intro id row hrow
    rw [hpreviews] at hrow
    rcases h.attached id row hrow with hnamed | hlegacy
    · exact Or.inl (hnamed.mono huses hremembers)
    · exact Or.inr (hlegacy.settles hsettles)
  · intro id hid
    rw [hnumbers] at hid
    rw [hpreviews]
    exact (h.covered id hid).imp_right fun hnamed => hnamed.mono huses hremembers
  · rw [hnumbers]
    exact h.ascending
  · rw [hnumbers]
    exact h.above

theorem Lasting.grow (h : Lasting earlier w) (hlog : ∀ event ∈ w.log, event ∈ w'.log)
    (hrows : ∀ j e, w.evidence.get? j = some e → e.generationId = none → e.state ≠ .generating →
      w'.evidence.get? j = some e ∨ ∃ g, .honoured g j (w.snapshotTarget j e) ∈ w'.log) :
    Lasting earlier w' := by
  intro j e he hnone hstate
  rcases h j e he hnone hstate with hrow | ⟨g, s, hmem, hrecord⟩
  · refine (hrows j e hrow hnone hstate).imp_right ?_
    rintro ⟨g, hmem⟩
    exact ⟨g, _, hmem, rfl, rfl⟩
  · exact Or.inr ⟨g, s, hlog _ hmem, hrecord⟩

theorem lawful_numbered {log : List Event} (h : Trace.Lawful Allowed log) (ids : List Nat) :
    Trace.Lawful Allowed (log ++ ids.map .numbered) := by
  induction ids generalizing log with
  | nil =>
    rw [List.map_nil, List.append_nil]
    exact h
  | cons id ids ih =>
    rw [List.map_cons, List.append_cons]
    exact ih (h.concat trivial)

theorem mem_log_numbered {log : List Event} {ids : List Nat} {e : Event}
    (h : e ∈ log ++ ids.map .numbered) (he : e.previewId = none) : e ∈ log := by
  rcases List.mem_append.1 h with hold | hnew
  · exact hold
  · obtain ⟨id, -, rfl⟩ := List.mem_map.1 hnew
    cases he

/-- Where nothing is claimed and nothing is asked for. -/
theorem Accounted.frame (h : Accounted earlier w) (hsettles : Settles w.base.tables w'.base.tables)
    (hsnapshots : w'.snapshots = w.snapshots) {ids : List Nat}
    (hlog : w'.log = w.log ++ ids.map .numbered) : Accounted earlier w' := by
  constructor
  · intro g s hs
    rw [hsnapshots] at hs
    obtain ⟨r, l, hr, hkind, hid, hasked⟩ := h.kept g s hs
    obtain ⟨r', hr', hkind', hid'⟩ := legacy_of_evolves hsettles.history hr
    exact ⟨r', l, hr', hkind'.trans hkind, hid'.trans hid,
      hlog ▸ List.mem_append_left _ hasked⟩
  · intro g l s hasked
    rw [hlog] at hasked
    obtain ⟨r, hr⟩ := Option.isSome_iff_exists.1
      (h.requests g l s (mem_log_numbered hasked rfl))
    obtain ⟨r', hr', -, -⟩ := legacy_of_evolves hsettles.history hr
    exact Option.isSome_iff_exists.2 ⟨r', hr'⟩
  · rw [hlog]
    exact lawful_numbered h.lawful ids
  · intro g l s hhonoured e he
    rw [hlog] at hhonoured
    have hpointer := hsettles.pointers l
    rw [show w'.base.tables.evidence.get? l = some e from he, Option.map_some] at hpointer
    obtain ⟨e₀, he₀, hsame⟩ := Option.map_eq_some_iff.1 hpointer.symm
    rw [← hsame]
    exact h.replaced g l s (mem_log_numbered hhonoured rfl) e₀ he₀
  · exact h.lasting.grow (fun event hmem => hlog ▸ List.mem_append_left _ hmem)
      fun j e he _ hstate => Or.inl (hsettles.settled j e he hstate)

theorem Accounted.unlogged (h : Accounted earlier w)
    (hsettles : Settles w.base.tables w'.base.tables) (hsnapshots : w'.snapshots = w.snapshots)
    (hlog : w'.log = w.log) : Accounted earlier w' := by
  have hnone : w'.log = w.log ++ ([] : List Nat).map .numbered := by
    rw [hlog, List.map_nil, List.append_nil]
  exact h.frame hsettles hsnapshots hnone

/-! ### Saving -/

/-- What `save_ready` does: nothing is new, or a preview is, with the number of its use. -/
theorem saveReady_eq_ok {history : Generations} {evidence : CoinShadowEvidences}
    {uses uses' : LinkUses} {previews previews' : AliExpressCoinShadowPreviews} {snapshots : Nat}
    {q : CoinShadowPreviewRepository.Save}
    (h : CoinShadowPreviewRepository.saveReady history evidence uses previews snapshots q =
      .ok (uses', previews')) :
    (previews.select fun _ r => r.sourceMessageFingerprint = q.sourceMessageFingerprint) ≠ [] ∧
        previews' = previews ∨
      (previews.select fun _ r => r.sourceMessageFingerprint = q.sourceMessageFingerprint) = [] ∧
        ∃ u use row, uses'.get? u = some use ∧ use.operationalKind = some .coinPreview ∧
          use.operationalId = some (CoinShadowPreviewRepository.nextId uses previews snapshots) ∧
          previews' =
            previews.put (CoinShadowPreviewRepository.nextId uses previews snapshots) row := by
  obtain ⟨_, -, h⟩ := bind_eq_ok.1 h
  obtain ⟨_, -, h⟩ := bind_eq_ok.1 h
  obtain ⟨_, -, h⟩ := bind_eq_ok.1 h
  obtain ⟨_, -, h⟩ := bind_eq_ok.1 h
  split at h
  · next id row hhead =>
    obtain ⟨_, -, h⟩ := bind_eq_ok.1 h
    obtain ⟨_, -, h⟩ := bind_eq_ok.1 h
    obtain ⟨⟨uses₁, n⟩, -, h⟩ := bind_eq_ok.1 h
    obtain ⟨-, rfl⟩ := Prod.mk.inj (Except.ok.inj h)
    refine Or.inl ⟨fun hnil => ?_, rfl⟩
    rw [hnil] at hhead
    cases hhead
  · next hhead =>
    obtain ⟨⟨uses₁, n⟩, hrecorded, h⟩ := bind_eq_ok.1 h
    obtain ⟨rfl, rfl⟩ := Prod.mk.inj (Except.ok.inj h)
    obtain ⟨source, origin, -, -, -, -, hrow, -⟩ := recordUse_eq_ok hrecorded
    exact Or.inr ⟨List.head?_eq_none_iff.1 hhead, n, _, _, hrow, rfl, rfl, rfl⟩

/-- **A number above all there ever were.** -/
theorem Counted.numbered (h : Counted given w) {new u : Nat} {use : LinkUse}
    {row : AliExpressCoinShadowPreview}
    (hnew : new = CoinShadowPreviewRepository.nextId w.uses w.previews w.watermark)
    (hbase : w'.base = w.base) (hsnapshots : w'.snapshots = w.snapshots)
    (huses : Kept w.uses w'.uses) (huse : w'.uses.get? u = some use)
    (hkind : use.operationalKind = some .coinPreview) (hid : use.operationalId = some new)
    (hpreviews : w'.previews = w.previews.put new row)
    (hlog : w'.log = w.log ++ [new].map .numbered) : Counted given w' := by
  have hbelow : ∀ id ∈ given ++ numbers w.log, id < new := fun id hid =>
    hnew ▸ lt_nextId (h.covered id hid)
  have hnumbers : numbers w'.log = numbers w.log ++ [new] := by
    rw [hlog, numbers_append, numbers_map_numbered]
  have hsettles : Settles w.base.tables w'.base.tables := hbase ▸ .of_evidence (Evolves.refl _) rfl
  have hnamed : ∀ id, w.Named id → w'.Named id := fun id hnamed =>
    hnamed.mono huses (remembers_of_evolves hsettles.history hsnapshots)
  have hself : w'.Named new := named_of_use huse hkind hid
  constructor
  · intro id hlive
    rw [hnumbers, ← List.append_assoc]
    rw [hpreviews, get?_put] at hlive
    split at hlive
    · next heq => exact List.mem_append_right _ (List.mem_singleton.2 heq)
    · exact List.mem_append_left _ (h.recorded id hlive)
  · intro id row' hrow
    rw [hpreviews, get?_put] at hrow
    split at hrow
    · next heq => exact Or.inl (heq ▸ hself)
    · refine (h.attached id row' hrow).imp (hnamed id) fun hlegacy => hlegacy.settles hsettles
  · intro id hmem
    rw [hnumbers, ← List.append_assoc] at hmem
    rcases List.mem_append.1 hmem with hold | hlast
    · refine (h.covered id hold).imp (fun hlive => ?_) (hnamed id)
      rw [hpreviews, get?_put_ne _ _ (Nat.ne_of_lt (hbelow id hold))]
      exact hlive
    · exact Or.inr (List.mem_singleton.1 hlast ▸ hself)
  · rw [hnumbers]
    refine List.pairwise_append.2 ⟨h.ascending, List.pairwise_singleton _ _, ?_⟩
    intro a ha n hn
    obtain rfl := List.mem_singleton.1 hn
    exact hbelow a (List.mem_append_right _ ha)
  · intro a ha n hn
    rw [hnumbers] at hn
    rcases List.mem_append.1 hn with hn | hn
    · exact h.above a ha n hn
    · obtain rfl := List.mem_singleton.1 hn
      exact hbelow a (List.mem_append_left _ ha)

theorem keeps_save {q : CoinShadowPreviewRepository.Save}
    (hstep : step env w (.save q) = some w') (hcounted : Counted given w)
    (haccounted : Accounted earlier w) : Counted given w' ∧ Accounted earlier w' := by
  unfold step at hstep
  dsimp only at hstep
  split at hstep
  next uses previews hsave =>
    obtain rfl := Option.some.inj hstep
    have huses : Kept w.uses uses := (extends_coinSave hsave).kept
    have hsettles : Settles w.base.tables w.base.tables := .of_evidence (Evolves.refl _) rfl
    rcases saveReady_eq_ok hsave with ⟨hsome, rfl⟩ | ⟨hnil, u, use, row, huse, hkind, hid, rfl⟩
    · have hlog : w.log ++ numberedBy w q = w.log := by
        rw [numberedBy, if_neg hsome, List.append_nil]
      refine ⟨hcounted.frame hsettles huses (remembers_of_evolves (Evolves.refl _) rfl) rfl
        (congrArg numbers hlog), haccounted.unlogged hsettles rfl hlog⟩
    · have hlog : w.log ++ numberedBy w q = w.log ++
          [CoinShadowPreviewRepository.nextId w.uses w.previews w.watermark].map .numbered := by
        rw [numberedBy, if_pos hnil, List.map_singleton]
      exact ⟨hcounted.numbered rfl rfl rfl huses huse hkind hid rfl hlog,
        haccounted.frame hsettles rfl hlog⟩
  next => cases hstep

/-! ### Asking -/

/-- What a request does: nothing, or there is a new row, which is for the evidence. -/
theorem requestLegacy_cases {t t' : CoinTables} {legacyId : Nat}
    (h : CoinGeneration.requestLegacy t legacyId = .ok t') :
    t' = t ∨ ∃ r, t'.history = t.history.put t.history.freshId r ∧
      r.legacyKind = some .coinEvidence ∧ r.legacyId = some legacyId := by
  obtain ⟨e, -, h⟩ := bind_eq_ok.1 h
  obtain ⟨history, hrequest, h⟩ := bind_eq_ok.1 h
  obtain rfl := Except.ok.inj h
  obtain ⟨_, -, hrequest⟩ := bind_eq_ok.1 hrequest
  split at hrequest
  · obtain rfl := Except.ok.inj hrequest
    exact Or.inr ⟨_, rfl, rfl, rfl⟩
  · obtain rfl := Except.ok.inj hrequest
    exact Or.inl rfl

/-- A snapshot is kept with a new request. -/
theorem Accounted.asked (h : Accounted earlier w) {legacyId : Nat} {s : Snapshot} {r : Generation}
    (hevidence : w'.evidence = w.evidence)
    (hhistory : w'.history = w.history.put w.history.freshId r)
    (hkind : r.legacyKind = some .coinEvidence) (hid : r.legacyId = some legacyId)
    (hsnapshots : w'.snapshots = w.snapshots.put w.history.freshId s)
    (hlog : w'.log = w.log ++ [.asked w.history.freshId legacyId s]) : Accounted earlier w' := by
  have hold : ∀ g, (w.history.get? g).isSome → g ≠ w.history.freshId := by
    rintro g hsome rfl
    rw [get?_freshId] at hsome
    cases hsome
  constructor
  · intro g s' hs
    rw [hsnapshots, get?_put] at hs
    rw [hhistory, hlog]
    split at hs
    · next heq =>
      obtain rfl := Option.some.inj hs
      subst heq
      exact ⟨r, legacyId, get?_put_self _ _ _, hkind, hid,
        List.mem_append_right _ List.mem_cons_self⟩
    · next hne =>
      obtain ⟨r', l, hr', hkind', hid', hasked⟩ := h.kept g s' hs
      exact ⟨r', l, (get?_put_ne _ _ hne).trans hr', hkind', hid', List.mem_append_left _ hasked⟩
  · intro g l s' hasked
    rw [hlog] at hasked
    rw [hhistory, get?_put]
    split
    · rfl
    · next hne =>
      rcases List.mem_append.1 hasked with hasked | hlast
      · exact h.requests g l s' hasked
      · obtain ⟨rfl, -⟩ := Event.asked.inj (List.mem_singleton.1 hlast)
        exact absurd rfl hne
  · rw [hlog]
    refine h.lawful.concat fun l s' hasked => ?_
    exact hold _ (h.requests _ l s' hasked) rfl
  · intro g l s' hhonoured
    rw [hlog] at hhonoured
    rw [hevidence]
    rcases List.mem_append.1 hhonoured with hhonoured | hlast
    · exact h.replaced g l s' hhonoured
    · cases List.mem_singleton.1 hlast
  · exact h.lasting.grow (fun event hmem => hlog ▸ List.mem_append_left _ hmem)
      fun j e he _ _ => Or.inl (hevidence ▸ he)

theorem keeps_request {legacyId : Nat} (hstep : step env w (.request legacyId) = some w')
    (hcounted : Counted given w) (haccounted : Accounted earlier w) :
    Counted given w' ∧ Accounted earlier w' := by
  unfold step at hstep
  dsimp only at hstep
  split at hstep
  next row base hrow hbase =>
    have hsettles : Settles w.base.tables base.tables :=
      settles_step hbase fun p unchanged heq => by cases heq
    unfold CoinGeneration.step at hbase
    dsimp only at hbase
    split at hbase
    · next t hrequest =>
      obtain rfl := Option.some.inj hbase
      have hevidence : t.evidence = w.evidence := by
        obtain ⟨_, hevidence, -⟩ := CoinGeneration.requestLegacy_eq_ok hrequest
        exact hevidence
      rcases requestLegacy_cases hrequest with rfl | ⟨r, hhistory, hkind, hid⟩
      · rw [if_neg (by rw [get?_freshId]; exact Bool.false_ne_true)] at hstep
        obtain rfl := Option.some.inj hstep
        exact ⟨hcounted.frame hsettles (Extends.refl _).kept
          (remembers_of_evolves (Evolves.refl _) rfl) rfl rfl, haccounted.unlogged hsettles rfl rfl⟩
      · rw [if_pos (by rw [hhistory, get?_put_self]; rfl)] at hstep
        obtain rfl := Option.some.inj hstep
        refine ⟨hcounted.frame hsettles (Extends.refl _).kept ?_ rfl ?_,
          haccounted.asked hevidence hhistory hkind hid rfl rfl⟩
        · intro g r' s hr' hs
          obtain ⟨r'', hr'', hkind', -⟩ := legacy_of_evolves hsettles.history hr'
          refine ⟨r'', hr'', hkind', (get?_put_ne _ _ ?_).trans hs⟩
          rintro rfl
          rw [get?_freshId] at hr'
          cases hr'
        · rw [numbers_append]
          exact List.append_nil _
    · cases hbase
  next => cases hstep

/-! ### Claiming -/

/-- **What a claim does**: nothing but end its call, or what `claim_rows` says, to the previews
of what it deletes as well. -/
theorem step_claim {p : Nat} (hstep : step env w (.claim p) = some w') :
    (∃ base, base.tables = w.base.tables ∧ w' = { w with base := base }) ∨
      ∃ (q : Request) (now : Instant) (base : CoinGeneration.World) (claim : CoinShadowClaim)
        (generationId replaced : Option Nat),
        CoinGeneration.claimAndPrepare env w.base.tables q now w.base.nextUuid
          (w.unchanged q.generationRequest) = .ok (base.tables, claim, generationId) ∧
        CoinGeneration.replacedRow w.base.tables q.generationRequest
          (coinPreparation env q.service q.sourceValue now w.base.nextUuid q.origin).identityKey
          (w.unchanged q.generationRequest) = .ok replaced ∧
        w' = { w with
          base := base
          previews := w.previews.deleteWhere fun _ r =>
            r.evidenceId ∈ deletedEvidence w.base.tables replaced now
          log := w.log ++ honouredBy w q replaced } := by
  unfold step at hstep
  dsimp only at hstep
  split at hstep
  next q now hcall =>
    obtain ⟨base, hbase, rfl⟩ := Option.map_eq_some_iff.1 hstep
    unfold CoinGeneration.step at hbase
    dsimp only at hbase
    rw [hcall] at hbase
    dsimp only at hbase
    split at hbase
    next t claim generationId hclaim =>
      obtain rfl := Option.some.inj hbase
      obtain ⟨_, -, hrest⟩ := bind_eq_ok.1 hclaim
      obtain ⟨replaced, hreplaced, -⟩ := bind_eq_ok.1 hrest
      have hby : replacedBy env w q now = .ok replaced := bind_eq_ok.2 ⟨_, hclaim, hreplaced⟩
      rw [hby]
      exact Or.inr ⟨q, now, _, claim, generationId, replaced, hclaim, hreplaced, rfl⟩
    next e hclaim =>
      obtain rfl := Option.some.inj hbase
      have hby : replacedBy env w q now = .error e := bind_eq_error.2 (Or.inl hclaim)
      rw [hby]
      exact Or.inl ⟨w.base.after p w.base.tables .idle, rfl, rfl⟩
  next => cases hstep

section Claims

variable {q : Request} {now : Instant} {claim : CoinShadowClaim}
  {generationId replaced : Option Nat} {key : IdentityKey}

/-- What is replaced is the record as it was when its request was made. -/
theorem snapshot_of_replaced {legacyId : Nat}
    (hreplaced : CoinGeneration.replacedRow w.base.tables q.generationRequest key
      (w.unchanged q.generationRequest) = .ok (some legacyId)) :
    ∃ id r e, q.generationRequest = some id ∧ w.history.get? id = some r ∧
      r.legacyKind = some .coinEvidence ∧ r.legacyId = some legacyId ∧
      w.evidence.get? legacyId = some e ∧
      w.snapshots.get? id = some (w.snapshotTarget legacyId e) := by
  obtain ⟨id, r, e, hrequest, hr, hkind, hid, he, -, hunchanged⟩ :=
    replacedRow_eq_some hreplaced
  refine ⟨id, r, e, hrequest, hr, hkind, hid, he, ?_⟩
  have htarget : w.target id = some (legacyId, e) := by
    unfold World.target World.history World.evidence
    rw [hr, Option.bind_some, hid, Option.bind_some, he, Option.map_some]
  rw [hrequest] at hunchanged
  have hsame : (w.target id).any (fun e => w.snapshots.get? id = some (w.snapshotTarget e.1 e.2)) =
      true := hunchanged
  rw [htarget, Option.any_some] at hsame
  exact of_decide_eq_true hsame

theorem named_of_replaced {legacyId id : Nat} {row : AliExpressCoinShadowPreview}
    (hreplaced : CoinGeneration.replacedRow w.base.tables q.generationRequest key
      (w.unchanged q.generationRequest) = .ok (some legacyId))
    (hrow : w.previews.get? id = some row) (hevidence : row.evidenceId = legacyId) :
    w.Named id := by
  obtain ⟨g, r, e, -, hr, hkind, -, -, hs⟩ := snapshot_of_replaced hreplaced
  refine named_of_watermark (le_trans ?_ (le_watermark hr hkind hs))
  exact le_foldr_max (List.mem_map.2 ⟨(id, row), mem_select.2 ⟨hrow, hevidence⟩, rfl⟩)

theorem Counted.claimed (h : Counted given w)
    (hclaim : CoinGeneration.claimAndPrepare env w.base.tables q now w.base.nextUuid
      (w.unchanged q.generationRequest) = .ok (w'.base.tables, claim, generationId))
    (hreplaced : CoinGeneration.replacedRow w.base.tables q.generationRequest
      (coinPreparation env q.service q.sourceValue now w.base.nextUuid q.origin).identityKey
      (w.unchanged q.generationRequest) = .ok replaced)
    (huses : w'.uses = w.uses) (hsnapshots : w'.snapshots = w.snapshots)
    (hpreviews : w'.previews = w.previews.deleteWhere fun _ r =>
      r.evidenceId ∈ deletedEvidence w.base.tables replaced now)
    (hnumbers : numbers w'.log = numbers w.log) : Counted given w' := by
  have hnamed : ∀ id, w.Named id → w'.Named id := fun id hnamed =>
    hnamed.mono (huses ▸ (Extends.refl _).kept)
      (remembers_of_evolves (CoinGeneration.change_claimAndPrepare hclaim).history hsnapshots)
  constructor
  · intro id hlive
    obtain ⟨row, hrow⟩ := Option.isSome_iff_exists.1 hlive
    rw [hpreviews, get?_deleteWhere] at hrow
    rw [hnumbers]
    exact h.recorded id (Option.isSome_iff_exists.2 ⟨row, (Option.filter_eq_some_iff.1 hrow).1⟩)
  · intro id row hrow
    rw [hpreviews, get?_deleteWhere] at hrow
    obtain ⟨hrow, hkept⟩ := Option.filter_eq_some_iff.1 hrow
    refine (h.attached id row hrow).imp (hnamed id) ?_
    rintro ⟨e, he, hnone, hstate⟩
    have hleft := left_of_settled he hstate (of_decide_eq_true hkept)
    rcases claim_rows hclaim hreplaced row.evidenceId with hsame | ⟨hdeleted, -⟩
    · exact ⟨e, hsame.trans hleft, hnone, hstate⟩
    · rw [hleft] at hdeleted
      cases hdeleted
  · intro id hid
    rw [hnumbers] at hid
    rcases h.covered id hid with hlive | hold
    · obtain ⟨row, hrow⟩ := Option.isSome_iff_exists.1 hlive
      by_cases hdeleted : row.evidenceId ∈ deletedEvidence w.base.tables replaced now
      · refine Or.inr (hnamed id ?_)
        rcases h.attached id row hrow with hnamed | ⟨e, he, hnone, -⟩
        · exact hnamed
        · rcases mem_deletedEvidence hdeleted with heq | ⟨e', he', hsome⟩
          · exact named_of_replaced (heq ▸ hreplaced) hrow rfl
          · obtain rfl := Option.some.inj (he.symm.trans he')
            exact absurd hnone hsome
      · refine Or.inl (Option.isSome_iff_exists.2 ⟨row, ?_⟩)
        rw [hpreviews, get?_deleteWhere, hrow]
        exact Option.filter_eq_some_iff.2 ⟨rfl, decide_eq_true hdeleted⟩
    · exact Or.inr (hnamed id hold)
  · rw [hnumbers]
    exact h.ascending
  · rw [hnumbers]
    exact h.above

/-- What a claim writes down: what its request replaces, if anything. -/
theorem honouredBy_cases
    (hreplaced : CoinGeneration.replacedRow w.base.tables q.generationRequest key
      (w.unchanged q.generationRequest) = .ok replaced) :
    honouredBy w q replaced = [] ∧ replaced = none ∨
      ∃ id r legacyId e, honouredBy w q replaced =
          [.honoured id legacyId (w.snapshotTarget legacyId e)] ∧
        replaced = some legacyId ∧ w.history.get? id = some r ∧ r.legacyId = some legacyId ∧
        w.evidence.get? legacyId = some e ∧ e.generationId = none ∧
        w.snapshots.get? id = some (w.snapshotTarget legacyId e) := by
  cases replaced with
  | none =>
    refine Or.inl ⟨?_, rfl⟩
    unfold honouredBy
    split
    · next heq => cases heq
    · rfl
  | some legacyId =>
    obtain ⟨id, r, e, hrequest, hr, -, hid, he, hs⟩ := snapshot_of_replaced hreplaced
    obtain ⟨-, -, e', -, -, -, -, he', hnone, -⟩ := replacedRow_eq_some hreplaced
    obtain rfl := Option.some.inj (he.symm.trans he')
    refine Or.inr ⟨id, r, legacyId, e, ?_, rfl, hr, hid, he, hnone, hs⟩
    unfold honouredBy
    rw [hrequest]
    dsimp only
    rw [he]
    rfl

theorem Accounted.claimed (h : Accounted earlier w)
    (hclaim : CoinGeneration.claimAndPrepare env w.base.tables q now w.base.nextUuid
      (w.unchanged q.generationRequest) = .ok (w'.base.tables, claim, generationId))
    (hreplaced : CoinGeneration.replacedRow w.base.tables q.generationRequest
      (coinPreparation env q.service q.sourceValue now w.base.nextUuid q.origin).identityKey
      (w.unchanged q.generationRequest) = .ok replaced)
    (hsnapshots : w'.snapshots = w.snapshots) (hlog : w'.log = w.log ++ honouredBy w q replaced) :
    Accounted earlier w' := by
  have hevolves := (CoinGeneration.change_claimAndPrepare hclaim).history
  have hcases := honouredBy_cases hreplaced
  have hasked : ∀ g l s, .asked g l s ∈ w'.log → .asked g l s ∈ w.log := by
    intro g l s hmem
    rw [hlog] at hmem
    rcases List.mem_append.1 hmem with hold | hnew
    · exact hold
    · rcases hcases with ⟨hnil, -⟩ | ⟨_, _, _, _, hone, -⟩
      · rw [hnil] at hnew
        cases hnew
      · rw [hone] at hnew
        cases List.mem_singleton.1 hnew
  constructor
  · intro g s hs
    rw [hsnapshots] at hs
    obtain ⟨r, l, hr, hkind, hid, hmem⟩ := h.kept g s hs
    obtain ⟨r', hr', hkind', hid'⟩ := legacy_of_evolves hevolves hr
    exact ⟨r', l, hr', hkind'.trans hkind, hid'.trans hid, hlog ▸ List.mem_append_left _ hmem⟩
  · intro g l s hmem
    obtain ⟨r, hr⟩ := Option.isSome_iff_exists.1 (h.requests g l s (hasked g l s hmem))
    obtain ⟨r', hr', -, -⟩ := legacy_of_evolves hevolves hr
    exact Option.isSome_iff_exists.2 ⟨r', hr'⟩
  · rw [hlog]
    rcases hcases with ⟨hnil, -⟩ | ⟨id, r, legacyId, e, hone, -, hr, hid, he, hnone, hs⟩
    · rw [hnil, List.append_nil]
      exact h.lawful
    · rw [hone]
      refine h.lawful.concat ⟨?_, fun g s hhonoured => h.replaced g legacyId s hhonoured e he hnone⟩
      obtain ⟨r', l, hr', -, hid', hmem⟩ := h.kept id _ hs
      obtain rfl := Option.some.inj (hr.symm.trans hr')
      obtain rfl := Option.some.inj (hid.symm.trans hid')
      exact hmem
  · intro g l s hhonoured e' he'
    -- A row with a number from before is the one there was, unless the claim replaced it.
    have hleft : CoinGeneration.left w.base.tables replaced now l = none ∨
        .honoured g l s ∈ w.log := by
      rw [hlog] at hhonoured
      rcases List.mem_append.1 hhonoured with hold | hnew
      · exact Or.inr hold
      · refine Or.inl ?_
        rcases hcases with ⟨hnil, -⟩ | ⟨_, _, legacyId, _, hone, rfl, -⟩
        · rw [hnil] at hnew
          cases hnew
        · rw [hone] at hnew
          obtain ⟨-, rfl, -⟩ := Event.honoured.inj (List.mem_singleton.1 hnew)
          rw [CoinGeneration.left, if_pos rfl]
    rcases claim_rows hclaim hreplaced l with hsame | ⟨-, e, he, hsome⟩
    · rcases hleft with hnone | hold
      · rw [show w'.evidence.get? l = _ from hsame, hnone] at he'
        cases he'
      · obtain ⟨e, he, hpointer, -⟩ := CoinGeneration.left_eq_some (hsame.symm.trans he')
        rw [hpointer]
        exact h.replaced g l s hold e he
    · obtain rfl := Option.some.inj (he.symm.trans he')
      exact hsome
  · refine h.lasting.grow (fun event hmem => hlog ▸ List.mem_append_left _ hmem) ?_
    intro j e he hnone hstate
    by_cases hdeleted : j ∈ deletedEvidence w.base.tables replaced now
    · refine Or.inr ?_
      rcases mem_deletedEvidence hdeleted with heq | ⟨e', he', hsome⟩
      · rcases hcases with ⟨-, hreplaced⟩ | ⟨id, _, _, e', hone, hsome, -, -, he', -⟩
        · rw [heq] at hreplaced
          cases hreplaced
        · obtain rfl := Option.some.inj (hsome.symm.trans heq)
          obtain rfl := Option.some.inj (he.symm.trans he')
          exact ⟨id, hlog ▸ List.mem_append_right _ (hone ▸ List.mem_cons_self)⟩
      · obtain rfl := Option.some.inj (he.symm.trans he')
        exact absurd hnone hsome
    · refine Or.inl ?_
      have hleft := left_of_settled he hstate hdeleted
      rcases claim_rows hclaim hreplaced j with hsame | ⟨hgone, -⟩
      · exact hsame.trans hleft
      · rw [hleft] at hgone
        cases hgone

end Claims

theorem keeps_claim {p : Nat} (hstep : step env w (.claim p) = some w')
    (hcounted : Counted given w) (haccounted : Accounted earlier w) :
    Counted given w' ∧ Accounted earlier w' := by
  rcases step_claim hstep with ⟨base, hbase, rfl⟩ |
    ⟨q, now, base, claim, generationId, replaced, hclaim, hreplaced, rfl⟩
  · have hsettles : Settles w.base.tables base.tables :=
      hbase ▸ .of_evidence (Evolves.refl _) rfl
    exact ⟨hcounted.frame hsettles (Extends.refl _).kept
      (remembers_of_evolves hsettles.history rfl) rfl rfl, haccounted.unlogged hsettles rfl rfl⟩
  · refine ⟨hcounted.claimed hclaim hreplaced rfl rfl rfl ?_,
      haccounted.claimed hclaim hreplaced rfl rfl⟩
    rw [numbers_append]
    rcases honouredBy_cases hreplaced with ⟨hnil, -⟩ | ⟨_, _, _, _, hone, -⟩
    · rw [hnil]
      exact List.append_nil _
    · rw [hone]
      exact List.append_nil _

/-! ## Runs -/

/-- **One step.** -/
theorem keeps_step {a : Action} (hstep : step env w a = some w') (hcounted : Counted given w)
    (haccounted : Accounted earlier w) : Counted given w' ∧ Accounted earlier w' := by
  have hquiet : ∀ w', Settles w.base.tables w'.base.tables → Kept w.uses w'.uses →
      w'.previews = w.previews → w'.snapshots = w.snapshots → w'.log = w.log →
      Counted given w' ∧ Accounted earlier w' := by
    intro w' hsettles huses hpreviews hsnapshots hlog
    exact ⟨hcounted.frame hsettles huses (remembers_of_evolves hsettles.history hsnapshots)
      hpreviews (congrArg numbers hlog), haccounted.unlogged hsettles hsnapshots hlog⟩
  have hrefl : Settles w.base.tables w.base.tables := .of_evidence (Evolves.refl _) rfl
  cases a with
  | claim p => exact keeps_claim hstep hcounted haccounted
  | request legacyId => exact keeps_request hstep hcounted haccounted
  | save q => exact keeps_save hstep hcounted haccounted
  | base a =>
    obtain ⟨base, hbase, hnoclaim, rfl⟩ : ∃ base, CoinGeneration.step env w.base a = some base ∧
        (∀ p unchanged, a ≠ .claim p unchanged) ∧ w' = { w with base := base } := by
      unfold step at hstep
      dsimp only at hstep
      split at hstep
      · cases hstep
      · cases hstep
      · next hclaim _ =>
        obtain ⟨base, hbase, rfl⟩ := Option.map_eq_some_iff.1 hstep
        exact ⟨base, hbase, hclaim, rfl⟩
    exact hquiet _ (settles_step hbase hnoclaim) (Extends.refl _).kept rfl rfl rfl
  | recordUse q =>
    unfold step at hstep
    dsimp only at hstep
    split at hstep
    next uses n hrecorded =>
      obtain rfl := Option.some.inj hstep
      exact hquiet _ hrefl (DeliveryUses.extends_recordUse hrecorded).kept rfl rfl rfl
    next => cases hstep
  | transitionSend useId now state owner errorCode messageId =>
    unfold step at hstep
    dsimp only at hstep
    split at hstep
    next uses hmoved =>
      obtain rfl := Option.some.inj hstep
      exact hquiet _ hrefl (kept_transitionSend hmoved) rfl rfl rfl
    next => cases hstep
  | columns columns =>
    obtain rfl := Option.some.inj hstep
    exact hquiet _ hrefl (Extends.refl _).kept rfl rfl rfl

theorem counted_init (h : (system env).init w) : Counted w.previews.keys w := by
  obtain ⟨hbase, hpreviews, -, hlog⟩ := h
  have hnone : numbers w.log = [] := by rw [hlog]; rfl
  constructor
  · intro id hlive
    exact List.mem_append_left _ (AList.mem_keys.1 (AList.lookup_isSome.1 hlive))
  · intro id row hrow
    obtain ⟨e, he, hstate⟩ := hpreviews id row hrow
    exact Or.inr ⟨e, he, hbase.1 _ e he, hstate⟩
  · intro id hid
    rw [hnone, List.append_nil] at hid
    exact Or.inl (AList.lookup_isSome.2 (AList.mem_keys.2 hid))
  · rw [hnone]
    exact List.Pairwise.nil
  · intro a _ n hn
    rw [hnone] at hn
    cases hn

theorem accounted_init (h : (system env).init w) : Accounted w.evidence w := by
  obtain ⟨-, -, hsnapshots, hlog⟩ := h
  constructor
  · intro g s hs
    rw [hsnapshots] at hs
    cases hs
  · intro g l s hasked
    rw [hlog] at hasked
    cases hasked
  · rw [hlog]
    exact Trace.lawful_nil
  · intro g l s hhonoured
    rw [hlog] at hhonoured
    cases hhonoured
  · exact fun j e he _ _ => Or.inl he

/-- **What every run keeps**, from wherever it is looked at. -/
theorem keeps_run {v : World} (hcounted : Counted given v) (haccounted : Accounted earlier v)
    (hrun : (system env).Run v w) : Counted given w ∧ Accounted earlier w := by
  refine hrun.invariant (P := fun w => Counted given w ∧ Accounted earlier w)
    ⟨hcounted, haccounted⟩ ?_
  intro w a w' h _ hstep
  exact keeps_step hstep h.1 h.2

theorem Accounted.fromNow (h : Accounted earlier w) : Accounted w.evidence w :=
  { h with lasting := fun _ _ he _ _ => Or.inl he }

end Keeping

/-! ## A run -/

open CoinGeneration (testEnvironment)

/-- The call for the first link in place of what was there before the history. -/
def replacing : Request :=
  { CoinGeneration.coinRequest "https://a.aliexpress.com/_firsta1" with
    generationRequest := some 1 }

/-- Its evidence from before the history. -/
def legacyRow : CoinShadowEvidence where
  generationId := none
  inputFingerprint :=
    (coinPreparation testEnvironment replacing.service replacing.sourceValue 0 0
      none).inputFingerprint
  trackingFingerprint :=
    (coinPreparation testEnvironment replacing.service replacing.sourceValue 0 0
      none).trackingFingerprint
  promotionLinkType := 0
  state := .ready
  leaseUntil := none
  leaseToken := none
  generatedAt := some 0
  expiresAt := some 1
  correlationMode := none
  trackingConfirmed := true
  promotionLink := none
  affiliateHost := none
  errorCode := none

/-- Preview 5 was made from it. -/
def legacyWorld : World where
  base := { CoinGeneration.emptyWorld with tables := ⟨SqlTable.put ∅ 1 legacyRow, ∅⟩ }
  columns := fun _ => ⟨1, none, true, false, 0, 0⟩
  previews := SqlTable.put ∅ 5 ⟨none, 1, List.replicate 64 'a', [], 1⟩
  uses := ∅
  snapshots := ∅
  log := []

theorem init_legacyWorld : (system testEnvironment).init legacyWorld := by
  refine ⟨⟨?_, fun _ => rfl⟩, ?_, rfl, rfl⟩
  · intro id e he
    rw [show legacyWorld.base.tables.evidence = SqlTable.put ∅ 1 legacyRow from rfl,
      get?_put] at he
    split at he
    · obtain rfl := Option.some.inj he
      rfl
    · cases he
  · intro id row hrow
    rw [show legacyWorld.previews = SqlTable.put ∅ 5 _ from rfl, get?_put] at hrow
    split at hrow
    · obtain rfl := Option.some.inj hrow
      exact ⟨legacyRow, get?_put_self _ _ _, by decide⟩
    · cases hrow

/-- The link was requested anew and its evidence and preview are gone. -/
def replacedWorld : World :=
  (system testEnvironment).endOf legacyWorld
    [.request 1, .base (.begin' 0 replacing 0), .base (.recover 0), .claim 0]

/-- The new link has a preview. -/
def savedWorld : World :=
  (system testEnvironment).endOf replacedWorld
    [.base (.start 0 1), .base (.answer 0 (.response CoinGeneration.firstAnswer) 2),
      .base (.store 0 true), .save ⟨1, List.replicate 64 'b', [], 3, 4, false⟩]

theorem run_savedWorld : (system testEnvironment).Run legacyWorld savedWorld :=
  have hreplaced : (system testEnvironment).Run legacyWorld replacedWorld :=
    TransitionSystem.run_endOf (by decide +kernel)
  hreplaced.trans (TransitionSystem.run_endOf (by decide +kernel))

/-! ## What runs do -/

/-- **No two coin previews ever have one number.**  Every preview has a number there was at the
beginning or one `save_ready` gave; those ascend, from above all there were, whatever was deleted
in between. -/
theorem preview_numbers_ascend (env : Environment) {w₀ w : World}
    (hinit : (system env).init w₀) (hrun : (system env).Run w₀ w) :
    (∀ id, (w.previews.get? id).isSome → id ∈ w₀.previews.keys ++ numbers w.log) ∧
      (numbers w.log).Pairwise (· < ·) ∧
      ∀ id ∈ w₀.previews.keys, ∀ n ∈ numbers w.log, id < n := by
  obtain ⟨hcounted, -⟩ := keeps_run (counted_init hinit) (accounted_init hinit) hrun
  exact ⟨hcounted.recorded, hcounted.ascending, hcounted.above⟩

/-- The fifth preview is deleted and the next one is the sixth. -/
theorem preview_numbers_ascend_saved : numbers savedWorld.log = [6] ∧
    savedWorld.previews.keys = [6] ∧ ∀ n ∈ numbers savedWorld.log, 5 < n :=
  ⟨by decide +kernel, by decide +kernel,
    (preview_numbers_ascend testEnvironment init_legacyWorld run_savedWorld).2.2 5
      (by decide +kernel)⟩

/-- **A record from before the history is replaced once, and as it was asked for.**  A request
is new; it is honoured for the evidence and the snapshot it was made with; no evidence is
honoured for twice, although its number may come back.  Until then, evidence stays as it is from
the moment on when it is no longer generating. -/
theorem transitions_lawful (env : Environment) {w₀ v w : World} (hinit : (system env).init w₀)
    (hbefore : (system env).Run w₀ v) (hrun : (system env).Run v w) :
    Trace.Lawful Allowed w.log ∧ Lasting v.evidence w := by
  obtain ⟨hcounted, haccounted⟩ := keeps_run (counted_init hinit) (accounted_init hinit) hbefore
  obtain ⟨-, hlater⟩ := keeps_run hcounted haccounted.fromNow hrun
  exact ⟨hlater.lawful, hlater.lasting⟩

/-- The record is replaced, with what was in it, and its number is that of the new one. -/
theorem transitions_lawful_saved :
    (∃ g s, .honoured g 1 s ∈ savedWorld.log ∧ s.id = 1 ∧ s.record = legacyRow) ∧
      (savedWorld.evidence.get? 1).map CoinShadowEvidence.generationId = some (some 1) := by
  have hpointer : (savedWorld.evidence.get? 1).map CoinShadowEvidence.generationId =
      some (some 1) := by decide +kernel
  refine ⟨?_, hpointer⟩
  rcases (transitions_lawful testEnvironment init_legacyWorld (.refl _) run_savedWorld).2 1 legacyRow
    (get?_put_self _ _ _) rfl (by decide) with hsame | hhonoured
  · rw [hsame] at hpointer
    cases hpointer
  · exact hhonoured

end LegacyTransition
end PromoBot
