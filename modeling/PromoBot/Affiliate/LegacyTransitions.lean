import PromoBot.Affiliate.EvidenceLockstep
import PromoBot.Affiliate.UseLockstep
import PromoBot.Lib.Raises
import PromoBot.Lib.Trace

/-!
# Coin links from before the history

Evidence of a coin link which points to no generation is from before the history, and its link
is used no more.  An operator may ask for another one in its place
(`request_legacy_generation`).  The request keeps a snapshot of the record (`snapshot_target`),
with the number of the previews made from it and the highest of their numbers, and `generate`
honours it only while a snapshot taken anew is the same (`validate_request`): it deletes the
evidence with its previews, and generates.

`save_ready` numbers coin previews itself: above every one there is, every one a use names and
every one the snapshots name.

`system` is the runs of all this: those of `CoinGeneration`, whose claims delete previews with
their evidence, requests with their snapshots, and previews that are saved.  Previews are deleted
on two ways, and one from before the history has left no use behind.

Snapshots are compared as JSON in the source; the columns of evidence which nothing else reads
are kept apart, by the number of the row, and may change at any time.
-/

namespace PromoBot
namespace LegacyTransition

open Conversion Fallible SqlTable AffiliateLinkHistoryRepository
open CoinGeneration (CoinTables Request)
open CoinShadowEvidenceRepository (Outlived)

/-! ## Snapshots -/

/-- The columns of `aliexpress_coin_shadow_evidence` only snapshots read. -/
structure EvidenceColumns where
  generationCount : Nat
  generationStartedAt : Option Instant
  attributionUnverified : Bool
  routePreservationManuallyObserved : Bool
  createdAt : Instant
  updatedAt : Instant
  deriving DecidableEq

/-- The `references` of a snapshot. -/
structure References where
  previewCount : Nat
  previewIdHighWatermark : Nat
  deriving DecidableEq

/-- `legacy_record_snapshot` of coin evidence: `legacy_snapshot` has no generation and no
lease. -/
structure Snapshot where
  id : Nat
  record : CoinShadowEvidence
  columns : EvidenceColumns
  references : References
  deriving DecidableEq

/-- What is done to records from before the history, and to the numbers of previews. -/
inductive Event
  /-- A request was made for the evidence, with this snapshot. -/
  | asked (request legacyId : Nat) (snapshot : Snapshot)
  /-- The evidence was deleted for the request, when this was its snapshot. -/
  | honoured (request legacyId : Nat) (snapshot : Snapshot)
  /-- A new preview has this number. -/
  | numbered (previewId : Nat)
  deriving DecidableEq

/-- The tables with the calls of `generate`, and what has been done. -/
structure World where
  base : CoinGeneration.World
  columns : Nat → EvidenceColumns
  previews : AliExpressCoinShadowPreviews
  uses : LinkUses
  snapshots : SqlTable Nat Snapshot
  log : List Event

namespace World

variable (w : World)

/-- The evidence of coin links. -/
abbrev evidence : CoinShadowEvidences := w.base.tables.evidence

abbrev history : Generations := w.base.tables.history

/-- The previews made from evidence. -/
def previewIds (evidenceId : Nat) : List Nat :=
  (w.previews.select fun _ r => r.evidenceId = evidenceId).map Prod.fst

/-- `snapshot_target`. -/
def snapshotTarget (id : Nat) (row : CoinShadowEvidence) : Snapshot where
  id := id
  record := { row with generationId := none, leaseUntil := none, leaseToken := none }
  columns := w.columns id
  references := ⟨(w.previewIds id).length, (w.previewIds id).foldr max 0⟩

def target (request : Nat) : Option (Nat × CoinShadowEvidence) :=
  ((w.history.get? request).bind Generation.legacyId).bind fun legacyId =>
    (w.evidence.get? legacyId).map fun row => (legacyId, row)

/-- The comparison of `validate_request`. -/
def unchanged (request : Option Nat) : Bool :=
  request.all fun id => (w.target id).any fun e =>
    w.snapshots.get? id = some (w.snapshotTarget e.1 e.2)

/-- The highest number the snapshots of requests for coin evidence name. -/
def watermark : Nat :=
  ((w.history.select fun _ r => r.legacyKind = some .coinEvidence).map fun e =>
    ((w.snapshots.get? e.1).map fun s => s.references.previewIdHighWatermark).getD 0).foldr max 0

end World

/-! ## Steps -/

variable (env : Environment)

/-- The evidence the transaction of a claim deletes: the row its request replaces, and what it
finds outlived. -/
def deletedEvidence (t : CoinTables) (replaced : Option Nat) (now : Instant) : List Nat :=
  replaced.toList ++ (t.evidence.select fun _ e => Outlived now e).map Prod.fst

/-- The row the request of a call replaces, if its claim goes through. -/
def replacedBy (w : World) (q : Request) (now : Instant) : Except String (Option Nat) := do
  let unchanged := w.unchanged q.generationRequest
  let _ ← CoinGeneration.claimAndPrepare env w.base.tables q now w.base.nextUuid unchanged
  CoinGeneration.replacedRow w.base.tables q.generationRequest
    (coinPreparation env q.service q.sourceValue now w.base.nextUuid q.origin).identityKey unchanged

/-- What a claim does to a record from before the history. -/
def honouredBy (w : World) (q : Request) (replaced : Option Nat) : List Event :=
  match q.generationRequest, replaced with
  | some request, some legacyId => (w.evidence.get? legacyId).toList.map fun row =>
      .honoured request legacyId (w.snapshotTarget legacyId row)
  | _, _ => []

/-- The number `save_ready` gives, where it makes a preview. -/
def numberedBy (w : World) (q : CoinShadowPreviewRepository.Save) : List Event :=
  if (w.previews.select fun _ r =>
      r.sourceMessageFingerprint = q.sourceMessageFingerprint) = [] then
    [.numbered (CoinShadowPreviewRepository.nextId w.uses w.previews w.watermark)]
  else []

/-- What can happen next. -/
inductive Action
  /-- Call `p` claims its evidence. -/
  | claim (p : Nat)
  /-- An operator asks for a link in place of this evidence. -/
  | request (legacyId : Nat)
  /-- Any other step of the generations. -/
  | base (a : CoinGeneration.Action)
  /-- A preview is saved, or saved again. -/
  | save (q : CoinShadowPreviewRepository.Save)
  /-- Another use is recorded. -/
  | recordUse (q : UseRecord)
  /-- The use of a send moves. -/
  | transitionSend (useId : Option Nat) (now : Instant) (state : LinkUseState) (owner : SendOwner)
      (errorCode : Option String) (messageId : Option Text)
  /-- The other columns of the evidence are written. -/
  | columns (columns : Nat → EvidenceColumns)

/-- One step; `none` where a transaction raises and is rolled back. -/
def step (w : World) : Action → Option World
  | .claim p =>
    match w.base.calls p with
    | .claiming q now =>
      (CoinGeneration.step env w.base (.claim p (w.unchanged q.generationRequest))).map fun base =>
        match replacedBy env w q now with
        | .ok replaced => { w with
            base := base
            previews := w.previews.deleteWhere fun _ r =>
              r.evidenceId ∈ deletedEvidence w.base.tables replaced now
            log := w.log ++ honouredBy w q replaced }
        | .error _ => { w with base := base }
    | _ => none
  | .request legacyId =>
    match w.evidence.get? legacyId, CoinGeneration.step env w.base (.request legacyId) with
    | some row, some base =>
      let id := w.history.freshId
      if (base.tables.history.get? id).isSome then some { w with
        base := base
        snapshots := w.snapshots.put id (w.snapshotTarget legacyId row)
        log := w.log ++ [.asked id legacyId (w.snapshotTarget legacyId row)] }
      else some { w with base := base }
    | _, _ => none
  | .base a =>
    match a with
    | .claim _ _ | .request _ => none
    | a => (CoinGeneration.step env w.base a).map fun base => { w with base := base }
  | .save q =>
    match CoinShadowPreviewRepository.saveReady w.history w.evidence w.uses w.previews w.watermark q
      with
    | .ok (uses, previews) => some { w with
        uses := uses
        previews := previews
        log := w.log ++ numberedBy w q }
    | .error _ => none
  | .recordUse q =>
    match AffiliateLinkHistoryRepository.recordUse w.history w.uses q with
    | .ok (uses, _) => some { w with uses := uses }
    | .error _ => none
  | .transitionSend useId now state owner errorCode messageId =>
    match AffiliateLinkHistoryRepository.transitionSend w.uses useId now state owner errorCode
      messageId with
    | .ok uses => some { w with uses := uses }
    | .error _ => none
  | .columns columns => some { w with columns := columns }

/-- All runs, from evidence and previews from before the history on: a preview is made from
evidence that is no longer generating, and nothing was asked for. -/
def system : TransitionSystem World Action where
  init w := (CoinGeneration.system env).init w.base ∧
    (∀ id row, w.previews.get? id = some row →
      ∃ e, w.evidence.get? row.evidenceId = some e ∧ e.state ≠ .generating) ∧
    w.snapshots = ∅ ∧ w.log = []
  step := step env

/-! ## What other steps keep -/

/-- **What a transaction that claims nothing does**: the history evolves, no evidence comes or
goes or points to another generation, and what is no longer generating stays as it is. -/
structure Settles (t t' : CoinTables) : Prop where
  history : Evolves t.history t'.history
  pointers : ∀ j, (t'.evidence.get? j).map CoinShadowEvidence.generationId =
    (t.evidence.get? j).map CoinShadowEvidence.generationId
  settled : ∀ j e, t.evidence.get? j = some e → e.state ≠ .generating →
    t'.evidence.get? j = some e

section Settling

variable {env : Environment} {t t' : CoinTables} {v v' : CoinGeneration.World}
  {a : CoinGeneration.Action}

theorem Settles.of_evidence (hhistory : Evolves t.history t'.history)
    (hevidence : t'.evidence = t.evidence) : Settles t t' where
  history := hhistory
  pointers := fun j => by rw [hevidence]
  settled := fun j e he _ => by rw [hevidence, he]

theorem settles_finish {evidenceId : Nat} {leaseToken : Option Nat} {now : Instant}
    {values : CoinShadowEvidence → CoinShadowEvidence}
    (hhistory : Evolves t.history t'.history)
    (h : CoinShadowEvidenceRepository.finish t.evidence evidenceId leaseToken now values =
      .ok t'.evidence)
    (hvalues : ∀ e, (values e).generationId = e.generationId) : Settles t t' := by
  obtain ⟨token, -, h⟩ := bind_eq_ok.1 h
  obtain ⟨⟨e, he, hguard, he'⟩, hother⟩ := get?_of_updateOne (orRaise_eq_ok.1 h)
  refine ⟨hhistory, fun j => ?_, fun j e' hj hstate => ?_⟩
  · rcases eq_or_ne j evidenceId with rfl | hne
    · rw [he, he', Option.map_some, Option.map_some, hvalues]
    · rw [hother j hne]
  · rcases eq_or_ne j evidenceId with rfl | hne
    · obtain rfl := Option.some.inj (he.symm.trans hj)
      exact absurd hguard.1 hstate
    · rw [hother j hne, hj]

theorem settles_recover (now : Instant) : Settles t (CoinGeneration.recover t now) := by
  have hchange : CoinGeneration.Change 0 t (CoinGeneration.recover t now) :=
    CoinGeneration.change_recover now
  refine ⟨hchange.history, fun j => ?_, fun j e he hstate => ?_⟩
  · show ((recoverEvidence t.history t.evidence .shadow now).get? j).map _ = _
    rw [get?_recoverEvidence, Option.map_map]
    congr 1
    funext e
    show (if Interrupted t.history .shadow now e then interrupted e else e).generationId = _
    split <;> rfl
  · show (recoverEvidence t.history t.evidence .shadow now).get? j = _
    rw [get?_recoverEvidence, he, Option.map_some, if_neg fun h => hstate h.1]

/-- A step that is no claim settles what it finds. -/
theorem settles_step (h : CoinGeneration.step env v a = some v')
    (ha : ∀ p unchanged, a ≠ .claim p unchanged) : Settles v.tables v'.tables := by
  have hrefl : ∀ t : CoinTables, Settles t t := fun t => .of_evidence (Evolves.refl _) rfl
  cases a <;> unfold CoinGeneration.step at h <;> dsimp only at h
  case claim p unchanged => exact absurd rfl (ha p unchanged)
  case begin' | answer =>
    split at h
    · obtain rfl := Option.some.inj h
      exact hrefl _
    · cases h
  case recover =>
    split at h
    · obtain rfl := Option.some.inj h
      exact settles_recover _
    · cases h
  case start =>
    split at h
    · split at h
      · next hstart =>
        obtain rfl := Option.some.inj h
        obtain ⟨r, -, -, hevidence, -, -, hevolves⟩ := CoinGeneration.markStarted_eq_some hstart
        exact .of_evidence hevolves hevidence
      · obtain rfl := Option.some.inj h
        exact hrefl _
    · cases h
  case store =>
    split at h
    · split at h
      · next t hstore =>
        obtain rfl := Option.some.inj h
        obtain ⟨hconfirm, hfinish⟩ := CoinGeneration.storeLink_eq_ok hstore
        exact settles_finish (Evolves.of_change (change_confirm hconfirm)) hfinish fun _ => rfl
      · obtain rfl := Option.some.inj h
        exact hrefl _
    · cases h
  case reject | close =>
    split at h
    · split at h
      · next t hend =>
        obtain rfl := Option.some.inj h
        obtain ⟨hfail, hfinish⟩ := CoinGeneration.endWithout_eq_ok hend
        exact settles_finish (Evolves.of_quiet (quiet_fail hfail)) hfinish fun _ => rfl
      · obtain rfl := Option.some.inj h
        exact hrefl _
    · cases h
  case raise =>
    obtain ⟨phase, -, rfl⟩ := Option.map_eq_some_iff.1 h
    exact hrefl _
  case cancel | crash =>
    obtain rfl := Option.some.inj h
    exact hrefl _
  case recoverElsewhere =>
    obtain rfl := Option.some.inj h
    exact settles_recover _
  case request =>
    split at h
    · next t hrequest =>
      obtain rfl := Option.some.inj h
      obtain ⟨input, hevidence, hhistory⟩ := CoinGeneration.requestLegacy_eq_ok hrequest
      exact .of_evidence (Evolves.of_quiet (quiet_requestLegacyGeneration hhistory)) hevidence
    · cases h
  case canonical op =>
    obtain ⟨history, hop, rfl⟩ := Option.map_eq_some_iff.1 h
    exact .of_evidence (op.evolves hop) rfl

end Settling

/-! ## What a claim keeps -/

section Claiming

variable {env : Environment} {t t' : CoinTables} {q : Request} {now : Instant} {uuid : Nat}
  {unchanged : Bool} {claim : CoinShadowClaim} {generationId replaced : Option Nat}

/-- What a request is honoured for: evidence which points to no generation, of a request that
was made for it and whose snapshot is unchanged. -/
theorem replacedRow_eq_some {request : Option Nat} {key : IdentityKey} {legacyId : Nat}
    (h : CoinGeneration.replacedRow t request key unchanged = .ok (some legacyId)) :
    ∃ id r e, request = some id ∧ t.history.get? id = some r ∧
      r.legacyKind = some .coinEvidence ∧ r.legacyId = some legacyId ∧
      t.evidence.get? legacyId = some e ∧ e.generationId = none ∧ unchanged = true := by
  unfold CoinGeneration.replacedRow at h
  cases request with
  | none => cases h
  | some id =>
    obtain ⟨legacyId', hvalid, heq⟩ : ∃ legacyId',
        validateCoinRequest t.history t.evidence id key unchanged = .ok legacyId' ∧
          legacyId' = legacyId := by
      dsimp only at h
      cases hvalid : validateCoinRequest t.history t.evidence id key unchanged with
      | error e =>
        rw [hvalid] at h
        cases h
      | ok legacyId' =>
        rw [hvalid] at h
        exact ⟨legacyId', rfl, Option.some.inj (Except.ok.inj h)⟩
    obtain rfl := heq
    obtain ⟨_, -, hvalid⟩ := bind_eq_ok.1 hvalid
    obtain ⟨r, hr, hvalid⟩ := bind_eq_ok.1 hvalid
    obtain ⟨_, hrequest, hvalid⟩ := bind_eq_ok.1 hvalid
    obtain ⟨legacyId, hlegacy, hvalid⟩ := bind_eq_ok.1 hvalid
    obtain ⟨e, htarget, hvalid⟩ := bind_eq_ok.1 hvalid
    obtain ⟨_, hunchanged, hvalid⟩ := bind_eq_ok.1 hvalid
    obtain rfl := Except.ok.inj hvalid
    obtain ⟨he, -, hnone⟩ := coinTarget_eq_ok htarget
    exact ⟨id, r, e, rfl, orRaise_eq_ok.1 hr, (check_eq_ok.1 hrequest).2.2.2,
      orRaise_eq_ok.1 hlegacy, he, hnone, check_eq_ok.1 hunchanged⟩

/-- **The rows after a claim**: those it left, and one that points to a generation. -/
theorem claim_rows
    (h : CoinGeneration.claimAndPrepare env t q now uuid unchanged = .ok (t', claim, generationId))
    (hreplaced : CoinGeneration.replacedRow t q.generationRequest
      (coinPreparation env q.service q.sourceValue now uuid q.origin).identityKey unchanged =
        .ok replaced) (j : Nat) :
    t'.evidence.get? j = CoinGeneration.left t replaced now j ∨
      CoinGeneration.left t replaced now j = none ∧
        ∃ e, t'.evidence.get? j = some e ∧ e.generationId ≠ none := by
  obtain ⟨_, -, h⟩ := bind_eq_ok.1 h
  obtain ⟨replaced', hreplaced', h⟩ := bind_eq_ok.1 h
  obtain rfl := Except.ok.inj (hreplaced'.symm.trans hreplaced)
  obtain ⟨_, -, h⟩ := bind_eq_ok.1 h
  obtain ⟨_, -, h⟩ := bind_eq_ok.1 h
  obtain ⟨⟨evidence, c⟩, hclaim, h⟩ := bind_eq_ok.1 h
  have hrows := CoinShadowEvidenceRepository.claim_eq_ok hclaim
  simp only [CoinGeneration.get?_deleted] at hrows
  unfold CoinGeneration.prepareWon at h
  rcases hrows with ⟨hlost, hrows⟩ | ⟨hwon, -, hnone, hrow, hrows⟩
  · rw [if_neg hlost] at h
    obtain ⟨rfl, -⟩ := Prod.mk.inj (Except.ok.inj h)
    exact Or.inl (hrows j)
  · rw [if_pos hwon] at h
    obtain ⟨⟨history, g⟩, -, h⟩ := bind_eq_ok.1 h
    obtain ⟨rfl, -⟩ := Prod.mk.inj (Except.ok.inj h)
    show SqlTable.get? (SqlTable.updateWhere evidence _ _) j = _ ∨ _ ∧
      ∃ e, SqlTable.get? (SqlTable.updateWhere evidence _ _) j = some e ∧ _
    rw [get?_updateWhere]
    rcases eq_or_ne j c.evidenceId with rfl | hj
    · rw [hrow, Option.map_some, if_pos rfl]
      exact Or.inr ⟨hnone, _, rfl, fun hnone => by cases hnone⟩
    · rw [hrows j hj]
      simp [hj]

/-- Evidence that is no longer generating stays, unless the claim deletes it. -/
theorem left_of_settled {j : Nat} {e : CoinShadowEvidence} (he : t.evidence.get? j = some e)
    (hstate : e.state ≠ .generating) (hkept : j ∉ deletedEvidence t replaced now) :
    CoinGeneration.left t replaced now j = some e := by
  unfold deletedEvidence at hkept
  rw [List.mem_append, not_or] at hkept
  obtain ⟨hreplaced, hlive⟩ := hkept
  have hne : some j ≠ replaced := by
    rintro rfl
    exact hreplaced (List.mem_singleton.2 rfl)
  have houtlived : ¬ Outlived now e := fun h =>
    hlive (List.mem_map.2 ⟨(j, e), mem_select.2 ⟨he, h⟩, rfl⟩)
  rw [CoinGeneration.left, if_neg hne, he, Option.bind_some, CoinShadowEvidenceRepository.leaves,
    if_neg houtlived, if_neg fun h => hstate h.1]

theorem mem_deletedEvidence {j : Nat} (hj : j ∈ deletedEvidence t replaced now) :
    replaced = some j ∨ ∃ e, t.evidence.get? j = some e ∧ e.generationId ≠ none := by
  unfold deletedEvidence at hj
  rcases List.mem_append.1 hj with hj | hj
  · exact Or.inl (Option.mem_toList.1 hj)
  · obtain ⟨⟨j', e⟩, hrow, rfl⟩ := List.mem_map.1 hj
    obtain ⟨he, houtlived⟩ := mem_select.1 hrow
    exact Or.inr ⟨e, he, houtlived.2.2⟩

end Claiming

/-! ## Numbers -/

theorem foldr_max_le_iff {l : List Nat} {b c : Nat} :
    l.foldr max b ≤ c ↔ b ≤ c ∧ ∀ x ∈ l, x ≤ c := by
  induction l with
  | nil => exact ⟨fun h => ⟨h, fun x hx => absurd hx List.not_mem_nil⟩, fun h => h.1⟩
  | cons a l ih =>
    rw [List.foldr_cons, Nat.max_le, ih]
    constructor
    · rintro ⟨ha, hb, hl⟩
      refine ⟨hb, fun x hx => ?_⟩
      rcases List.mem_cons.1 hx with rfl | hx
      · exact ha
      · exact hl x hx
    · rintro ⟨hb, hl⟩
      exact ⟨hl a List.mem_cons_self, hb, fun x hx => hl x (List.mem_cons_of_mem a hx)⟩

theorem le_foldr_max {l : List Nat} {b x : Nat} (hx : x ∈ l) : x ≤ l.foldr max b :=
  (foldr_max_le_iff.1 (Nat.le_refl _)).2 x hx

theorem init_le_foldr_max (l : List Nat) (b : Nat) : b ≤ l.foldr max b :=
  (foldr_max_le_iff.1 (Nat.le_refl _)).1

/-- A number a use or a snapshot names, or one below. -/
def World.Named (w : World) (id : Nat) : Prop :=
  id ≤ ((w.uses.select fun _ use => use.operationalKind = some .coinPreview).map fun e =>
    e.2.operationalId.getD 0).foldr max w.watermark

section Numbers

variable {w w' : World} {id : Nat}

theorem named_of_watermark (h : id ≤ w.watermark) : w.Named id :=
  h.trans (init_le_foldr_max _ _)

theorem named_of_use {u : Nat} {use : LinkUse} (huse : w.uses.get? u = some use)
    (hkind : use.operationalKind = some .coinPreview) (hid : use.operationalId = some id) :
    w.Named id := by
  refine le_foldr_max (List.mem_map.2 ⟨(u, use), mem_select.2 ⟨huse, hkind⟩, ?_⟩)
  show use.operationalId.getD 0 = id
  rw [hid, Option.getD_some]

theorem le_watermark {g : Nat} {r : Generation} {s : Snapshot} (hr : w.history.get? g = some r)
    (hkind : r.legacyKind = some .coinEvidence) (hs : w.snapshots.get? g = some s) :
    s.references.previewIdHighWatermark ≤ w.watermark := by
  refine le_foldr_max (List.mem_map.2 ⟨(g, r), mem_select.2 ⟨hr, hkind⟩, ?_⟩)
  show ((w.snapshots.get? g).map _).getD 0 = _
  rw [hs, Option.map_some, Option.getD_some]

theorem lt_nextId (h : (w.previews.get? id).isSome ∨ w.Named id) :
    id < CoinShadowPreviewRepository.nextId w.uses w.previews w.watermark := by
  unfold CoinShadowPreviewRepository.nextId
  refine Nat.lt_succ_of_le ?_
  rcases h with hlive | hnamed
  · have hkey : id ∈ w.previews.keys := AList.mem_keys.1 (AList.lookup_isSome.1 hlive)
    exact (le_foldr_max hkey).trans (Nat.le_max_left _ _)
  · exact hnamed.trans (Nat.le_max_right _ _)

/-- Nothing that is asked for is forgotten. -/
def Remembers (w w' : World) : Prop :=
  ∀ g r s, w.history.get? g = some r → w.snapshots.get? g = some s →
    ∃ r', w'.history.get? g = some r' ∧ r'.legacyKind = r.legacyKind ∧
      w'.snapshots.get? g = some s

/-- **A named number stays named**, as uses and snapshots are kept. -/
theorem World.Named.mono (h : w.Named id) (huses : Kept w.uses w'.uses)
    (hremembers : Remembers w w') : w'.Named id := by
  refine le_trans h (foldr_max_le_iff.2 ⟨foldr_max_le_iff.2 ⟨Nat.zero_le _, ?_⟩, ?_⟩)
  · intro x hx
    obtain ⟨⟨g, r⟩, hrow, rfl⟩ := List.mem_map.1 hx
    obtain ⟨hr, hkind⟩ := mem_select.1 hrow
    show ((w.snapshots.get? g).map _).getD 0 ≤ _
    cases hs : w.snapshots.get? g with
    | none => exact Nat.zero_le _
    | some s =>
      obtain ⟨r', hr', hkind', hs'⟩ := hremembers g r s hr hs
      exact (le_watermark hr' (hkind'.trans hkind) hs').trans (init_le_foldr_max _ _)
  · intro x hx
    obtain ⟨⟨u, use⟩, hrow, rfl⟩ := List.mem_map.1 hx
    obtain ⟨huse, hkind⟩ := mem_select.1 hrow
    obtain ⟨use', huse', hsame⟩ := huses u use huse
    show use.operationalId.getD 0 ≤ _
    cases hid : use.operationalId with
    | none => exact Nat.zero_le _
    | some n =>
      exact named_of_use huse' (hsame.operationalKind.trans hkind) (hsame.operationalId.trans hid)

end Numbers

end LegacyTransition
end PromoBot
