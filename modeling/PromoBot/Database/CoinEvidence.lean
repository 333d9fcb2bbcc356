import PromoBot.Database.History

/-!
# The evidence of coin links

`aliexpress_coin_shadow_evidence` (`CoinShadowEvidenceRepository` of
`database/coin_shadow_repository.py`), and what `AffiliateLinkHistoryRepository`
does with its rows.

A row stands for one coin link under one tracking.  It is `GENERATING` while a
request for the link may be on its way, and points to the generation that was
prepared for it; a row which points nowhere is from before the history.  Neither
table refers to the other: what keeps the two together is only the order in which
the two repositories write them.
-/

namespace PromoBot

/-- `CoinShadowEvidenceState`. -/
inductive CoinShadowEvidenceState
  | generating | ready | reviewRequired | uncertain
  deriving DecidableEq, Repr

/-- A row of `aliexpress_coin_shadow_evidence` (`AliExpressCoinShadowEvidenceModel`). -/
structure CoinShadowEvidence where
  generationId : Option Nat
  inputFingerprint : Text
  trackingFingerprint : Text
  promotionLinkType : Nat
  state : CoinShadowEvidenceState
  leaseUntil : Option Instant
  leaseToken : Option Nat
  generatedAt : Option Instant
  expiresAt : Option Instant
  correlationMode : Option String
  trackingConfirmed : Bool
  promotionLink : Option Text
  affiliateHost : Option Text
  errorCode : Option String
  deriving DecidableEq

/-- The `aliexpress_coin_shadow_evidence` table. -/
abbrev CoinShadowEvidences := SqlTable Nat CoinShadowEvidence

/-! ## In the history -/

namespace AffiliateLinkHistoryRepository

open SqlTable Fallible

/-- The last check of `validate_coin_evidence`. -/
def CoinEvidenceValid (e : CoinShadowEvidence) (r : Generation) : Prop :=
  r.scope = .shadow ∧ r.identityKey = .coin e.inputFingerprint ∧
    r.promotionLinkType = some e.promotionLinkType ∧ r.generatedAt = e.generatedAt ∧
    r.expiresAt = e.expiresAt ∧ r.correlationMode = e.correlationMode ∧
    e.trackingConfirmed = true

instance (e : CoinShadowEvidence) (r : Generation) : Decidable (CoinEvidenceValid e r) :=
  inferInstanceAs (Decidable (_ ∧ _))

/-- `validate_coin_evidence`. -/
def validateCoinEvidence (t : Generations) (e : CoinShadowEvidence) :
    Except String Generation := do
  let r ← validateLink t e.generationId (e.promotionLink.getD []) (some e.trackingFingerprint)
    (some "coin-short-v1")
  check (CoinEvidenceValid e r) "AFFILIATE_HISTORY_GENERATION_LINK_INVALID"
  return r

/-- `legacy_target`, of coin evidence. -/
def coinTarget (t : Generations) (evidence : CoinShadowEvidences) (scope : HistoryScope)
    (legacyId : Nat) : Except String CoinShadowEvidence := do
  check (0 < legacyId) "AFFILIATE_HISTORY_LEGACY_TARGET_INELIGIBLE"
  check (scope = .shadow) "AFFILIATE_HISTORY_LEGACY_TARGET_INELIGIBLE"
  let e ← orRaise (evidence.get? legacyId) "AFFILIATE_HISTORY_LEGACY_TARGET_INELIGIBLE"
  check (e.state ≠ .uncertain) "AFFILIATE_HISTORY_GENERATION_UNCERTAIN_BLOCKED"
  check (e.state ≠ .generating) "AFFILIATE_HISTORY_GENERATION_IN_PROGRESS"
  check (e.state = .ready) "AFFILIATE_HISTORY_LEGACY_TARGET_INELIGIBLE"
  check (e.generationId = none) "AFFILIATE_HISTORY_LEGACY_TARGET_INELIGIBLE"
  checkIdentity t scope (.coin e.inputFingerprint) none
  return e

/-- `validate_request`, of a request for coin evidence, with the row it is for.
`unchanged` says that the snapshot of the request is still that of the row. -/
def validateCoinRequest (t : Generations) (evidence : CoinShadowEvidences) (requestId : Nat)
    (key : IdentityKey) (unchanged : Bool) : Except String Nat := do
  check (¬ ∃ r, t.get? requestId = some r ∧ r.scope = .shadow ∧ r.identityKey = key ∧
    r.state = .uncertain) "AFFILIATE_HISTORY_GENERATION_UNCERTAIN_BLOCKED"
  let r ← orRaise (t.get? requestId) "AFFILIATE_HISTORY_LEGACY_TARGET_INELIGIBLE"
  check (r.state = .requested ∧ r.scope = .shadow ∧ r.identityKey = key ∧
    r.legacyKind = some .coinEvidence) "AFFILIATE_HISTORY_LEGACY_TARGET_INELIGIBLE"
  let legacyId ← orRaise r.legacyId "AFFILIATE_HISTORY_LEGACY_TARGET_INELIGIBLE"
  let _ ← coinTarget t evidence .shadow legacyId
  check (unchanged = true) "AFFILIATE_HISTORY_LEGACY_TARGET_CHANGED"
  return legacyId

/-- The body of the loop of `check_key_rotation` over the rows from before the history. -/
def checkLegacyRow (t : Generations) (evidence : CoinShadowEvidences)
    (inputFingerprint trackingFingerprint : Text) (row : Nat × CoinShadowEvidence) :
    Except String Unit :=
  if row.2.inputFingerprint ≠ inputFingerprint ∧
      row.2.trackingFingerprint = trackingFingerprint then .ok ()
  else do
    if row.2.inputFingerprint = inputFingerprint ∧ row.2.state ≠ .ready then
      let _ ← coinTarget t evidence .shadow row.1
    check (row.2.state ≠ .generating ∧ row.2.state ≠ .uncertain)
      "AFFILIATE_HISTORY_GENERATION_UNCERTAIN_BLOCKED"
    check (row.2.inputFingerprint = inputFingerprint)
      "AFFILIATE_HISTORY_LEGACY_KEY_CONTEXT_UNPROVEN"

/-- `check_key_rotation`, in the shadow. -/
def checkCoinKeyRotation (t : Generations) (evidence : CoinShadowEvidences)
    (keyFingerprint inputFingerprint trackingFingerprint : Text) : Except String Unit := do
  let _ ← (evidence.select fun _ e => e.generationId = none).mapM
    (checkLegacyRow t evidence inputFingerprint trackingFingerprint)
  checkKeyRotation t .shadow keyFingerprint

/-- The values `recover` writes into evidence. -/
def interrupted (e : CoinShadowEvidence) : CoinShadowEvidence :=
  { e with
    state := .uncertain
    leaseUntil := none
    leaseToken := none
    errorCode := some "AFFILIATE_HISTORY_INTERRUPTED_GENERATION" }

/-- `identity_key` does not start with `canonical:`. -/
def isCoin : IdentityKey → Bool
  | .canonical _ => false
  | .coin _ => true

/-- The evidence `recover` writes to: its generation is swept. -/
def Interrupted (t : Generations) (scope : HistoryScope) (now : Instant)
    (e : CoinShadowEvidence) : Prop :=
  e.state = .generating ∧ ∃ g ∈ e.generationId, ∃ r ∈ t.get? g,
    Expired scope now r ∧ isCoin r.identityKey = true

instance (t : Generations) (scope : HistoryScope) (now : Instant) :
    DecidablePred (Interrupted t scope now) :=
  fun _ => inferInstanceAs (Decidable (_ ∧ _))

/-- `recover`, on evidence. -/
def recoverEvidence (t : Generations) (evidence : CoinShadowEvidences) (scope : HistoryScope)
    (now : Instant) : CoinShadowEvidences :=
  evidence.updateWhere (fun _ e => Interrupted t scope now e) interrupted

/-- What `recover` leaves of a row. -/
theorem get?_recoverEvidence (t : Generations) (evidence : CoinShadowEvidences)
    (scope : HistoryScope) (now : Instant) (j : Nat) :
    (recoverEvidence t evidence scope now).get? j =
      (evidence.get? j).map fun e => if Interrupted t scope now e then interrupted e else e :=
  get?_updateWhere _ _ _ _

/-- The row a request is for was generated before the history. -/
theorem coinTarget_eq_ok {t : Generations} {evidence : CoinShadowEvidences}
    {scope : HistoryScope} {legacyId : Nat} {e : CoinShadowEvidence}
    (h : coinTarget t evidence scope legacyId = .ok e) :
    evidence.get? legacyId = some e ∧ e.state = .ready ∧ e.generationId = none := by
  obtain ⟨_, -, h⟩ := bind_eq_ok.1 h
  obtain ⟨_, -, h⟩ := bind_eq_ok.1 h
  obtain ⟨e', he, h⟩ := bind_eq_ok.1 h
  obtain ⟨_, -, h⟩ := bind_eq_ok.1 h
  obtain ⟨_, -, h⟩ := bind_eq_ok.1 h
  obtain ⟨_, hready, h⟩ := bind_eq_ok.1 h
  obtain ⟨_, hlegacy, h⟩ := bind_eq_ok.1 h
  obtain ⟨_, -, h⟩ := bind_eq_ok.1 h
  obtain rfl := Except.ok.inj h
  exact ⟨orRaise_eq_ok.1 he, check_eq_ok.1 hready, check_eq_ok.1 hlegacy⟩

end AffiliateLinkHistoryRepository

/-! ## The repository -/

/-- `CoinShadowClaimDisposition`. -/
inductive CoinShadowClaimDisposition
  | generate | ready | inProgress | blocked
  deriving DecidableEq, Repr

/-- `CoinShadowClaim`. -/
structure CoinShadowClaim where
  evidenceId : Nat
  disposition : CoinShadowClaimDisposition
  state : CoinShadowEvidenceState
  leaseToken : Option Nat
  promotionLink : Option Text
  correlationMode : Option String
  expiresAt : Option Instant
  generationId : Option Nat
  deriving DecidableEq

namespace CoinShadowEvidenceRepository

open SqlTable Fallible

/-- `_find`. -/
def find (evidence : CoinShadowEvidences) (inputFingerprint trackingFingerprint : Text)
    (promotionLinkType : Nat) : Option (Nat × CoinShadowEvidence) :=
  (evidence.select fun _ e => e.inputFingerprint = inputFingerprint ∧
    e.trackingFingerprint = trackingFingerprint ∧
    e.promotionLinkType = promotionLinkType).head?

/-- `_claim_for_existing`. -/
def claimForExisting (row : Nat × CoinShadowEvidence) : CoinShadowClaim where
  evidenceId := row.1
  disposition := match row.2.state with
    | .ready => .ready
    | .generating => .inProgress
    | _ => .blocked
  state := row.2.state
  leaseToken := none
  promotionLink := row.2.promotionLink
  correlationMode := row.2.correlationMode
  expiresAt := row.2.expiresAt
  generationId := row.2.generationId

/-- The rows `claim` sweeps before anything else. -/
def Expired (now : Instant) (e : CoinShadowEvidence) : Prop :=
  e.state = .generating ∧ AtMost e.leaseUntil now

instance (now : Instant) : DecidablePred (Expired now) :=
  fun _ => inferInstanceAs (Decidable (_ ∧ _))

/-- The values the sweep of `claim` writes. -/
def swept (e : CoinShadowEvidence) : CoinShadowEvidence :=
  { e with
    state := .uncertain
    leaseUntil := none
    leaseToken := none
    errorCode := some "ALIEXPRESS_COIN_GENERATION_LEASE_EXPIRED" }

/-- The sweep of `claim`. -/
def sweep (evidence : CoinShadowEvidences) (now : Instant) : CoinShadowEvidences :=
  evidence.updateWhere (fun _ e => Expired now e) swept

/-- The link of the row is no longer good. -/
def Outlived (now : Instant) (e : CoinShadowEvidence) : Prop :=
  e.state = .ready ∧ AtMost e.expiresAt now ∧ e.generationId ≠ none

instance (now : Instant) : DecidablePred (Outlived now) :=
  fun _ => inferInstanceAs (Decidable (_ ∧ _))

/-- The row `claim` inserts. -/
def generatingRow (inputFingerprint trackingFingerprint : Text) (promotionLinkType : Nat)
    (leaseUntil : Instant) (leaseToken : Nat) : CoinShadowEvidence where
  generationId := none
  inputFingerprint := inputFingerprint
  trackingFingerprint := trackingFingerprint
  promotionLinkType := promotionLinkType
  state := .generating
  leaseUntil := some leaseUntil
  leaseToken := some leaseToken
  generatedAt := none
  expiresAt := none
  correlationMode := none
  trackingConfirmed := false
  promotionLink := none
  affiliateHost := none
  errorCode := none

/-- What is left of the rows that were there. -/
def tidied (evidence : CoinShadowEvidences) (now : Instant) : CoinShadowEvidences :=
  (sweep evidence now).deleteWhere fun _ e => Outlived now e

/-- The row of that identity is there already, or it is inserted. -/
def insertOrFind (evidence : CoinShadowEvidences) (row : CoinShadowEvidence) :
    CoinShadowEvidences × CoinShadowClaim :=
  match find evidence row.inputFingerprint row.trackingFingerprint row.promotionLinkType with
  | some found => (evidence, claimForExisting found)
  | none =>
    (evidence.put evidence.freshId row,
      ⟨evidence.freshId, .generate, .generating, row.leaseToken, none, none, none, none⟩)

/-- `claim`, on evidence.  `leaseToken` is the `uuid4` of the source. -/
def claim (t : Generations) (evidence : CoinShadowEvidences)
    (inputFingerprint trackingFingerprint : Text) (promotionLinkType : Nat)
    (now leaseUntil : Instant) (leaseToken : Nat) :
    Except String (CoinShadowEvidences × CoinShadowClaim) := do
  check (inputFingerprint.length = 64 ∧ trackingFingerprint.length = 64)
    "COIN_SHADOW_FINGERPRINT_INVALID"
  check (promotionLinkType = 0) "COIN_SHADOW_PROMOTION_LINK_TYPE_INVALID"
  let _ ← ((sweep evidence now).select fun _ e => Outlived now e).mapM fun row =>
    AffiliateLinkHistoryRepository.validateCoinEvidence t row.2
  return insertOrFind (tidied evidence now)
    (generatingRow inputFingerprint trackingFingerprint promotionLinkType leaseUntil leaseToken)

/-- The guard of `_finish`. -/
def Finishable (now : Instant) (token : Nat) (e : CoinShadowEvidence) : Prop :=
  e.state = .generating ∧ e.leaseToken = some token ∧ Above e.leaseUntil now

instance (now : Instant) (token : Nat) : DecidablePred (Finishable now token) :=
  fun _ => inferInstanceAs (Decidable (_ ∧ _))

/-- `_finish`. -/
def finish (evidence : CoinShadowEvidences) (evidenceId : Nat) (leaseToken : Option Nat)
    (now : Instant) (values : CoinShadowEvidence → CoinShadowEvidence) :
    Except String CoinShadowEvidences := do
  let token ← orRaise leaseToken "COIN_SHADOW_LEASE_TOKEN_REQUIRED"
  orRaise (evidence.updateOne evidenceId (Finishable now token) values) "COIN_SHADOW_LEASE_LOST"

/-- What a caller of `finish_ready` passes. -/
structure Ready where
  now : Instant
  expiresAt : Instant
  promotionLink : Text
  affiliateHost : Text
  correlationMode : String

/-- The values `finish_ready` writes. -/
def readied (v : Ready) (e : CoinShadowEvidence) : CoinShadowEvidence :=
  { e with
    state := .ready
    leaseUntil := none
    leaseToken := none
    generatedAt := some v.now
    expiresAt := some v.expiresAt
    promotionLink := some v.promotionLink
    affiliateHost := some v.affiliateHost
    correlationMode := some v.correlationMode
    trackingConfirmed := true
    errorCode := none }

/-- `finish_ready`. -/
def finishReady (evidence : CoinShadowEvidences) (evidenceId : Nat) (leaseToken : Option Nat)
    (v : Ready) : Except String CoinShadowEvidences :=
  finish evidence evidenceId leaseToken v.now (readied v)

/-- The values `_finish_terminal` writes. -/
def ended (state : CoinShadowEvidenceState) (errorCode : String) (e : CoinShadowEvidence) :
    CoinShadowEvidence :=
  { e with
    state := state
    leaseUntil := none
    leaseToken := none
    trackingConfirmed := false
    errorCode := some errorCode }

/-- `finish_review_required`. -/
def finishReviewRequired (evidence : CoinShadowEvidences) (evidenceId : Nat)
    (leaseToken : Option Nat) (now : Instant) (errorCode : String) :
    Except String CoinShadowEvidences :=
  finish evidence evidenceId leaseToken now (ended .reviewRequired errorCode)

/-- `finish_uncertain`. -/
def finishUncertain (evidence : CoinShadowEvidences) (evidenceId : Nat)
    (leaseToken : Option Nat) (now : Instant) (errorCode : String) :
    Except String CoinShadowEvidences :=
  finish evidence evidenceId leaseToken now (ended .uncertain errorCode)

/-! ## What the operations do -/

variable {t : Generations} {evidence evidence' : CoinShadowEvidences}

/-- **What finishing does**: one row which was generating under this token has the values,
and every other row is as before. -/
theorem finish_eq_ok {evidenceId : Nat} {leaseToken : Option Nat} {now : Instant}
    {values : CoinShadowEvidence → CoinShadowEvidence}
    (h : finish evidence evidenceId leaseToken now values = .ok evidence') :
    ∃ token e, leaseToken = some token ∧ evidence.get? evidenceId = some e ∧
      Finishable now token e ∧ evidence'.get? evidenceId = some (values e) ∧
      ∀ j, j ≠ evidenceId → evidence'.get? j = evidence.get? j := by
  obtain ⟨token, htoken, h⟩ := bind_eq_ok.1 h
  obtain ⟨⟨e, he, hfinish, he'⟩, hother⟩ := get?_of_updateOne (orRaise_eq_ok.1 h)
  exact ⟨token, e, orRaise_eq_ok.1 htoken, he, hfinish, he', hother⟩

theorem get?_sweep (now : Instant) (j : Nat) : (sweep evidence now).get? j =
    (evidence.get? j).map fun e => if Expired now e then swept e else e :=
  get?_updateWhere _ _ _ _

/-- What `claim` leaves of a row that was there: it may be swept, and an outlived one is
deleted. -/
def leaves (now : Instant) (e : CoinShadowEvidence) : Option CoinShadowEvidence :=
  if Outlived now e then none else some (if Expired now e then swept e else e)

theorem get?_tidied (now : Instant) (j : Nat) :
    (tidied evidence now).get? j = (evidence.get? j).bind (leaves now) := by
  rw [tidied, get?_deleteWhere, get?_sweep]
  cases evidence.get? j with
  | none => rfl
  | some e =>
    show Option.filter _ (some (if Expired now e then swept e else e)) = leaves now e
    unfold leaves
    by_cases hexpired : Expired now e
    · have houtlived : ¬ Outlived now e := by
        rintro ⟨hready, -⟩
        rw [hexpired.1] at hready
        cases hready
      have hswept : ¬ Outlived now (swept e) := fun h => absurd h.1 nofun
      rw [if_pos hexpired, if_neg houtlived]
      simp [hswept]
    · rw [if_neg hexpired]
      by_cases houtlived : Outlived now e
      · rw [if_pos houtlived]
        simp [houtlived]
      · rw [if_neg houtlived]
        simp [houtlived]

/-- **What `claim` does**: what was there is left as `leaves` says, and there is one new
row exactly where the link is to be generated. -/
theorem claim_eq_ok {inputFingerprint trackingFingerprint : Text} {promotionLinkType : Nat}
    {now leaseUntil : Instant} {leaseToken : Nat} {c : CoinShadowClaim}
    (h : claim t evidence inputFingerprint trackingFingerprint promotionLinkType now leaseUntil
      leaseToken = .ok (evidence', c)) :
    (c.disposition ≠ .generate ∧ ∀ j, evidence'.get? j = (evidence.get? j).bind (leaves now)) ∨
    (c.disposition = .generate ∧ c.leaseToken = some leaseToken ∧
      (evidence.get? c.evidenceId).bind (leaves now) = none ∧
      evidence'.get? c.evidenceId = some (generatingRow inputFingerprint trackingFingerprint
        promotionLinkType leaseUntil leaseToken) ∧
      ∀ j, j ≠ c.evidenceId → evidence'.get? j = (evidence.get? j).bind (leaves now)) := by
  obtain ⟨_, -, h⟩ := bind_eq_ok.1 h
  obtain ⟨_, -, h⟩ := bind_eq_ok.1 h
  obtain ⟨_, -, h⟩ := bind_eq_ok.1 h
  replace h := Except.ok.inj h
  unfold insertOrFind at h
  split at h
  · next row _ =>
    obtain ⟨rfl, rfl⟩ := Prod.mk.inj h
    refine Or.inl ⟨?_, get?_tidied now⟩
    unfold claimForExisting
    dsimp only
    split <;> exact CoinShadowClaimDisposition.noConfusion
  · obtain ⟨rfl, rfl⟩ := Prod.mk.inj h
    refine Or.inr ⟨rfl, rfl, ?_, get?_put_self _ _ _, fun j hj => ?_⟩
    · rw [← get?_tidied]
      exact get?_freshId _
    · rw [get?_put_ne _ _ hj, get?_tidied]

end CoinShadowEvidenceRepository

end PromoBot
