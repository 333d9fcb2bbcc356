import PromoBot.Affiliate.CoinGeneration

/-!
# Coin evidence and its generation

The two rows of a coin link are written by different repositories, and agree as long as each
transaction writes both.  All but one do: `recover` ends the evidence of the generations it
sweeps, and what ends a generation ends its evidence in the same transaction, under the token
that only its own call has.

The exception is the sweep at the beginning of `claim`, which looks at the lease of the
evidence alone.

`Agree` is the agreement of two rows, and `Lockstep` that of the tables.  `Coherent` is what
makes it an invariant: the leases are the same as well, and no two rows point to one
generation.  There is a lemma for each transaction; that for `claimAndPrepare` is an
equivalence, `claimAndPrepare_lockstep_iff`.

## Why lockstep is not inductive

`Lockstep` compares the states of two rows, and no transaction asks for both states.  `recover`
takes the generations whose lease has expired and the evidence whose lease has expired, and it
is only because the two leases are one instant, written by one transaction, that it takes both
or neither (`interrupted_iff`).  What ends a call updates the generation by its number and the
evidence by its token, and it is only because no other evidence points to that number that the
row of nobody else is left behind.  Both facts are in `Coherent`.

The token is the third.  It is a `uuid4`, and the model counts them: a row which is inserted
later has a token that is drawn later, so a row with the token of a call is the row of that
call (`Owns`), and what ends a call finds its own row or none.  `Inv` adds for every call what
it relies on where it stands, and `Change` is what other calls do to the tables meanwhile, by
which that carries over.
-/

namespace PromoBot
namespace CoinGeneration

open Conversion Fallible SqlTable CoinShadow CoinShadowEvidenceRepository
open AffiliateLinkHistoryRepository (Evolves CallMade)

/-! ## Agreement -/

/-- An evidence row agrees with the generation it points to. -/
def Agree (e : CoinShadowEvidence) (r : Generation) : Prop :=
  match e.state with
  | .generating =>
    (r.state = .prepared ∨ r.state = .callStarted) ∧ e.leaseToken ≠ none ∧
      r.leaseToken = e.leaseToken
  | .ready =>
    r.state = .confirmed ∧ e.promotionLink ≠ none ∧ r.generatedUrl = e.promotionLink ∧
      r.correlationMode = e.correlationMode ∧ r.generatedAt = e.generatedAt ∧
      r.expiresAt = e.expiresAt
  | .reviewRequired => r.state = .rejected
  | .uncertain =>
    (r.state = .uncertain ∨ r.state = .failed) ∧ (r.state = .failed ↔ r.callStartedAt = none)

/-- Every evidence row agrees with the generation it points to. -/
def Lockstep (t : CoinTables) : Prop :=
  ∀ id e g, t.evidence.get? id = some e → e.generationId = some g →
    ∃ r, t.history.get? g = some r ∧ Agree e r

section Agree

variable {e : CoinShadowEvidence} {r : Generation}

theorem agree_generating (h : e.state = .generating) : Agree e r ↔
    (r.state = .prepared ∨ r.state = .callStarted) ∧ e.leaseToken ≠ none ∧
      r.leaseToken = e.leaseToken := by
  unfold Agree
  rw [h]

theorem agree_ready (h : e.state = .ready) : Agree e r ↔
    r.state = .confirmed ∧ e.promotionLink ≠ none ∧ r.generatedUrl = e.promotionLink ∧
      r.correlationMode = e.correlationMode ∧ r.generatedAt = e.generatedAt ∧
      r.expiresAt = e.expiresAt := by
  unfold Agree
  rw [h]

theorem agree_reviewRequired (h : e.state = .reviewRequired) :
    Agree e r ↔ r.state = .rejected := by
  unfold Agree
  rw [h]

theorem agree_uncertain (h : e.state = .uncertain) : Agree e r ↔
    (r.state = .uncertain ∨ r.state = .failed) ∧
      (r.state = .failed ↔ r.callStartedAt = none) := by
  unfold Agree
  rw [h]

theorem open_iff : r.Open ↔ r.state = .prepared ∨ r.state = .callStarted := by
  rw [Generation.Open, Generation.openStates]
  simp

/-- The generation is open exactly while its evidence is generating. -/
theorem Agree.open_iff (h : Agree e r) : r.Open ↔ e.state = .generating := by
  rw [CoinGeneration.open_iff]
  cases hstate : e.state with
  | generating =>
    rw [agree_generating hstate] at h
    exact ⟨fun _ => rfl, fun _ => h.1⟩
  | ready =>
    rw [agree_ready hstate] at h
    rw [h.1]
    simp
  | reviewRequired =>
    rw [agree_reviewRequired hstate] at h
    rw [h]
    simp
  | uncertain =>
    rw [agree_uncertain hstate] at h
    rcases h.1 with h | h <;> rw [h] <;> simp

/-- What was only requested has no evidence. -/
theorem Agree.ne_requested (h : Agree e r) : r.state ≠ .requested := by
  intro hr
  cases hstate : e.state with
  | generating =>
    rw [agree_generating hstate, hr] at h
    simp at h
  | ready =>
    rw [agree_ready hstate, hr] at h
    simp at h
  | reviewRequired =>
    rw [agree_reviewRequired hstate, hr] at h
    simp at h
  | uncertain =>
    rw [agree_uncertain hstate, hr] at h
    simp at h

end Agree

/-! ## The invariant -/

/-- What holds of an evidence row and the generation it points to. -/
structure Bound (e : CoinShadowEvidence) (r : Generation) : Prop where
  agree : Agree e r
  scope : r.scope = .shadow
  identity : r.identityKey = .coin e.inputFingerprint
  lease : e.state = .generating → r.leaseUntil = e.leaseUntil

/-- The evidence is bound to its generations, and no two rows to the same. -/
structure Coherent (t : CoinTables) : Prop where
  bound : ∀ id e g, t.evidence.get? id = some e → e.generationId = some g →
    ∃ r, t.history.get? g = some r ∧ Bound e r
  distinct : ∀ id id' e e' g, t.evidence.get? id = some e → t.evidence.get? id' = some e' →
    e.generationId = some g → e'.generationId = some g → id = id'

/-- What has just won a claim has a token of its own, under which no other generation is
made. -/
def Owns (t : CoinTables) (uuid : Nat) (w : Winner) : Prop :=
  ∃ token, w.claim.leaseToken = some token ∧ token < uuid ∧
    ∀ e, t.evidence.get? w.claim.evidenceId = some e → e.leaseToken = some token →
      e.generationId = some w.generationId

/-- The call for the generation was started. -/
def Made (t : CoinTables) (w : Winner) : Prop :=
  ∃ r, t.history.get? w.generationId = some r ∧ CallMade r

/-- What a call relies on where it stands. -/
def Held (t : CoinTables) (uuid : Nat) : Phase → Prop
  | .idle | .recovering _ _ | .claiming _ _ => True
  | .calling w | .storing w _ _ | .closing w _ => Owns t uuid w
  | .started w | .rejecting w _ => Owns t uuid w ∧ Made t w

/-- The invariant. -/
structure Inv (w : World) : Prop where
  coherent : Coherent w.tables
  held : ∀ p, Held w.tables w.nextUuid (w.calls p)

theorem Coherent.lockstep {t : CoinTables} (h : Coherent t) : Lockstep t := by
  intro id e g he hg
  obtain ⟨r, hr, hbound⟩ := h.bound id e g he hg
  exact ⟨r, hr, hbound.agree⟩

/-! ## What is done to the tables -/

/-- What is done to an evidence row, as long as no `uuid4` from `uuid` on is used. -/
inductive EvidenceChange (uuid : Nat) :
    Option CoinShadowEvidence → Option CoinShadowEvidence → Prop
  | keep (o : Option CoinShadowEvidence) : EvidenceChange uuid o o
  | drop (e : CoinShadowEvidence) : EvidenceChange uuid (some e) none
  | release (e : CoinShadowEvidence) {e' : CoinShadowEvidence} :
      e'.leaseToken = none → EvidenceChange uuid (some e) (some e')
  | insert (o : Option CoinShadowEvidence) {e' : CoinShadowEvidence} {token : Nat} :
      e'.leaseToken = some token → uuid ≤ token → EvidenceChange uuid o (some e')

/-- What is done to both tables. -/
structure Change (uuid : Nat) (t t' : CoinTables) : Prop where
  evidence : ∀ j, EvidenceChange uuid (t.evidence.get? j) (t'.evidence.get? j)
  history : Evolves t.history t'.history

section Changes

variable {t t' : CoinTables} {uuid uuid' : Nat} {w : Winner}

theorem Owns.change (h : Owns t uuid w) (hchange : Change uuid t t') (hle : uuid ≤ uuid') :
    Owns t' uuid' w := by
  obtain ⟨token, htoken, hlt, hown⟩ := h
  refine ⟨token, htoken, hlt.trans_le hle, ?_⟩
  intro e he hlease
  generalize hbefore : t.evidence.get? w.claim.evidenceId = o at hown
  have hrow := hchange.evidence w.claim.evidenceId
  rw [hbefore, he] at hrow
  cases hrow with
  | keep => exact hown e rfl hlease
  | release _ hnone =>
    rw [hlease] at hnone
    cases hnone
  | insert _ hnew hge =>
    rw [hlease] at hnew
    obtain rfl := Option.some.inj hnew
    omega

theorem Made.change (h : Made t w) (hchange : Change uuid t t') : Made t' w :=
  hchange.history.callMade h

theorem Held.change {phase : Phase} (h : Held t uuid phase) (hchange : Change uuid t t')
    (hle : uuid ≤ uuid') : Held t' uuid' phase := by
  cases phase with
  | idle | recovering | claiming => trivial
  | calling | storing | closing => exact Owns.change h hchange hle
  | started | rejecting => exact ⟨h.1.change hchange hle, h.2.change hchange⟩

theorem Change.refl (uuid : Nat) (t : CoinTables) : Change uuid t t :=
  ⟨fun _ => .keep _, Evolves.refl _⟩

theorem Change.of_history {history : Generations} (h : Evolves t.history history) :
    Change uuid t { t with history := history } :=
  ⟨fun _ => .keep _, h⟩

/-- One evidence row and its generation are written. -/
theorem Coherent.replace (h : Coherent t) {id g : Nat} {e e' : CoinShadowEvidence}
    {r' : Generation} (he : t.evidence.get? id = some e) (hg : e.generationId = some g)
    (he' : t'.evidence.get? id = some e') (hg' : e'.generationId = some g)
    (hr' : t'.history.get? g = some r') (hbound : Bound e' r')
    (hevidence : ∀ j, j ≠ id → t'.evidence.get? j = t.evidence.get? j)
    (hhistory : ∀ j, j ≠ g → t'.history.get? j = t.history.get? j) : Coherent t' := by
  -- the pointers of the rows are those from before
  have hpointer : ∀ j f g', t'.evidence.get? j = some f → f.generationId = some g' →
      ∃ f', t.evidence.get? j = some f' ∧ f'.generationId = some g' ∧ (j ≠ id → f' = f) := by
    intro j f g' hf hg''
    rcases eq_or_ne j id with rfl | hj
    · obtain rfl := Option.some.inj (he'.symm.trans hf)
      obtain rfl := Option.some.inj (hg'.symm.trans hg'')
      exact ⟨e, he, hg, fun hne => absurd rfl hne⟩
    · rw [hevidence j hj] at hf
      exact ⟨f, hf, hg'', fun _ => rfl⟩
  constructor
  · intro j f g' hf hgf
    obtain ⟨f', hf', hg'', hsame⟩ := hpointer j f g' hf hgf
    rcases eq_or_ne j id with rfl | hj
    · obtain rfl := Option.some.inj (he'.symm.trans hf)
      obtain rfl := Option.some.inj (hg'.symm.trans hgf)
      exact ⟨r', hr', hbound⟩
    · obtain rfl := hsame hj
      obtain ⟨r, hr, hb⟩ := h.bound j f' g' hf' hg''
      refine ⟨r, ?_, hb⟩
      rw [hhistory g' ?_, hr]
      rintro rfl
      exact hj (h.distinct j id f' e g' hf' he hg'' hg)
  · intro j j' f f' g' hf hf' hgf hgf'
    obtain ⟨f₁, hf₁, hg₁, -⟩ := hpointer j f g' hf hgf
    obtain ⟨f₂, hf₂, hg₂, -⟩ := hpointer j' f' g' hf' hgf'
    exact h.distinct j j' f₁ f₂ g' hf₁ hf₂ hg₁ hg₂

theorem Coherent.history (h : Coherent t) {history : Generations}
    (hkeep : ∀ e r g, t.history.get? g = some r → Bound e r →
      ∃ r', history.get? g = some r' ∧ Bound e r') : Coherent { t with history := history } := by
  refine ⟨fun id e g he hg => ?_, h.distinct⟩
  obtain ⟨r, hr, hbound⟩ := h.bound id e g he hg
  exact hkeep e r g hr hbound

end Changes

/-! ## Ending a generation -/

section Ending

variable {e : CoinShadowEvidence} {r : Generation}

/-- What is closed while its evidence becomes uncertain has failed exactly if the call for
it was never started. -/
theorem Bound.closed_uncertain (h : Bound e r) (e' : CoinShadowEvidence)
    (hstate : e'.state = .uncertain) (hinput : e'.inputFingerprint = e.inputFingerprint)
    (now : Instant) (code : String) :
    Bound e' (AffiliateLinkHistoryRepository.closed now .uncertain code r) := by
  refine ⟨(agree_uncertain hstate).2 ?_, h.scope, ?_, fun hgenerating => ?_⟩
  · unfold AffiliateLinkHistoryRepository.closed
    dsimp only
    by_cases hcall : r.callStartedAt = none
    · rw [if_pos hcall]
      simp [hcall]
    · rw [if_neg hcall]
      simp [hcall]
  · rw [hinput]
    exact h.identity
  · rw [hstate] at hgenerating
    cases hgenerating

theorem Bound.closed_rejected (h : Bound e r) (e' : CoinShadowEvidence)
    (hstate : e'.state = .reviewRequired) (hinput : e'.inputFingerprint = e.inputFingerprint)
    (hcall : r.callStartedAt ≠ none) (now : Instant) (code : String) :
    Bound e' (AffiliateLinkHistoryRepository.closed now .rejected code r) := by
  refine ⟨(agree_reviewRequired hstate).2 ?_, h.scope, ?_, fun hgenerating => ?_⟩
  · unfold AffiliateLinkHistoryRepository.closed
    rw [if_neg hcall]
  · rw [hinput]
    exact h.identity
  · rw [hstate] at hgenerating
    cases hgenerating

end Ending

/-! ## The transactions -/

section Transactions

variable {env : Environment} {t t' : CoinTables} {uuid : Nat} {w : Winner}

/-- `recover` sweeps the evidence of a generation exactly if it sweeps the generation. -/
theorem interrupted_iff {e : CoinShadowEvidence} {r : Generation} {g : Nat} {now : Instant}
    (hg : e.generationId = some g) (hr : t.history.get? g = some r) (h : Bound e r) :
    AffiliateLinkHistoryRepository.Interrupted t.history .shadow now e ↔
      AffiliateLinkHistoryRepository.Expired .shadow now r := by
  unfold AffiliateLinkHistoryRepository.Interrupted
  rw [hg]
  constructor
  · rintro ⟨-, g', hg', r', hr', hexpired, -⟩
    obtain rfl := Option.mem_some.1 hg'
    rw [hr] at hr'
    obtain rfl := Option.mem_some.1 hr'
    exact hexpired
  · intro hexpired
    refine ⟨h.agree.open_iff.1 hexpired.2.1, g, rfl, r, hr, hexpired, ?_⟩
    rw [h.identity]
    rfl

theorem get?_recover_history (now : Instant) (g : Nat) : (recover t now).history.get? g =
    (t.history.get? g).map fun r =>
      if AffiliateLinkHistoryRepository.Expired .shadow now r then
        AffiliateLinkHistoryRepository.closed now .uncertain
          "AFFILIATE_HISTORY_INTERRUPTED_GENERATION" r
      else r :=
  get?_updateWhere _ _ _ _

/-- Every row `recover` leaves was there, with the same pointer. -/
theorem recover_evidence {now : Instant} {id : Nat} {e' : CoinShadowEvidence}
    (h : (recover t now).evidence.get? id = some e') : ∃ e, t.evidence.get? id = some e ∧
      e'.generationId = e.generationId ∧
      e' = if AffiliateLinkHistoryRepository.Interrupted t.history .shadow now e then
        AffiliateLinkHistoryRepository.interrupted e else e := by
  change (AffiliateLinkHistoryRepository.recoverEvidence t.history t.evidence .shadow now).get? id
    = some e' at h
  rw [AffiliateLinkHistoryRepository.get?_recoverEvidence, Option.map_eq_some_iff] at h
  obtain ⟨e, he, rfl⟩ := h
  refine ⟨e, he, ?_, rfl⟩
  split <;> rfl

theorem Coherent.recover (h : Coherent t) (now : Instant) : Coherent (recover t now) := by
  constructor
  · intro id e' g he' hg
    obtain ⟨e, he, hsame, rfl⟩ := recover_evidence he'
    rw [hsame] at hg
    obtain ⟨r, hr, hbound⟩ := h.bound id e g he hg
    refine ⟨_, by rw [get?_recover_history, hr]; rfl, ?_⟩
    dsimp only
    rw [if_congr (interrupted_iff hg hr hbound) rfl rfl]
    split
    · exact hbound.closed_uncertain (AffiliateLinkHistoryRepository.interrupted e) rfl rfl now _
    · exact hbound
  · intro id id' e e' g he he' hg hg'
    obtain ⟨f, hf, hsame, -⟩ := recover_evidence he
    obtain ⟨f', hf', hsame', -⟩ := recover_evidence he'
    exact h.distinct id id' f f' g hf hf' (hsame ▸ hg) (hsame' ▸ hg')

theorem change_recover (now : Instant) : Change uuid t (recover t now) := by
  refine ⟨fun j => ?_, Evolves.of_quiet (AffiliateLinkHistoryRepository.quiet_recover _ now)⟩
  show EvidenceChange uuid _
    ((AffiliateLinkHistoryRepository.recoverEvidence t.history t.evidence .shadow now).get? j)
  rw [AffiliateLinkHistoryRepository.get?_recoverEvidence]
  cases hrow : t.evidence.get? j with
  | none => exact .keep none
  | some e =>
    by_cases hswept : AffiliateLinkHistoryRepository.Interrupted t.history .shadow now e
    · rw [Option.map_some, if_pos hswept]
      exact .release e rfl
    · rw [Option.map_some, if_neg hswept]
      exact .keep _

/-! ### Marking a call started -/

theorem markStarted_eq_some {now : Instant} (h : markStarted t w now = some t') :
    ∃ r, t.history.get? w.generationId = some r ∧ r.state = .prepared ∧
      t'.evidence = t.evidence ∧
      t'.history.get? w.generationId = some (AffiliateLinkHistoryRepository.started now r) ∧
      (∀ j, j ≠ w.generationId → t'.history.get? j = t.history.get? j) ∧
      Evolves t.history t'.history := by
  obtain ⟨history, hstart, rfl⟩ := Option.map_eq_some_iff.1 h
  have hevolves := AffiliateLinkHistoryRepository.evolves_startCall hstart
  obtain ⟨history₁, hfirst, hrest⟩ := Option.bind_eq_some_iff.1 hstart
  obtain rfl := Option.some.inj hrest
  obtain ⟨⟨r, hr, hguard, hr'⟩, hother⟩ := get?_of_updateOne hfirst
  exact ⟨r, hr, hguard.1, rfl, hr', hother, hevolves⟩

theorem Coherent.markStarted {now : Instant} (h : Coherent t)
    (hstart : markStarted t w now = some t') : Coherent t' := by
  obtain ⟨r, hr, hprepared, hevidence, hr', hother, -⟩ := markStarted_eq_some hstart
  obtain ⟨evidence', history'⟩ := t'
  obtain rfl : evidence' = t.evidence := hevidence
  refine h.history fun e r₀ g hr₀ hbound => ?_
  rcases eq_or_ne g w.generationId with rfl | hg
  · obtain rfl := Option.some.inj (hr.symm.trans hr₀)
    refine ⟨_, hr', ?_, hbound.scope, hbound.identity, hbound.lease⟩
    have hgenerating := hbound.agree.open_iff.1 (open_iff.2 (Or.inl hprepared))
    rw [agree_generating hgenerating]
    exact ⟨Or.inr rfl, ((agree_generating hgenerating).1 hbound.agree).2⟩
  · exact ⟨r₀, (hother g hg).trans hr₀, hbound⟩

theorem change_markStarted {now : Instant} (hstart : markStarted t w now = some t') :
    Change uuid t t' := by
  obtain ⟨-, -, -, hevidence, -, -, hevolves⟩ := markStarted_eq_some hstart
  refine ⟨fun j => ?_, hevolves⟩
  rw [hevidence]
  exact .keep _

theorem made_markStarted {now : Instant} (hstart : markStarted t w now = some t') : Made t' w := by
  obtain ⟨r, -, -, -, hr', -, -⟩ := markStarted_eq_some hstart
  exact ⟨_, hr', nofun, nofun, nofun⟩

/-! ### Ending a call -/

theorem Owns.finish {now : Instant} {values : CoinShadowEvidence → CoinShadowEvidence}
    {evidence : CoinShadowEvidences} (h : Owns t uuid w)
    (hfinish : CoinShadowEvidenceRepository.finish t.evidence w.claim.evidenceId
      w.claim.leaseToken now values = .ok evidence) :
    ∃ e, t.evidence.get? w.claim.evidenceId = some e ∧ e.state = .generating ∧
      e.generationId = some w.generationId ∧
      evidence.get? w.claim.evidenceId = some (values e) ∧
      ∀ j, j ≠ w.claim.evidenceId → evidence.get? j = t.evidence.get? j := by
  obtain ⟨token, e, htoken, he, hguard, he', hother⟩ := finish_eq_ok hfinish
  obtain ⟨token', htoken', -, hown⟩ := h
  obtain rfl := Option.some.inj (htoken.symm.trans htoken')
  exact ⟨e, he, hguard.1, hown e he hguard.2.1, he', hother⟩

theorem change_finish {now : Instant} {values : CoinShadowEvidence → CoinShadowEvidence}
    {evidence : CoinShadowEvidences} {history : Generations}
    (hfinish : CoinShadowEvidenceRepository.finish t.evidence w.claim.evidenceId
      w.claim.leaseToken now values = .ok evidence)
    (hvalues : ∀ e, (values e).leaseToken = none) (hevolves : Evolves t.history history) :
    Change uuid t ⟨evidence, history⟩ := by
  obtain ⟨-, e, -, he, -, he', hother⟩ := finish_eq_ok hfinish
  refine ⟨fun j => ?_, hevolves⟩
  rcases eq_or_ne j w.claim.evidenceId with rfl | hj
  · show EvidenceChange uuid _ (evidence.get? _)
    rw [he, he']
    exact .release e (hvalues e)
  · show EvidenceChange uuid _ (evidence.get? j)
    rw [hother j hj]
    exact .keep _

theorem storeLink_eq_ok {parsed : CoinShadowLinkResult} {generatedAt : Instant}
    (h : storeLink env t w parsed generatedAt = .ok t') :
    AffiliateLinkHistoryRepository.confirm t.history w.generationId
      (confirmation env parsed generatedAt) = some t'.history ∧
    CoinShadowEvidenceRepository.finish t.evidence w.claim.evidenceId w.claim.leaseToken
      generatedAt (readied (readyEvidence env parsed generatedAt)) = .ok t'.evidence := by
  obtain ⟨history, hconfirm, h⟩ := bind_eq_ok.1 h
  obtain ⟨evidence, hfinish, h⟩ := bind_eq_ok.1 h
  obtain rfl := Except.ok.inj h
  exact ⟨orRaise_eq_ok.1 hconfirm, hfinish⟩

theorem Coherent.storeLink {parsed : CoinShadowLinkResult} {generatedAt : Instant}
    (h : Coherent t) (hown : Owns t uuid w)
    (hstore : storeLink env t w parsed generatedAt = .ok t') : Coherent t' := by
  obtain ⟨hconfirm, hfinish⟩ := storeLink_eq_ok hstore
  obtain ⟨e, he, -, hg, he', hevidence⟩ := hown.finish hfinish
  obtain ⟨⟨r, hr, -, hr'⟩, hhistory⟩ := get?_of_updateOne hconfirm
  obtain ⟨r₀, hr₀, hbound⟩ := h.bound _ e _ he hg
  obtain rfl := Option.some.inj (hr.symm.trans hr₀)
  refine h.replace he hg he' hg hr' ⟨?_, hbound.scope, hbound.identity, nofun⟩ hevidence hhistory
  exact (agree_ready rfl).2 ⟨rfl, nofun, rfl, rfl, rfl, rfl⟩

theorem change_storeLink {parsed : CoinShadowLinkResult} {generatedAt : Instant}
    (hstore : storeLink env t w parsed generatedAt = .ok t') : Change uuid t t' := by
  obtain ⟨hconfirm, hfinish⟩ := storeLink_eq_ok hstore
  exact change_finish hfinish (fun _ => rfl)
    (Evolves.of_change (AffiliateLinkHistoryRepository.change_confirm hconfirm))

theorem endWithout_eq_ok {state : GenerationState} {evidenceState : CoinShadowEvidenceState}
    {code : String} {now now' : Instant}
    (h : endWithout t w state evidenceState code now now' = .ok t') :
    AffiliateLinkHistoryRepository.fail t.history [w.generationId] now state code =
      some t'.history ∧
    CoinShadowEvidenceRepository.finish t.evidence w.claim.evidenceId w.claim.leaseToken now'
      (ended evidenceState code) = .ok t'.evidence := by
  obtain ⟨history, hfail, h⟩ := bind_eq_ok.1 h
  obtain ⟨evidence, hfinish, h⟩ := bind_eq_ok.1 h
  obtain rfl := Except.ok.inj h
  exact ⟨orRaise_eq_ok.1 hfail, hfinish⟩

theorem change_endWithout {state : GenerationState} {evidenceState : CoinShadowEvidenceState}
    {code : String} {now now' : Instant}
    (h : endWithout t w state evidenceState code now now' = .ok t') : Change uuid t t' := by
  obtain ⟨hfail, hfinish⟩ := endWithout_eq_ok h
  exact change_finish hfinish (fun _ => rfl)
    (Evolves.of_quiet (AffiliateLinkHistoryRepository.quiet_fail hfail))

/-- **Ending a call** ends both rows, and they agree if the closed generation is bound to
the ended evidence. -/
theorem Coherent.endWithout {state : GenerationState} {evidenceState : CoinShadowEvidenceState}
    {code : String} {now now' : Instant} (h : Coherent t) (hown : Owns t uuid w)
    (hend : endWithout t w state evidenceState code now now' = .ok t')
    (hbound : ∀ e r, t.history.get? w.generationId = some r → Bound e r →
      Bound (ended evidenceState code e)
        (AffiliateLinkHistoryRepository.closed now state code r)) : Coherent t' := by
  obtain ⟨hfail, hfinish⟩ := endWithout_eq_ok hend
  obtain ⟨e, he, hgenerating, hg, he', hevidence⟩ := hown.finish hfinish
  obtain ⟨r, hr, hb⟩ := h.bound _ e _ he hg
  unfold AffiliateLinkHistoryRepository.fail at hfail
  split at hfail
  · have hrow : ∀ j, t'.history.get? j = (t.history.get? j).map fun r =>
        if j ∈ [w.generationId] ∧ r.Open then
          AffiliateLinkHistoryRepository.closed now state code r
        else r := by
      intro j
      rw [← Option.some.inj hfail]
      exact get?_updateWhere _ _ _ _
    refine h.replace he hg he' hg ?_ (hbound e r hr hb) hevidence fun j hj => ?_
    · rw [hrow, hr, Option.map_some, if_pos]
      exact ⟨List.mem_singleton_self _, hb.agree.open_iff.2 hgenerating⟩
    · rw [hrow]
      simp [hj]
  · cases hfail

theorem Coherent.finishUncertain {code : String} {now now' : Instant} (h : Coherent t)
    (hown : Owns t uuid w) (hend : finishUncertain t w code now now' = .ok t') : Coherent t' :=
  h.endWithout hown hend fun e _ _ hb =>
    hb.closed_uncertain (ended .uncertain code e) rfl rfl now code

theorem Coherent.finishRejected {code : String} {now now' : Instant} (h : Coherent t)
    (hown : Owns t uuid w) (hmade : Made t w)
    (hend : finishRejected t w code now now' = .ok t') : Coherent t' := by
  obtain ⟨r, hr, -, -, hcall⟩ := hmade
  refine h.endWithout hown hend fun e r' hr' hb =>
    hb.closed_rejected (ended .reviewRequired code e) rfl rfl ?_ now code
  obtain rfl := Option.some.inj (hr.symm.trans hr')
  exact hcall

/-! ### Claiming -/

/-- What a claim leaves of the rows that were there. -/
def left (t : CoinTables) (replaced : Option Nat) (now : Instant) (j : Nat) :
    Option CoinShadowEvidence :=
  if some j = replaced then none else (t.evidence.get? j).bind (leaves now)

/-- There is evidence which `claim` sweeps at that time although it points to a
generation. -/
def SweepsOpen (t : CoinTables) (now : Instant) : Prop :=
  ∃ id e, t.evidence.get? id = some e ∧ e.generationId ≠ none ∧ Expired now e

theorem left_eq_some {replaced : Option Nat} {now : Instant} {j : Nat} {e' : CoinShadowEvidence}
    (h : left t replaced now j = some e') : ∃ e, t.evidence.get? j = some e ∧
      e'.generationId = e.generationId ∧ (e' = e ∨ Expired now e ∧ e' = swept e) := by
  unfold left at h
  split at h
  · cases h
  obtain ⟨e, he, h⟩ := Option.bind_eq_some_iff.1 h
  refine ⟨e, he, ?_⟩
  unfold leaves at h
  split at h
  · cases h
  obtain rfl := Option.some.inj h
  split
  · next hexpired => exact ⟨rfl, Or.inr ⟨hexpired, rfl⟩⟩
  · exact ⟨rfl, Or.inl rfl⟩

theorem left_of_expired {replaced : Option Nat} {now : Instant} {j : Nat} {e : CoinShadowEvidence}
    (he : t.evidence.get? j = some e) (hexpired : Expired now e) (hj : some j ≠ replaced) :
    left t replaced now j = some (swept e) := by
  have houtlived : ¬ Outlived now e := by
    rintro ⟨hready, -⟩
    rw [hexpired.1] at hready
    cases hready
  rw [left, if_neg hj, he, Option.bind_some, leaves, if_neg houtlived, if_pos hexpired]

theorem get?_deleted (replaced : Option Nat) (now : Instant) (j : Nat) :
    ((t.evidence.deleteWhere fun id _ => some id = replaced).get? j).bind (leaves now) =
      left t replaced now j := by
  rw [get?_deleteWhere, left]
  cases t.evidence.get? j with
  | none => simp
  | some e => by_cases hj : some j = replaced <;> simp [hj, Option.filter]

/-- The row a won claim leaves, once it points to its generation. -/
def wonRow (p : AffiliateLinkHistoryRepository.Preparation) (generationId : Nat) :
    CoinShadowEvidence :=
  { generatingRow p.inputFingerprint p.trackingFingerprint promotionLinkType p.leaseUntil
      p.leaseToken with generationId := some generationId }

/-- The row a request replaces was generated before the history. -/
theorem replacedRow_eq_ok {request replaced : Option Nat} {key : IdentityKey} {unchanged : Bool}
    (h : replacedRow t request key unchanged = .ok replaced) {id : Nat}
    (hid : some id = replaced) : ∃ e, t.evidence.get? id = some e ∧ e.state = .ready := by
  unfold replacedRow at h
  split at h
  · obtain rfl := Except.ok.inj h
    cases hid
  · next requestId =>
    cases hvalid : AffiliateLinkHistoryRepository.validateCoinRequest t.history t.evidence
        requestId key unchanged with
    | error e =>
      rw [hvalid] at h
      cases h
    | ok legacyId =>
      rw [hvalid] at h
      obtain rfl := Except.ok.inj h
      obtain rfl := Option.some.inj hid
      obtain ⟨_, -, hvalid⟩ := bind_eq_ok.1 hvalid
      obtain ⟨r, -, hvalid⟩ := bind_eq_ok.1 hvalid
      obtain ⟨_, -, hvalid⟩ := bind_eq_ok.1 hvalid
      obtain ⟨legacyId, -, hvalid⟩ := bind_eq_ok.1 hvalid
      obtain ⟨e, htarget, hvalid⟩ := bind_eq_ok.1 hvalid
      obtain ⟨_, -, hvalid⟩ := bind_eq_ok.1 hvalid
      obtain rfl := Except.ok.inj hvalid
      obtain ⟨he, hready, -⟩ := AffiliateLinkHistoryRepository.coinTarget_eq_ok htarget
      exact ⟨e, he, hready⟩

variable {q : Request} {now : Instant} {unchanged : Bool} {claim : CoinShadowClaim}
  {generationId : Option Nat}

/-- **What the second transaction of a call does**: it leaves of the rows what `claim`
leaves, and where it won, there is one new row which points to the generation it
prepared. -/
theorem claimAndPrepare_eq_ok
    (h : claimAndPrepare env t q now uuid unchanged = .ok (t', claim, generationId)) :
    ∃ replaced : Option Nat,
      (∀ id, some id = replaced → ∃ e, t.evidence.get? id = some e ∧ e.state = .ready) ∧
      (generationId = none ∧ t'.history = t.history ∧
          (∀ j, t'.evidence.get? j = left t replaced now j) ∨
        ∃ g, generationId = some g ∧ claim.leaseToken = some (uuid + 1) ∧
          AffiliateLinkHistoryRepository.prepare t.history
            (coinPreparation env q.service q.sourceValue now uuid q.origin)
            q.generationRequest = .ok (t'.history, g) ∧
          left t replaced now claim.evidenceId = none ∧
          t'.evidence.get? claim.evidenceId = some
            (wonRow (coinPreparation env q.service q.sourceValue now uuid q.origin) g) ∧
          ∀ j, j ≠ claim.evidenceId → t'.evidence.get? j = left t replaced now j) := by
  obtain ⟨_, -, h⟩ := bind_eq_ok.1 h
  obtain ⟨replaced, hreplaced, h⟩ := bind_eq_ok.1 h
  obtain ⟨_, -, h⟩ := bind_eq_ok.1 h
  obtain ⟨_, -, h⟩ := bind_eq_ok.1 h
  obtain ⟨⟨evidence, c⟩, hclaim, h⟩ := bind_eq_ok.1 h
  refine ⟨replaced, fun id hid => replacedRow_eq_ok hreplaced hid, ?_⟩
  have hrows := claim_eq_ok hclaim
  simp only [get?_deleted] at hrows
  unfold prepareWon at h
  rcases hrows with ⟨hlost, hrows⟩ | ⟨hwon, htoken, hnone, hrow, hrows⟩
  · rw [if_neg hlost] at h
    obtain ⟨rfl, hrest⟩ := Prod.mk.inj (Except.ok.inj h)
    obtain ⟨rfl, rfl⟩ := Prod.mk.inj hrest
    exact Or.inl ⟨rfl, rfl, hrows⟩
  · rw [if_pos hwon] at h
    obtain ⟨⟨history, g⟩, hprepare, h⟩ := bind_eq_ok.1 h
    obtain ⟨rfl, hrest⟩ := Prod.mk.inj (Except.ok.inj h)
    obtain ⟨rfl, rfl⟩ := Prod.mk.inj hrest
    refine Or.inr ⟨g, rfl, htoken, hprepare, hnone, ?_, fun j hj => ?_⟩
    · show SqlTable.get? (SqlTable.updateWhere evidence _ _) c.evidenceId = _
      rw [get?_updateWhere, hrow, Option.map_some, if_pos rfl]
      rfl
    · show SqlTable.get? (SqlTable.updateWhere evidence _ _) j = _
      rw [get?_updateWhere, hrows j hj]
      simp [hj]

/-- Preparing leaves alone what is no longer requested. -/
theorem prepare_keeps {p : AffiliateLinkHistoryRepository.Preparation} {request : Option Nat}
    {history history' : Generations} {g g' : Nat} {r : Generation}
    (h : AffiliateLinkHistoryRepository.prepare history p request = .ok (history', g'))
    (hr : history.get? g = some r) (hstate : r.state ≠ .requested) :
    g ≠ g' ∧ history'.get? g = some r := by
  obtain ⟨-, base, -, -, hbase, rfl⟩ := AffiliateLinkHistoryRepository.prepare_eq_ok h
  have hne : g ≠ g' := by
    rintro rfl
    rcases hbase with ⟨hnone, -⟩ | ⟨hsome, hrequested⟩
    · rw [hr] at hnone
      cases hnone
    · obtain rfl := Option.some.inj (hr.symm.trans hsome)
      exact hstate hrequested
  exact ⟨hne, (get?_put_ne _ _ hne).trans hr⟩

theorem bound_wonRow {p : AffiliateLinkHistoryRepository.Preparation} {request : Option Nat}
    {history history' : Generations} {g : Nat}
    (h : AffiliateLinkHistoryRepository.prepare history p request = .ok (history', g))
    (hscope : p.scope = .shadow) (hkey : p.identityKey = .coin p.inputFingerprint) :
    ∃ r, history'.get? g = some r ∧ Bound (wonRow p g) r := by
  obtain ⟨-, base, hbase, hidentity, -, rfl⟩ := AffiliateLinkHistoryRepository.prepare_eq_ok h
  refine ⟨_, get?_put_self _ _ _, ?_, hbase.trans hscope, hidentity.trans hkey, fun _ => rfl⟩
  exact (agree_generating rfl).2 ⟨Or.inl rfl, nofun, rfl⟩

/-- **A claim keeps the tables coherent** unless it sweeps evidence of a generation. -/
theorem Coherent.claimAndPrepare (h : Coherent t) (hsweep : ¬ SweepsOpen t now)
    (hclaim : claimAndPrepare env t q now uuid unchanged = .ok (t', claim, generationId)) :
    Coherent t' := by
  obtain ⟨replaced, -, hcases⟩ := claimAndPrepare_eq_ok hclaim
  have hleft : ∀ j e' g, left t replaced now j = some e' → e'.generationId = some g →
      t.evidence.get? j = some e' := by
    intro j e' g he' hg
    obtain ⟨e, he, hsame, rfl | ⟨hexpired, rfl⟩⟩ := left_eq_some he'
    · exact he
    · refine absurd ⟨j, e, he, ?_, hexpired⟩ hsweep
      rw [← hsame, hg]
      nofun
  rcases hcases with ⟨-, hhistory, hrows⟩ | ⟨g₀, -, -, hprepare, hnone, hrow, hrows⟩
  · constructor
    · intro j e g he hg
      rw [hrows] at he
      rw [hhistory]
      exact h.bound j e g (hleft j e g he hg) hg
    · intro j j' e e' g he he' hg hg'
      rw [hrows] at he he'
      exact h.distinct j j' e e' g (hleft j e g he hg) (hleft j' e' g he' hg') hg hg'
  · have hold : ∀ j e g, j ≠ claim.evidenceId → t'.evidence.get? j = some e →
        e.generationId = some g → t.evidence.get? j = some e ∧ g ≠ g₀ ∧
          ∃ r, t'.history.get? g = some r ∧ Bound e r := by
      intro j e g hj he hg
      rw [hrows j hj] at he
      obtain ⟨r, hr, hbound⟩ := h.bound j e g (hleft j e g he hg) hg
      obtain ⟨hne, hr'⟩ := prepare_keeps hprepare hr hbound.agree.ne_requested
      exact ⟨hleft j e g he hg, hne, r, hr', hbound⟩
    constructor
    · intro j e g he hg
      rcases eq_or_ne j claim.evidenceId with rfl | hj
      · obtain rfl := Option.some.inj (hrow.symm.trans he)
        obtain rfl := Option.some.inj hg
        exact bound_wonRow hprepare rfl rfl
      · exact (hold j e g hj he hg).2.2
    · intro j j' e e' g he he' hg hg'
      rcases eq_or_ne j claim.evidenceId with rfl | hj <;>
        rcases eq_or_ne j' claim.evidenceId with rfl | hj'
      · rfl
      · obtain rfl := Option.some.inj (hrow.symm.trans he)
        obtain rfl := Option.some.inj hg
        exact absurd rfl (hold j' e' g₀ hj' he' hg').2.1
      · obtain rfl := Option.some.inj (hrow.symm.trans he')
        obtain rfl := Option.some.inj hg'
        exact absurd rfl (hold j e g₀ hj he hg).2.1
      · exact h.distinct j j' e e' g (hold j e g hj he hg).1 (hold j' e' g hj' he' hg').1 hg hg'

/-- **Exactly then a claim keeps the two tables in lockstep**: if it sweeps no evidence of a
generation. -/
theorem claimAndPrepare_lockstep_iff (h : Coherent t)
    (hclaim : claimAndPrepare env t q now uuid unchanged = .ok (t', claim, generationId)) :
    Lockstep t' ↔ ¬ SweepsOpen t now := by
  refine ⟨fun hlockstep => ?_, fun hsweep => (h.claimAndPrepare hsweep hclaim).lockstep⟩
  rintro ⟨id, e, he, hpointer, hexpired⟩
  obtain ⟨g, hg⟩ := Option.ne_none_iff_exists'.1 hpointer
  obtain ⟨r, hr, hbound⟩ := h.bound id e g he hg
  have hopen : r.Open := hbound.agree.open_iff.2 hexpired.1
  obtain ⟨replaced, hreplaced, hcases⟩ := claimAndPrepare_eq_ok hclaim
  have hleft : left t replaced now id = some (swept e) := by
    refine left_of_expired he hexpired fun hid => ?_
    obtain ⟨e', he', hready⟩ := hreplaced id hid
    obtain rfl := Option.some.inj (he.symm.trans he')
    rw [hexpired.1] at hready
    cases hready
  -- the evidence is uncertain, and its generation is still open
  have hswept : t'.evidence.get? id = some (swept e) ∧ t'.history.get? g = some r := by
    rcases hcases with ⟨-, hhistory, hrows⟩ | ⟨g₀, -, -, hprepare, hnone, -, hrows⟩
    · rw [hrows, hhistory]
      exact ⟨hleft, hr⟩
    · refine ⟨?_, (prepare_keeps hprepare hr hbound.agree.ne_requested).2⟩
      rw [hrows id ?_]
      · exact hleft
      · rintro rfl
        rw [hleft] at hnone
        cases hnone
  obtain ⟨r', hr', hagree⟩ := hlockstep id (swept e) g hswept.1 hg
  obtain rfl := Option.some.inj (hswept.2.symm.trans hr')
  have hstate := hagree.open_iff.1 hopen
  cases hstate

theorem change_claimAndPrepare
    (hclaim : claimAndPrepare env t q now uuid unchanged = .ok (t', claim, generationId)) :
    Change uuid t t' := by
  obtain ⟨replaced, -, hcases⟩ := claimAndPrepare_eq_ok hclaim
  have hleft : ∀ j, EvidenceChange uuid (t.evidence.get? j) (left t replaced now j) := by
    intro j
    cases hrow : left t replaced now j with
    | none =>
      cases t.evidence.get? j with
      | none => exact .keep none
      | some e => exact .drop e
    | some e' =>
      obtain ⟨e, he, -, rfl | ⟨-, rfl⟩⟩ := left_eq_some hrow
      · rw [he]
        exact .keep _
      · rw [he]
        exact .release e rfl
  rcases hcases with ⟨-, hhistory, hrows⟩ | ⟨g, -, -, hprepare, -, hrow, hrows⟩
  · refine ⟨fun j => ?_, ?_⟩
    · rw [hrows]
      exact hleft j
    · rw [hhistory]
      exact Evolves.refl _
  · refine ⟨fun j => ?_, Evolves.of_change (AffiliateLinkHistoryRepository.change_prepare hprepare)⟩
    rcases eq_or_ne j claim.evidenceId with rfl | hj
    · rw [hrow]
      exact .insert _ rfl (Nat.le_succ uuid)
    · rw [hrows j hj]
      exact hleft j

theorem held_claimed
    (hclaim : claimAndPrepare env t q now uuid unchanged = .ok (t', claim, generationId)) :
    Held t' (uuid + 2) (claimed q claim generationId) := by
  obtain ⟨replaced, -, ⟨rfl, -, -⟩ | ⟨g, rfl, htoken, -, -, hrow, -⟩⟩ :=
    claimAndPrepare_eq_ok hclaim
  · trivial
  · refine ⟨uuid + 1, htoken, Nat.lt_succ_self _, fun e he _ => ?_⟩
    obtain rfl := Option.some.inj (hrow.symm.trans he)
    rfl

/-! ### Other writers -/

theorem requestLegacyGeneration_keeps {history history' : Generations} {scope : HistoryScope}
    {key : IdentityKey} {kind : LegacyKind} {legacyId g : Nat} {r : Generation}
    (h : AffiliateLinkHistoryRepository.requestLegacyGeneration history scope key kind legacyId =
      .ok history') (hr : history.get? g = some r) : history'.get? g = some r := by
  obtain ⟨-, -, h⟩ := bind_eq_ok.1 h
  split at h
  · obtain rfl := Except.ok.inj h
    rw [get?_put_ne _ _ (ne_of_lt (lt_freshId_of_get? hr)), hr]
  · obtain rfl := Except.ok.inj h
    exact hr

theorem requestLegacy_eq_ok {legacyId : Nat} (h : requestLegacy t legacyId = .ok t') :
    ∃ input, t'.evidence = t.evidence ∧
      AffiliateLinkHistoryRepository.requestLegacyGeneration t.history .shadow (.coin input)
        .coinEvidence legacyId = .ok t'.history := by
  obtain ⟨e, -, h⟩ := bind_eq_ok.1 h
  obtain ⟨history, hrequest, h⟩ := bind_eq_ok.1 h
  obtain rfl := Except.ok.inj h
  exact ⟨e.inputFingerprint, rfl, hrequest⟩

theorem startCall_keeps {history history' : Generations} {tokens : List (Nat × Nat)} {g : Nat}
    (h : AffiliateLinkHistoryRepository.startCall now history tokens = some history')
    (hg : ∀ e ∈ tokens, e.1 ≠ g) : history'.get? g = history.get? g := by
  induction tokens generalizing history with
  | nil =>
    obtain rfl := Option.some.inj h
    rfl
  | cons e tokens ih =>
    obtain ⟨history₁, hfirst, hrest⟩ := Option.bind_eq_some_iff.1 h
    rw [ih hrest fun e he => hg e (List.mem_cons_of_mem _ he)]
    exact (get?_of_updateOne hfirst).2 g (hg e List.mem_cons_self).symm

theorem ne_of_isCanonical {history : Generations} {id g : Nat} {r : Generation}
    (hid : IsCanonical history id) (hr : history.get? g = some r)
    (hcoin : AffiliateLinkHistoryRepository.isCoin r.identityKey = true) : id ≠ g := by
  rintro rfl
  obtain ⟨r', hr', hcanonical⟩ := hid
  obtain rfl := Option.some.inj (hr.symm.trans hr')
  rw [hcoin] at hcanonical
  cases hcanonical

/-- The conversion of messages leaves coin generations alone. -/
theorem CanonicalOp.keeps {op : CanonicalOp} {history history' : Generations} {g : Nat}
    {r : Generation} (h : op.apply history = some history') (hr : history.get? g = some r)
    (hcoin : AffiliateLinkHistoryRepository.isCoin r.identityKey = true) :
    history'.get? g = some r := by
  cases op with
  | request scope candidateId legacyId =>
    exact requestLegacyGeneration_keeps (toOption_eq_some.1 h) hr
  | prepare q requestId =>
    obtain ⟨hcanonical, h⟩ := Option.ite_none_left_eq_some.1 h
    cases hprepare : AffiliateLinkHistoryRepository.prepare history q requestId with
    | error e =>
      rw [hprepare] at h
      cases h
    | ok row =>
      rw [hprepare] at h
      obtain rfl := Option.some.inj h
      obtain ⟨-, base, -, hidentity, hbase, hput⟩ :=
        AffiliateLinkHistoryRepository.prepare_eq_ok hprepare
      show row.1.get? g = some r
      rw [hput, get?_put_ne, hr]
      rintro rfl
      rcases hbase with ⟨hnone, -⟩ | ⟨hsome, -⟩
      · rw [hr] at hnone
        cases hnone
      · obtain rfl := Option.some.inj (hr.symm.trans hsome)
        rw [hidentity] at hcoin
        exact hcanonical hcoin
  | startCall now tokens =>
    obtain ⟨hcanonical, h⟩ := Option.ite_none_right_eq_some.1 h
    rw [startCall_keeps h fun e he => ne_of_isCanonical (hcanonical e he) hr hcoin, hr]
  | confirm id c =>
    obtain ⟨hcanonical, h⟩ := Option.ite_none_right_eq_some.1 h
    rw [(get?_of_updateOne h).2 g (ne_of_isCanonical hcanonical hr hcoin).symm, hr]
  | fail ids now state code =>
    obtain ⟨hcanonical, h⟩ := Option.ite_none_right_eq_some.1 h
    have hids : g ∉ ids := fun hg => ne_of_isCanonical (hcanonical g hg) hr hcoin rfl
    obtain ⟨-, h⟩ := Option.ite_none_right_eq_some.1 h
    obtain rfl := Option.some.inj h
    rw [get?_updateWhere, hr]
    simp [hids]

theorem CanonicalOp.evolves {op : CanonicalOp} {history history' : Generations}
    (h : op.apply history = some history') : Evolves history history' := by
  cases op with
  | request scope candidateId legacyId =>
    exact .of_quiet (AffiliateLinkHistoryRepository.quiet_requestLegacyGeneration
      (toOption_eq_some.1 h))
  | prepare q requestId =>
    obtain ⟨-, h⟩ := Option.ite_none_left_eq_some.1 h
    cases hprepare : AffiliateLinkHistoryRepository.prepare history q requestId with
    | error e =>
      rw [hprepare] at h
      cases h
    | ok row =>
      rw [hprepare] at h
      obtain rfl := Option.some.inj h
      exact .of_change (AffiliateLinkHistoryRepository.change_prepare hprepare)
  | startCall now tokens =>
    exact AffiliateLinkHistoryRepository.evolves_startCall
      (Option.ite_none_right_eq_some.1 h).2
  | confirm id c =>
    exact .of_change (AffiliateLinkHistoryRepository.change_confirm
      (Option.ite_none_right_eq_some.1 h).2)
  | fail ids now state code =>
    exact .of_quiet (AffiliateLinkHistoryRepository.quiet_fail
      (Option.ite_none_right_eq_some.1 h).2)

theorem Coherent.of_kept (h : Coherent t) (hevidence : t'.evidence = t.evidence)
    (hkeep : ∀ g r, t.history.get? g = some r →
      AffiliateLinkHistoryRepository.isCoin r.identityKey = true → t'.history.get? g = some r) :
    Coherent t' := by
  obtain ⟨evidence', history'⟩ := t'
  obtain rfl : evidence' = t.evidence := hevidence
  refine h.history fun e r g hr hbound => ⟨r, hkeep g r hr ?_, hbound⟩
  rw [hbound.identity]
  rfl

end Transactions

end CoinGeneration
end PromoBot
