import PromoBot.Affiliate.SingleFlight

/-!
# Candidates left in `GENERATING_AFFILIATE`

A candidate which is being generated can be taken out of that state by the call that claimed
it, or by `recover`, which finds it through an open generation.  So a candidate in
`GENERATING_AFFILIATE` without an open generation is *stranded*.

All transactions but one keep candidates from being stranded.  The one is
`_record_history_failure`, which closes the generations of a call and leaves its candidates to
a later transaction, where there is one.  `Clean` excludes exactly this.

## Why there may be no later transaction

A call that fails closes its generations first and releases its candidates in a second
transaction. Where the failure is an exception, the second follows at once, and only a crash
comes between. Where the call was cancelled there is none: the clause for `CancelledError`
records the failure in the history and raises again.  From then on nothing finds the candidate:
the sweep looks for open generations, and a new call refuses a candidate in this state.

## What carries the proof

The invariant is about two tables, and most transactions write one of them.  A write to the
candidates takes candidates out of the state and puts none in, but for the claim, which opens a
generation for each in the same transaction (`generating_apply`).  A write to the history
leaves open what is open (`KeepsOpen`), but for the sweep, which takes the candidates out of
what it closes, and the confirmation, which is in one transaction with the proof of its
candidate.

The other direction needs more than `NotStranded`: that a step which is not clean does strand
its candidate means that no second generation of it is open.  That is `Tracked` of
`Affiliate/SingleFlight`, since two open generations of one candidate have one identity.
-/

namespace PromoBot
namespace Conversion

open Fallible SqlTable SingleFlight
open AffiliateLinkHistoryRepository (HasPreparation Preparation)

variable {env : Environment} {w w' : World} {act : Action}

/-! ## Candidates -/

/-- The candidate is in `GENERATING_AFFILIATE`. -/
def Generating (t : AffiliateCandidates) (c : Nat) : Prop :=
  ∃ r, t.get? c = some r ∧ r.state = .generatingAffiliate

section Candidates

variable {t t' : AffiliateCandidates} {c i : Nat}

/-- An update to another state takes its candidate out, and no other. -/
theorem generating_updateOne {p : AffiliateCandidate → Prop} [DecidablePred p]
    {f : AffiliateCandidate → AffiliateCandidate} (h : t.updateOne i p f = some t')
    (hf : ∀ r, (f r).state ≠ .generatingAffiliate) :
    Generating t' c ↔ Generating t c ∧ c ≠ i := by
  obtain ⟨⟨r, -, -, hr'⟩, hother⟩ := get?_of_updateOne h
  rcases eq_or_ne c i with rfl | hc
  · refine iff_of_false ?_ fun hc => hc.2 rfl
    rintro ⟨r', hget, hstate⟩
    rw [hr'] at hget
    obtain rfl := Option.some.inj hget
    exact hf r hstate
  · rw [and_iff_left hc, Generating, hother c hc]
    exact Iff.rfl

theorem generating_fail {now : Instant} {target : AffiliateCandidateState}
    {next : Option Instant} {code : String} {summary : Option Text}
    {owner : AffiliateCandidateRepository.Owner}
    (h : AffiliateCandidateRepository.fail t i now target next code summary owner = some t') :
    Generating t' c ↔ Generating t c ∧ c ≠ i := by
  unfold AffiliateCandidateRepository.fail at h
  split at h
  · next htarget =>
    refine generating_updateOne h fun r hstate => ?_
    have htarget' : target = .generatingAffiliate := hstate
    subst htarget'
    simp [AffiliateCandidateRepository.failureStates] at htarget
  · cases h

theorem generating_markInterrupted :
    Generating (AffiliateCandidateRepository.markInterrupted t i) c ↔
      Generating t c ∧ c ≠ i := by
  rw [Generating, AffiliateCandidateRepository.markInterrupted, get?_updateWhere]
  constructor
  · rintro ⟨r', hget, hstate⟩
    obtain ⟨r, hr, rfl⟩ := Option.map_eq_some_iff.1 hget
    split at hstate
    · cases hstate
    · next hnot => exact ⟨⟨r, hr, hstate⟩, fun hc => hnot ⟨hc, hstate⟩⟩
  · rintro ⟨⟨r, hr, hstate⟩, hc⟩
    refine ⟨r, ?_, hstate⟩
    rw [hr, Option.map_some, if_neg fun h => hc h.1]

theorem generating_foldl_markInterrupted {l : List Nat} :
    Generating (l.foldl AffiliateCandidateRepository.markInterrupted t) c ↔
      Generating t c ∧ c ∉ l := by
  induction l generalizing t with
  | nil => simp
  | cons i l ih =>
    rw [List.foldl_cons, ih, generating_markInterrupted, List.mem_cons, not_or, and_assoc]

/-- The rest of the program takes candidates out, and puts none in. -/
theorem generating_apply {op : CandidateOp} (h : op.apply t = some t')
    (hc : Generating t' c) : Generating t c := by
  cases op with
  | ensure store product variation canonical =>
    obtain rfl := Option.some.inj h
    unfold AffiliateCandidateRepository.ensure at hc
    split at hc
    · obtain ⟨r, hr, hstate⟩ := hc
      rcases eq_or_ne c t.freshId with rfl | hfresh
      · rw [get?_put_self] at hr
        obtain rfl := Option.some.inj hr
        cases hstate
      · rw [get?_put_ne t _ hfresh] at hr
        exact ⟨r, hr, hstate⟩
    · exact hc
  | claim | markAwaitingGeneration | markEnriched =>
    exact ((generating_updateOne h fun _ => AffiliateCandidateState.noConfusion).1 hc).1
  | fail => exact ((generating_fail h).1 hc).1

theorem generating_recordFailures {error : ProviderError} {now : Instant} {jitter : Int}
    {claims : List Claim} (h : recordFailures error now jitter t claims = some t')
    (hc : Generating t' c) : Generating t c := by
  induction claims generalizing t with
  | nil =>
    obtain rfl := Option.some.inj h
    exact hc
  | cons claim claims ih =>
    obtain ⟨t₁, hfail, h⟩ := Option.bind_eq_some_iff.1 h
    exact ((generating_fail hfail).1 (ih h)).1

theorem generating_claimForGeneration {now lease : Instant} {maxAttempts : Nat}
    (h : AffiliateCandidateRepository.claimForGeneration t false i now lease maxAttempts = some t')
    (hc : Generating t' c) : Generating t c ∨ c = i := by
  obtain ⟨-, hother⟩ := get?_of_updateOne h
  rcases eq_or_ne c i with rfl | hci
  · exact Or.inr rfl
  · rw [Generating, hother c hci] at hc
    exact Or.inl hc

end Candidates

/-! ## Open generations -/

/-- There is an open generation of the candidate, which `recover` would find. -/
def OpenFor (env : Environment) (t : Generations) (c : Nat) : Prop :=
  ∃ j r, t.get? j = some r ∧ r.Open ∧ r.scope = env.scope ∧ r.identityKey = .canonical c

section Generations

variable {t t' : Generations} {c : Nat}

/-- The open rows are still open, and are what they were. -/
def KeepsOpen (t t' : Generations) : Prop :=
  ∀ j r, t.get? j = some r → r.Open → ∃ r', t'.get? j = some r' ∧ r'.Open ∧
    r'.scope = r.scope ∧ r'.identityKey = r.identityKey

theorem KeepsOpen.refl (t : Generations) : KeepsOpen t t :=
  fun _ r hr hopen => ⟨r, hr, hopen, rfl, rfl⟩

theorem KeepsOpen.trans {t'' : Generations} (h : KeepsOpen t t') (h' : KeepsOpen t' t'') :
    KeepsOpen t t'' := by
  intro j r hr hopen
  obtain ⟨r', hr', hopen', hscope, hkey⟩ := h j r hr hopen
  obtain ⟨r'', hr'', hopen'', hscope', hkey'⟩ := h' j r' hr' hopen'
  exact ⟨r'', hr'', hopen'', hscope'.trans hscope, hkey'.trans hkey⟩

theorem KeepsOpen.openFor (h : KeepsOpen t t') (hc : OpenFor env t c) : OpenFor env t' c := by
  obtain ⟨j, r, hr, hopen, hscope, hkey⟩ := hc
  obtain ⟨r', hr', hopen', hscope', hkey'⟩ := h j r hr hopen
  exact ⟨j, r', hr', hopen', hscope'.trans hscope, hkey'.trans hkey⟩

theorem keepsOpen_requestLegacyGeneration {scope : HistoryScope} {key : IdentityKey}
    {kind : LegacyKind} {id : Nat}
    (h : AffiliateLinkHistoryRepository.requestLegacyGeneration t scope key kind id = .ok t') :
    KeepsOpen t t' := by
  obtain ⟨-, -, h⟩ := bind_eq_ok.1 h
  split at h
  · obtain rfl := Except.ok.inj h
    intro j r hr hopen
    have hj : j ≠ t.freshId := fun heq => by simp [heq] at hr
    exact ⟨r, by rw [get?_put_ne t _ hj, hr], hopen, rfl, rfl⟩
  · obtain rfl := Except.ok.inj h
    exact .refl t

theorem keepsOpen_prepare {q : Preparation} {request : Option Nat} {id : Nat}
    (h : AffiliateLinkHistoryRepository.prepare t q request = .ok (t', id)) : KeepsOpen t t' := by
  obtain ⟨-, base, -, -, hbase, rfl⟩ := AffiliateLinkHistoryRepository.prepare_eq_ok h
  intro j r hr hopen
  have hj : j ≠ id := by
    rintro rfl
    rcases hbase with ⟨hnone, -⟩ | ⟨hsome, hstate⟩
    · rw [hnone] at hr
      cases hr
    · obtain rfl := Option.some.inj (hsome.symm.trans hr)
      rw [Generation.Open, hstate] at hopen
      simp [Generation.openStates] at hopen
  exact ⟨r, by rw [get?_put_ne t _ hj, hr], hopen, rfl, rfl⟩

theorem keepsOpen_startCall {now : Instant} {l : List (Nat × Nat)}
    (h : AffiliateLinkHistoryRepository.startCall now t l = some t') : KeepsOpen t t' := by
  induction l generalizing t with
  | nil =>
    obtain rfl := Option.some.inj h
    exact .refl t
  | cons e l ih =>
    obtain ⟨t₁, ht₁, h⟩ := Option.bind_eq_some_iff.1 h
    refine KeepsOpen.trans ?_ (ih h)
    obtain ⟨⟨r₀, hr₀, -, hr₁⟩, hother⟩ := get?_of_updateOne ht₁
    intro j r hr hopen
    rcases eq_or_ne j e.1 with rfl | hj
    · obtain rfl := Option.some.inj (hr₀.symm.trans hr)
      exact ⟨_, hr₁, by simp [Generation.Open, Generation.openStates,
        AffiliateLinkHistoryRepository.started], rfl, rfl⟩
    · exact ⟨r, by rw [hother j hj, hr], hopen, rfl, rfl⟩

theorem openFor_prepare {q : Preparation} {request : Option Nat} {id : Nat}
    (h : AffiliateLinkHistoryRepository.prepare t q request = .ok (t', id))
    (hscope : q.scope = env.scope) (hkey : q.identityKey = .canonical c) : OpenFor env t' c := by
  obtain ⟨-, base, hscope', hkey', -, rfl⟩ := AffiliateLinkHistoryRepository.prepare_eq_ok h
  exact ⟨id, _, get?_put_self t id _, by simp [Generation.Open, Generation.openStates,
    AffiliateLinkHistoryRepository.prepared], hscope'.trans hscope, hkey'.trans hkey⟩

theorem openFor_confirm {id : Nat} {confirmation : AffiliateLinkHistoryRepository.Confirmation}
    (h : AffiliateLinkHistoryRepository.confirm t id confirmation = some t')
    (hid : ∀ r, t.get? id = some r → r.identityKey ≠ .canonical c) (hc : OpenFor env t c) :
    OpenFor env t' c := by
  obtain ⟨-, hother⟩ := get?_of_updateOne h
  obtain ⟨j, r, hr, hopen, hscope, hkey⟩ := hc
  have hj : j ≠ id := fun heq => hid r (heq ▸ hr) hkey
  exact ⟨j, r, by rw [hother j hj, hr], hopen, hscope, hkey⟩

end Generations

/-! ## Runs -/

/-- **No candidate is stranded**: each one in `GENERATING_AFFILIATE` has an open
generation. -/
def NotStranded (env : Environment) (db : Db) : Prop :=
  ∀ c, Generating db.candidates c → OpenFor env db.history c

section Transactions

variable {service : Service} {source : SourceMessage} {messageId uuid ordinal : Nat}
  {startedAt now : Instant} {request : Option Nat} {targetUnchanged : Bool} {db db' : Db}

theorem notStranded_claimAll {contexts : List LinkContext} {claims : List Claim}
    (hdb : NotStranded env db)
    (h : claimAll env service source messageId startedAt uuid request targetUnchanged db ordinal
      contexts = .ok (db', claims)) : NotStranded env db' := by
  induction contexts generalizing db ordinal claims with
  | nil =>
    obtain ⟨rfl, -⟩ := Prod.mk.inj (Except.ok.inj h)
    exact hdb
  | cons context contexts ih =>
    obtain ⟨⟨db₁, claim⟩, hone, h⟩ := bind_eq_ok.1 h
    obtain ⟨⟨db₂, claims⟩, hall, h⟩ := bind_eq_ok.1 h
    obtain ⟨rfl, rfl⟩ := Prod.mk.inj (Except.ok.inj h)
    refine ih (fun c hc => ?_) hall
    obtain ⟨_, _, history, id, hclaim, -, hprepare, rfl, -⟩ := claimOne_eq_ok hone
    rcases generating_claimForGeneration hclaim hc with hc | rfl
    · exact (keepsOpen_prepare hprepare).openFor (hdb c hc)
    · exact openFor_prepare hprepare rfl rfl

theorem notStranded_storeAll {itemCount : Nat} {l : List (Claim × Text)}
    {stored : List (Identity × AffiliateLinkProof)} (hdb : NotStranded env db)
    (hl : ∀ e ∈ l, HasClaim env db.history service source messageId startedAt e.1)
    (h : storeAll env service now itemCount db l = .ok (db', stored)) : NotStranded env db' := by
  induction l generalizing db stored with
  | nil =>
    obtain ⟨rfl, -⟩ := Prod.mk.inj (Except.ok.inj h)
    exact hdb
  | cons e l ih =>
    obtain ⟨⟨db₁, one⟩, hone, h⟩ := bind_eq_ok.1 h
    obtain ⟨⟨db₂, others⟩, hall, h⟩ := bind_eq_ok.1 h
    obtain ⟨rfl, rfl⟩ := Prod.mk.inj (Except.ok.inj h)
    obtain ⟨candidates, history, hmark, hconfirm, hcandidates, hhistory, -⟩ := storeOne_eq_ok hone
    obtain ⟨⟨uuid, ordinal, r, hr, hprepared⟩, hl⟩ := List.forall_mem_cons.1 hl
    have hevolves : AffiliateLinkHistoryRepository.Evolves db.history db₁.history :=
      hhistory ▸ .of_change (AffiliateLinkHistoryRepository.change_confirm hconfirm)
    refine ih (fun c hc => ?_) (fun e' he' => ?_) hall
    · rw [hcandidates] at hc
      obtain ⟨hc, hne⟩ := (generating_updateOne hmark fun _ => nofun).1 hc
      rw [hhistory]
      refine openFor_confirm hconfirm (fun r' hr' hkey => hne ?_) (hdb c hc)
      obtain rfl := Option.some.inj (hr.symm.trans hr')
      exact (IdentityKey.canonical.inj (hprepared.identityKey.symm.trans hkey)).symm
    · obtain ⟨uuid, ordinal, hprepared⟩ := hl e' he'
      exact ⟨uuid, ordinal, hevolves.hasPreparation hprepared⟩

/-- The sweep takes out the candidates whose generations it closes. -/
theorem notStranded_recover (hdb : NotStranded env db) :
    NotStranded env (recover env db now) := by
  intro c hc
  obtain ⟨hc, hnot⟩ := generating_foldl_markInterrupted.1 hc
  obtain ⟨j, r, hr, hopen, hscope, hkey⟩ := hdb c hc
  have hkept : ¬ AffiliateLinkHistoryRepository.Expired env.scope now r := by
    intro hexpired
    refine hnot (List.mem_filterMap.2 ⟨(j, r), mem_select.2 ⟨hr, hexpired⟩, ?_⟩)
    rw [hkey]
  refine ⟨j, r, ?_, hopen, hscope, hkey⟩
  show (AffiliateLinkHistoryRepository.recover db.history env.scope now).get? j = some r
  rw [AffiliateLinkHistoryRepository.recover, get?_updateWhere, hr, Option.map_some,
    if_neg hkept]

end Transactions

/-- The step does not close, by itself, a generation of a candidate which is being
generated. -/
def Clean (w : World) : Action → Prop
  | .recordHistoryFailure p _ true => ∀ work failure, w.calls p = .failing work failure →
      failure.state ∈ Generation.closingStates → ∀ c j r, (Source.candidate c, j) ∈ work.entries →
        w.db.history.get? j = some r → r.Open → ¬ Generating w.db.candidates c
  | _ => True

theorem get?_of_fail {t t' : Generations} {ids : List Nat} {now : Instant}
    {state : GenerationState} {code : String}
    (h : AffiliateLinkHistoryRepository.fail t ids now state code = some t') :
    state ∈ Generation.closingStates ∧ ∀ j, t'.get? j = (t.get? j).map fun r =>
      if j ∈ ids ∧ r.Open then AffiliateLinkHistoryRepository.closed now state code r else r := by
  unfold AffiliateLinkHistoryRepository.fail at h
  split at h
  · next hstate =>
    obtain rfl := Option.some.inj h
    exact ⟨hstate, fun j => get?_updateWhere t _ _ j⟩
  · cases h

/-- An entry of a call has the identity of its source. -/
theorem Work.Held.identityKey {t : Generations} {work : Work} (h : work.Held env t) {j c : Nat}
    {r : Generation} (hj : j ∈ work.entries.map Prod.snd) (hr : t.get? j = some r)
    (hkey : r.identityKey = .canonical c) : (Source.candidate c, j) ∈ work.entries := by
  obtain ⟨e, he, rfl⟩ := List.mem_map.1 hj
  obtain ⟨q, hasks, r', hr', hprepared⟩ := h.asks e he
  obtain rfl := Option.some.inj (hr.symm.trans hr')
  obtain ⟨source, id⟩ := e
  cases source with
  | candidate c' =>
    have hc : c' = c :=
      IdentityKey.canonical.inj (hasks.2.symm.trans (hprepared.identityKey.symm.trans hkey))
    exact hc ▸ he
  | coin url =>
    obtain ⟨-, secret, hcoin, -⟩ := hasks
    cases hkey.symm.trans (hprepared.identityKey.trans hcoin)

/-- **The step lemma.** -/
theorem notStranded_step (hheld : Held env w) (hw : NotStranded env w.db)
    (hstep : step env w act = some w') (hclean : Clean w act) : NotStranded env w'.db := by
  cases transition_of_step hstep with
  | tables hcandidates hhistory =>
    intro c hc
    show OpenFor env _ c
    rw [World.withDb] at hc ⊢
    rw [hhistory]
    exact hw c (hcandidates ▸ hc)
  | candidate happly => exact fun c hc => hw c (generating_apply happly hc)
  | request hrequest =>
    exact fun c hc => (keepsOpen_requestLegacyGeneration hrequest).openFor (hw c hc)
  | recover | recoverFirst => exact notStranded_recover hw
  | select _ hselect =>
    obtain ⟨_, _, _, _, _, -, -, -, -, hclaims, -⟩ := select_eq_ok hselect
    exact notStranded_claimAll hw hclaims
  | prepareCoin _ _ hprepare =>
    exact fun c hc => (keepsOpen_prepare (prepareCoin_eq_ok hprepare).2.1).openFor (hw c hc)
  | startCall _ hstart => exact fun c hc => (keepsOpen_startCall hstart).openFor (hw c hc)
  | send | answer | finish | fail | move => exact hw
  | @store p job answer now db stored hp hstore =>
    obtain ⟨mappings, -, hstore⟩ := storeAnswer_eq_ok hstore
    have hclaims : (Work.batch job).Held env w.db.history := hheld p _ (by rw [hp]; rfl)
    exact notStranded_storeAll hw (fun e he => hclaims e.1 (List.of_mem_zip he).1) hstore
  | @storeCoin _ p job answer c history hp hconfirm =>
    obtain ⟨-, _, _, _, r, hr, hprepared⟩ := hheld p (.coin job) (by rw [hp]; rfl)
    refine fun c hc => openFor_confirm hconfirm (fun r' hr' hkey => ?_) (hw c hc)
    obtain rfl := Option.some.inj (hr.symm.trans hr')
    cases hkey.symm.trans hprepared.identityKey
  | @close p work failure now history _ hp hfail _ =>
    obtain ⟨hstate, hget⟩ := get?_of_fail hfail
    intro c hc
    obtain ⟨j, r, hr, hopen, hscope, hkey⟩ := hw c hc
    have hj : j ∉ work.entries.map Prod.snd := fun hj =>
      hclean work failure hp hstate c j r
        ((hheld p work (by rw [hp]; rfl)).identityKey hj hr hkey) hr hopen hc
    refine ⟨j, r, ?_, hopen, hscope, hkey⟩
    show history.get? j = some r
    rw [hget j, hr, Option.map_some, if_neg fun h => hj h.1]
  | release _ hrecord => exact fun c hc => hw c (generating_recordFailures hrecord hc)

/-- A step which is not clean strands a candidate: no other generation of it is open. -/
theorem stranded_of_not_clean (hw : Tracked env w) (hstep : step env w act = some w')
    (hclean : ¬ Clean w act) : ¬ NotStranded env w'.db := by
  intro hw'
  refine hclean ?_
  cases act with
  | recordHistoryFailure p now ok =>
    cases ok with
    | false => trivial
    | true =>
      intro work failure hp hstate c j r hmem hr hopen hc
      simp only [step, hp] at hstep
      have hfail : AffiliateLinkHistoryRepository.fail w.db.history (work.entries.map Prod.snd) now
          failure.state failure.code = some (w.db.history.updateWhere
            (fun id r => id ∈ work.entries.map Prod.snd ∧ r.Open)
            (AffiliateLinkHistoryRepository.closed now failure.state failure.code)) :=
        if_pos hstate
      rw [hfail] at hstep
      obtain rfl := Option.some.inj hstep
      obtain ⟨-, hget⟩ := get?_of_fail hfail
      obtain ⟨j', r', hr', hopen', hscope', hkey'⟩ := hw' c hc
      obtain ⟨r₀, hr₀, hclosed⟩ := Option.map_eq_some_iff.1 ((hget j').symm.trans hr')
      split at hclosed
      · subst hclosed
        exact Generation.not_open_of_closing
          (AffiliateLinkHistoryRepository.closed_state now failure.code hstate) hopen'
      next hkept =>
      subst hclosed
      obtain ⟨q, hasks, r₁, hr₁, hprepared⟩ :=
        (hw.held p work (by rw [hp]; rfl)).asks (.candidate c, j) hmem
      obtain rfl := Option.some.inj (hr.symm.trans hr₁)
      obtain ⟨phase, hj, hphase⟩ := World.flights_of_blocking hr hopen.blocking
      obtain ⟨phase', hj', hphase'⟩ := World.flights_of_blocking hr₀ hopen'.blocking
      have hconflict : (flightKey r).Conflicts (flightKey r₀) :=
        ⟨(hprepared.scope.trans hasks.1).trans hscope'.symm,
          Or.inl ((hprepared.identityKey.trans hasks.2).trans hkey'.symm)⟩
      obtain rfl := hw.exclusive j j' _ _ _ _ hj hj' hphase hphase' hconflict
      exact hkept ⟨List.mem_map_of_mem (f := Prod.snd) hmem, hopen'⟩
  | _ => trivial

/-- The databases a program begins with: no generations, and no candidate being generated. -/
def Fresh (db : Db) : Prop := db.history = ∅ ∧ ∀ c, ¬ Generating db.candidates c

/-- **Candidates are stranded by `_record_history_failure`, and by nothing else.**  In every
run whose steps are all clean no candidate is ever stranded; and the first step of a run
which is not clean strands one. -/
theorem not_stranded_iff_clean (h : (system env Fresh).ReachableUnder Clean w) :
    NotStranded env w.db ∧
      ∀ act w', step env w act = some w' → (NotStranded env w'.db ↔ Clean w act) := by
  have hinit : ∀ w, (system env Fresh).init w → Held env w ∧ NotStranded env w.db := by
    intro w hw
    exact ⟨held_of_reachable ⟨w, hw, .refl w⟩, fun c hc => absurd hc (hw.1.2 c)⟩
  have hstep : ∀ w act w', Held env w ∧ NotStranded env w.db → Clean w act →
      step env w act = some w' → Held env w' ∧ NotStranded env w'.db := by
    rintro w act w' ⟨hheld, hw⟩ hclean hstep
    exact ⟨(transition_of_step hstep).held hheld, notStranded_step hheld hw hstep hclean⟩
  obtain ⟨hheld, hw⟩ := h.invariant (P := fun w => Held env w ∧ NotStranded env w.db) hinit hstep
  have htracked := tracked_of_reachable (fun _ hdb => hdb.1) h.reachable
  refine ⟨hw, fun act w' hstep' => ⟨fun hw' => ?_, fun hclean => ?_⟩⟩
  · by_contra hclean
    exact stranded_of_not_clean htracked hstep' hclean hw'
  · exact (hstep w act w' ⟨hheld, hw⟩ hclean hstep').2

theorem generating_recover {db : Db} {now : Instant} {c : Nat} (hc : Generating db.candidates c)
    (hnone : ¬ OpenFor env db.history c) : Generating (recover env db now).candidates c := by
  refine generating_foldl_markInterrupted.2 ⟨hc, fun hmem => hnone ?_⟩
  obtain ⟨⟨j, r⟩, he, hkey⟩ := List.mem_filterMap.1 hmem
  obtain ⟨hr, hscope, hopen, -⟩ := mem_select.1 he
  refine ⟨j, r, hr, hopen, hscope, ?_⟩
  dsimp only at hkey
  split at hkey
  · next c' hidentity => rw [hidentity, Option.some.inj hkey]
  · cases hkey

/-- A call claims candidate 1 and sends its request; then it dies, and ten minutes later
the sweep takes the candidate back. -/
def swept : World := (system (testEnvironment .runtime) Fresh).endOf
  ⟨messageDb firstItem, fun _ => .idle, []⟩
  [.begin' 0 (.message testService 1 none), .recoverFirst 0 0, .select 0 7 true, .startCall 0 1,
    .send 0, .crash 0, .recover (minutes 10)]

theorem fresh_messageDb (text : Text) : Fresh (messageDb text) := by
  refine ⟨rfl, ?_⟩
  rintro c ⟨r, hr, hstate⟩
  have hpending : ∀ e ∈ (messageDb text).candidates.select (fun _ r =>
      r.state = .generatingAffiliate), False := by
    rintro e ⟨⟩
  exact hpending (c, r) (mem_select.2 ⟨hr, hstate⟩)

theorem not_stranded_after_sweep :
    (swept.db.candidates.get? 1).map AffiliateCandidate.state = some .manualReview ∧
      NotStranded (testEnvironment .runtime) swept.db := by
  have hrun : (system (testEnvironment .runtime) Fresh).ReachableUnder Clean swept := by
    refine ⟨_, ⟨fresh_messageDb firstItem, fun _ => rfl, rfl⟩,
      TransitionSystem.runUnder_of_replay ?_ (TransitionSystem.replay_endOf _ _ rfl)⟩
    intro a ha s
    cases a with
    | recordHistoryFailure => simp at ha
    | _ => trivial
  exact ⟨rfl, (not_stranded_iff_clean hrun).1⟩

/-- A call claims candidate 1 and sends its request; then it is cancelled, and closes its
generation. -/
def cancelled : World := (system (testEnvironment .runtime) Fresh).endOf
  ⟨messageDb firstItem, fun _ => .idle, []⟩
  [.begin' 0 (.message testService 1 none), .recoverFirst 0 0, .select 0 7 true, .startCall 0 1,
    .send 0, .raise 0 .cancelled, .recordHistoryFailure 0 2 true]

theorem stranded_by_cancellation :
    (system (testEnvironment .runtime) Fresh).Reachable cancelled ∧ cancelled.calls 0 = .gone ∧
      ¬ NotStranded (testEnvironment .runtime) cancelled.db ∧
      ∀ now, Generating (recover (testEnvironment .runtime) cancelled.db now).candidates 1 := by
  have hgenerating : Generating cancelled.db.candidates 1 := ⟨_, rfl, rfl⟩
  have hclosed : cancelled.db.history.select (fun _ r => r.Open) = [] := rfl
  have hnone : ¬ OpenFor (testEnvironment .runtime) cancelled.db.history 1 := by
    rintro ⟨j, r, hr, hopen, -⟩
    have hmem : (j, r) ∈ cancelled.db.history.select fun _ r => r.Open :=
      mem_select.2 ⟨hr, hopen⟩
    rw [hclosed] at hmem
    cases hmem
  refine ⟨⟨_, ⟨fresh_messageDb firstItem, fun _ => rfl, rfl⟩, TransitionSystem.run_endOf rfl⟩, rfl,
    fun h => hnone (h 1 hgenerating), fun now => generating_recover hgenerating hnone⟩

end Conversion
end PromoBot
