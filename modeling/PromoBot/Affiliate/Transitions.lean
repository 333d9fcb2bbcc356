import PromoBot.Affiliate.Generation

/-!
# What a step of a generation does

`Transition` lists what the steps of `Affiliate.Generation` can do to the world.
Most actions only move a call on to a place where it holds nothing, or where it is
about to close what it holds; those are one case, `move`.

What a call holds is a `Work`, and `Held` says what the history knows of it: every
generation of a call was prepared for the link, the settings and the message the
call has in its hands.  Nothing a step does can change that.
-/

namespace PromoBot
namespace Conversion

open Fallible SqlTable LinkGenerate
open AffiliateLinkHistoryRepository (Evolves HasPreparation Preparation)

variable {env : Environment} {w w' : World} {act : Action}

/-! ## The transactions, taken apart -/

section Transactions

variable {service : Service} {source : SourceMessage} {messageId uuid ordinal : Nat}
  {startedAt now : Instant} {request : Option Nat} {targetUnchanged : Bool} {db db' : Db}
  {job : Job}

/-- What claiming one candidate does. -/
theorem claimOne_eq_ok {context : LinkContext} {claim : Claim}
    (h : claimOne env service source messageId startedAt uuid request targetUnchanged db ordinal
      context = .ok (db', claim)) :
    ∃ candidates row history id,
      AffiliateCandidateRepository.claimForGeneration db.candidates false context.candidateId
        startedAt (startedAt + generationLease) maxGenerationAttempts = some candidates ∧
      candidates.get? context.candidateId = some row ∧
      AffiliateLinkHistoryRepository.prepare db.history
        (preparation env service source messageId startedAt uuid ordinal context) request =
        .ok (history, id) ∧
      db' = { db with candidates := candidates, history := history } ∧
      claim = ⟨context, startedAt, row.attemptCount, id, uuid + 1 + ordinal⟩ := by
  obtain ⟨_, -, h⟩ := bind_eq_ok.1 h
  obtain ⟨_, -, h⟩ := bind_eq_ok.1 h
  obtain ⟨candidates, hcandidates, h⟩ := bind_eq_ok.1 h
  obtain ⟨row, hrow, h⟩ := bind_eq_ok.1 h
  obtain ⟨⟨history, id⟩, hprepare, h⟩ := bind_eq_ok.1 h
  obtain ⟨rfl, rfl⟩ := Prod.mk.inj (Except.ok.inj h)
  exact ⟨candidates, row, history, id, orRaise_eq_ok.1 hcandidates, orRaise_eq_ok.1 hrow,
    mapError_eq_ok.1 hprepare, rfl, rfl⟩

/-- What a selection has decided. -/
theorem select_eq_ok
    (h : select env service db messageId startedAt uuid request targetUnchanged = .ok (db', job)) :
    ∃ source extracted contexts found claims,
      Parser.extractLinks env.unicode source.originalText [] [] = some extracted ∧
      List.Forall₂ (fun url context => contextForLink env db.candidates
        (storedByUrl db.links messageId url) url = .ok context)
        (uniqueAliexpressUrls env (extracted.map ExtractedLink.url)) contexts ∧
      ((representatives contexts).map LinkContext.productId).Nodup ∧
      List.Forall₂ (fun context e => e.1 = context ∧
        cachedProof env service db startedAt request context = .ok e.2)
        (representatives contexts) found ∧
      claimAll env service source messageId startedAt uuid request targetUnchanged db 0
        (((found.filter fun e => e.2.isNone).map Prod.fst).insertionSort CandidateLE) =
        .ok (db', claims) ∧
      job = ⟨service, messageId, source, db.links, startedAt, contexts,
        found.filterMap fun e => e.2.map fun proof => (e.1.identity, proof), claims⟩ := by
  obtain ⟨source, -, h⟩ := bind_eq_ok.1 h
  obtain ⟨_, -, h⟩ := bind_eq_ok.1 h
  obtain ⟨extracted, hextracted, h⟩ := bind_eq_ok.1 h
  obtain ⟨_, -, h⟩ := bind_eq_ok.1 h
  obtain ⟨_, -, h⟩ := bind_eq_ok.1 h
  obtain ⟨contexts, hcontexts, h⟩ := bind_eq_ok.1 h
  obtain ⟨_, -, h⟩ := bind_eq_ok.1 h
  obtain ⟨_, hnodup, h⟩ := bind_eq_ok.1 h
  obtain ⟨_, -, h⟩ := bind_eq_ok.1 h
  obtain ⟨found, hfound, h⟩ := bind_eq_ok.1 h
  obtain ⟨⟨_, claims⟩, hclaims, h⟩ := bind_eq_ok.1 h
  obtain ⟨rfl, rfl⟩ := Prod.mk.inj (Except.ok.inj h)
  refine ⟨source, extracted, contexts, found, claims, orRaise_eq_ok.1 hextracted,
    mapM_eq_ok.1 hcontexts, check_eq_ok.1 hnodup, ?_, hclaims, rfl⟩
  refine (mapM_eq_ok.1 hfound).imp fun context e he => ?_
  obtain ⟨proof, hproof, he⟩ := bind_eq_ok.1 he
  obtain rfl := Except.ok.inj he
  exact ⟨rfl, hproof⟩

/-- What preparing a coin generation does. -/
theorem prepareCoin_eq_ok {service : CoinService} {history history' : Generations}
    {sourceValue : Text} {origin : Option (List (String × Json))} {job : CoinJob}
    (h : prepareCoin env service history sourceValue startedAt uuid request targetUnchanged
      origin = .ok (history', job)) :
    (∀ id r, history.get? id = some r → ¬ AffiliateLinkHistoryRepository.OtherKey .shadow
      (env.keyFingerprint service.appSecret) r) ∧
    AffiliateLinkHistoryRepository.prepare history
      (coinPreparation env service sourceValue startedAt uuid origin) request =
      .ok (history', job.generationId) ∧
    job = ⟨service, sourceValue, job.generationId, uuid + 1⟩ := by
  obtain ⟨_, hrotation, h⟩ := bind_eq_ok.1 h
  obtain ⟨_, -, h⟩ := bind_eq_ok.1 h
  obtain ⟨⟨_, id⟩, hprepare, h⟩ := bind_eq_ok.1 h
  obtain ⟨rfl, rfl⟩ := Prod.mk.inj (Except.ok.inj h)
  exact ⟨AffiliateLinkHistoryRepository.checkKeyRotation_eq_ok.1 hrotation, hprepare, rfl⟩

/-- What storing one link does. -/
theorem storeOne_eq_ok {itemCount : Nat} {claim : Claim} {link : Text}
    {stored : Identity × AffiliateLinkProof}
    (h : storeOne env service now itemCount db claim link = .ok (db', stored)) :
    ∃ candidates history,
      AffiliateCandidateRepository.markAffiliateGenerated db.candidates claim.context.candidateId
        now claim.startedAt claim.attemptCount = some candidates ∧
      AffiliateLinkHistoryRepository.confirm db.history claim.generationId
        ⟨now, link, now + service.proofTtl, trackingConfirmedContractVersion,
          "PRODUCT_ID_CORRELATED", validationFacts env itemCount link⟩ = some history ∧
      db'.candidates = candidates ∧ db'.history = history ∧
      stored = (claim.context.identity, (AffiliateOfferRepository.upsertAliexpressLinkProof
        db.proofs claim.context.candidateId
        ⟨claim.startedAt, now, claim.context.productId, claim.context.identityUrl, link,
          promotionLinkType, service.trackingFingerprint env, now + service.proofTtl⟩
        claim.generationId).2) := by
  obtain ⟨candidates, hcandidates, h⟩ := bind_eq_ok.1 h
  obtain ⟨history, hhistory, h⟩ := bind_eq_ok.1 h
  obtain ⟨rfl, rfl⟩ := Prod.mk.inj (Except.ok.inj h)
  exact ⟨candidates, history, orRaise_eq_ok.1 hcandidates, orRaise_eq_ok.1 hhistory, rfl, rfl,
    rfl⟩

theorem storeAnswer_eq_ok {answer : List (String × Json)}
    {stored : List (Identity × AffiliateLinkProof)}
    (h : storeAnswer env db job answer now = .ok (db', stored)) :
    ∃ mappings,
      parseLinkGenerate env.unicode answer (job.claims.map fun c => c.context.generationUrl)
        job.service.trackingId = .ok mappings ∧
      storeAll env job.service now job.claims.length db
        (job.claims.zip (mappings.map PromotionLinkMapping.promotionLink)) = .ok (db', stored) := by
  obtain ⟨mappings, hmappings, h⟩ := bind_eq_ok.1 h
  obtain ⟨_, -, h⟩ := bind_eq_ok.1 h
  exact ⟨mappings, mapError_eq_ok.1 hmappings, mapError_eq_ok.1 h⟩

end Transactions

/-! ## The steps -/

/-- What a call has prepared, and neither stored nor closed. -/
def Call.work : Call → Option Work
  | .claimed work | .started work | .inFlight work | .answered work _ | .failing work _ =>
    some work
  | _ => none

/-- The call has nothing prepared, and no links. -/
def Call.Bare : Call → Prop
  | .idle | .waiting _ _ | .recovered _ _ | .releasing _ _ | .outcome | .rejected _ _ | .gone =>
    True
  | _ => False

theorem Call.Bare.work_eq_none {c : Call} (h : c.Bare) : c.work = none := by
  cases c <;> first | rfl | exact h.elim

/-- **What a step does.** -/
inductive Transition (env : Environment) (w : World) : Action → World → Prop
  /-- Tables which a generation only reads are written. -/
  | tables {act : Action} {db : Db} :
      db.candidates = w.db.candidates → db.history = w.db.history →
      Transition env w act (w.withDb db)
  | candidate {op : CandidateOp} {candidates : AffiliateCandidates} :
      op.apply w.db.candidates = some candidates →
      Transition env w (.candidate op) (w.withDb { w.db with candidates := candidates })
  | request {key : IdentityKey} {kind : LegacyKind} {id : Nat} {history : Generations} :
      AffiliateLinkHistoryRepository.requestLegacyGeneration w.db.history env.scope key kind id =
        .ok history →
      Transition env w (.request key kind id) (w.withHistory history)
  | recover (now : Instant) :
      Transition env w (.recover now) (w.withDb (recover env w.db now))
  | recoverFirst {p : Nat} {task : Task} {busy : Bool} (now : Instant) :
      w.calls p = .waiting task busy →
      Transition env w (.recoverFirst p now)
        ((w.withDb (recover env w.db now)).withCall p (.recovered task now))
  | select {p : Nat} {service : Service} {messageId uuid : Nat} {request : Option Nat}
      {startedAt : Instant} {targetUnchanged : Bool} {db : Db} {job : Job} :
      w.calls p = .recovered (.message service messageId request) startedAt →
      select env service w.db messageId startedAt uuid request targetUnchanged = .ok (db, job) →
      Transition env w (.select p uuid targetUnchanged) ((w.withDb db).withCall p
        (if job.claims = [] then .generated job none job.cached else .claimed (.batch job)))
  | prepareCoin {p : Nat} {service : CoinService} {sourceValue : Text} {uuid : Nat}
      {request : Option Nat} {startedAt : Instant} {targetUnchanged : Bool}
      {origin : Option (List (String × Json))} {history : Generations} {job : CoinJob} :
      w.calls p = .recovered (.coin service sourceValue request) startedAt → env.scope = .shadow →
      prepareCoin env service w.db.history sourceValue startedAt uuid request targetUnchanged
        origin = .ok (history, job) →
      Transition env w (.prepareCoin p uuid targetUnchanged origin)
        ((w.withHistory history).withCall p (.claimed (.coin job)))
  | startCall {p : Nat} {work : Work} {now : Instant} {history : Generations} :
      w.calls p = .claimed work →
      AffiliateLinkHistoryRepository.startCall now w.db.history work.tokens = some history →
      Transition env w (.startCall p now) ((w.withHistory history).withCall p (.started work))
  | send {p : Nat} {work : Work} :
      w.calls p = .started work →
      Transition env w (.send p)
        { w.withCall p (.inFlight work) with wire := work.entries ++ w.wire }
  | answer {p : Nat} {work : Work} {answer : List (String × Json)} :
      w.calls p = .inFlight work →
      Transition env w (.answer p answer) (w.withCall p (.answered work answer))
  | store {p : Nat} {job : Job} {answer : List (String × Json)} {now : Instant} {db : Db}
      {stored : List (Identity × AffiliateLinkProof)} :
      w.calls p = .answered (.batch job) answer →
      storeAnswer env w.db job answer now = .ok (db, stored) →
      Transition env w (.store p now)
        ((w.withDb db).withCall p (.generated job (some answer) (stored ++ job.cached)))
  | storeCoin {act : Action} {p : Nat} {job : CoinJob} {answer : List (String × Json)}
      {c : AffiliateLinkHistoryRepository.Confirmation} {history : Generations} :
      w.calls p = .answered (.coin job) answer →
      AffiliateLinkHistoryRepository.confirm w.db.history job.generationId c = some history →
      Transition env w act ((w.withHistory history).withCall p .outcome)
  | close {p : Nat} {work : Work} {failure : Failure} {now : Instant} {history : Generations}
      {c : Call} :
      w.calls p = .failing work failure →
      AffiliateLinkHistoryRepository.fail w.db.history (work.entries.map Prod.snd) now
        failure.state failure.code = some history → c.Bare →
      Transition env w (.recordHistoryFailure p now true) ((w.withHistory history).withCall p c)
  | release {p : Nat} {job : Job} {error : ProviderError} {now : Instant} {jitter : Int}
      {candidates : AffiliateCandidates} :
      w.calls p = .releasing job error →
      recordFailures error now jitter w.db.candidates job.claims = some candidates →
      Transition env w (.recordFailures p now jitter true)
        ((w.withDb { w.db with candidates := candidates }).withCall p (.rejected error.code true))
  | finish {p : Nat} {job : Job} {answer : Option (List (String × Json))}
      {proofs : List (Identity × AffiliateLinkProof)} {preview : DryRunPreview} :
      w.calls p = .generated job answer proofs →
      finish env w.db job proofs = .ok preview →
      Transition env w (.finish p) (w.withCall p (.returned ⟨job, answer, proofs, preview⟩))
  /-- A call is about to close its generations. -/
  | fail {act : Action} {p : Nat} {work : Work} {failure : Failure} :
      (w.calls p).work = some work →
      Transition env w act (w.withCall p (.failing work failure))
  /-- A call moves on to where it holds nothing. -/
  | move {act : Action} {p : Nat} {c : Call} :
      c.Bare → Transition env w act (w.withCall p c)

theorem refused_bare (task : Task) (refusal : Refusal) : (refused task refusal).Bare := by
  cases refusal <;> trivial

theorem transition_raised {p : Nat} {work : Work} {received : Bool} {r : Raised}
    (h : (w.calls p).work = some work) :
    Transition env w act (w.withCall p (raised work received r)) := by
  unfold raised
  split
  · exact .fail h
  · exact .move trivial

theorem afterHistoryFailure_bare (work : Work) (failure : Failure) :
    (afterHistoryFailure work failure true).Bare := by
  unfold afterHistoryFailure
  split <;> simp [Call.Bare]

theorem transition_afterHistoryFailure {p : Nat} {work : Work} {failure : Failure}
    (h : w.calls p = .failing work failure) :
    Transition env w act (w.withCall p (afterHistoryFailure work failure false)) := by
  unfold afterHistoryFailure
  split
  · exact .move trivial
  · exact .move trivial
  · split
    · exact .fail (by rw [h]; rfl)
    · exact .move trivial
  · exact .move trivial

/-- **The inversion lemma**: every step is a transition. -/
theorem transition_of_step (h : step env w act = some w') : Transition env w act w' := by
  cases act with
  | message | link | proof =>
    obtain rfl := Option.some.inj h
    exact .tables rfl rfl
  | candidate op =>
    obtain ⟨candidates, hcandidates, rfl⟩ := Option.map_eq_some_iff.1 h
    exact .candidate hcandidates
  | request key kind id =>
    simp only [step] at h
    split at h
    · next history hrequest =>
      obtain rfl := Option.some.inj h
      exact .request hrequest
    · cases h
  | recover now =>
    obtain rfl := Option.some.inj h
    exact .recover now
  | begin' p task =>
    simp only [step] at h
    split at h
    · obtain rfl := Option.some.inj h
      exact .move trivial
    · cases h
  | recoverFirst p now =>
    simp only [step] at h
    split at h
    · next task busy hp =>
      obtain rfl := Option.some.inj h
      exact .recoverFirst now hp
    · cases h
  | giveUp p =>
    simp only [step] at h
    split at h
    · obtain rfl := Option.some.inj h
      exact .move trivial
    · cases h
  | select p uuid targetUnchanged =>
    simp only [step] at h
    split at h
    · next service messageId request startedAt hp =>
      split at h
      · next db job hselect =>
        obtain rfl := Option.some.inj h
        exact .select hp hselect
      · obtain rfl := Option.some.inj h
        exact .move (refused_bare _ _)
    · cases h
  | prepareCoin p uuid targetUnchanged origin =>
    simp only [step] at h
    split at h
    · next service sourceValue request startedAt hp =>
      split at h
      · next hscope =>
        split at h
        · next history job hprepare =>
          obtain rfl := Option.some.inj h
          exact .prepareCoin hp hscope hprepare
        · obtain rfl := Option.some.inj h
          exact .move trivial
      · cases h
    · cases h
  | returnCoin p =>
    simp only [step] at h
    split at h
    · obtain rfl := Option.some.inj h
      exact .move trivial
    · cases h
  | startCall p now =>
    simp only [step] at h
    split at h
    · next work hp =>
      split at h
      · cases h
      · split at h
        · next history hstart =>
          obtain rfl := Option.some.inj h
          exact .startCall hp hstart
        · obtain rfl := Option.some.inj h
          exact transition_raised (by rw [hp]; rfl)
    · cases h
  | send p =>
    simp only [step] at h
    split at h
    · next work hp =>
      obtain rfl := Option.some.inj h
      exact .send hp
    · cases h
  | answer p answer =>
    simp only [step] at h
    split at h
    · next work hp =>
      obtain rfl := Option.some.inj h
      exact .answer hp
    · cases h
  | store p now =>
    simp only [step] at h
    split at h
    · next job answer hp =>
      have hwork : (w.calls p).work = some (.batch job) := by rw [hp]; rfl
      split at h
      · next db stored hstore =>
        obtain rfl := Option.some.inj h
        exact .store hp hstore
      · obtain rfl := Option.some.inj h
        exact .fail hwork
      · obtain rfl := Option.some.inj h
        exact transition_raised hwork
    · cases h
  | storeCoin p now link correlationMode facts evidenceOk =>
    simp only [step] at h
    split at h
    · next job answer hp =>
      have hwork : (w.calls p).work = some (.coin job) := by rw [hp]; rfl
      split at h
      · next history hconfirm =>
        obtain rfl := Option.some.inj h
        exact .storeCoin hp hconfirm
      · obtain rfl := Option.some.inj h
        exact .fail hwork
    · cases h
  | raise p r =>
    simp only [step] at h
    cases hp : w.calls p with
    | claimed work | started work | inFlight work | answered work answer =>
      rw [hp] at h
      obtain rfl := Option.some.inj h
      exact transition_raised (by rw [hp]; rfl)
    | _ =>
      rw [hp] at h
      cases h
  | recordHistoryFailure p now ok =>
    simp only [step] at h
    split at h
    · next work failure hp =>
      split at h
      · next history hfail =>
        obtain rfl := Option.some.inj h
        exact .close hp hfail (afterHistoryFailure_bare work failure)
      · obtain rfl := Option.some.inj h
        exact transition_afterHistoryFailure hp
    · cases h
  | recordFailures p now jitter ok =>
    simp only [step] at h
    split at h
    · next job error hp =>
      split at h
      · next hok =>
        subst hok
        split at h
        · next candidates hrecord =>
          obtain rfl := Option.some.inj h
          exact .release hp hrecord
        · obtain rfl := Option.some.inj h
          exact .move trivial
      · obtain rfl := Option.some.inj h
        exact .move trivial
    · cases h
  | finish p =>
    simp only [step] at h
    split at h
    · next job answer proofs hp =>
      split at h
      · next preview hfinish =>
        obtain rfl := Option.some.inj h
        exact .finish hp hfinish
      all_goals
        obtain rfl := Option.some.inj h
        exact .move trivial
    · cases h
  | crash p =>
    simp only [step] at h
    split at h
    all_goals first
      | cases h
        done
      | obtain rfl := Option.some.inj h
        exact .move trivial

/-! ## What a call holds -/

section Held

variable {service : Service} {source : SourceMessage} {messageId uuid ordinal : Nat}
  {startedAt now : Instant} {request : Option Nat} {targetUnchanged : Bool} {db db' : Db}

theorem evolves_claimAll {contexts : List LinkContext} {claims : List Claim}
    (h : claimAll env service source messageId startedAt uuid request targetUnchanged db ordinal
      contexts = .ok (db', claims)) : Evolves db.history db'.history := by
  induction contexts generalizing db ordinal claims with
  | nil =>
    obtain ⟨rfl, -⟩ := Prod.mk.inj (Except.ok.inj h)
    exact .refl _
  | cons context contexts ih =>
    obtain ⟨⟨db₁, claim⟩, hone, h⟩ := bind_eq_ok.1 h
    obtain ⟨⟨db₂, claims⟩, hall, h⟩ := bind_eq_ok.1 h
    obtain ⟨rfl, rfl⟩ := Prod.mk.inj (Except.ok.inj h)
    obtain ⟨_, _, history, id, -, -, hprepare, rfl, -⟩ := claimOne_eq_ok hone
    exact (Evolves.of_change (AffiliateLinkHistoryRepository.change_prepare hprepare)).trans
      (ih hall)

theorem evolves_storeAll {itemCount : Nat} {l : List (Claim × Text)}
    {stored : List (Identity × AffiliateLinkProof)}
    (h : storeAll env service now itemCount db l = .ok (db', stored)) :
    Evolves db.history db'.history := by
  induction l generalizing db stored with
  | nil =>
    obtain ⟨rfl, -⟩ := Prod.mk.inj (Except.ok.inj h)
    exact .refl _
  | cons e l ih =>
    obtain ⟨⟨db₁, one⟩, hone, h⟩ := bind_eq_ok.1 h
    obtain ⟨⟨db₂, others⟩, hall, h⟩ := bind_eq_ok.1 h
    obtain ⟨rfl, rfl⟩ := Prod.mk.inj (Except.ok.inj h)
    obtain ⟨_, history, -, hconfirm, -, rfl, -⟩ := storeOne_eq_ok hone
    exact (Evolves.of_change (AffiliateLinkHistoryRepository.change_confirm hconfirm)).trans
      (ih hall)

/-- The history only evolves. -/
theorem Transition.evolves (h : Transition env w act w') :
    Evolves w.db.history w'.db.history := by
  cases h with
  | tables _ hhistory => exact hhistory ▸ .refl _
  | candidate | send | answer | release | finish | fail | move => exact .refl _
  | request hrequest =>
    exact .of_quiet (AffiliateLinkHistoryRepository.quiet_requestLegacyGeneration hrequest)
  | recover now | recoverFirst now _ =>
    exact .of_quiet (AffiliateLinkHistoryRepository.quiet_recover env.scope now)
  | select _ hselect =>
    obtain ⟨_, _, _, _, _, -, -, -, -, hclaims, -⟩ := select_eq_ok hselect
    exact evolves_claimAll hclaims
  | prepareCoin _ _ hprepare =>
    exact .of_change (AffiliateLinkHistoryRepository.change_prepare (prepareCoin_eq_ok hprepare).2.1)
  | startCall _ hstart => exact AffiliateLinkHistoryRepository.evolves_startCall hstart
  | store _ hstore =>
    obtain ⟨_, -, hstore⟩ := storeAnswer_eq_ok hstore
    exact evolves_storeAll hstore
  | storeCoin _ hconfirm =>
    exact .of_change (AffiliateLinkHistoryRepository.change_confirm hconfirm)
  | close _ hfail _ => exact .of_quiet (AffiliateLinkHistoryRepository.quiet_fail hfail)

/-- The generation was prepared for this claim. -/
def HasClaim (env : Environment) (t : Generations) (service : Service) (source : SourceMessage)
    (messageId : Nat) (startedAt : Instant) (claim : Claim) : Prop :=
  ∃ uuid ordinal, HasPreparation t claim.generationId
    (preparation env service source messageId startedAt uuid ordinal claim.context)

/-- The history knows what the call has prepared. -/
def Work.Held (env : Environment) (t : Generations) : Work → Prop
  | .batch job => ∀ claim ∈ job.claims,
    HasClaim env t job.service job.source job.messageId job.startedAt claim
  | .coin job => env.scope = .shadow ∧ ∃ startedAt uuid origin, HasPreparation t job.generationId
    (coinPreparation env job.service job.sourceValue startedAt uuid origin)

/-- The history knows what all calls have prepared. -/
def Held (env : Environment) (w : World) : Prop :=
  ∀ p work, (w.calls p).work = some work → work.Held env w.db.history

theorem Work.Held.evolves {t t' : Generations} {work : Work} (h : work.Held env t)
    (ht : Evolves t t') : work.Held env t' := by
  cases work with
  | batch job =>
    intro claim hclaim
    obtain ⟨uuid, ordinal, hprepared⟩ := h claim hclaim
    exact ⟨uuid, ordinal, ht.hasPreparation hprepared⟩
  | coin job =>
    obtain ⟨hscope, startedAt, uuid, origin, hprepared⟩ := h
    exact ⟨hscope, startedAt, uuid, origin, ht.hasPreparation hprepared⟩

/-- What `prepare` answers with was prepared so. -/
theorem hasPreparation_prepare {t t' : Generations} {q : Preparation} {id : Nat}
    (h : AffiliateLinkHistoryRepository.prepare t q request = .ok (t', id)) :
    HasPreparation t' id q := by
  obtain ⟨-, base, hscope, hkey, -, rfl⟩ := AffiliateLinkHistoryRepository.prepare_eq_ok h
  exact ⟨_, get?_put_self t _ _, AffiliateLinkHistoryRepository.preparedAs_prepared hscope hkey⟩

theorem hasClaim_claimAll {contexts : List LinkContext} {claims : List Claim}
    (h : claimAll env service source messageId startedAt uuid request targetUnchanged db ordinal
      contexts = .ok (db', claims)) :
    ∀ claim ∈ claims, HasClaim env db'.history service source messageId startedAt claim := by
  induction contexts generalizing db ordinal claims with
  | nil =>
    obtain ⟨-, rfl⟩ := Prod.mk.inj (Except.ok.inj h)
    exact fun _ hclaim => absurd hclaim List.not_mem_nil
  | cons context contexts ih =>
    obtain ⟨⟨db₁, claim⟩, hone, h⟩ := bind_eq_ok.1 h
    obtain ⟨⟨db₂, claims⟩, hall, h⟩ := bind_eq_ok.1 h
    obtain ⟨rfl, rfl⟩ := Prod.mk.inj (Except.ok.inj h)
    refine List.forall_mem_cons.2 ⟨?_, ih hall⟩
    obtain ⟨_, _, history, id, -, -, hprepare, rfl, rfl⟩ := claimOne_eq_ok hone
    exact ⟨uuid, ordinal, (evolves_claimAll hall).hasPreparation (hasPreparation_prepare hprepare)⟩

/-- **What is known of the work of every call stays known**, when a step of the database
keeps it and it is known of what a call takes up. -/
theorem Transition.work_invariant {P : Db → Work → Prop} (h : Transition env w act w')
    (hkeep : ∀ work, P w.db work → P w'.db work)
    (hselect : ∀ {service messageId startedAt uuid request targetUnchanged db job},
      Conversion.select env service w.db messageId startedAt uuid request targetUnchanged =
        .ok (db, job) → P db (.batch job))
    (hcoin : ∀ {service sourceValue startedAt uuid request targetUnchanged origin history job},
      env.scope = .shadow → Conversion.prepareCoin env service w.db.history sourceValue startedAt
        uuid request targetUnchanged origin = .ok (history, job) →
      P { w.db with history := history } (.coin job))
    (hw : ∀ p work, (w.calls p).work = some work → P w.db work) :
    ∀ p work, (w'.calls p).work = some work → P w'.db work := by
  have moved : ∀ {p c}, w'.calls = Function.update w.calls p c →
      (∀ work, c.work = some work → P w'.db work) →
      ∀ q work, (w'.calls q).work = some work → P w'.db work := by
    intro p c hcalls hc q work hq
    rw [hcalls] at hq
    rcases eq_or_ne q p with rfl | hqp
    · rw [Function.update_self] at hq
      exact hc work hq
    · rw [Function.update_of_ne hqp] at hq
      exact hkeep work (hw q work hq)
  have keep : ∀ {p work}, (w.calls p).work = some work →
      ∀ work', some work = some work' → P w'.db work' := by
    rintro p work hp _ heq
    obtain rfl := Option.some.inj heq
    exact hkeep work (hw p work hp)
  have empty : ∀ {c : Call}, c.work = none → ∀ work, c.work = some work → P w'.db work := by
    intro c hc work hwork
    rw [hc] at hwork
    cases hwork
  cases h with
  | tables | candidate | request | recover => exact fun p work hp => hkeep work (hw p work hp)
  | recoverFirst | release | store | storeCoin | finish => exact moved rfl (empty rfl)
  | select _ hselected =>
    refine moved rfl fun work hwork => ?_
    split at hwork
    · cases hwork
    · obtain rfl := Option.some.inj hwork
      exact hselect hselected
  | prepareCoin _ hscope hprepare =>
    refine moved rfl fun work hwork => ?_
    obtain rfl := Option.some.inj hwork
    exact hcoin hscope hprepare
  | startCall hp _ | send hp | answer hp => exact moved rfl (keep (by rw [hp]; rfl))
  | close _ _ hc | move hc => exact moved rfl (empty hc.work_eq_none)
  | fail hp => exact moved rfl (keep hp)

/-- **Nothing a step does changes what the generations of a call were prepared for.** -/
theorem Transition.held (h : Transition env w act w') (hw : Held env w) : Held env w' := by
  refine h.work_invariant (P := fun db work => work.Held env db.history)
    (fun work hwork => hwork.evolves h.evolves) ?_ ?_ hw
  · intro _ _ _ _ _ _ _ _ hselect
    obtain ⟨_, _, _, _, _, -, -, -, -, hclaims, rfl⟩ := select_eq_ok hselect
    exact hasClaim_claimAll hclaims
  · intro _ _ _ _ _ _ _ _ _ hscope hprepare
    obtain ⟨-, hprepare, hjob⟩ := prepareCoin_eq_ok hprepare
    rw [hjob]
    exact ⟨hscope, _, _, _, hasPreparation_prepare hprepare⟩

theorem held_of_reachable {start : Db → Prop} (h : (system env start).Reachable w) :
    Held env w := by
  refine h.invariant (P := Held env) ?_ fun w act w' hw hstep => (transition_of_step hstep).held hw
  rintro w ⟨-, hcalls, -⟩ p work hp
  rw [hcalls] at hp
  cases hp

end Held

end Conversion
end PromoBot
