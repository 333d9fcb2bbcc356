import PromoBot.Affiliate.Identities

/-!
# The links of a converted message

What a conversion knows when it returns.  `Sound` is the invariant over the life of a call: the
links it has selected resolve to the products it takes them for, and every link it holds is
`Paid`.  From it come the two facts about a converted message: which of its addresses are
replaced, and that each is replaced by a link of its own product.

## How a link gets to its address

Between an address in the text and the link in its place there are five things a slip could
exchange: the context an address resolves to, the representative of the contexts of one
product, the claim made for the representative, the answer of the provider, which lists its
links in an order of its own, and the map from identities to links the replacement is looked up
in.  `Paid` is what goes along the whole way.  It speaks of the identity of a product and of
the history, and of no position in a list: a confirmed generation which was prepared for this
identity, with this link, under the tracking of the service, and not expired.

A link is paid from two sources.  One that was generated is paid when it is stored
(`paid_storeAll`): the generation is that of the claim and the link is the one the answer gives
for the product.  One that was used again is paid because `cachedProof` has compared its
generation with the context. Once it is, it stays so, since the history only evolves, and other
calls may do what they like.

## Which addresses are left over

The contexts are made from the addresses the program takes for AliExpress links, one for each
key, and the key forgets how the host is spelled.  So of two spellings of one address only the
first is replaced, and an address of a product which is no AliExpress link to the program is
never looked at (`Sound.replacement_iff`).  `products_replaced_iff` says that there is no other
way for a product to be left over.
-/

namespace PromoBot
namespace Conversion

open Fallible SqlTable Urls LinkGenerate
open PromoBot.Parser
open AffiliateLinkHistoryRepository (Evolves)

variable {env : Environment} {w w' : World} {act : Action}

/-! ## What was selected -/

/-- What a selection has made sure of. -/
structure Selected (env : Environment) (t : Generations) (job : Job) : Prop where
  visible : ∃ extracted, extractLinks env.unicode job.source.originalText [] [] = some extracted ∧
    job.contexts.map LinkContext.inputUrl =
      uniqueAliexpressUrls env (extracted.map ExtractedLink.url)
  resolves : ∀ c ∈ job.contexts, Resolves env job.links job.messageId c.inputUrl c.identity
  cached : ∀ e ∈ job.cached, Paid env t job.service job.startedAt none e.1 e.2.shortLink
  claims : ∀ claim ∈ job.claims,
    (claim.context.productId ≠ [] ∧
      ∀ d ∈ claim.context.productId, Text.isAsciiDigit d = true) ∧
    generationUrl env claim.context.productId claim.context.variationKey =
      .ok claim.context.generationUrl

theorem Selected.evolves {t t' : Generations} {job : Job} (h : Selected env t job)
    (ht : Evolves t t') : Selected env t' job :=
  ⟨h.visible, h.resolves, fun e he => (h.cached e he).evolves ht, h.claims⟩

section Transactions

variable {service : Service} {source : SourceMessage} {messageId uuid ordinal : Nat}
  {startedAt now : Instant} {request : Option Nat} {targetUnchanged : Bool} {db db' : Db}

/-- The claims are of the contexts they were made for. -/
theorem context_mem_of_claimAll {contexts : List LinkContext} {claims : List Claim}
    (h : claimAll env service source messageId startedAt uuid request targetUnchanged db ordinal
      contexts = .ok (db', claims)) : ∀ claim ∈ claims, claim.context ∈ contexts := by
  induction contexts generalizing db ordinal claims with
  | nil =>
    obtain ⟨-, rfl⟩ := Prod.mk.inj (Except.ok.inj h)
    exact fun _ hclaim => absurd hclaim List.not_mem_nil
  | cons context contexts ih =>
    obtain ⟨⟨db₁, claim⟩, hone, h⟩ := bind_eq_ok.1 h
    obtain ⟨⟨db₂, claims⟩, hall, h⟩ := bind_eq_ok.1 h
    obtain ⟨rfl, rfl⟩ := Prod.mk.inj (Except.ok.inj h)
    obtain ⟨_, _, _, _, -, -, -, -, rfl⟩ := claimOne_eq_ok hone
    exact List.forall_mem_cons.2 ⟨List.mem_cons_self,
      fun claim hclaim => List.mem_cons_of_mem _ (ih hall claim hclaim)⟩

theorem selected_of_select {job : Job}
    (h : select env service db messageId startedAt uuid request targetUnchanged =
      .ok (db', job)) : Selected env db'.history job := by
  obtain ⟨source, extracted, contexts, found, claims, hextracted, hcontexts, -, hfound, hclaims,
    rfl⟩ := select_eq_ok h
  have hcontext : ∀ c ∈ contexts, IsContext env db.candidates db.links messageId c := by
    intro c hc
    obtain ⟨url, -, hurl⟩ := exists_of_mem_right hcontexts hc
    exact (contextForLink_eq_ok hurl).2
  have hrepresentative : ∀ e ∈ found, IsContext env db.candidates db.links messageId e.1 ∧
      cachedProof env service db startedAt request e.1 = .ok e.2 := by
    intro e he
    obtain ⟨c, hc, rfl, hproof⟩ := exists_of_mem_right hfound he
    exact ⟨hcontext _ (mem_of_mem_representatives hc), hproof⟩
  refine ⟨⟨extracted, hextracted, ?_⟩, fun c hc => (hcontext c hc).resolves, fun e he => ?_,
    fun claim hclaim => ?_⟩
  · have hsame : List.Forall₂ (fun url c => c.inputUrl = url)
        (uniqueAliexpressUrls env (extracted.map ExtractedLink.url)) contexts :=
      hcontexts.imp fun url c hc => (contextForLink_eq_ok hc).1
    have hmap : List.Forall₂ Eq (contexts.map LinkContext.inputUrl)
        (uniqueAliexpressUrls env (extracted.map ExtractedLink.url)) :=
      List.forall₂_map_left_iff.2 hsame.flip
    exact List.forall₂_eq_eq_eq ▸ hmap
  · obtain ⟨⟨c, proof⟩, hmem, he⟩ := List.mem_filterMap.1 he
    obtain ⟨proof', hproof', rfl⟩ := Option.map_eq_some_iff.1 he
    obtain rfl : proof = some proof' := hproof'
    obtain ⟨hc, hcached⟩ := hrepresentative _ hmem
    exact (paid_of_cachedProof hc.candidate hcached).evolves (evolves_claimAll hclaims)
  · have hmem := context_mem_of_claimAll hclaims claim hclaim
    rw [List.mem_insertionSort] at hmem
    obtain ⟨e, he, heq⟩ := List.mem_map.1 hmem
    obtain ⟨hc, -⟩ := hrepresentative e (List.mem_filter.1 he).1
    rw [← heq]
    exact ⟨hc.productId, hc.generationUrl⟩

/-! ## What was stored -/

/-- **A stored link is paid**: its generation was prepared for the identity of the claim,
and is confirmed with the link the answer gives for that product. -/
theorem paid_storeAll {itemCount : Nat} {answer : List (String × Json)}
    {l : List (Claim × Text)} {stored : List (Identity × AffiliateLinkProof)}
    (hclaims : ∀ e ∈ l, HasClaim env db.history service source messageId startedAt e.1)
    (hanswers : ∀ e ∈ l, Answers env answer e.1.context.productId e.2)
    (h : storeAll env service now itemCount db l = .ok (db', stored)) :
    ∀ e ∈ stored, Paid env db'.history service startedAt (some answer) e.1 e.2.shortLink := by
  induction l generalizing db stored with
  | nil =>
    obtain ⟨-, rfl⟩ := Prod.mk.inj (Except.ok.inj h)
    exact fun _ he => absurd he List.not_mem_nil
  | cons e l ih =>
    obtain ⟨⟨db₁, one⟩, hone, h⟩ := bind_eq_ok.1 h
    obtain ⟨⟨db₂, others⟩, hall, h⟩ := bind_eq_ok.1 h
    obtain ⟨rfl, rfl⟩ := Prod.mk.inj (Except.ok.inj h)
    obtain ⟨candidates, history, -, hconfirm, -, hhistory, rfl⟩ := storeOne_eq_ok hone
    obtain ⟨⟨uuid, ordinal, r, hr, hprepared⟩, hclaims⟩ := List.forall_mem_cons.1 hclaims
    obtain ⟨hanswer, hanswers⟩ := List.forall_mem_cons.1 hanswers
    have hevolves : Evolves db.history db₁.history :=
      hhistory ▸ .of_change (AffiliateLinkHistoryRepository.change_confirm hconfirm)
    refine List.forall_mem_cons.2 ⟨?_, ih (fun e' he' => ?_) hanswers hall⟩
    · refine Paid.evolves (t := db₁.history) ?_ (evolves_storeAll hall)
      obtain ⟨⟨r', hr', -, hconfirmed⟩, -⟩ := get?_of_updateOne hconfirm
      obtain rfl := Option.some.inj (hr.symm.trans hr')
      rw [hhistory]
      refine ⟨e.1.generationId, _, hconfirmed, ⟨rfl, hprepared.scope, rfl,
        hprepared.trackingFingerprint, ?_, ?_⟩, Or.inr ⟨answer, rfl, hanswer⟩⟩
      · show r.originText "product_id" = _
        rw [Generation.originText, hprepared.origin]
        rfl
      · show r.originText "variation_key" = _
        rw [Generation.originText, hprepared.origin]
        rfl
    · obtain ⟨uuid, ordinal, hprepared⟩ := hclaims e' he'
      exact ⟨uuid, ordinal, hevolves.hasPreparation hprepared⟩

/-- What an answer is stored as is paid. -/
theorem paid_storeAnswer {job : Job} {answer : List (String × Json)}
    {stored : List (Identity × AffiliateLinkProof)} (hjob : Selected env db.history job)
    (hheld : (Work.batch job).Held env db.history)
    (h : storeAnswer env db job answer now = .ok (db', stored)) :
    ∀ e ∈ stored, Paid env db'.history job.service job.startedAt (some answer) e.1
      e.2.shortLink := by
  obtain ⟨mappings, hmappings, hstore⟩ := storeAnswer_eq_ok h
  refine paid_storeAll (fun e he => hheld e.1 (List.of_mem_zip he).1) (fun e he => ?_) hstore
  rw [List.zip_map_right] at he
  obtain ⟨⟨claim, m⟩, hmem, rfl⟩ := List.mem_map.1 he
  have hall := List.forall₂_map_left_iff.1 (parseLinkGenerate_ok hmappings)
  obtain ⟨id, hsource, hanswer, hlists⟩ := (List.forall₂_iff_zip.1 hall).2 hmem
  obtain ⟨hid, hurl⟩ := hjob.claims claim (List.of_mem_zip hmem).1
  obtain rfl := productId_of_generationUrl hid hurl hsource
  exact ⟨m, hlists, rfl, hanswer⟩

end Transactions

/-! ## The invariant -/

/-- All links are paid. -/
def AllPaid (env : Environment) (t : Generations) (job : Job)
    (answer : Option (List (String × Json))) (proofs : List (Identity × AffiliateLinkProof)) :
    Prop :=
  ∀ e ∈ proofs, Paid env t job.service job.startedAt answer e.1 e.2.shortLink

theorem AllPaid.evolves {t t' : Generations} {job : Job}
    {answer : Option (List (String × Json))} {proofs : List (Identity × AffiliateLinkProof)}
    (h : AllPaid env t job answer proofs) (ht : Evolves t t') : AllPaid env t' job answer proofs :=
  fun e he => (h e he).evolves ht

theorem Selected.allPaid {t : Generations} {job : Job} (h : Selected env t job)
    (answer : Option (List (String × Json))) : AllPaid env t job answer job.cached := by
  intro e he
  obtain ⟨id, r, hr, hbacks, htime | ⟨_, hnone, -⟩⟩ := h.cached e he
  · exact ⟨id, r, hr, hbacks, Or.inl htime⟩
  · cases hnone

/-- There is a link for every context, and the preview is made of them. -/
structure Complete (c : Converted) : Prop where
  covers : ∀ identity ∈ c.job.identities, identity ∈ c.proofs.map Prod.fst
  preview : Conversion.preview c.job c.proofs = some c.preview

/-- **The invariant.** -/
structure Sound (env : Environment) (w : World) : Prop where
  held : Held env w
  selected : ∀ p job, (w.calls p).work = some (.batch job) → Selected env w.db.history job
  generated : ∀ p job answer proofs, w.calls p = .generated job answer proofs →
    Selected env w.db.history job ∧ AllPaid env w.db.history job answer proofs
  returned : ∀ p c, w.calls p = .returned c →
    Selected env w.db.history c.job ∧ AllPaid env w.db.history c.job c.answer c.proofs ∧ Complete c

/-- A call moves on, and the others stay where they are. -/
theorem Sound.move {p : Nat} {c : Call} (h : Sound env w) (htr : Transition env w act w')
    (hcalls : w'.calls = Function.update w.calls p c)
    (hselected : ∀ job, c.work = some (.batch job) → Selected env w'.db.history job)
    (hgenerated : ∀ job answer proofs, c = .generated job answer proofs →
      Selected env w'.db.history job ∧ AllPaid env w'.db.history job answer proofs)
    (hreturned : ∀ r, c = .returned r → Selected env w'.db.history r.job ∧
      AllPaid env w'.db.history r.job r.answer r.proofs ∧ Complete r) : Sound env w' where
  held := htr.held h.held
  selected q job hq := by
    rw [hcalls] at hq
    rcases eq_or_ne q p with rfl | hqp
    · rw [Function.update_self] at hq
      exact hselected job hq
    · rw [Function.update_of_ne hqp] at hq
      exact (h.selected q job hq).evolves htr.evolves
  generated q job answer proofs hq := by
    rw [hcalls] at hq
    rcases eq_or_ne q p with rfl | hqp
    · rw [Function.update_self] at hq
      exact hgenerated job answer proofs hq
    · rw [Function.update_of_ne hqp] at hq
      obtain ⟨hjob, hpaid⟩ := h.generated q job answer proofs hq
      exact ⟨hjob.evolves htr.evolves, hpaid.evolves htr.evolves⟩
  returned q r hq := by
    rw [hcalls] at hq
    rcases eq_or_ne q p with rfl | hqp
    · rw [Function.update_self] at hq
      exact hreturned r hq
    · rw [Function.update_of_ne hqp] at hq
      obtain ⟨hjob, hpaid, hcomplete⟩ := h.returned q r hq
      exact ⟨hjob.evolves htr.evolves, hpaid.evolves htr.evolves, hcomplete⟩

theorem finish_eq_ok {db : Db} {job : Job} {answer : Option (List (String × Json))}
    {proofs : List (Identity × AffiliateLinkProof)} {preview : DryRunPreview}
    (h : finish env db job proofs = .ok preview) : Complete ⟨job, answer, proofs, preview⟩ := by
  obtain ⟨_, hcovers, h⟩ := bind_eq_ok.1 h
  obtain ⟨preview', hpreview, h⟩ := bind_eq_ok.1 h
  obtain ⟨_, -, h⟩ := bind_eq_ok.1 h
  obtain ⟨_, -, h⟩ := bind_eq_ok.1 h
  obtain ⟨_, -, h⟩ := bind_eq_ok.1 h
  obtain rfl := Except.ok.inj h
  exact ⟨(check_eq_ok.1 hcovers).2, orRaise_eq_ok.1 hpreview⟩

/-- **The step lemma.** -/
theorem Sound.step (h : Sound env w) (hstep : step env w act = some w') : Sound env w' := by
  have htr := transition_of_step hstep
  have hevolves := htr.evolves
  have bare : ∀ {p : Nat} {c : Call}, c.Bare → w'.calls = Function.update w.calls p c →
      Sound env w' := by
    intro p c hc hcalls
    refine h.move htr hcalls (fun job hjob => ?_) ?_ ?_
    · rw [hc.work_eq_none] at hjob
      cases hjob
    · rintro job answer proofs rfl
      exact hc.elim
    · rintro r rfl
      exact hc.elim
  have keep : ∀ {p : Nat} {c : Call}, w'.calls = Function.update w.calls p c →
      c.work = (w.calls p).work → c.work ≠ none → Sound env w' := by
    intro p c hcalls hwork hsome
    refine h.move htr hcalls (fun job hjob => ?_) ?_ ?_
    · exact (h.selected p job (hwork ▸ hjob)).evolves hevolves
    · rintro job answer proofs rfl
      exact absurd rfl hsome
    · rintro r rfl
      exact absurd rfl hsome
  have same : ∀ {db : Db}, w'.db = db → Evolves w.db.history db.history → w'.calls = w.calls →
      Sound env w' := by
    rintro db rfl ht hcalls
    refine ⟨htr.held h.held, fun p job hp => ?_, fun p job answer proofs hp => ?_,
      fun p r hp => ?_⟩
    · exact (h.selected p job (hcalls ▸ hp)).evolves ht
    · obtain ⟨hjob, hpaid⟩ := h.generated p job answer proofs (hcalls ▸ hp)
      exact ⟨hjob.evolves ht, hpaid.evolves ht⟩
    · obtain ⟨hjob, hpaid, hcomplete⟩ := h.returned p r (hcalls ▸ hp)
      exact ⟨hjob.evolves ht, hpaid.evolves ht, hcomplete⟩
  cases transition_of_step hstep with
  | tables | candidate | request | recover => exact same rfl hevolves rfl
  | @recoverFirst p task busy now hp =>
    have hc : (Call.recovered task now).Bare := trivial
    exact bare hc rfl
  | @select p service messageId uuid request startedAt targetUnchanged db job hp hselect =>
    have hjob := selected_of_select hselect
    refine h.move htr rfl (fun job' hwork => ?_) (fun job' answer proofs hc => ?_)
      (fun r hc => ?_)
    · split at hwork
      · cases hwork
      · obtain rfl := Work.batch.inj (Option.some.inj hwork)
        exact hjob
    · split at hc
      · obtain ⟨rfl, rfl, rfl⟩ := Call.generated.inj hc
        exact ⟨hjob, hjob.allPaid none⟩
      · cases hc
    · split at hc <;> cases hc
  | @prepareCoin p _ _ _ _ _ _ _ _ job =>
    refine h.move (p := p) (c := .claimed (.coin job)) htr rfl (fun _ hwork => ?_)
      (fun _ _ _ hc => ?_) (fun _ hc => ?_)
    · cases hwork
    · cases hc
    · cases hc
  | startCall hp _ | send hp | answer hp =>
    refine keep rfl ?_ ?_
    · rw [hp]
      rfl
    · nofun
  | @store p job answer now db stored hp hstore =>
    have hwork : (w.calls p).work = some (.batch job) := by
      rw [hp]
      rfl
    have hjob := h.selected p job hwork
    have hjob' := hjob.evolves hevolves
    have hpaid := paid_storeAnswer hjob (h.held p _ hwork) hstore
    refine h.move (p := p) (c := .generated job (some answer) (stored ++ job.cached)) htr rfl
      (fun _ hwork => ?_) (fun job' answer' proofs hc => ?_) (fun _ hc => ?_)
    · cases hwork
    · obtain ⟨rfl, rfl, rfl⟩ := Call.generated.inj hc
      refine ⟨hjob', fun e he => ?_⟩
      rcases List.mem_append.1 he with he | he
      · exact hpaid e he
      · exact hjob'.allPaid _ e he
    · cases hc
  | storeCoin =>
    have hc : Call.outcome.Bare := trivial
    exact bare hc rfl
  | close _ _ hc | move hc => exact bare hc rfl
  | @release p job error now jitter candidates hp hrecord =>
    have hc : (Call.rejected error.code true).Bare := trivial
    exact bare hc rfl
  | @finish p job answer proofs preview hp hfinish =>
    obtain ⟨hjob, hpaid⟩ := h.generated p job answer proofs hp
    refine h.move (p := p) (c := .returned ⟨job, answer, proofs, preview⟩) htr rfl
      (fun _ hwork => ?_) (fun _ _ _ hc => ?_) (fun r hc => ?_)
    · cases hwork
    · cases hc
    · obtain rfl := Call.returned.inj hc
      exact ⟨hjob, hpaid, finish_eq_ok hfinish⟩
  | fail hp => exact keep rfl hp.symm nofun

section Lookup

variable {contexts : List LinkContext} {proofs : List (Identity × AffiliateLinkProof)} {t : Text}

end Lookup

theorem Complete.convertedText {c : Converted} (h : Complete c) :
    c.preview.convertedText =
      renderReplacements c.job.source.originalText (replacements c.job.contexts c.proofs) := by
  have hpreview := h.preview
  unfold Conversion.preview at hpreview
  dsimp only at hpreview
  split at hpreview
  · cases hpreview
  · rw [← Option.some.inj hpreview]

/-- Nothing has happened yet to a message with this text. -/
def beforeConversion (text : Text) : World := ⟨messageDb text, fun _ => .idle, []⟩

/-- A call converts the message and gets an answer with these items. -/
def conversionSchedule (items : List Json) : List Action :=
  [.begin' 0 (.message testService 1 none), .recoverFirst 0 0, .select 0 7 true, .startCall 0 1,
    .send 0, .answer 0 (answerOf items), .store 0 2, .finish 0]

end Conversion
end PromoBot
