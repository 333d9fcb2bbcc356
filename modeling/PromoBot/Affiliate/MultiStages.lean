import PromoBot.Affiliate.MultiOutcomes
import PromoBot.Lib.Lookup
import PromoBot.Lib.Spans

/-!
# What a run of `prepare` knows

`Fits` says what a run knows at each of its stages, and what it has done outside until then.
What it does is `Orderly`: the wrappers of the message are fetched, each at most once; once the
first link is requested none of them is missing; every short link is requested at most once;
and at most one preview is stored, at the end.

Every step of a run leads from one stage that fits to another (`fits_begun`, `fits_afterWrapper`,
`fits_callStep`), whatever the others did in between: what a run knows of the history stays
true as the history evolves.
-/

namespace PromoBot
namespace MultiPreview

open Conversion Fallible SqlTable PyUrl CoinOccurrences
open CoinGeneration (Phase Request)
open AffiliateLinkHistoryRepository (Evolves)
open SeuHardwareShortResolver (Fetch Sealed resolve_cases)
open PromoBot.Parser (urlPattern trimUrl trimUrl_append)

/-! ## The spans of the links -/

/-- **A text whose links are replaced is changed at their spans only.** -/
theorem renderReplacements_eq_spliceSpans (text : Text) (replacements : List (Text × Text)) :
    renderReplacements text replacements =
      Text.spliceSpans 0 text (((urlPattern.findIter text).zipIdx.map occurrence).map fun o =>
        (o.start, o.stop, (replacements.lookup o.sourceValue).getD o.sourceValue)) := by
  have hlength : ∀ raw : Text, (trimUrl raw).length ≤ raw.length := fun raw =>
    (List.rdropWhile_prefix _ raw).length_le
  have htoken : renderToken replacements = fun raw =>
      (replacements.lookup (trimUrl raw)).getD (trimUrl raw) ++ raw.drop (trimUrl raw).length := by
    funext raw
    obtain ⟨tail, hraw, hdrop, -⟩ := trimUrl_append raw
    unfold renderToken
    cases replacements.lookup (trimUrl raw) with
    | some link => rfl
    | none => rw [Option.getD_none, hdrop, ← hraw]
  rw [renderReplacements, htoken,
    Regex.sub_eq_spliceSpans (fun raw => (replacements.lookup (trimUrl raw)).getD (trimUrl raw))
      hlength]
  conv_lhs => rw [← List.zipIdx_map_fst 0 (urlPattern.findIter text)]
  rw [List.map_map, List.map_map]
  rfl

/-! ## Resolving -/

/-- The short link a link of the message stands for: itself, or what a wrapper was answered
with. -/
def ResolvedAs (fetches : List Fetch) (source value : Text) : Prop :=
  CoinShadow.coinShort.fullMatches value = true ∧
    (value = source ∨ source ∈ fetches.map Fetch.url)

/-- The requests of a run, for the links of its message. -/
structure Fetched (job : Job) (occurrences : List CoinShortOccurrence) (fetches : List Fetch) :
    Prop where
  collected : collectCoinOccurrences job.message job.maxOccurrences job.wrappers = .ok occurrences
  once : (fetches.map Fetch.url).Nodup
  shown : ∀ url ∈ fetches.map Fetch.url,
    wrapper.fullMatches url = true ∧ url ∈ occurrences.map CoinShortOccurrence.sourceValue

/-- What a run knows while there are links to resolve. -/
structure Resolving (job : Job) (occurrences todo : List CoinShortOccurrence)
    (resolved : List (Text × Text)) (fetches : List Fetch) : Prop
    extends Fetched job occurrences fetches where
  rest : todo ⊆ occurrences
  reached : ∀ row ∈ occurrences, row ∈ todo ∨ row.sourceValue ∈ resolved.map Prod.fst
  keys : (resolved.map Prod.fst).Nodup
  known : ∀ url ∈ fetches.map Fetch.url, url ∈ resolved.map Prod.fst
  resolves : ∀ e ∈ resolved, ResolvedAs fetches e.1 e.2 ∧
    e.1 ∈ occurrences.map CoinShortOccurrence.sourceValue

section Resolving

variable {job : Job} {occurrences todo rest : List CoinShortOccurrence} {row : CoinShortOccurrence}
  {resolved : List (Text × Text)} {fetches : List Fetch}

theorem ResolvedAs.mono {source value : Text} {fetches' : List Fetch}
    (h : ResolvedAs fetches source value) (hsub : fetches ⊆ fetches') :
    ResolvedAs fetches' source value :=
  ⟨h.1, h.2.imp_right fun hmem => List.map_subset _ hsub hmem⟩

theorem resolving_of_collected (h : collectCoinOccurrences job.message job.maxOccurrences
    job.wrappers = .ok occurrences) : Resolving job occurrences occurrences [] [] where
  collected := h
  once := List.nodup_nil
  shown := fun _ hmem => by cases hmem
  rest := List.Subset.refl _
  reached := fun _ hrow => Or.inl hrow
  keys := List.nodup_nil
  known := fun _ hmem => by cases hmem
  resolves := fun _ hmem => by cases hmem

/-- A link is resolved. -/
theorem Resolving.found {fetches' : List Fetch} {value : Text}
    (h : Resolving job occurrences (row :: rest) resolved fetches)
    (hnew : row.sourceValue ∉ resolved.map Prod.fst)
    (hfetched : Fetched job occurrences fetches') (hsub : fetches ⊆ fetches')
    (hknown : ∀ url ∈ fetches'.map Fetch.url, url ∈ fetches.map Fetch.url ∨ url = row.sourceValue)
    (hvalue : ResolvedAs fetches' row.sourceValue value) :
    Resolving job occurrences rest (resolved ++ [(row.sourceValue, value)]) fetches' where
  toFetched := hfetched
  rest := fun r hr => h.rest (List.mem_cons_of_mem _ hr)
  reached := by
    intro r hr
    rw [List.map_append, List.mem_append]
    rcases h.reached r hr with htodo | hkey
    · rcases List.mem_cons.1 htodo with rfl | hrest
      · exact Or.inr (Or.inr (List.mem_singleton.2 rfl))
      · exact Or.inl hrest
    · exact Or.inr (Or.inl hkey)
  keys := by
    rw [List.map_append]
    refine List.Nodup.append h.keys (List.nodup_singleton _) ?_
    exact List.disjoint_singleton.2 hnew
  known := by
    intro url hurl
    rw [List.map_append, List.mem_append]
    rcases hknown url hurl with hold | rfl
    · exact Or.inl (h.known url hold)
    · exact Or.inr (List.mem_singleton.2 rfl)
  resolves := by
    intro e he
    rcases List.mem_append.1 he with he | he
    · exact ⟨(h.resolves e he).1.mono hsub, (h.resolves e he).2⟩
    · obtain rfl := List.mem_singleton.1 he
      exact ⟨hvalue, List.mem_map_of_mem (h.rest List.mem_cons_self)⟩

/-- A link that is resolved already is left out. -/
theorem Resolving.skip (h : Resolving job occurrences (row :: rest) resolved fetches)
    (hkey : row.sourceValue ∈ resolved.map Prod.fst) :
    Resolving job occurrences rest resolved fetches where
  toFetched := h.toFetched
  rest := fun r hr => h.rest (List.mem_cons_of_mem _ hr)
  reached := by
    intro r hr
    rcases h.reached r hr with htodo | hr
    · rcases List.mem_cons.1 htodo with rfl | hrest
      · exact Or.inr hkey
      · exact Or.inl hrest
    · exact Or.inr hr
  keys := h.keys
  known := h.known
  resolves := h.resolves

/-- **The loop goes on to a link that needs a request**, or to the end. -/
theorem Resolving.advance (h : Resolving job occurrences todo resolved fetches) :
    Resolving job occurrences (advance resolved todo).2 (advance resolved todo).1 fetches ∧
      ∀ row rest, (advance resolved todo).2 = row :: rest →
        row.sourceValue ∉ (advance resolved todo).1.map Prod.fst := by
  induction todo generalizing resolved with
  | nil => exact ⟨h, fun row rest hnil => by cases hnil⟩
  | cons row rest ih =>
    unfold MultiPreview.advance
    by_cases hkey : (resolved.lookup row.sourceValue).isSome = true
    · rw [if_pos hkey]
      obtain ⟨value, hvalue⟩ := Option.isSome_iff_exists.1 hkey
      exact ih (h.skip (List.mem_map_of_mem (Lookup.mem_of_lookup hvalue)))
    · have hnew : row.sourceValue ∉ resolved.map Prod.fst := by
        rw [← Lookup.lookup_eq_none_iff_not_mem]
        exact Option.not_isSome_iff_eq_none.1 hkey
      rw [if_neg hkey]
      by_cases hshort : CoinShadow.coinShort.fullMatches row.sourceValue = true
      · rw [if_pos hshort]
        exact ih (h.found hnew h.toFetched (List.Subset.refl _) (fun url hurl => Or.inl hurl)
          ⟨hshort, Or.inl rfl⟩)
      · rw [if_neg hshort]
        refine ⟨h, fun row' rest' heq => ?_⟩
        obtain ⟨rfl, -⟩ := List.cons.inj heq
        exact hnew

/-- The request of a wrapper that is not resolved yet is a new one. -/
theorem Resolving.fetched (net : SeuHardwareShortResolver.WrapperNetwork Unit)
    (h : Resolving job occurrences (row :: rest) resolved fetches)
    (hnew : row.sourceValue ∉ resolved.map Prod.fst) :
    Fetched job occurrences
        (fetches ++ (SeuHardwareShortResolver.resolve net row.sourceValue).fetches) ∧
      (∀ url ∈ (SeuHardwareShortResolver.resolve net row.sourceValue).fetches.map Fetch.url,
        url = row.sourceValue) ∧
      ∀ value, (SeuHardwareShortResolver.resolve net row.sourceValue).outcome = .ok value →
        CoinShadow.coinShort.fullMatches value = true ∧ row.sourceValue ∈
          (SeuHardwareShortResolver.resolve net row.sourceValue).fetches.map Fetch.url := by
  rcases resolve_cases net row.sourceValue with hrejected | ⟨hwrapper, hsealed⟩
  · rw [hrejected, List.append_nil]
    exact ⟨h.toFetched, fun url hurl => (by cases hurl), fun value hvalue => (by cases hvalue)⟩
  have hurl : ∀ url ∈ (SeuHardwareShortResolver.resolve net row.sourceValue).fetches.map Fetch.url,
      url = row.sourceValue := by
    intro url hurl
    obtain ⟨f, hf, rfl⟩ := List.mem_map.1 hurl
    exact (hsealed.pinned f hf).1
  refine ⟨⟨h.collected, ?_, ?_⟩, hurl, fun value hvalue => ?_⟩
  · rw [List.map_append]
    refine List.Nodup.append h.once ?_ ?_
    · refine List.nodup_iff_count_le_one.2 fun url => (List.count_le_length).trans ?_
      rw [List.length_map]
      refine (hsealed.announced.1.trans hsealed.announced.2).trans ?_
      rcases hsealed.looked with hlooked | hlooked <;> rw [hlooked] <;> simp
    · intro url hold hfresh
      rw [hurl url hfresh] at hold
      exact hnew (h.known _ hold)
  · intro url hmem
    rw [List.map_append, List.mem_append] at hmem
    rcases hmem with hold | hfresh
    · exact h.shown url hold
    · rw [hurl url hfresh]
      exact ⟨hwrapper, List.mem_map_of_mem (h.rest List.mem_cons_self)⟩
  · obtain ⟨ip, response, hfetches, -, hredirects⟩ := hsealed.returned value hvalue
    rw [hfetches]
    exact ⟨hredirects.coinShort, List.mem_singleton.2 rfl⟩

end Resolving

/-! ## What a run does outside -/

/-- What a run did outside is this: the requests of wrappers, then those for links, and then
the previews it stored. -/
structure InOrder (job : Job) (occurrences : List CoinShortOccurrence) (fetches : List Fetch)
    (sends : List Text) (saves : Nat) : Prop extends Fetched job occurrences fetches where
  complete : sends ≠ [] ∨ saves ≠ 0 → ∀ row ∈ occurrences,
    CoinShadow.coinShort.fullMatches row.sourceValue = true ∨
      row.sourceValue ∈ fetches.map Fetch.url
  sentOnce : sends.Nodup
  short : ∀ value ∈ sends, CoinShadow.coinShort.fullMatches value = true
  bounded : fetches.length ≤ occurrences.length ∧ sends.length ≤ occurrences.length ∧
    occurrences.length ≤ 3
  savedOnce : saves ≤ 1

/-- A run does nothing outside, or what it does is in order. -/
def Orderly (job : Job) (effects : List Effect) : Prop :=
  effects = [] ∨ ∃ occurrences fetches sends saves,
    effects = fetches.map .fetch ++ sends.map .send ++ List.replicate saves .save ∧
      InOrder job occurrences fetches sends saves

section Order

variable {job : Job} {occurrences : List CoinShortOccurrence} {resolved : List (Text × Text)}
  {fetches : List Fetch} {sends : List Text} {saves : Nat}

theorem length_le_three (h : collectCoinOccurrences job.message job.maxOccurrences job.wrappers =
    .ok occurrences) : occurrences.length ≤ 3 := by
  obtain ⟨⟨⟩, hmax, h⟩ := bind_eq_ok.1 h
  obtain ⟨_, -, h⟩ := bind_eq_ok.1 h
  obtain ⟨_, -, h⟩ := bind_eq_ok.1 h
  obtain ⟨⟨⟩, hcount, h⟩ := bind_eq_ok.1 h
  obtain ⟨_, -, h⟩ := bind_eq_ok.1 h
  obtain ⟨_, -, h⟩ := bind_eq_ok.1 h
  obtain rfl := Except.ok.inj h
  rw [List.length_map, List.length_zipIdx]
  exact (check_eq_ok.1 hcount).2.trans (check_eq_ok.1 hmax).2

theorem Fetched.length_le (h : Fetched job occurrences fetches) :
    fetches.length ≤ occurrences.length := by
  have hsub : fetches.map Fetch.url ⊆ occurrences.map CoinShortOccurrence.sourceValue :=
    fun url hurl => (h.shown url hurl).2
  have hlength := (List.subperm_of_subset h.once hsub).length_le
  rwa [List.length_map, List.length_map] at hlength

theorem Fetched.inOrder (h : Fetched job occurrences fetches) :
    InOrder job occurrences fetches [] 0 where
  toFetched := h
  complete := fun hsome => (hsome.elim (absurd rfl) (absurd rfl))
  sentOnce := List.nodup_nil
  short := fun _ hvalue => by cases hvalue
  bounded := ⟨h.length_le, Nat.zero_le _, length_le_three h.collected⟩
  savedOnce := Nat.zero_le 1

/-- The short links of a message are as few as its links. -/
theorem Resolving.inputs_length_le {todo : List CoinShortOccurrence}
    (h : Resolving job occurrences todo resolved fetches) :
    (resolved.map Prod.snd).eraseDups.length ≤ occurrences.length := by
  have hsub : resolved.map Prod.fst ⊆ occurrences.map CoinShortOccurrence.sourceValue := by
    intro source hsource
    obtain ⟨e, he, rfl⟩ := List.mem_map.1 hsource
    exact (h.resolves e he).2
  have hkeys := (List.subperm_of_subset h.keys hsub).length_le
  have hdistinct := (List.subperm_of_subset (Lookup.nodup_eraseDups (resolved.map Prod.snd))
    fun value hvalue => List.mem_eraseDups.1 hvalue).length_le
  rw [List.length_map, List.length_map] at hkeys
  rw [List.length_map] at hdistinct
  exact hdistinct.trans hkeys

/-- Once every link is resolved, requests for short links are in order. -/
theorem Resolving.inOrder (h : Resolving job occurrences [] resolved fetches)
    (hsends : sends.Sublist (resolved.map Prod.snd).eraseDups) (hsaves : saves ≤ 1) :
    InOrder job occurrences fetches sends saves where
  toFetched := h.toFetched
  complete := by
    intro _ row hrow
    rcases h.reached row hrow with htodo | hkey
    · cases htodo
    · obtain ⟨e, he, hsource⟩ := List.mem_map.1 hkey
      obtain ⟨⟨hshort, hsame | hfetched⟩, -⟩ := h.resolves e he
      · exact Or.inl (hsource ▸ hsame ▸ hshort)
      · exact Or.inr (hsource ▸ hfetched)
  sentOnce := (Lookup.nodup_eraseDups _).sublist hsends
  short := by
    intro value hvalue
    obtain ⟨e, he, rfl⟩ := List.mem_map.1 (List.mem_eraseDups.1 (hsends.subset hvalue))
    exact (h.resolves e he).1.1
  bounded := ⟨h.length_le, hsends.length_le.trans h.inputs_length_le,
    length_le_three h.collected⟩
  savedOnce := hsaves

end Order

/-! ## What a run knows -/

/-- The outcome of an input is a confirmed link for it. -/
def Backed (env : Environment) (history : Generations) (service : CoinService)
    (e : Text × Outcome) : Prop :=
  ∃ g link, e.2.generationId = some g ∧ e.2.promotionLink = some link ∧
    ConfirmedLink env history service e.1 g link

/-- What a run knows while it generates: these inputs are done, and those are left. -/
structure Spending (env : Environment) (history : Generations) (plan : Plan)
    (generated : List (Text × Outcome)) (todo : List Text) (fetches : List Fetch) : Prop
    extends Resolving plan.job plan.occurrences [] plan.resolved fetches where
  inputs : generated.map Prod.fst ++ todo = plan.inputs
  backed : ∀ e ∈ generated, Backed env history plan.job.service e

/-- The request of a call is not sent yet. -/
def Unsent : Phase → Prop
  | .recovering _ _ | .claiming _ _ | .calling _ => True
  | _ => False

instance : DecidablePred Unsent
  | .recovering _ _ | .claiming _ _ | .calling _ => .isTrue trivial
  | .idle | .started _ | .storing _ _ _ | .rejecting _ _ | .closing _ _ => .isFalse id

/-- **What holds at a stage** of a run that was called with `job`: what the run knows, and what
it has done. -/
def Fits (env : Clockwork) (history : Generations) (phase : Phase) (effects : List Effect)
    (job : Job) : Stage → Prop
  | .absent => False
  | .resolving plan todo => plan.job = job ∧ ∃ fetches, effects = fetches.map .fetch ∧
      Resolving plan.job plan.occurrences todo plan.resolved fetches ∧
      ∀ row rest, todo = row :: rest → row.sourceValue ∉ plan.resolved.map Prod.fst
  | .recovering plan | .inspecting plan _ _ => plan.job = job ∧ ∃ fetches,
      effects = fetches.map .fetch ∧ Resolving plan.job plan.occurrences [] plan.resolved fetches
  | .probing plan todo generated => plan.job = job ∧ ∃ (fetches : List Fetch) (sends : List Text),
      effects = fetches.map .fetch ++ sends.map .send ∧
      Spending env.toEnvironment history plan generated todo fetches ∧
      sends.Sublist (generated.map Prod.fst)
  | .generating plan value todo generated => plan.job = job ∧
      ∃ (fetches : List Fetch) (sends : List Text),
      effects = fetches.map .fetch ++ sends.map .send ∧
      Spending env.toEnvironment history plan generated (value :: todo) fetches ∧
      Serves env.toEnvironment history (plan.request env value) phase ∧
      sends.Sublist (generated.map Prod.fst ++ if Unsent phase then [] else [value])
  | .saving plan generated => plan.job = job ∧ ∃ (fetches : List Fetch) (sends : List Text),
      effects = fetches.map .fetch ++ sends.map .send ∧
      Spending env.toEnvironment history plan generated [] fetches ∧
      sends.Sublist (generated.map Prod.fst)
  | .done _ _ | .ended _ => Orderly job effects

section Fits

variable {env : Clockwork} {history history' : Generations} {phase phase' : Phase}
  {effects : List Effect} {job : Job} {stage : Stage} {plan : Plan} {fetches : List Fetch}

theorem Backed.evolves {env : Environment} {service : CoinService} {e : Text × Outcome}
    (h : Backed env history service e) (hevolves : Evolves history history') :
    Backed env history' service e := by
  obtain ⟨g, link, hg, hlink, hconfirmed⟩ := h
  exact ⟨g, link, hg, hlink, hconfirmed.evolves hevolves⟩

theorem Spending.evolves {env : Environment} {generated : List (Text × Outcome)} {todo : List Text}
    (h : Spending env history plan generated todo fetches) (hevolves : Evolves history history') :
    Spending env history' plan generated todo fetches where
  toResolving := h.toResolving
  inputs := h.inputs
  backed := fun e he => (h.backed e he).evolves hevolves

theorem Fits.evolves (h : Fits env history phase effects job stage)
    (hevolves : Evolves history history') : Fits env history' phase effects job stage := by
  cases stage with
  | absent | resolving | recovering | inspecting | done | ended => exact h
  | probing | saving =>
    obtain ⟨hjob, fetches, sends, heffects, hspending, hsends⟩ := h
    exact ⟨hjob, fetches, sends, heffects, hspending.evolves hevolves, hsends⟩
  | generating =>
    obtain ⟨hjob, fetches, sends, heffects, hspending, hserves, hsends⟩ := h
    exact ⟨hjob, fetches, sends, heffects, hspending.evolves hevolves,
      hserves.evolves hevolves, hsends⟩

theorem Fits.rephase (h : Fits env history phase effects job stage)
    (hstage : ∀ plan value todo generated, stage ≠ .generating plan value todo generated) :
    Fits env history phase' effects job stage := by
  cases stage with
  | generating => exact absurd rfl (hstage _ _ _ _)
  | _ => exact h

theorem Spending.sublist_inputs {env : Environment} {generated : List (Text × Outcome)}
    {todo todo' sends : List Text} (h : Spending env history plan generated todo fetches)
    (htodo : todo'.Sublist todo) (hsends : sends.Sublist (generated.map Prod.fst ++ todo')) :
    sends.Sublist plan.inputs :=
  h.inputs ▸ hsends.trans (List.Sublist.append_left htodo _)

theorem Resolving.orderly {occurrences : List CoinShortOccurrence} {resolved : List (Text × Text)}
    {sends : List Text} (h : Resolving job occurrences [] resolved fetches)
    (hsends : sends.Sublist (resolved.map Prod.snd).eraseDups)
    (heffects : effects = fetches.map .fetch ++ sends.map .send) : Orderly job effects :=
  Or.inr ⟨occurrences, fetches, sends, 0, by rw [heffects]; exact (List.append_nil _).symm,
    h.inOrder hsends (Nat.zero_le 1)⟩

theorem Fetched.orderly {occurrences : List CoinShortOccurrence}
    (h : Fetched job occurrences fetches) (heffects : effects = fetches.map .fetch) :
    Orderly job effects :=
  Or.inr ⟨occurrences, fetches, [], 0, by rw [heffects]; simp, h.inOrder⟩

/-- **What a run did is in order**, wherever it stands. -/
theorem Fits.orderly (h : Fits env history phase effects job stage) : Orderly job effects := by
  cases stage with
  | absent => exact h.elim
  | resolving =>
    obtain ⟨rfl, fetches, heffects, hresolving, -⟩ := h
    exact hresolving.toFetched.orderly heffects
  | recovering | inspecting =>
    obtain ⟨rfl, fetches, heffects, hresolving⟩ := h
    exact hresolving.toFetched.orderly heffects
  | probing | saving =>
    obtain ⟨rfl, fetches, sends, heffects, hspending, hsends⟩ := h
    refine hspending.toResolving.orderly ?_ heffects
    exact hspending.sublist_inputs (List.nil_sublist _) (by rwa [List.append_nil])
  | generating =>
    obtain ⟨rfl, fetches, sends, heffects, hspending, -, hsends⟩ := h
    refine hspending.toResolving.orderly (hspending.sublist_inputs ?_ hsends) heffects
    split
    · exact List.nil_sublist _
    · exact List.singleton_sublist.2 List.mem_cons_self
  | done | ended => exact h

/-! ## From stage to stage -/

theorem fits_resolvingStage {todo : List CoinShortOccurrence}
    (h : Resolving plan.job plan.occurrences todo plan.resolved fetches)
    (heffects : effects = fetches.map .fetch) :
    Fits env history phase effects plan.job (resolvingStage plan todo) := by
  obtain ⟨hnext, hnew⟩ := h.advance
  unfold resolvingStage
  dsimp only
  split
  · next heq =>
    rw [heq] at hnext
    exact ⟨rfl, fetches, heffects, hnext⟩
  · next row rest heq =>
    rw [heq] at hnext hnew
    exact ⟨rfl, fetches, heffects, hnext, hnew⟩

theorem fits_begun (sendBudget : Nat) : Fits env history phase [] job (begun job sendBudget) := by
  unfold begun
  split
  · exact Or.inl rfl
  · next occurrences hcollected =>
    split
    · exact Or.inl rfl
    split
    · exact Or.inl rfl
    · let plan : Plan := ⟨job, occurrences, [], []⟩
      have hresolving : Resolving plan.job plan.occurrences occurrences plan.resolved [] :=
        resolving_of_collected hcollected
      exact fits_resolvingStage hresolving rfl

theorem fits_afterWrapper {row : CoinShortOccurrence} {rest : List CoinShortOccurrence}
    (net : SeuHardwareShortResolver.WrapperNetwork Unit) (now : Instant)
    (h : Fits env history phase effects job (.resolving plan (row :: rest))) :
    Fits env history phase
      (effects ++ (SeuHardwareShortResolver.resolve net row.sourceValue).fetches.map .fetch) job
      (afterWrapper env plan row rest now
        (SeuHardwareShortResolver.resolve net row.sourceValue).outcome) := by
  obtain ⟨rfl, fetches, rfl, hresolving, hfresh⟩ := h
  have hnew := hfresh row rest rfl
  obtain ⟨hfetched, honly, hreturned⟩ := hresolving.fetched net hnew
  rw [← List.map_append]
  unfold afterWrapper
  split
  · next link hlink =>
    obtain ⟨hshort, hmem⟩ := hreturned link hlink
    refine fits_resolvingStage (hresolving.found hnew hfetched (List.subset_append_left _ _) ?_
      ⟨hshort, Or.inr ?_⟩) rfl
    · intro url hurl
      rw [List.map_append, List.mem_append] at hurl
      exact hurl.imp_right (honly url)
    · rw [List.map_append]
      exact List.mem_append_right _ hmem
  · exact hfetched.orderly rfl
  · exact hfetched.orderly rfl

theorem fits_afterInspection {todo : List Text} {missing : Nat}
    (missing' sendBudget apiBudget : Nat)
    (h : Fits env history phase effects job (.inspecting plan todo missing)) :
    Fits env history phase effects job (afterInspection plan missing' sendBudget apiBudget) := by
  unfold afterInspection
  split
  · exact h.orderly
  split
  · exact h.orderly
  · obtain ⟨hjob, fetches, heffects, hresolving⟩ := h
    have hnone : effects = fetches.map Effect.fetch ++ ([] : List Text).map .send := by
      rw [heffects, List.map_nil, List.append_nil]
    exact ⟨hjob, fetches, [], hnone, ⟨hresolving, rfl, fun _ he => by cases he⟩,
      List.nil_sublist _⟩

/-- The outcome of an input, whichever it is. -/
theorem fits_afterGeneration {value : Text} {todo sends : List Text}
    {generated : List (Text × Outcome)} {result : Except (Option String) Outcome}
    (h : Spending env.toEnvironment history plan generated (value :: todo) fetches)
    (heffects : effects = fetches.map .fetch ++ sends.map .send)
    (hsends : sends.Sublist (generated.map Prod.fst ++ [value]))
    (hbacked : ∀ o, result = .ok o → o.Usable →
      Backed env.toEnvironment history plan.job.service (value, o)) :
    Fits env history phase effects plan.job (afterGeneration plan value todo generated result) := by
  have horderly : Orderly plan.job effects := by
    refine h.toResolving.orderly (h.sublist_inputs ?_ hsends) heffects
    exact List.singleton_sublist.2 List.mem_cons_self
  unfold afterGeneration
  split
  · exact horderly
  · next o =>
    split
    · next husable =>
      have hdone : (generated ++ [(value, o)]).map Prod.fst = generated.map Prod.fst ++ [value] :=
        List.map_append
      have hspending : Spending env.toEnvironment history plan (generated ++ [(value, o)]) todo
          fetches := by
        refine ⟨h.toResolving, ?_, fun e he => ?_⟩
        · rw [hdone, List.append_assoc]
          exact h.inputs
        · rcases List.mem_append.1 he with he | he
          · exact h.backed e he
          · obtain rfl := List.mem_singleton.1 he
            exact hbacked o rfl husable
      rw [← hdone] at hsends
      split
      · exact ⟨rfl, fetches, sends, heffects, hspending, hsends⟩
      · exact ⟨rfl, fetches, sends, heffects, hspending, hsends⟩
    · exact horderly

/-- A run whose call begins has sent nothing for the input yet. -/
theorem fits_asked {value : Text} {todo : List Text} {generated : List (Text × Outcome)}
    {startedAt : Instant} (hphase : phase' = .recovering (plan.request env value) startedAt)
    (h : Fits env history phase effects job (.probing plan (value :: todo) generated)) :
    Fits env history phase' effects job (.generating plan value todo generated) := by
  obtain ⟨hjob, fetches, sends, heffects, hspending, hsends⟩ := h
  have hunsent : Unsent phase' := by
    rw [hphase]
    trivial
  refine ⟨hjob, fetches, sends, heffects, hspending, ?_, ?_⟩
  · rw [hphase]
    exact rfl
  · rw [if_pos hunsent, List.append_nil]
    exact hsends

theorem orderly_saved {generated : List (Text × Outcome)}
    (h : Fits env history phase effects job (.saving plan generated)) :
    Orderly job (effects ++ [.save]) := by
  obtain ⟨rfl, fetches, sends, heffects, hspending, hsends⟩ := h
  rw [heffects]
  refine Or.inr ⟨plan.occurrences, fetches, sends, 1, rfl,
    hspending.toResolving.inOrder ?_ (Nat.le_refl 1)⟩
  exact hspending.sublist_inputs (List.nil_sublist _) (by rwa [List.append_nil])

theorem not_unsent_of_left (h : Left phase) : ¬ Unsent phase := by
  cases phase with
  | idle | rejecting | closing => exact id
  | _ => exact h.elim

theorem not_unsent_answered {env : Environment} {winner : CoinGeneration.Winner} {now : Instant}
    {answer : CoinGeneration.Answer} :
    ¬ Unsent (CoinGeneration.answered env winner now answer) := by
  cases answer with
  | complete code => exact id
  | response payload =>
    unfold CoinGeneration.answered
    dsimp only
    split <;> exact id

/-- What a run sends in a step of its call. -/
def sentIn (value : Text) : Phase → Phase → List Effect
  | .calling _, .started _ => [.send value]
  | _, _ => []

theorem sentIn_eq_nil {value : Text} (h : ∀ winner, phase' ≠ .started winner) :
    sentIn value phase phase' = [] := by
  cases phase' with
  | started winner => exact absurd rfl (h winner)
  | _ => cases phase <;> rfl

/-- Where a run goes with the result of a step of its call. -/
def stageOf (plan : Plan) (value : Text) (todo : List Text) (generated : List (Text × Outcome)) :
    Option (Except (Option String) Outcome) → Stage
  | some result => afterGeneration plan value todo generated result
  | none => .generating plan value todo generated

/-- **A step of the call of a run** sends nothing but its input, and that when it starts. -/
theorem fits_callStep {t t' : CoinGeneration.CoinTables} {uuid : Nat} {value : Text}
    {todo : List Text} {generated : List (Text × Outcome)}
    {result : Option (Except (Option String) Outcome)}
    (hstep : CallStep env.toEnvironment uuid t t' phase phase' result)
    (h : Fits env t.history phase effects job (.generating plan value todo generated)) :
    Fits env t'.history phase' (effects ++ sentIn value phase phase') job
      (stageOf plan value todo generated result) := by
  obtain ⟨rfl, fetches, sends, heffects, hspending, hserves, hsends⟩ := h
  have hafter := hspending.evolves hstep.evolves
  have hstill := hstep.serves hserves
  have hmore : sends.Sublist (generated.map Prod.fst ++ [value]) := by
    refine hsends.trans (List.Sublist.append_left ?_ _)
    split
    · exact List.nil_sublist _
    · exact List.Sublist.refl _
  have hbacked : ∀ o, result = some (.ok o) → o.Usable →
      Backed env.toEnvironment t'.history plan.job.service (value, o) := by
    rintro o rfl husable
    exact hstep.confirmed hserves rfl husable
  cases hstep with
  | recover | won =>
    rw [sentIn_eq_nil fun _ hstarted => (by cases hstarted), List.append_nil]
    exact ⟨rfl, fetches, sends, heffects, hafter, hstill, hsends⟩
  | lost | store =>
    rw [sentIn_eq_nil fun _ hstarted => (by cases hstarted), List.append_nil]
    exact fits_afterGeneration hafter heffects hmore fun o ho => hbacked o (congrArg some ho)
  | start =>
    refine ⟨rfl, fetches, sends ++ [value], ?_, hafter, hstill, ?_⟩
    · rw [heffects, List.map_append, List.append_assoc]
      rfl
    · have hnone : sends.Sublist (generated.map Prod.fst) := by simpa [Unsent] using hsends
      exact hnone.append (List.Sublist.refl [value])
  | @answer winner now answer _ =>
    have hsent : sentIn value (.started winner)
        (CoinGeneration.answered env.toEnvironment winner now answer) = [] := rfl
    rw [hsent, List.append_nil]
    refine ⟨rfl, fetches, sends, heffects, hafter, hstill, ?_⟩
    rw [if_neg not_unsent_answered]
    exact hmore
  | leave _ hphase hresult =>
    rw [sentIn_eq_nil fun _ hstarted => (by rw [hstarted] at hphase; exact hphase.elim),
      List.append_nil]
    cases result with
    | none =>
      refine ⟨rfl, fetches, sends, heffects, hafter, hstill, ?_⟩
      rw [if_neg (not_unsent_of_left hphase)]
      exact hmore
    | some result =>
      exact fits_afterGeneration hafter heffects hmore fun o ho => hbacked o (congrArg some ho)

end Fits

end MultiPreview
end PromoBot
