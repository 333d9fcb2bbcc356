import Mathlib.Data.List.Dedup
import PromoBot.Lib.QueryString
import PromoBot.Providers.Top

/-!
# What a TOP request carries on the wire

A server sees a URL and a body.  This module reads both back, and compares what is read with
what was signed.

Values are quoted and names are not, so what is read is what was signed when every name is read
as it is written --- and then only (`carriesSigned_iff`).  The common names are such names; a
business name is whatever the caller passes.  Two facts about signing are behind this: no
business name is a common one, whatever the caller passes (`names_signed`), and what is signed
does not depend on the order of the parameters (`canonical_perm`).  The second one is needed
since the signature is taken over all parameters sorted together, while a reader finds the
common ones in the URL and the others in the body.

## Reading back

A statement about the strings `prepare` writes would have to repeat how it writes them.  Here
the request is read the way a server reads it: the query of the URL and the body are parsed as
forms, the pairs are put together, the method is found twice, the signature is taken off, and
what is left is sorted and signed again (`CarriesSigned`).  That is a check a server makes, and
it does not mention `prepare`.

The URL holds the common parameters only.  Their names are known and their values are quoted,
so what a reader finds there is what was written (`wirePairs_of_prepare`), without any
condition.  The body holds the names of the caller.  A name with `&`, `=`, `+` or `%` in it is
read as something else, and then what is read is not what was signed.  The other direction uses
that the names are distinct: were the pairs the right ones all the same, they would have to be
a permutation, and a name which is read as another one has no place in it.
-/

namespace PromoBot
namespace TopRequests

open Fallible LinkGenerate

variable (u : PyUnicode)

/-! ## Reading a request -/

/-- The pairs a reader of the request finds: those of the query of its URL, then those of
its body. -/
def wirePairs (r : PreparedAliExpressTopRequest) : Option (List (Text × Text)) :=
  (PyUrl.urlsplit u r.relativeUrl).map fun parts =>
    PyUrl.parseQsl u parts.query ++ PyUrl.parseQsl u r.encodedForm

/-- The parameters among the pairs that were read, each once and without the signature. -/
def decodedParameters (pairs : List (Text × Text)) : List (Text × Text) :=
  (pairs.filter fun e => e.1 ≠ "sign".toList).dedup

/-- The request carries the `signed` parameters of the operation: each once, the method a
second time, and the signature of what a reader finds; and no name stands for two
parameters. -/
def CarriesSigned (hmac : Text → Text → Text) (secret operation : Text)
    (signed : List (Text × Text)) (r : PreparedAliExpressTopRequest) : Prop :=
  ∃ pairs, wirePairs u r = some pairs ∧
    pairs.Perm (("method".toList, operation) ::
      ("sign".toList, hmac secret (canonical (decodedParameters pairs))) :: signed) ∧
    (signed.map Prod.fst).Nodup

/-! ## The names -/

/-- The names of the common parameters, those included that a request may do without. -/
def commonNames : List Text :=
  ["app_key", "format", "method", "partner_id", "sign_method", "simplify", "timestamp", "v",
    "session", "debug"].map String.toList

theorem names_commonParameters (builder : AliExpressTopRequestBuilder) (operation : Text)
    (timestampMs : Int) (session : Option Text) (debug : Bool) :
    ((commonParameters builder operation timestampMs session debug).map Prod.fst).Sublist
      commonNames := by
  have hnames : commonNames = commonNames.take 8 ++ ["session".toList] ++ ["debug".toList] := rfl
  unfold commonParameters
  rw [hnames, List.map_append, List.map_append]
  refine ((List.Sublist.refl _).append ?_).append ?_
  · split
    · split
      · exact List.Sublist.refl _
      · exact List.nil_sublist _
    · exact List.nil_sublist _
  · split
    · exact List.Sublist.refl _
    · exact List.nil_sublist _

/-- The common names are distinct, reserved, other than that of the signature, and read as
they are written. -/
theorem commonNames_spec : commonNames.Nodup ∧
    ∀ name ∈ commonNames, name ∈ reservedParameterNames ∧ name ≠ "sign".toList ∧
      ∀ c ∈ name, c ∉ ['&', '=', '%', '+'] ∧ c ∉ ['#', '\t', '\r', '\n'] := by
  decide

theorem mem_normalizedParameters {parameters : List (Text × Option Text)} {e : Text × Text}
    (h : e ∈ normalizedParameters parameters) : (e.1, some e.2) ∈ parameters := by
  obtain ⟨⟨name, value⟩, hmem, heq⟩ := List.mem_filterMap.1 h
  cases value with
  | none => cases heq
  | some value =>
    dsimp only at heq
    split at heq
    · obtain rfl := Option.some.inj heq
      exact hmem
    · cases heq

/-- Normalizing keeps the names distinct. -/
theorem nodup_normalizedParameters {parameters : List (Text × Option Text)}
    (h : (parameters.map Prod.fst).Nodup) :
    ((normalizedParameters parameters).map Prod.fst).Nodup := by
  have hsub : ((normalizedParameters parameters).map Prod.fst).Sublist
      (parameters.map Prod.fst) := by
    unfold normalizedParameters
    induction parameters with
    | nil => exact List.Sublist.refl _
    | cons e parameters ih =>
      replace ih := ih (List.nodup_cons.1 h).2
      rw [List.filterMap_cons]
      split
      · exact ih.cons _
      · next e' heq =>
        have hname : e'.1 = e.1 := by
          obtain ⟨name, value⟩ := e
          cases value with
          | none => cases heq
          | some value =>
            dsimp only at heq
            split at heq
            · obtain rfl := Option.some.inj heq
              rfl
            · cases heq
        rw [List.map_cons, List.map_cons, hname]
        exact ih.cons_cons _
  exact h.sublist hsub

/-! ## What is signed -/

/-- Items whose names are distinct are sorted into one list, whatever their order. -/
theorem sortedItems_perm {l l' : List (Text × Text)} (h : l.Perm l')
    (hnodup : (l.map Prod.fst).Nodup) : sortedItems l = sortedItems l' := by
  have htotal : Std.Total fun a b : Text × Text => a.1 ≤ b.1 :=
    ⟨fun a b => le_total a.1 b.1⟩
  have htrans : IsTrans (Text × Text) fun a b => a.1 ≤ b.1 :=
    ⟨fun _ _ _ hab hbc => le_trans hab hbc⟩
  have hperm : (sortedItems l).Perm (sortedItems l') :=
    ((List.perm_insertionSort _ l).trans h).trans (List.perm_insertionSort _ l').symm
  refine hperm.eq_of_pairwise ?_ (List.pairwise_insertionSort _ l)
    (List.pairwise_insertionSort _ l')
  -- Two items of one name are one item.
  intro a b ha hb hab hba
  rw [sortedItems, List.mem_insertionSort] at ha
  rw [sortedItems, List.mem_insertionSort] at hb
  exact List.inj_on_of_nodup_map hnodup ha (h.symm.subset hb) (le_antisymm hab hba)

/-- **What is signed does not depend on the order of the parameters.** -/
theorem canonical_perm {l l' : List (Text × Text)} (h : l.Perm l')
    (hnodup : (l.map Prod.fst).Nodup) : canonical l = canonical l' := by
  rw [canonical, canonical, sortedItems_perm h hnodup]

/-- What a reader finds of the method, the signature and parameters is the parameters,
where they have the method among them and distinct names. -/
theorem decodedParameters_perm {pairs signed : List (Text × Text)} {operation sign : Text}
    (h : pairs.Perm (("method".toList, operation) :: ("sign".toList, sign) :: signed))
    (hmethod : ("method".toList, operation) ∈ signed)
    (hsign : ∀ e ∈ signed, e.1 ≠ "sign".toList) (hnodup : (signed.map Prod.fst).Nodup) :
    (decodedParameters pairs).Perm signed := by
  have hkept : (("method".toList, operation) :: ("sign".toList, sign) :: signed).filter
      (fun e => e.1 ≠ "sign".toList) = ("method".toList, operation) :: signed := by
    have hname : "method".toList ≠ "sign".toList := by decide
    rw [List.filter_cons, if_pos (decide_eq_true hname), List.filter_cons, if_neg (by simp),
      List.filter_eq_self.2 fun e he => decide_eq_true (hsign e he)]
  have hperm := (h.filter fun e => e.1 ≠ "sign".toList).dedup
  rw [hkept, List.dedup_cons_of_mem hmethod, (List.Nodup.of_map _ hnodup).dedup] at hperm
  exact hperm

/-! ## Prepared requests -/

section Prepared

variable {hmac : Text → Text → Text} {builder : AliExpressTopRequestBuilder} {operation : Text}
  {businessParameters : PyDict Text (Option Text)} {timestampMs : Int} {session : Option Text}
  {debug : Bool} {r : PreparedAliExpressTopRequest}

/-- What a request is prepared from, and what `prepare` makes of it. -/
theorem prepare_eq_ok
    (h : prepare hmac builder operation businessParameters timestampMs session debug = .ok r) :
    (∀ e ∈ businessParameters.items, e.1 ∉ reservedParameterNames) ∧
    r.path = "/sync".toList ∧
    r.queryPairs = ("method".toList, operation) ::
      sortedItems (commonParameters builder operation timestampMs session debug ++
        [("sign".toList, hmac builder.appSecret
          (canonical (commonParameters builder operation timestampMs session debug ++
            normalizedParameters businessParameters.items)))]) ∧
    r.formPairs = sortedItems (normalizedParameters businessParameters.items) := by
  obtain ⟨_, -, h⟩ := bind_eq_ok.1 h
  obtain ⟨_, hreserved, h⟩ := bind_eq_ok.1 h
  obtain rfl := Except.ok.inj h
  exact ⟨check_eq_ok.1 hreserved, rfl, rfl, rfl⟩

variable (builder operation timestampMs session debug) in
/-- **No business parameter overrides a common one**: the names that are signed are
distinct, and the signature's is none of them. -/
theorem names_signed (hreserved : ∀ e ∈ businessParameters.items, e.1 ∉ reservedParameterNames) :
    ((commonParameters builder operation timestampMs session debug ++
        normalizedParameters businessParameters.items).map Prod.fst).Nodup ∧
      ∀ e ∈ commonParameters builder operation timestampMs session debug ++
        normalizedParameters businessParameters.items, e.1 ≠ "sign".toList := by
  have hnames := names_commonParameters builder operation timestampMs session debug
  have hbusiness : ∀ e ∈ normalizedParameters businessParameters.items,
      e.1 ∉ reservedParameterNames := fun e he =>
    hreserved _ (mem_normalizedParameters he)
  constructor
  · rw [List.map_append]
    refine List.Nodup.append (commonNames_spec.1.sublist hnames)
      (nodup_normalizedParameters businessParameters.nodup) ?_
    intro name hcommon hname
    obtain ⟨e, he, rfl⟩ := List.mem_map.1 hname
    exact hbusiness e he (commonNames_spec.2 _ (hnames.subset hcommon)).1
  · intro e he
    rcases List.mem_append.1 he with he | he
    · exact (commonNames_spec.2 _ (hnames.subset (List.mem_map_of_mem he))).2.1
    · intro hsign
      refine hbusiness e he ?_
      rw [hsign]
      decide

/-- A name of the URL is a common one, or that of the signature. -/
theorem name_of_mem_queryPairs {value : Text} {e : Text × Text}
    (h : e ∈ ("method".toList, operation) ::
      sortedItems (commonParameters builder operation timestampMs session debug ++
        [("sign".toList, value)])) : e.1 ∈ "sign".toList :: commonNames := by
  have hnames := names_commonParameters builder operation timestampMs session debug
  rcases List.mem_cons.1 h with rfl | h
  · have hmethod : "method".toList ∈ "sign".toList :: commonNames := by decide
    exact hmethod
  · rw [sortedItems, List.mem_insertionSort, List.mem_append] at h
    rcases h with h | h
    · exact List.mem_cons_of_mem _ (hnames.subset (List.mem_map_of_mem h))
    · rw [List.mem_singleton.1 h]
      exact List.mem_cons_self

/-- **What a reader finds in the URL is what was written there.** -/
theorem wirePairs_of_prepare (hu : u.DecodesUtf8)
    (h : prepare hmac builder operation businessParameters timestampMs session debug = .ok r) :
    wirePairs u r = some (r.queryPairs ++ PyUrl.parseQsl u r.encodedForm) := by
  obtain ⟨-, hpath, hquery, -⟩ := prepare_eq_ok h
  have hnames : ∀ name ∈ "sign".toList :: commonNames,
      ∀ c ∈ name, c ∉ ['&', '=', '%', '+'] ∧ c ∉ ['#', '\t', '\r', '\n'] := by
    intro name hname
    rcases List.mem_cons.1 hname with rfl | hname
    · decide
    · exact (commonNames_spec.2 name hname).2.2
  have hplain : ∀ e ∈ r.queryPairs, PyUrl.PlainName u e.1 := by
    intro e he
    rw [hquery] at he
    exact PyUrl.plainName_of_not_mem u fun c hc =>
      (hnames e.1 (name_of_mem_queryPairs he) c hc).1
  have hsafe : ∀ c ∈ PyUrl.writePairs r.queryPairs, c ∉ ['#', '\t', '\r', '\n'] := by
    intro c hc
    rcases PyUrl.mem_writePairs hc with rfl | rfl | ⟨e, he, hc | hc⟩
    · decide
    · decide
    · rw [hquery] at he
      exact (hnames e.1 (name_of_mem_queryPairs he) c hc).2
    · intro hmem
      exact (PyUrl.plain_of_mem_quotePlus hc).2
        (List.mem_cons_of_mem _ (List.mem_cons_of_mem _ hmem))
  have hurl : r.relativeUrl = '/' :: "sync".toList ++ '?' :: PyUrl.writePairs r.queryPairs := by
    rw [PreparedAliExpressTopRequest.relativeUrl, hpath]
    rfl
  rw [wirePairs, hurl, PyUrl.urlsplit_relative u (by decide) (by decide) hsafe, Option.map_some,
    PyUrl.parseQsl_writePairs_of_plain u hu hplain]

/-- A request carries what was signed when every business name is read as it is written, and
only then. -/
theorem carriesSigned_iff_plain (hu : u.DecodesUtf8)
    (h : prepare hmac builder operation businessParameters timestampMs session debug = .ok r) :
    CarriesSigned u hmac builder.appSecret operation
        (commonParameters builder operation timestampMs session debug ++
          normalizedParameters businessParameters.items) r ↔
      ∀ e ∈ normalizedParameters businessParameters.items, PyUrl.PlainName u e.1 := by
  obtain ⟨hreserved, -, hquery, hform⟩ := prepare_eq_ok h
  obtain ⟨hnodup, hsign⟩ := names_signed builder operation timestampMs session debug hreserved
  have hmethod : ("method".toList, operation) ∈
      commonParameters builder operation timestampMs session debug ++
        normalizedParameters businessParameters.items := by
    refine List.mem_append_left _ (List.mem_append_left _ (List.mem_append_left _ ?_))
    exact List.mem_cons_of_mem _ (List.mem_cons_of_mem _ List.mem_cons_self)
  have hwire := wirePairs_of_prepare u hu h
  have hbody : PyUrl.parseQsl u r.encodedForm = PyUrl.parseQsl u (PyUrl.writePairs
      (sortedItems (normalizedParameters businessParameters.items))) := by
    rw [PreparedAliExpressTopRequest.encodedForm, hform]
    rfl
  rw [hbody, hquery] at hwire
  clear hbody hquery hform
  generalize commonParameters builder operation timestampMs session debug = common at *
  generalize normalizedParameters businessParameters.items = business at *
  generalize hvalue : hmac builder.appSecret (canonical (common ++ business)) = sign at *
  have hsorted : (sortedItems business).Perm business := List.perm_insertionSort _ business
  -- What is read, with the signature in front.
  have hread : ∀ body : List (Text × Text),
      ((("method".toList, operation) :: sortedItems (common ++ [("sign".toList, sign)])) ++
        body).Perm (("method".toList, operation) :: ("sign".toList, sign) :: (common ++ body)) := by
    intro body
    have hcommon : (sortedItems (common ++ [("sign".toList, sign)])).Perm
        (("sign".toList, sign) :: common) :=
      (List.perm_insertionSort _ _).trans (List.perm_append_singleton _ _)
    exact (hcommon.append_right body).cons _
  constructor
  · rintro ⟨pairs, hpairs, hperm, -⟩
    obtain rfl := Option.some.inj (hwire.symm.trans hpairs)
    replace hperm := ((hread _).symm.trans hperm).cons_inv
    -- The only pair named as the signature is the signature.
    obtain heq : ("sign".toList, sign) = _ := by
      rcases List.mem_cons.1 (hperm.subset List.mem_cons_self) with heq | hmem
      · exact heq
      · exact absurd rfl (hsign _ hmem)
    rw [← heq] at hperm
    have hbody := (List.perm_append_left_iff common).1 hperm.cons_inv
    have hplain := PyUrl.plain_of_perm_parseQsl u hu (hbody.trans hsorted.symm)
    exact fun e he => hplain e (hsorted.symm.subset he)
  · intro hplain
    rw [PyUrl.parseQsl_writePairs_of_plain u hu fun e he => hplain e (hsorted.subset he)] at hwire
    have hperm := (hread (sortedItems business)).trans
      (((hsorted.append_left common).cons ("sign".toList, sign)).cons ("method".toList, operation))
    have hdecoded := decodedParameters_perm hperm hmethod hsign hnodup
    refine ⟨_, hwire, ?_, hnodup⟩
    rw [← canonical_perm hdecoded.symm hnodup, hvalue]
    exact hperm

/-- **The TOP request on the wire carries exactly what was signed**, when every business name
is read as it is written, and only then.  However the names are read, no business parameter
takes the place of a common one or of the signature. -/
theorem carriesSigned_iff (hu : u.DecodesUtf8)
    (h : prepare hmac builder operation businessParameters timestampMs session debug = .ok r) :
    (((commonParameters builder operation timestampMs session debug ++
        normalizedParameters businessParameters.items).map Prod.fst).Nodup ∧
      ∀ e ∈ commonParameters builder operation timestampMs session debug ++
        normalizedParameters businessParameters.items, e.1 ≠ "sign".toList) ∧
    (CarriesSigned u hmac builder.appSecret operation
        (commonParameters builder operation timestampMs session debug ++
          normalizedParameters businessParameters.items) r ↔
      ∀ e ∈ normalizedParameters businessParameters.items, PyUrl.PlainName u e.1) :=
  ⟨names_signed builder operation timestampMs session debug (prepare_eq_ok h).1,
    carriesSigned_iff_plain u hu h⟩

end Prepared

/-! ## Two requests -/

/-- The parameters of a request for one product. -/
def productRequest : PyDict Text (Option Text) :=
  ⟨[("product_ids".toList, some "100".toList), ("fields".toList, none)], by decide⟩

/-- Parameters with a separator in a name. -/
def separatorRequest : PyDict Text (Option Text) := ⟨[("a&b".toList, some "c".toList)], by decide⟩

/-- The request for one product carries what was signed. -/
theorem carriesSigned_productRequest : ∃ r,
    prepare (fun _ _ => "AB".toList) ⟨"key".toList, "secret".toList⟩ productDetail productRequest 1
        none false = .ok r ∧
      CarriesSigned PyUnicode.utf8Reader (fun _ _ => "AB".toList) "secret".toList productDetail
        (commonParameters ⟨"key".toList, "secret".toList⟩ productDetail 1 none false ++
          normalizedParameters productRequest.items) r := by
  obtain ⟨r, hr⟩ : ∃ r, prepare (fun _ _ => "AB".toList) ⟨"key".toList, "secret".toList⟩
      productDetail productRequest 1 none false = .ok r := ⟨_, rfl⟩
  exact ⟨r, hr, (carriesSigned_iff _ PyUnicode.utf8Reader_decodesUtf8 hr).2.2 (by decide)⟩

/-- The request with the separator does not: a reader finds one pair too many. -/
theorem not_carriesSigned_separatorRequest : ∃ r,
    prepare (fun _ _ => "AB".toList) ⟨"key".toList, "secret".toList⟩ productDetail separatorRequest
        1 none false = .ok r ∧
      ¬ CarriesSigned PyUnicode.utf8Reader (fun _ _ => "AB".toList) "secret".toList productDetail
        (commonParameters ⟨"key".toList, "secret".toList⟩ productDetail 1 none false ++
          normalizedParameters separatorRequest.items) r := by
  refine ⟨_, rfl, ?_⟩
  rintro ⟨pairs, hpairs, hperm, -⟩
  have hlength := congrArg (Option.map List.length) hpairs
  rw [Option.map_some, hperm.length_eq, List.length_cons, List.length_cons] at hlength
  revert hlength
  decide +kernel

end TopRequests
end PromoBot
