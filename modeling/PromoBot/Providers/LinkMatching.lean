import Mathlib.Data.List.Nodup
import Mathlib.Data.List.Perm.Subperm
import Mathlib.Data.Option.Basic
import PromoBot.Lib.Lookup
import PromoBot.Providers.LinkGenerate

/-!
# The links of an answer are matched by product

`parse_link_generate` goes through the items of an answer one by one, and refuses an item of a
product which it had before.  What it makes of one item depends on nothing else
(`parseItem_eq_ok_iff`), so where it accepts, the items are those of the requested products,
each once, and their order does not matter.

`parseLinkGenerate_matched` is the whole of it.

## What could go wrong

The request is a list of addresses joined by commas, and the answer a list of items, each with
the address it is for and a link.  The provider does not promise an order, may answer with an
address in another spelling, may leave one out and may list one twice.  A parser which took the
items by position would give products the links of others, and no later check could tell.  This
one goes by product: it reads the product off the address of the item, asks whether it was
requested, and puts the link under it.

The result is in the order of the request, so it has to be shown that each product finds its
own item there.  `parseItems_eq_ok_iff` turns the loop, which carries a dictionary, into a
statement about the list: each item is accepted for itself and no product comes twice.  As
there are as many items as products (`perm_of_accepted`), the items are a permutation of the
request, and a lookup in a permutation of distinct keys does not depend on the order.  That is
the second half of the theorem: an answer with its items in any other order parses to the same.
-/

namespace PromoBot
namespace LinkGenerate

open Fallible Lookup

variable {u : PyUnicode} {requestedIds : List Text} {raw : Json} {raws : List Json}
  {entry : Text × PromotionLinkMapping}
  {byProductId entries : List (Text × PromotionLinkMapping)}

/-! ## One item -/

/-- The product an item of an answer is for. -/
def itemProductId (u : PyUnicode) : Json → Option Text
  | .obj item =>
    (optionalText (Json.get item "source_value")).toOption.join.bind (aliexpressProductId u)
  | _ => none

/-- The link of an item, with the source it is for. -/
def itemMapping : Json → Option PromotionLinkMapping
  | .obj item =>
    (optionalText (Json.get item "source_value")).toOption.join.bind fun source =>
      (optionalText (Json.get item "promotion_link")).toOption.join.map fun link => ⟨source, link⟩
  | _ => none

/-- What was parsed before matters only where it has the product of the item. -/
theorem parseItem_eq_ok_iff : parseItem u requestedIds byProductId raw = .ok entry ↔
    parseItem u requestedIds [] raw = .ok entry ∧ byProductId.lookup entry.1 = none := by
  constructor
  · intro h
    obtain ⟨item, hitem, h⟩ := bind_eq_ok.1 h
    obtain ⟨source, hsource, h⟩ := bind_eq_ok.1 h
    obtain ⟨productId, hid, h⟩ := bind_eq_ok.1 h
    obtain ⟨_, hnew, h⟩ := bind_eq_ok.1 h
    obtain ⟨_, hrequested, h⟩ := bind_eq_ok.1 h
    obtain ⟨link, hlink, h⟩ := bind_eq_ok.1 h
    obtain ⟨_, hvalid, h⟩ := bind_eq_ok.1 h
    obtain rfl := Except.ok.inj h
    refine ⟨?_, check_eq_ok.1 hnew⟩
    refine bind_eq_ok.2 ⟨item, hitem, bind_eq_ok.2 ⟨source, hsource, bind_eq_ok.2 ⟨productId, hid,
      bind_eq_ok.2 ⟨⟨⟩, check_eq_ok.2 rfl, bind_eq_ok.2 ⟨⟨⟩, hrequested, ?_⟩⟩⟩⟩⟩
    exact bind_eq_ok.2 ⟨link, hlink, bind_eq_ok.2 ⟨⟨⟩, hvalid, rfl⟩⟩
  · rintro ⟨h, hnew⟩
    obtain ⟨item, hitem, h⟩ := bind_eq_ok.1 h
    obtain ⟨source, hsource, h⟩ := bind_eq_ok.1 h
    obtain ⟨productId, hid, h⟩ := bind_eq_ok.1 h
    obtain ⟨_, -, h⟩ := bind_eq_ok.1 h
    obtain ⟨_, hrequested, h⟩ := bind_eq_ok.1 h
    obtain ⟨link, hlink, h⟩ := bind_eq_ok.1 h
    obtain ⟨_, hvalid, h⟩ := bind_eq_ok.1 h
    obtain rfl := Except.ok.inj h
    refine bind_eq_ok.2 ⟨item, hitem, bind_eq_ok.2 ⟨source, hsource, bind_eq_ok.2 ⟨productId, hid,
      bind_eq_ok.2 ⟨⟨⟩, check_eq_ok.2 hnew, bind_eq_ok.2 ⟨⟨⟩, hrequested, ?_⟩⟩⟩⟩⟩
    exact bind_eq_ok.2 ⟨link, hlink, bind_eq_ok.2 ⟨⟨⟩, hvalid, rfl⟩⟩

/-- What an accepted item says. -/
theorem parseItem_spec (h : parseItem u requestedIds byProductId raw = .ok entry) :
    itemProductId u raw = some entry.1 ∧ itemMapping raw = some entry.2 ∧
      entry.1 ∈ requestedIds := by
  obtain ⟨item, hitem, h⟩ := bind_eq_ok.1 h
  obtain ⟨source, hsource, h⟩ := bind_eq_ok.1 h
  obtain ⟨productId, hid, h⟩ := bind_eq_ok.1 h
  obtain ⟨_, -, h⟩ := bind_eq_ok.1 h
  obtain ⟨_, hrequested, h⟩ := bind_eq_ok.1 h
  obtain ⟨link, hlink, h⟩ := bind_eq_ok.1 h
  obtain ⟨_, -, h⟩ := bind_eq_ok.1 h
  obtain rfl := Except.ok.inj h
  obtain rfl := mapping_eq_ok hitem
  have hsource' := toOption_eq_some.2 (requiredText_eq_ok hsource)
  have hlink' := toOption_eq_some.2 (requiredText_eq_ok hlink)
  refine ⟨?_, ?_, check_eq_ok.1 hrequested⟩
  · unfold itemProductId
    dsimp only
    rw [hsource']
    exact orRaise_eq_ok.1 hid
  · unfold itemMapping
    dsimp only
    rw [hsource', hlink']
    rfl

/-! ## All items -/

/-- **What the loop over the items makes of them**: every item is accepted for itself, and no
product comes twice. -/
theorem parseItems_eq_ok_iff : parseItems u requestedIds byProductId raws = .ok entries ↔
    ∃ es, List.Forall₂ (fun raw e => parseItem u requestedIds [] raw = .ok e) raws es ∧
      (es.map Prod.fst).Nodup ∧ (∀ e ∈ es, byProductId.lookup e.1 = none) ∧
      entries = es.reverse ++ byProductId := by
  induction raws generalizing byProductId with
  | nil =>
    constructor
    · intro h
      obtain rfl := Except.ok.inj h
      exact ⟨[], .nil, List.nodup_nil, nofun, rfl⟩
    · rintro ⟨es, hes, -, -, rfl⟩
      cases hes
      rfl
  | cons raw raws ih =>
    constructor
    · intro h
      obtain ⟨entry, hentry, h⟩ := bind_eq_ok.1 h
      obtain ⟨hentry, hnew⟩ := parseItem_eq_ok_iff.1 hentry
      obtain ⟨es, hes, hnodup, hfresh, rfl⟩ := ih.1 h
      have hother : ∀ e ∈ es, e.1 ≠ entry.1 ∧ byProductId.lookup e.1 = none := by
        intro e he
        have hnone := lookup_eq_none_iff_not_mem.1 (hfresh e he)
        rw [List.map_cons, List.mem_cons, not_or] at hnone
        exact ⟨hnone.1, lookup_eq_none_iff_not_mem.2 hnone.2⟩
      refine ⟨entry :: es, .cons hentry hes, ?_, ?_, ?_⟩
      · rw [List.map_cons, List.nodup_cons]
        refine ⟨fun hmem => ?_, hnodup⟩
        obtain ⟨e, he, hkey⟩ := List.mem_map.1 hmem
        exact (hother e he).1 hkey
      · intro e he
        rcases List.mem_cons.1 he with rfl | he
        · exact hnew
        · exact (hother e he).2
      · rw [List.reverse_cons, List.append_assoc, List.singleton_append]
    · rintro ⟨es, hes, hnodup, hfresh, rfl⟩
      cases hes with
      | @cons _ entry _ es hentry hes =>
        rw [List.map_cons, List.nodup_cons] at hnodup
        refine bind_eq_ok.2 ⟨entry, parseItem_eq_ok_iff.2 ⟨hentry, hfresh entry List.mem_cons_self⟩,
          ih.2 ⟨es, hes, hnodup.2, fun e he => ?_, ?_⟩⟩
        · rw [lookup_eq_none_iff_not_mem, List.map_cons, List.mem_cons, not_or]
          refine ⟨fun heq => hnodup.1 (heq ▸ List.mem_map_of_mem he), ?_⟩
          exact lookup_eq_none_iff_not_mem.1 (hfresh e (List.mem_cons_of_mem entry he))
        · rw [List.reverse_cons, List.append_assoc, List.singleton_append]

theorem parseItems_nil_eq_ok_iff : parseItems u requestedIds [] raws = .ok entries ↔
    ∃ es, List.Forall₂ (fun raw e => parseItem u requestedIds [] raw = .ok e) raws es ∧
      (es.map Prod.fst).Nodup ∧ entries = es.reverse := by
  rw [parseItems_eq_ok_iff]
  constructor
  · rintro ⟨es, hes, hnodup, -, rfl⟩
    exact ⟨es, hes, hnodup, List.append_nil _⟩
  · rintro ⟨es, hes, hnodup, rfl⟩
    exact ⟨es, hes, hnodup, fun _ _ => rfl, (List.append_nil _).symm⟩

/-! ## Answers -/

/-- The answers agree but for the order of their items. -/
def Reordered (payload payload' : List (String × Json)) : Prop :=
  ∃ result result' items items',
    respResult payload "aliexpress_affiliate_link_generate_response" = .ok result ∧
    respResult payload' "aliexpress_affiliate_link_generate_response" = .ok result' ∧
    Json.get result "promotion_links" = .arr items ∧
    Json.get result' "promotion_links" = .arr items' ∧ items'.Perm items ∧
    ∀ key, key ≠ "promotion_links" → Json.get result' key = Json.get result key

theorem confirmTracking_eq_ok {returned : Json} {expected : Text} {x : Unit}
    (h : confirmTracking returned expected = .ok x) : returned = .str expected := by
  unfold confirmTracking at h
  split at h
  · cases h
  · cases h
  · rw [check_eq_ok.1 h]
  · cases h

/-- A parse that succeeds, taken apart. -/
theorem parseLinkGenerate_eq_ok {payload : List (String × Json)} {requested : List Text}
    {trackingId : Text} {mappings : List PromotionLinkMapping} :
    parseLinkGenerate u payload requested trackingId = .ok mappings ↔
      ∃ ids result items es, trackingId ≠ [] ∧
        List.Forall₂ (fun source id => aliexpressProductId u source = some id) requested ids ∧
        (requested ≠ [] ∧ ids.Nodup) ∧
        respResult payload "aliexpress_affiliate_link_generate_response" = .ok result ∧
        confirmTracking (Json.get result "tracking_id") trackingId = .ok () ∧
        Json.get result "promotion_links" = .arr items ∧ items.length = requested.length ∧
        (List.Forall₂ (fun raw e => parseItem u ids [] raw = .ok e) items es ∧
          (es.map Prod.fst).Nodup) ∧
        List.Forall₂ (fun id m => (id, m) ∈ es) ids mappings := by
  have hlookup : ∀ {es : List (Text × PromotionLinkMapping)} (_ : (es.map Prod.fst).Nodup)
      (id : Text) (m : PromotionLinkMapping),
      es.reverse.lookup id = some m ↔ (id, m) ∈ es := by
    intro es hes id m
    have hreverse : (es.reverse.map Prod.fst).Nodup := by
      rw [List.map_reverse, List.nodup_reverse]
      exact hes
    rw [lookup_eq_some_iff_mem hreverse, List.mem_reverse]
  constructor
  · intro h
    obtain ⟨_, htracking, h⟩ := bind_eq_ok.1 h
    obtain ⟨ids, hids, h⟩ := bind_eq_ok.1 h
    obtain ⟨_, hunique, h⟩ := bind_eq_ok.1 h
    obtain ⟨result, hresult, h⟩ := bind_eq_ok.1 h
    obtain ⟨_, hconfirmed, h⟩ := bind_eq_ok.1 h
    obtain ⟨items, hitems, h⟩ := bind_eq_ok.1 h
    obtain ⟨_, hcount, h⟩ := bind_eq_ok.1 h
    obtain ⟨entries, hentries, h⟩ := bind_eq_ok.1 h
    obtain ⟨es, hes, hnodup, rfl⟩ := parseItems_nil_eq_ok_iff.1 hentries
    refine ⟨ids, result, items, es, check_eq_ok.1 htracking,
      (mapM_eq_ok.1 hids).imp fun _ _ hid => orRaise_eq_ok.1 hid, check_eq_ok.1 hunique, hresult,
      hconfirmed, list_eq_ok hitems, check_eq_ok.1 hcount, ⟨hes, hnodup⟩, ?_⟩
    exact (mapM_eq_ok.1 h).imp fun id m hm => (hlookup hnodup id m).1 (orRaise_eq_ok.1 hm)
  · rintro ⟨ids, result, items, es, htracking, hids, hunique, hresult, hconfirmed, hitems, hcount,
      ⟨hes, hnodup⟩, hmappings⟩
    refine bind_eq_ok.2 ⟨⟨⟩, check_eq_ok.2 htracking, bind_eq_ok.2 ⟨ids, ?_, ?_⟩⟩
    · exact mapM_eq_ok.2 (hids.imp fun _ _ hid => orRaise_eq_ok.2 hid)
    refine bind_eq_ok.2 ⟨⟨⟩, check_eq_ok.2 hunique, bind_eq_ok.2 ⟨result, hresult,
      bind_eq_ok.2 ⟨⟨⟩, hconfirmed, bind_eq_ok.2 ⟨items, ?_, ?_⟩⟩⟩⟩
    · rw [hitems]
      rfl
    refine bind_eq_ok.2 ⟨⟨⟩, check_eq_ok.2 hcount, bind_eq_ok.2 ⟨es.reverse,
      parseItems_nil_eq_ok_iff.2 ⟨es, hes, hnodup, rfl⟩, mapM_eq_ok.2 ?_⟩⟩
    exact hmappings.imp fun id m hm => orRaise_eq_ok.2 ((hlookup hnodup id m).2 hm)

theorem perm_of_accepted {ids : List Text} {items : List Json}
    {es : List (Text × PromotionLinkMapping)}
    (hes : List.Forall₂ (fun raw e => parseItem u ids [] raw = .ok e) items es)
    (hnodup : (es.map Prod.fst).Nodup) (hlength : items.length = ids.length) :
    (es.map Prod.fst).Perm ids := by
  have hsubset : es.map Prod.fst ⊆ ids := by
    intro id hid
    obtain ⟨e, he, rfl⟩ := List.mem_map.1 hid
    obtain ⟨raw, -, hraw⟩ := exists_of_mem_right hes he
    exact (parseItem_spec hraw).2.2
  refine (List.subperm_of_subset hnodup hsubset).perm_of_length_le ?_
  rw [List.length_map, ← hes.length_eq, hlength]

theorem map_eq_map_some {α : Type} {β : Type} {f : α → Option β} {l : List α} {l' : List β}
    (h : List.Forall₂ (fun a b => f a = some b) l l') : l.map f = l'.map some := by
  induction h with
  | nil => rfl
  | cons hab _ ih => rw [List.map_cons, List.map_cons, hab, ih]

/-- **The links of an accepted answer are matched by product.**  Its tracking is the expected
one, its items are for the requested products, each once, and the result has, in the order of
the request, the item of each product; in whatever order the answer lists its items, the result
is the same. -/
theorem parseLinkGenerate_matched (u : PyUnicode) (payload : List (String × Json))
    (requested : List Text) (trackingId : Text) (mappings : List PromotionLinkMapping)
    (h : parseLinkGenerate u payload requested trackingId = .ok mappings) :
    (∃ result items,
      respResult payload "aliexpress_affiliate_link_generate_response" = .ok result ∧
      Json.get result "tracking_id" = .str trackingId ∧
      Json.get result "promotion_links" = .arr items ∧
      (∀ source ∈ requested, (aliexpressProductId u source).isSome) ∧
      (requested.map (aliexpressProductId u)).Nodup ∧
      (items.map (itemProductId u)).Perm (requested.map (aliexpressProductId u)) ∧
      List.Forall₂ (fun source m => ∃ item ∈ items,
        itemProductId u item = aliexpressProductId u source ∧ itemMapping item = some m)
        requested mappings) ∧
    ∀ payload', Reordered payload payload' →
      parseLinkGenerate u payload' requested trackingId = .ok mappings := by
  obtain ⟨ids, result, items, es, htracking, hids, hunique, hresult, hconfirmed, hitems, hcount,
    ⟨hes, hnodup⟩, hmappings⟩ := parseLinkGenerate_eq_ok.1 h
  have hlength : items.length = ids.length := hcount.trans hids.length_eq
  have hproducts : items.map (itemProductId u) = (es.map Prod.fst).map some := by
    refine map_eq_map_some ?_
    rw [List.forall₂_map_right_iff]
    exact hes.imp fun raw e hraw => (parseItem_spec hraw).1
  constructor
  · refine ⟨result, items, hresult, confirmTracking_eq_ok hconfirmed, hitems, ?_, ?_, ?_, ?_⟩
    · intro source hsource
      obtain ⟨id, -, hid⟩ := exists_of_mem_right hids.flip hsource
      rw [show aliexpressProductId u source = some id from hid]
      rfl
    · rw [map_eq_map_some hids]
      exact hunique.2.map (Option.some_injective _)
    · rw [hproducts, map_eq_map_some hids]
      exact (perm_of_accepted hes hnodup hlength).map some
    · refine forall₂_chain hids hmappings fun source id m hid hm => ?_
      obtain ⟨raw, hraw, hparsed⟩ := exists_of_mem_right hes hm
      obtain ⟨hproduct, hmapping, -⟩ := parseItem_spec hparsed
      exact ⟨raw, hraw, hproduct.trans hid.symm, hmapping⟩
  · rintro payload' ⟨result₀, result', items₀, items', hresult₀, hresult', hitems₀, hitems', hperm,
      hsame⟩
    obtain rfl := Except.ok.inj (hresult.symm.trans hresult₀)
    obtain rfl := Json.arr.inj (hitems.symm.trans hitems₀)
    -- the accepted items are accepted in any order
    obtain ⟨es', hes', hperm'⟩ := List.perm_comp_forall₂ hperm hes
    have hnodup' : (es'.map Prod.fst).Nodup := (hperm'.map Prod.fst).nodup_iff.2 hnodup
    refine parseLinkGenerate_eq_ok.2 ⟨ids, result', items', es', htracking, hids, hunique, hresult',
      ?_, hitems', hperm.length_eq.trans hcount, ⟨hes', hnodup'⟩, ?_⟩
    · rw [hsame "tracking_id" (by decide)]
      exact hconfirmed
    · exact hmappings.imp fun id m hm => hperm'.mem_iff.2 hm

def itemOf (product link : String) : Json :=
  .obj [("source_value", .str ("https://pt.aliexpress.com/item/" ++ product ++ ".html").toList),
    ("promotion_link", .str ("https://s.click.aliexpress.com/" ++ link).toList)]

/-- An answer with these items. -/
def answerWith (items : List Json) : List (String × Json) :=
  [("resp_result", .obj [("resp_code", .int 200),
    ("result", .obj [("tracking_id", .str "t".toList), ("promotion_links", .arr items)])])]

/-- Two items in the order of the request, and in the other one. -/
theorem parseLinkGenerate_matched_swapped :
    parseLinkGenerate .ascii (answerWith [itemOf "1005002" "b", itemOf "1005001" "a"])
      ["https://pt.aliexpress.com/item/1005001.html".toList,
        "https://pt.aliexpress.com/item/1005002.html".toList] "t".toList =
      .ok [⟨"https://pt.aliexpress.com/item/1005001.html".toList,
          "https://s.click.aliexpress.com/a".toList⟩,
        ⟨"https://pt.aliexpress.com/item/1005002.html".toList,
          "https://s.click.aliexpress.com/b".toList⟩] := by
  refine (parseLinkGenerate_matched .ascii
    (answerWith [itemOf "1005001" "a", itemOf "1005002" "b"]) _ "t".toList _ ?_).2 _ ?_
  · decide +kernel
  · refine ⟨[("tracking_id", .str "t".toList),
        ("promotion_links", .arr [itemOf "1005001" "a", itemOf "1005002" "b"])],
      [("tracking_id", .str "t".toList),
        ("promotion_links", .arr [itemOf "1005002" "b", itemOf "1005001" "a"])], _, _, rfl, rfl, rfl,
      rfl, .swap _ _ _, fun key hkey => ?_⟩
    simp [Json.get, List.lookup_cons, beq_eq_false_iff_ne.2 hkey]

end LinkGenerate
end PromoBot
