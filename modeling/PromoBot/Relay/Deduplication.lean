import PromoBot.Relay.Links

/-!
# One retained link for each product

Over any run of the relay on any messages, with attempts that fail, die and are made again,
what is recorded stays, and there is one item and one candidate for each identity: the unique
constraints see to it.

That one link of each identity is retained, and every other one recorded as its duplicate, is
not seen to by any constraint.  The session that settles a link decides it with a `SELECT` that
is made before the transaction begins, and `ProcessedItemRepository.record`, which looks again,
takes an item it finds there for its own.  So two attempts at two messages with one product may
both read that it is unknown and both retain their links (`two_links_retained`).

`RecordsFresh` is the condition: where a product was read to be unknown, it still is when the
link is written.  It is exact.  In runs under it `Deduplicated` is the invariant; its heart is
the correspondence between items and retained links: an item exists exactly for the identities
some link was resolved to, and its link is the only one that is pending.

## One outcome at a time

A link has no outcome until its attempt writes one, and never gets a second one
(`outcome_kept`).  So the tables change in one way only: the outcome of one link, which was
resolved to nothing, is replaced.  There are three cases, and a lemma for each.  The link has
no product (`replace_plain`); or its product was known, and it is a duplicate
(`replace_duplicate`); or its product was unknown, and it is retained, with an item that was
not there (`replace_retained`).  The condition is what the third case needs, and where it fails
the link is a second one (`not_oneRetained_of_item`), which makes the condition exact.

What an attempt has read must survive until it writes.  *Known* does, since items are never
deleted (`Readings.step`).  *Unknown* does not, and this is all there is to the defect.

A crash may leave a link without an outcome, and the message is processed again.  Its links are
then found by their place in the message, those with an outcome are skipped, and the first of
the others is settled.  In `afterRetry` the link that is retained is that of a message which
came later.
-/

namespace PromoBot
namespace Relay

open Urls PyUrl SqlTable

variable {env : LinkEnvironment} {cfg : LinkSettings}

/-! ## The invariant -/

/-- An outcome of a link which is not retained although its product is known. -/
def IsDuplicate (o : OutcomeColumns) : Prop :=
  o.state = .ignored ∧ o.reasonCode = some "DUPLICATE_CANONICAL"

/-- An outcome is that of no product, or it is retained or a duplicate. -/
def SoundOutcome (u : PyUnicode) (o : OutcomeColumns) : Prop :=
  (o.canonicalUrl = none ∧ o.state ≠ .pendingAffiliate) ∨
    ∃ i, o.ResolvedTo u i ∧ (o.state = .pendingAffiliate ∨ IsDuplicate o)

/-- There is one item and one candidate for each identity. -/
structure KeyedOnce (t : LinkTables) : Prop where
  items : ∀ j k a b, t.items.get? j = some a → t.items.get? k = some b →
    a.identity = b.identity → j = k
  candidates : AffiliateCandidateRepository.Distinct t.candidates

def HasItem (t : LinkTables) (i : ProductIdentity) : Prop :=
  ∃ k item, t.items.get? k = some item ∧ item.identity = i

/-- The tables of the relay are in order. -/
structure Deduplicated (env : LinkEnvironment) (t : LinkTables) : Prop where
  sound : ∀ id m o, t.columnsAt id = some (m, o) → SoundOutcome env.unicode o
  known : ∀ id m o i, t.columnsAt id = some (m, o) → o.ResolvedTo env.unicode i → HasItem t i
  retained : ∀ i, HasItem t i → ∃ id m o, t.columnsAt id = some (m, o) ∧
    o.ResolvedTo env.unicode i ∧ o.state = .pendingAffiliate
  once : ∀ i id id' m m' o o', t.columnsAt id = some (m, o) → t.columnsAt id' = some (m', o') →
    o.ResolvedTo env.unicode i → o'.ResolvedTo env.unicode i → o.state = .pendingAffiliate →
    o'.state = .pendingAffiliate → id = id'

/-- What the attempts have read: the address of a product is its canonical one, and a product
that is known has an item. -/
def Readings (env : LinkEnvironment) (w : LinkWorld) : Prop :=
  ∀ m id link rest p known, w.attempts m = .found id link rest p known →
    p.identity.IsOutcome env.unicode p.canonicalUrl ∧ (known = true → HasItem w.tables p.identity)

/-! ## Outcomes -/

theorem not_resolvedTo_of_received {u : PyUnicode} {o : OutcomeColumns} {i : ProductIdentity}
    (hsound : SoundOutcome u o) (hreceived : o.state = .received) :
    ¬ o.ResolvedTo u i := by
  rintro ⟨-, -, canonical, hcanonical, -⟩
  rcases hsound with ⟨hnone, -⟩ | ⟨j, -, hpending | hduplicate⟩
  · rw [hnone] at hcanonical
    cases hcanonical
  · rw [hpending] at hreceived
    cases hreceived
  · rw [hduplicate.1] at hreceived
    cases hreceived

theorem not_resolvedTo_of_none {u : PyUnicode} {o : OutcomeColumns} {i : ProductIdentity}
    (h : o.canonicalUrl = none) : ¬ o.ResolvedTo u i := by
  rintro ⟨-, -, canonical, hcanonical, -⟩
  rw [h] at hcanonical
  cases hcanonical

theorem isOutcome_unique {u : PyUnicode} {i : ProductIdentity} {a b : Text}
    (ha : i.IsOutcome u a) (hb : i.IsOutcome u b) : a = b :=
  ha.canonical_eq.trans hb.canonical_eq.symm

/-! ## Changing one outcome -/

namespace Deduplicated

variable {t t' : LinkTables} {id m : Nat} {o₀ o : OutcomeColumns}

theorem keep {i : ProductIdentity} (h : Replaces t t' id m o)
    (hid : ∀ m₀ o₀, t.columnsAt id = some (m₀, o₀) → ¬ o₀.ResolvedTo env.unicode i)
    {j m' : Nat} {o' : OutcomeColumns} (hj : t.columnsAt j = some (m', o'))
    (hi : o'.ResolvedTo env.unicode i) : t'.columnsAt j = some (m', o') := by
  rw [h j, if_neg]
  · exact hj
  · rintro rfl
    exact hid _ _ hj hi

theorem congr (hd : Deduplicated env t) (hcolumns : ∀ j, t'.columnsAt j = t.columnsAt j)
    (hitems : ∀ i, HasItem t' i ↔ HasItem t i) : Deduplicated env t' where
  sound j m' o' hj := hd.sound j m' o' (hcolumns j ▸ hj)
  known j m' o' i hj hi := (hitems i).2 (hd.known j m' o' i (hcolumns j ▸ hj) hi)
  retained i h := by
    obtain ⟨j, m', o', hj, hi, hs⟩ := hd.retained i ((hitems i).1 h)
    exact ⟨j, m', o', (hcolumns j).trans hj, hi, hs⟩
  once i j j' m' m'' o' o'' hj hj' := hd.once i j j' m' m'' o' o'' (hcolumns j ▸ hj)
    (hcolumns j' ▸ hj')

/-- **A link without a product** changes nothing about the others. -/
theorem replace_plain (hd : Deduplicated env t) (h : Replaces t t' id m o)
    (hid : ∀ m₀ o₀ i, t.columnsAt id = some (m₀, o₀) → ¬ o₀.ResolvedTo env.unicode i)
    (hcanonical : o.canonicalUrl = none) (hpending : o.state ≠ .pendingAffiliate)
    (hitems : ∀ i, HasItem t' i ↔ HasItem t i) : Deduplicated env t' where
  sound j m' o' hj := by
    rcases h.cases hj with ⟨-, rfl⟩ | ⟨-, hj⟩
    · exact Or.inl ⟨hcanonical, hpending⟩
    · exact hd.sound j m' o' hj
  known j m' o' i hj hi := by
    rcases h.cases hj with ⟨-, rfl⟩ | ⟨-, hj⟩
    · exact absurd hi (not_resolvedTo_of_none hcanonical)
    · exact (hitems i).2 (hd.known j m' o' i hj hi)
  retained i hi := by
    obtain ⟨j, m', o', hj, hi, hs⟩ := hd.retained i ((hitems i).1 hi)
    exact ⟨j, m', o', keep h (fun m₀ o₀ => hid m₀ o₀ _) hj hi, hi, hs⟩
  once i j j' m' m'' o' o'' hj hj' hi hi' hs hs' := by
    rcases h.cases hj with ⟨-, rfl⟩ | ⟨-, hj⟩
    · exact absurd hi (not_resolvedTo_of_none hcanonical)
    · rcases h.cases hj' with ⟨-, rfl⟩ | ⟨-, hj'⟩
      · exact absurd hi' (not_resolvedTo_of_none hcanonical)
      · exact hd.once i j j' m' m'' o' o'' hj hj' hi hi' hs hs'

/-- **A duplicate** of a product that is known. -/
theorem replace_duplicate (hu : env.unicode.Standard) (hd : Deduplicated env t)
    (h : Replaces t t' id m o)
    (hid : ∀ m₀ o₀ i, t.columnsAt id = some (m₀, o₀) → ¬ o₀.ResolvedTo env.unicode i)
    {i : ProductIdentity} (hnames : o.ResolvedTo env.unicode i) (hduplicate : IsDuplicate o)
    (hknown : HasItem t i) (hitems : ∀ i, HasItem t' i ↔ HasItem t i) : Deduplicated env t' where
  sound j m' o' hj := by
    rcases h.cases hj with ⟨-, rfl⟩ | ⟨-, hj⟩
    · exact Or.inr ⟨i, hnames, Or.inr hduplicate⟩
    · exact hd.sound j m' o' hj
  known j m' o' i' hj hi := by
    rw [hitems]
    rcases h.cases hj with ⟨-, rfl⟩ | ⟨-, hj⟩
    · rw [← hnames.unique hu hi]
      exact hknown
    · exact hd.known j m' o' i' hj hi
  retained i' hi' := by
    obtain ⟨j, m', o', hj, hi, hs⟩ := hd.retained i' ((hitems i').1 hi')
    exact ⟨j, m', o', keep h (fun m₀ o₀ => hid m₀ o₀ _) hj hi, hi, hs⟩
  once i' j j' m' m'' o' o'' hj hj' hi hi' hs hs' := by
    have hignored : o.state ≠ .pendingAffiliate := by
      rw [hduplicate.1]
      decide
    rcases h.cases hj with ⟨-, rfl⟩ | ⟨-, hj⟩
    · exact absurd hs hignored
    · rcases h.cases hj' with ⟨-, rfl⟩ | ⟨-, hj'⟩
      · exact absurd hs' hignored
      · exact hd.once i' j j' m' m'' o' o'' hj hj' hi hi' hs hs'

/-- **The first link of a product** is retained. -/
theorem replace_retained (hu : env.unicode.Standard) (hd : Deduplicated env t)
    (h : Replaces t t' id m o)
    (hid : ∀ m₀ o₀ i, t.columnsAt id = some (m₀, o₀) → ¬ o₀.ResolvedTo env.unicode i)
    {i : ProductIdentity} (hnames : o.ResolvedTo env.unicode i)
    (hpending : o.state = .pendingAffiliate) (hnone : ¬ HasItem t i)
    (hitems : ∀ j, HasItem t' j ↔ HasItem t j ∨ j = i) : Deduplicated env t' where
  sound j m' o' hj := by
    rcases h.cases hj with ⟨-, rfl⟩ | ⟨-, hj⟩
    · exact Or.inr ⟨i, hnames, Or.inl hpending⟩
    · exact hd.sound j m' o' hj
  known j m' o' i' hj hi := by
    rw [hitems]
    rcases h.cases hj with ⟨-, rfl⟩ | ⟨-, hj⟩
    · exact Or.inr (hi.unique hu hnames)
    · exact Or.inl (hd.known j m' o' i' hj hi)
  retained i' hi' := by
    rcases (hitems i').1 hi' with hi' | rfl
    · obtain ⟨j, m', o', hj, hi, hs⟩ := hd.retained i' hi'
      exact ⟨j, m', o', keep h (fun m₀ o₀ => hid m₀ o₀ _) hj hi, hi, hs⟩
    · exact ⟨id, m, o, (h id).trans (if_pos rfl), hnames, hpending⟩
  once i' j j' m' m'' o' o'' hj hj' hi hi' hs hs' := by
    -- No link was resolved to the identity before.
    have hfirst : ∀ {j m' o'}, t.columnsAt j = some (m', o') → ¬ o'.ResolvedTo env.unicode i :=
      fun hj hi => hnone (hd.known _ _ _ i hj hi)
    rcases h.cases hj with ⟨rfl, rfl⟩ | ⟨-, hj⟩
    · obtain rfl := hnames.unique hu hi
      rcases h.cases hj' with ⟨rfl, -⟩ | ⟨-, hj'⟩
      · rfl
      · exact absurd hi' (hfirst hj')
    · rcases h.cases hj' with ⟨rfl, rfl⟩ | ⟨-, hj'⟩
      · obtain rfl := hnames.unique hu hi'
        exact absurd hi (hfirst hj)
      · exact hd.once i' j j' m' m'' o' o'' hj hj' hi hi' hs hs'

end Deduplicated

/-! ## Items and candidates -/

section Tables

variable {w w' : LinkWorld} {t t' : LinkTables} {id m : Nat} {link : ExtractedLink}
  {rest : List ExtractedLink} {p : ProductAddress} {known : Bool}

/-- The items after the link of a product was written. -/
theorem hasItem_record (hattach : attachCandidate env (retain env t id link.url p known) id
    p.identity = .ok t') (i : ProductIdentity) :
    HasItem t' i ↔ HasItem t i ∨ (known = false ∧ i = p.identity) := by
  unfold HasItem
  rw [(attachCandidate_cases hattach).1]
  cases known with
  | true =>
    rw [or_iff_left (fun h => Bool.noConfusion h.1)]
    exact Iff.rfl
  | false =>
    rw [and_iff_right rfl]
    constructor
    · rintro ⟨k, item, hk, rfl⟩
      rcases ProcessedItemRepository.of_get?_record hk with ⟨old, hold, hsame⟩ | ⟨-, -, hsame⟩
      · exact Or.inl ⟨k, old, hold, hsame⟩
      · exact Or.inr hsame
    · rintro (⟨k, item, hk, rfl⟩ | rfl)
      · obtain ⟨item', hk', hsame⟩ := ProcessedItemRepository.get?_record hk p.identity
          (env.sha256 p.canonicalUrl)
        exact ⟨k, item', hk', hsame⟩
      · exact ProcessedItemRepository.exists_get?_record _ _ _

theorem hasItem_iff_find {i : ProductIdentity} :
    HasItem t i ↔ ProcessedItemRepository.find t.items i ≠ none := by
  constructor
  · rintro ⟨k, item, hk, hi⟩
    exact ProcessedItemRepository.find_ne_none hk hi
  · intro h
    obtain ⟨e, he⟩ := Option.ne_none_iff_exists'.1 h
    obtain ⟨hget, hidentity⟩ := ProcessedItemRepository.find_eq_some he
    exact ⟨e.1, e.2, hget, hidentity⟩

theorem hasItem_step {a : LinkAction} (h : LinkChange env w a w') {i : ProductIdentity}
    (hi : HasItem w.tables i) : HasItem w'.tables i := by
  cases h with
  | attempt | find | refuse => exact hi
  | receive m link rest => exact hi
  | record m id link rest p known t hm hattach => exact (hasItem_record hattach i).2 (Or.inl hi)
  | backfill store limit =>
    unfold HasItem
    rw [items_backfill]
    exact hi

/-- **Every step keeps one item and one candidate for each identity.** -/
theorem KeyedOnce.step (hk : KeyedOnce w.tables) {a : LinkAction} (h : LinkChange env w a w') :
    KeyedOnce w'.tables := by
  cases h with
  | attempt | find => exact hk
  | receive m link rest => exact ⟨hk.items, hk.candidates⟩
  | refuse m id rest o => exact ⟨hk.items, hk.candidates⟩
  | record m id link rest p known t hm hattach =>
    obtain ⟨hitems, hlinks⟩ := attachCandidate_cases hattach
    constructor
    · show ∀ j k a b, t.items.get? j = some a → t.items.get? k = some b →
        a.identity = b.identity → j = k
      rw [hitems]
      cases known with
      | true => exact hk.items
      | false =>
        intro j k a b ha hb hab
        rcases ProcessedItemRepository.of_get?_record ha with ⟨a', ha', haa⟩ | ⟨hnone, rfl, hia⟩
        · rcases ProcessedItemRepository.of_get?_record hb with ⟨b', hb', hbb⟩ | ⟨hnone, -, hib⟩
          · exact hk.items j k a' b' ha' hb' (haa.trans (hab.trans hbb.symm))
          · exact absurd hnone
              (ProcessedItemRepository.find_ne_none ha' (haa.trans (hab.trans hib)))
        · rcases ProcessedItemRepository.of_get?_record hb with ⟨b', hb', hbb⟩ | ⟨-, rfl, -⟩
          · exact absurd hnone
              (ProcessedItemRepository.find_ne_none hb' (hbb.trans (hab.symm.trans hia)))
          · rfl
    · rcases hlinks with rfl | hens
      · exact hk.candidates
      · exact hk.candidates.ensureForLink hens
  | backfill store limit =>
    constructor
    · show ∀ j k a b, (w.tables.backfill env store limit).items.get? j = some a → _
      rw [items_backfill]
      exact hk.items
    · exact distinct_backfill hk.candidates store limit

/-- **Every step keeps what the attempts have read.** -/
theorem Readings.step (hr : Readings env w) {a : LinkAction} (h : LinkChange env w a w') :
    Readings env w' := by
  -- Reading concerns one attempt; the others keep what they know.
  have hothers : ∀ {m' id' link' rest' p' known'},
      w.attempts m' = .found id' link' rest' p' known' →
      p'.identity.IsOutcome env.unicode p'.canonicalUrl ∧
        (known' = true → HasItem w'.tables p'.identity) := by
    intro m' id' link' rest' p' known' hm'
    obtain ⟨hout, hitem⟩ := hr m' id' link' rest' p' known' hm'
    exact ⟨hout, fun hknown => hasItem_step h (hitem hknown)⟩
  have hmoved : ∀ (m : Nat) (t : LinkTables) (b : Attempt), w' = w.after m t b →
      (∀ id link rest p known, b = .found id link rest p known →
        p.identity.IsOutcome env.unicode p.canonicalUrl ∧
          (known = true → HasItem w'.tables p.identity)) → Readings env w' := by
    intro m t b hw hb m' id' link' rest' p' known' hm'
    rw [hw] at hm'
    rcases eq_or_ne m' m with rfl | hne
    · rw [LinkWorld.after_self] at hm'
      exact hb _ _ _ _ _ hm'
    · rw [LinkWorld.after_ne _ _ _ hne] at hm'
      exact hothers hm'
  cases h with
  | attempt m b hb =>
    refine hmoved m _ b rfl fun id link rest p known heq => ?_
    rw [heq] at hb
    cases hb
  | receive m link rest =>
    refine hmoved m _ _ rfl fun id' link' rest' p known heq => ?_
    by_cases hstate : (SourceMessageLinkRepository.recordReceived w.tables.links m link
        (env.sha256 link.url)).2.2.state = .received
    · cases (if_pos hstate).symm.trans heq
    · cases (if_neg hstate).symm.trans heq
  | refuse m id rest o => exact hmoved m _ _ rfl fun _ _ _ _ _ heq => by cases heq
  | find m id link rest p hm hp =>
    refine hmoved m _ _ rfl fun id' link' rest' p' known heq => ?_
    obtain ⟨rfl, rfl, rfl, rfl, rfl⟩ := Attempt.found.inj heq
    exact ⟨hp, fun hknown => exists_item_of_knows hknown⟩
  | record m id link rest p known t hm hattach =>
    exact hmoved m _ _ rfl fun _ _ _ _ _ heq => by cases heq
  | backfill store limit => exact fun m id link rest p known hm => hothers hm

end Tables

/-! ## Every step under the condition keeps the tables in order -/

/-- The product an attempt has read to be unknown. -/
def Attempt.unknown? : Attempt → Option ProductIdentity
  | .found _ _ _ p false => some p.identity
  | _ => Option.none

/-- **The condition**: where a product was read to be unknown, there is no item of it when its
link is written. -/
def RecordsFresh (w : LinkWorld) : LinkAction → Prop
  | .record m =>
    ∀ i ∈ (w.attempts m).unknown?, ProcessedItemRepository.find w.tables.items i = none
  | _ => True

instance (w : LinkWorld) : ∀ a, Decidable (RecordsFresh w a)
  | .record m => inferInstanceAs (Decidable (∀ i ∈ (w.attempts m).unknown?, _))
  | .begin' _ _ | .receive _ | .settle _ _ | .stop _ | .backfill _ _ => isTrue trivial

section Step

variable {w w' : LinkWorld}

theorem not_resolvedTo_inFlight (hd : Deduplicated env w.tables) (hflight : InFlight w)
    {m id : Nat} (hm : (w.attempts m).linkId? = some id) (m₀ : Nat) (o₀ : OutcomeColumns)
    (i : ProductIdentity) (h₀ : w.tables.columnsAt id = some (m₀, o₀)) :
    ¬ o₀.ResolvedTo env.unicode i := by
  obtain ⟨o, ho, hreceived⟩ := hflight m id hm
  obtain ⟨rfl, rfl⟩ := Prod.mk.inj (Option.some.inj (h₀.symm.trans ho))
  exact not_resolvedTo_of_received (hd.sound _ _ _ ho) hreceived

/-- **Every step under the condition keeps the tables in order.** -/
theorem deduplicated_step (hu : env.unicode.Standard) (hd : Deduplicated env w.tables)
    (hflight : InFlight w) (hr : Readings env w) {a : LinkAction} (hfresh : RecordsFresh w a)
    (h : LinkChange env w a w') : Deduplicated env w'.tables := by
  cases h with
  | attempt | find => exact hd
  | receive m link rest =>
    unfold LinkWorld.received
    cases hrec : SourceMessageLinkRepository.recordReceived w.tables.links m link
        (env.sha256 link.url) with
    | mk links row =>
    obtain ⟨-, rfl | ⟨hnone, hreceived, hcanonical, hrep⟩⟩ := columnsAt_received hrec
    · exact hd
    · refine hd.replace_plain hrep (fun m₀ o₀ i h₀ => ?_) hcanonical ?_ fun i => Iff.rfl
      · rw [hnone] at h₀
        cases h₀
      · show row.2.state ≠ _
        rw [hreceived]
        decide
  | refuse m id rest o hm hreceived hpending hcanonical =>
    exact hd.replace_plain (hflight.replaces hm rfl) (not_resolvedTo_inFlight hd hflight hm)
      hcanonical hpending fun i => Iff.rfl
  | record m id link rest p known t hm hattach =>
    have hrep := hflight.replaces_record hm hattach
    have hid := not_resolvedTo_inFlight hd hflight (congrArg Attempt.linkId? hm)
    obtain ⟨hout, hknown⟩ := hr m id link rest p known hm
    have hnames := resolvedTo_productOutcome hout link.url known
    cases known with
    | true =>
      refine hd.replace_duplicate hu hrep hid hnames ⟨rfl, rfl⟩ (hknown rfl) fun i => ?_
      exact (hasItem_record hattach i).trans (or_iff_left fun h => Bool.noConfusion h.1)
    | false =>
      have hunknown : (w.attempts m).unknown? = some p.identity :=
        congrArg Attempt.unknown? hm
      have hnone := hfresh p.identity hunknown
      refine hd.replace_retained hu hrep hid hnames rfl ?_ fun i => ?_
      · rw [hasItem_iff_find, not_not]
        exact hnone
      · exact (hasItem_record hattach i).trans (or_congr_right (and_iff_right rfl))
  | backfill store limit =>
    refine hd.congr (columnsAt_backfill store limit) fun i => ?_
    unfold HasItem
    rw [items_backfill]

end Step

/-! ## Over whole runs -/

/-- Nothing was processed yet. -/
def NothingProcessed (t : LinkTables) : Prop := t = ⟨∅, ∅, ∅⟩

theorem deduplicated_empty : Deduplicated env ⟨∅, ∅, ∅⟩ where
  sound _ _ _ h := by cases h
  known _ _ _ _ h := by cases h
  retained := by
    rintro i ⟨k, item, h, -⟩
    cases h
  once _ _ _ _ _ _ _ h := by cases h

theorem keyedOnce_empty : KeyedOnce ⟨∅, ∅, ∅⟩ where
  items _ _ _ _ h := by cases h
  candidates _ _ _ _ h := by cases h

theorem inFlight_of_idle {w : LinkWorld} (h : ∀ m, w.attempts m = .none) : InFlight w := by
  intro m id hm
  rw [h m] at hm
  cases hm

theorem readings_of_idle {w : LinkWorld} (h : ∀ m, w.attempts m = .none) : Readings env w := by
  intro m id link rest p known hm
  rw [h m] at hm
  cases hm

/-- **In every state of every run** there is one item and one candidate for each identity. -/
theorem keyedOnce_of_reachable {w : LinkWorld}
    (h : (linkSystem env cfg NothingProcessed).Reachable w) : KeyedOnce w.tables ∧ InFlight w := by
  refine h.invariant (P := fun w => KeyedOnce w.tables ∧ InFlight w) ?_ ?_
  · rintro s ⟨htables, hattempts⟩
    refine ⟨?_, inFlight_of_idle hattempts⟩
    rw [show s.tables = ⟨∅, ∅, ∅⟩ from htables]
    exact keyedOnce_empty
  · rintro s a t ⟨hk, hflight⟩ hstep
    exact ⟨hk.step (linkStep_change hstep), hflight.step (linkStep_change hstep)⟩

/-- **In every state of every run under the condition** the tables are in order. -/
theorem deduplicated_of_reachable (hu : env.unicode.Standard) {w : LinkWorld}
    (h : (linkSystem env cfg NothingProcessed).ReachableUnder RecordsFresh w) :
    Deduplicated env w.tables ∧ InFlight w ∧ Readings env w := by
  refine h.invariant (P := fun w => Deduplicated env w.tables ∧ InFlight w ∧ Readings env w) ?_ ?_
  · rintro s ⟨htables, hattempts⟩
    refine ⟨?_, inFlight_of_idle hattempts, readings_of_idle hattempts⟩
    rw [show s.tables = ⟨∅, ∅, ∅⟩ from htables]
    exact deduplicated_empty
  · rintro s a t ⟨hd, hflight, hr⟩ hfresh hstep
    have hchange := linkStep_change hstep
    exact ⟨deduplicated_step hu hd hflight hr hfresh hchange, hflight.step hchange,
      hr.step hchange⟩

/-- **A step overwrites no outcome.** -/
theorem outcome_kept_step {w w' : LinkWorld} (hflight : InFlight w) {a : LinkAction}
    (h : LinkChange env w a w') {id m : Nat} {o : OutcomeColumns}
    (ho : w.tables.columnsAt id = some (m, o)) (hdone : o.state ≠ .received) :
    w'.tables.columnsAt id = some (m, o) := by
  have hsettled : ∀ {m' id'} {t : LinkTables} {o' : OutcomeColumns},
      (w.attempts m').linkId? = some id' → Replaces w.tables t id' m' o' →
        t.columnsAt id = some (m, o) := by
    intro m' id' t o' hm hrep
    rw [hrep id, if_neg, ho]
    rintro rfl
    obtain ⟨o₀, ho₀, hreceived⟩ := hflight m' _ hm
    rw [ho] at ho₀
    obtain ⟨-, rfl⟩ := Prod.mk.inj (Option.some.inj ho₀)
    exact hdone hreceived
  cases h with
  | attempt | find => exact ho
  | receive m link rest =>
    unfold LinkWorld.received
    cases hrec : SourceMessageLinkRepository.recordReceived w.tables.links m link
        (env.sha256 link.url) with
    | mk links row =>
    exact columnsAt_received_keep hrec ho
  | refuse m id rest o hm => exact hsettled hm (hflight.replaces hm rfl)
  | record m id link rest p known t hm hattach =>
    exact hsettled (congrArg Attempt.linkId? hm) (hflight.replaces_record hm hattach)
  | backfill store limit => exact (columnsAt_backfill store limit id).trans ho

/-- **No run overwrites an outcome.** -/
theorem outcome_kept {w w' : LinkWorld}
    (hw : (linkSystem env cfg NothingProcessed).Reachable w)
    (hrun : (linkSystem env cfg NothingProcessed).Run w w') {id m : Nat} {o : OutcomeColumns}
    (ho : w.tables.columnsAt id = some (m, o)) (hdone : o.state ≠ .received) :
    w'.tables.columnsAt id = some (m, o) := by
  have hinv : InFlight w' ∧ w'.tables.columnsAt id = some (m, o) := by
    refine hrun.invariant (P := fun s => InFlight s ∧ s.tables.columnsAt id = some (m, o))
      ⟨(keyedOnce_of_reachable hw).2, ho⟩ ?_
    rintro s a t ⟨hflight, hs⟩ - hstep
    exact ⟨hflight.step (linkStep_change hstep),
      outcome_kept_step hflight (linkStep_change hstep) hs hdone⟩
  exact hinv.2

/-- A link of this row is the retained one of an identity. -/
def IsRetained (env : LinkEnvironment) (w : LinkWorld) (i : ProductIdentity) (id : Nat) : Prop :=
  ∃ r, w.tables.links.get? id = some r ∧ r.outcome.ResolvedTo env.unicode i ∧
    r.state = .pendingAffiliate

theorem isRetained_iff {w : LinkWorld} {i : ProductIdentity} {id : Nat} :
    IsRetained env w i id ↔ ∃ m o, w.tables.columnsAt id = some (m, o) ∧
      o.ResolvedTo env.unicode i ∧ o.state = .pendingAffiliate := by
  constructor
  · rintro ⟨r, hr, hi, hs⟩
    exact ⟨_, _, columnsAt_eq_some.2 ⟨r, hr, rfl⟩, hi, hs⟩
  · rintro ⟨m, o, ho, hi, hs⟩
    obtain ⟨r, hr, hcolumns⟩ := columnsAt_eq_some.1 ho
    obtain ⟨-, rfl⟩ := Prod.mk.inj hcolumns
    exact ⟨r, hr, hi, hs⟩

/-- Each identity with a pending link has exactly one, and every other link that was resolved
to it is its duplicate. -/
def OneRetained (env : LinkEnvironment) (w : LinkWorld) : Prop :=
  ∀ i, (∃ id, IsRetained env w i id) →
    (∃! id, IsRetained env w i id) ∧
      ∀ id r, w.tables.links.get? id = some r → r.outcome.ResolvedTo env.unicode i →
        ¬ IsRetained env w i id → r.state = .ignored ∧ r.reasonCode = some "DUPLICATE_CANONICAL"

theorem Deduplicated.oneRetained {w : LinkWorld} (hd : Deduplicated env w.tables) :
    OneRetained env w := by
  rintro i ⟨id, hid⟩
  refine ⟨⟨id, hid, fun id' hid' => ?_⟩, fun id' r' hr' hi' hnot => ?_⟩
  · obtain ⟨m', o', ho', hi', hs'⟩ := isRetained_iff.1 hid'
    obtain ⟨m, o, ho, hi, hs⟩ := isRetained_iff.1 hid
    exact hd.once i id' id _ _ _ _ ho' ho hi' hi hs' hs
  · rcases hd.sound id' _ _ (columnsAt_eq_some.2 ⟨r', hr', rfl⟩) with ⟨hnone, -⟩ | ⟨j, hj, hstate⟩
    · exact absurd hi' (not_resolvedTo_of_none hnone)
    · rcases hstate with hpending | hduplicate
      · exact absurd ⟨r', hr', hi', hpending⟩ hnot
      · exact hduplicate

/-- A write that goes through. -/
theorem record_cases {w w' : LinkWorld} {m : Nat} (h : linkStep env cfg w (.record m) = some w')
    (hlive : w'.attempts m ≠ .none) :
    ∃ id link rest p known t, w.attempts m = .found id link rest p known ∧
      attachCandidate env (retain env w.tables id link.url p known) id p.identity = .ok t ∧
      w' = w.after m t (.linking rest) := by
  simp only [linkStep] at h
  split at h
  · next id link rest p known hm =>
    obtain rfl := Option.some.inj h
    unfold LinkWorld.recorded at hlive ⊢
    cases hattach : attachCandidate env (retain env w.tables id link.url p known) id
        p.identity with
    | error e =>
      rw [hattach] at hlive
      exact absurd (LinkWorld.after_self _ _ _ _) hlive
    | ok t => exact ⟨id, link, rest, p, known, t, hm, hattach, rfl⟩
  · cases h

/-- A link that is written although its product has an item is a second one. -/
theorem not_oneRetained_of_item {w : LinkWorld} (hd : Deduplicated env w.tables)
    (hflight : InFlight w) (hr : Readings env w) {m id : Nat} {link : ExtractedLink}
    {rest : List ExtractedLink} {p : ProductAddress} {t : LinkTables}
    (hm : w.attempts m = .found id link rest p false)
    (hattach : attachCandidate env (retain env w.tables id link.url p false) id p.identity = .ok t)
    (hitem : HasItem w.tables p.identity) : ¬ OneRetained env (w.after m t (.linking rest)) := by
  have hrep := hflight.replaces_record hm hattach
  obtain ⟨hout, -⟩ := hr m id link rest p false hm
  obtain ⟨id', m', o', ho', hi', hs'⟩ := hd.retained p.identity hitem
  have hne : id' ≠ id := by
    rintro rfl
    exact not_resolvedTo_inFlight hd hflight (congrArg Attempt.linkId? hm) m' o' _ ho' hi'
  have hnew : IsRetained env (w.after m t (.linking rest)) p.identity id :=
    isRetained_iff.2 ⟨m, _, (hrep id).trans (if_pos rfl),
      resolvedTo_productOutcome hout link.url false, rfl⟩
  have hold : IsRetained env (w.after m t (.linking rest)) p.identity id' :=
    isRetained_iff.2 ⟨m', o', ((hrep id').trans (if_neg hne)).trans ho', hi', hs'⟩
  intro hone
  exact hne ((hone p.identity ⟨id, hnew⟩).1.unique hold hnew)

/-- **When one link of each product is retained.**  Over any order, retries and crashes, what is
recorded is still there in every later state, and there is at most one item and one candidate
for each identity.  In every run under the condition, an identity with a pending link has
exactly one and every other link resolved to it is its duplicate; and the condition is exact:
where the link of a product is written, this stays so if and only if the write meets it. -/
theorem one_link_retained (hu : env.unicode.Standard) {w w' : LinkWorld}
    (hw : (linkSystem env cfg NothingProcessed).Reachable w)
    (hrun : (linkSystem env cfg NothingProcessed).Run w w') :
    (∀ id r, w.tables.links.get? id = some r → r.state ≠ .received →
      ∃ r', w'.tables.links.get? id = some r' ∧ r'.outcome = r.outcome) ∧
    (∀ j k a b, w.tables.items.get? j = some a → w.tables.items.get? k = some b →
      a.identity = b.identity → j = k) ∧
    (∀ j k a b, w.tables.candidates.get? j = some a → w.tables.candidates.get? k = some b →
      a.identity = b.identity → j = k) ∧
    ((linkSystem env cfg NothingProcessed).ReachableUnder RecordsFresh w →
      OneRetained env w ∧
        ∀ m wₘ, linkStep env cfg w (.record m) = some wₘ → wₘ.attempts m ≠ .none →
          (OneRetained env wₘ ↔ RecordsFresh w (.record m))) := by
  obtain ⟨hk, -⟩ := keyedOnce_of_reachable hw
  refine ⟨fun id r hr hdone => ?_, hk.items, hk.candidates, fun hunder => ?_⟩
  · obtain ⟨r', hr', hcolumns⟩ := columnsAt_eq_some.1
      (outcome_kept hw hrun (columnsAt_eq_some.2 ⟨r, hr, rfl⟩) hdone)
    exact ⟨r', hr', (Prod.mk.inj hcolumns).2⟩
  · obtain ⟨hd, hflight, hr⟩ := deduplicated_of_reachable hu hunder
    refine ⟨hd.oneRetained, fun m wₘ hstep hlive => ⟨fun hone => ?_, fun hfresh => ?_⟩⟩
    · obtain ⟨id, link, rest, p, known, t, hm, hattach, rfl⟩ := record_cases hstep hlive
      intro i hi
      rw [hm] at hi
      cases known with
      | true => cases hi
      | false =>
        obtain rfl := Option.some.inj hi
        by_contra hitem
        exact not_oneRetained_of_item hd hflight hr hm hattach (hasItem_iff_find.2 hitem) hone
    · exact (deduplicated_step hu hd hflight hr hfresh (linkStep_change hstep)).oneRetained

/-! ## A run -/

/-- ASCII tables, and a hash that tells all texts apart. -/
def asciiLinks : LinkEnvironment := ⟨PyUnicode.ascii, fun t => t⟩

/-- A relay with its default settings. -/
def plainSettings : LinkSettings := ⟨false, false⟩

/-- A link to AliExpress item 7, as the text of a message has it. -/
def itemLink (query : String) (ordinal : Nat) : ExtractedLink where
  url := "https://pt.aliexpress.com/item/7.html".toList ++ query.toList
  source := .text
  ordinal := ordinal
  url_ne_blank := by
    intro h
    have := (Text.strip_eq_nil_iff _).1 h 'h' (by simp)
    exact absurd this (by decide)

/-- Message 1 is taken in and its relay dies; message 2 brings the same item; then message 1
is processed again. -/
def retried : List LinkAction :=
  [.begin' 1 [itemLink "?spm=a" 0], .receive 1, .stop 1, .begin' 2 [itemLink "" 0], .receive 2,
    .settle 2 .raised, .record 2, .begin' 1 [itemLink "?spm=a" 0], .receive 1, .settle 1 .raised,
    .record 1]

/-- No attempt, and empty tables. -/
def emptyRelay : LinkWorld := ⟨⟨∅, ∅, ∅⟩, fun _ => .none⟩

/-- The state after it. -/
def afterRetry : LinkWorld :=
  (linkSystem asciiLinks plainSettings NothingProcessed).endUnder RecordsFresh emptyRelay retried

theorem reachable_afterRetry :
    (linkSystem asciiLinks plainSettings NothingProcessed).ReachableUnder RecordsFresh afterRetry :=
  ⟨emptyRelay, ⟨rfl, fun _ => rfl⟩, TransitionSystem.runUnder_endUnder (by decide +kernel)⟩

/-- The item of both messages. -/
def itemSeven : ProductIdentity := ⟨.aliexpress, "7".toList, []⟩

theorem isRetained_itemSeven {w : LinkWorld} {id : Nat}
    (h : (w.tables.links.get? id).map (fun r => r.outcome) =
      some ⟨.pendingAffiliate, some "AFFILIATE_PROVIDER_UNAVAILABLE", none, 0, some .aliexpress,
        some "7".toList, some "https://www.aliexpress.com/item/7.html".toList⟩) :
    IsRetained asciiLinks w itemSeven id := by
  obtain ⟨r, hr, hout⟩ := Option.map_eq_some_iff.1 h
  refine ⟨r, hr, ?_, congrArg OutcomeColumns.state hout⟩
  rw [hout]
  exact ⟨rfl, rfl, _, rfl, "https://pt.aliexpress.com/item/7.html".toList, by decide +kernel⟩

/-- Exactly one of the two links is retained: that of message 2. -/
theorem one_link_retained_afterRetry : ∃! id, IsRetained asciiLinks afterRetry itemSeven id :=
  (((one_link_retained PyUnicode.ascii_standard reachable_afterRetry.reachable
    (TransitionSystem.RunUnder.refl _)).2.2.2 reachable_afterRetry).1 itemSeven
      ⟨2, isRetained_itemSeven (by decide +kernel)⟩).1

/-- Two messages bring the same item; both attempts read that it is unknown, and then both
write. -/
def overlapped : List LinkAction :=
  [.begin' 1 [itemLink "?spm=a" 0], .begin' 2 [itemLink "" 0], .receive 1, .receive 2,
    .settle 1 .raised, .settle 2 .raised, .record 1, .record 2]

/-- The state after it. -/
def afterOverlap : LinkWorld :=
  (linkSystem asciiLinks plainSettings NothingProcessed).endOf emptyRelay overlapped

/-- **Two links of one product are retained.** -/
theorem two_links_retained :
    (linkSystem asciiLinks plainSettings NothingProcessed).Reachable afterOverlap ∧
      ¬ OneRetained asciiLinks afterOverlap := by
  refine ⟨⟨emptyRelay, ⟨rfl, fun _ => rfl⟩, TransitionSystem.run_endOf (by decide +kernel)⟩, ?_⟩
  have hfirst : IsRetained asciiLinks afterOverlap itemSeven 1 :=
    isRetained_itemSeven (by decide +kernel)
  have hsecond : IsRetained asciiLinks afterOverlap itemSeven 2 :=
    isRetained_itemSeven (by decide +kernel)
  intro hone
  have hsame := (hone itemSeven ⟨1, hfirst⟩).1.unique hfirst hsecond
  cases hsame

end Relay
end PromoBot
