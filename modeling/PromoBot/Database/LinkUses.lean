import PromoBot.Database.History

/-!
# The uses of generated links

`affiliate_link_uses` and `affiliate_link_use_links` of
`database/history_repository.py`: what a generated link was shown or sent for, and
which generations it was.  A send remembers the preview it was made from, and may
only go on while the two still agree (`transitionSend`).

The rows of `affiliate_link_use_links` are written with their use and never again,
so they are a column of it here, in the order of their ordinals.  The origin of a
use is a JSON object; its entry `preview_history_use_id`, which names another row, is
a column of its own, and as an object it is the list of its other entries.
-/

namespace PromoBot

/-- The values of `AffiliateLinkUseModel.kind`. -/
inductive LinkUseKind
  | preview | explicitOutput | send
  deriving DecidableEq, Repr

/-- The values of `AffiliateLinkUseModel.state`. -/
inductive LinkUseState
  | previewReady | outputRecorded | sendReserved | sendInFlight | sendConfirmed | sendFailed
  | sendUncertain
  deriving DecidableEq, Repr

/-- The values of `AffiliateLinkUseModel.operational_kind`. -/
inductive OperationalKind
  | canonicalPreview | coinPreview | coinMultiPreview | conversionPreview
  | canonicalDelivery | coinDelivery | coinMultiDelivery
  deriving DecidableEq, Repr

/-- A JSON object that may be absent. -/
abbrev Origin := Option (List (String × Json))

/-- A row of `affiliate_link_uses` (`AffiliateLinkUseModel`), with its generations. -/
structure LinkUse where
  scope : HistoryScope
  kind : LinkUseKind
  state : LinkUseState
  occurredAt : Instant
  startedAt : Option Instant
  finishedAt : Option Instant
  origin : Origin
  previewHistoryUseId : Option Nat
  originMissingReason : Option String
  destinationKey : Option Text
  operationalKind : Option OperationalKind
  operationalId : Option Nat
  telegramMessageId : Option Text
  errorCode : Option String
  /-- The generations, with `cache_hit`. -/
  generations : List (Nat × Bool)

/-- The `affiliate_link_uses` table. -/
abbrev LinkUses := SqlTable Nat LinkUse

namespace LinkUse

/-- `use.origin.get(key)`. -/
def originGet (use : LinkUse) (key : String) : Json := Json.get (use.origin.getD []) key

/-- `use.origin` is there and not empty. -/
def HasOrigin (use : LinkUse) : Prop :=
  use.previewHistoryUseId ≠ none ∨ use.origin.getD [] ≠ []

instance : DecidablePred HasOrigin := fun _ => inferInstanceAs (Decidable (_ ∨ _))

end LinkUse

namespace AffiliateLinkHistoryRepository

open SqlTable Fallible

/-- `set(ids) == set(ids')`. -/
def SameIds (ids ids' : List Nat) : Prop := ids ⊆ ids' ∧ ids' ⊆ ids

instance (ids ids' : List Nat) : Decidable (SameIds ids ids') :=
  inferInstanceAs (Decidable (_ ∧ _))

/-- `COIN_OCCURRENCE_METADATA_KEYS`. -/
def coinOccurrenceMetadataKeys : List String :=
  ["occurrence_map_version", "occurrences", "wrapper_resolution_version", "wrapper_resolutions"]

/-- `use_generation_ids`. -/
def useGenerationIds (t : LinkUses) (useId : Option Nat) (scope : HistoryScope) :
    Except String (List Nat) := do
  let id ← orRaise useId "AFFILIATE_HISTORY_GENERATION_LINK_MISSING"
  let use ← orRaise ((t.get? id).filter fun use => use.scope = scope)
    "AFFILIATE_HISTORY_GENERATION_LINK_INVALID"
  check (use.generations ≠ []) "AFFILIATE_HISTORY_GENERATION_LINK_MISSING"
  return use.generations.map Prod.fst

/-! ## Recording a use -/

/-- What a caller of `record_use` passes. -/
structure UseRecord where
  scope : HistoryScope
  kind : LinkUseKind
  generationIds : List Nat
  now : Instant
  cacheHit : Bool
  cacheHits : Option (List (Nat × Bool))
  sourceUseId : Option Nat
  origin : Origin
  operationalKind : Option OperationalKind
  operationalId : Option Nat
  destinationKey : Option Text

/-- The state a use is recorded in. -/
def initialState : LinkUseKind → LinkUseState
  | .preview => .previewReady
  | .explicitOutput => .outputRecorded
  | .send => .sendReserved

/-- The use another one is made from; it has to be of the same generations. -/
def sourceUse (t : LinkUses) (q : UseRecord) : Except String (Option LinkUse) :=
  match q.sourceUseId with
  | none => .ok none
  | some id => do
    let ids ← useGenerationIds t (some id) q.scope
    check (SameIds ids q.generationIds) "AFFILIATE_HISTORY_GENERATION_LINK_INVALID"
    return t.get? id

/-- A use made from the preview of several coin links keeps what is known of them. -/
def inheritedOrigin (source : Option LinkUse) (origin : Origin) : Except String Origin :=
  match source.filter fun s => s.operationalKind = some .coinMultiPreview with
  | none => .ok origin
  | some s => do
    check (∀ key ∈ coinOccurrenceMetadataKeys, ((origin.getD []).lookup key).isSome →
      Json.get (origin.getD []) key = s.originGet key) "AFFILIATE_HISTORY_OCCURRENCE_MAP_INVALID"
    return some (coinOccurrenceMetadataKeys.filterMap (fun key =>
      ((s.origin.getD []).lookup key).map fun value => (key, value)) ++ origin.getD [])

/-- Whether each generation was found in the cache. -/
def cacheHits (source : Option LinkUse) (q : UseRecord) (id : Nat) : Bool :=
  match (source.map LinkUse.generations).or q.cacheHits with
  | some hits => (hits.lookup id).getD q.cacheHit
  | none => q.cacheHit

/-- The row `record_use` inserts. -/
def useRow (source : Option LinkUse) (origin : Origin) (q : UseRecord) : LinkUse where
  scope := q.scope
  kind := q.kind
  state := initialState q.kind
  occurredAt := q.now
  startedAt := none
  finishedAt := none
  origin := origin
  previewHistoryUseId := if q.kind = .send then q.sourceUseId else none
  originMissingReason :=
    if (q.kind = .send ∧ q.sourceUseId ≠ none) ∨ origin.getD [] ≠ [] then none
    else some "NOT_PROVIDED"
  destinationKey := q.destinationKey
  operationalKind := q.operationalKind
  operationalId := q.operationalId
  telegramMessageId := none
  errorCode := none
  generations := q.generationIds.eraseDups.map fun id => (id, cacheHits source q id)

/-- `record_use`, with the number of the row. -/
def recordUse (history : Generations) (t : LinkUses) (q : UseRecord) :
    Except String (LinkUses × Nat) := do
  check (q.generationIds ≠ []) "AFFILIATE_HISTORY_GENERATION_LINK_MISSING"
  check (∀ id ∈ q.generationIds, ∃ r ∈ history.get? id, r.scope = q.scope ∧ r.state = .confirmed)
    "AFFILIATE_HISTORY_GENERATION_LINK_INVALID"
  let source ← sourceUse t q
  let origin ← inheritedOrigin source q.origin
  return (t.put t.freshId (useRow source origin q), t.freshId)

/-! ## The progress of a send -/

/-- Who calls `transition_send`: the delivery, and what its origin has to say. -/
structure SendOwner where
  operationalKind : OperationalKind
  operationalId : Nat
  destinationKey : Text
  expectedOrigin : List (String × Json)

/-- The kind of preview a kind of delivery is made from. -/
def previewKind : OperationalKind → Option OperationalKind
  | .coinDelivery => some .coinPreview
  | .coinMultiDelivery => some .coinMultiPreview
  | .canonicalDelivery => some .canonicalPreview
  | _ => none

/-- The use says what its owner expects. -/
def OriginAgrees (owner : SendOwner) (use : LinkUse) : Prop :=
  use.HasOrigin ∧ ∀ e ∈ owner.expectedOrigin, use.originGet e.1 = e.2

instance (owner : SendOwner) : DecidablePred (OriginAgrees owner) :=
  fun _ => inferInstanceAs (Decidable (_ ∧ _))

/-- The use is the send of this delivery. -/
def OwnedBy (owner : SendOwner) (use : LinkUse) : Prop :=
  use.kind = .send ∧ use.scope = .shadow ∧ use.operationalKind = some owner.operationalKind ∧
    use.operationalId = some owner.operationalId ∧
    use.destinationKey = some owner.destinationKey ∧ OriginAgrees owner use

instance (owner : SendOwner) : DecidablePred (OwnedBy owner) :=
  fun _ => inferInstanceAs (Decidable (_ ∧ _))

/-- The use is a preview such a delivery can be made from. -/
def PreviewFor (owner : SendOwner) (use source : LinkUse) : Prop :=
  source.kind = .preview ∧ source.scope = use.scope ∧
    source.operationalKind = previewKind owner.operationalKind ∧ OriginAgrees owner source

instance (owner : SendOwner) (use : LinkUse) : DecidablePred (PreviewFor owner use) :=
  fun _ => inferInstanceAs (Decidable (_ ∧ _))

/-- The states a send may move to. -/
def sendTargets : List LinkUseState :=
  [.sendInFlight, .sendConfirmed, .sendFailed, .sendUncertain]

/-- The states a send may move from. -/
def sendAllowed (state : LinkUseState) : List LinkUseState :=
  if state = .sendInFlight then [.sendReserved]
  else if state = .sendFailed then [.sendReserved, .sendInFlight]
  else [.sendInFlight]

/-- The guard of the update of `transition_send`. -/
def Movable (state : LinkUseState) (use : LinkUse) : Prop :=
  use.kind = .send ∧ use.state ∈ sendAllowed state

instance (state : LinkUseState) : DecidablePred (Movable state) :=
  fun _ => inferInstanceAs (Decidable (_ ∧ _))

/-- The values `transition_send` writes. -/
def moved (now : Instant) (state : LinkUseState) (errorCode : Option String)
    (messageId : Option Text) (use : LinkUse) : LinkUse :=
  { use with
    state := state
    errorCode := errorCode
    telegramMessageId := messageId
    startedAt := if state = .sendInFlight then some now else use.startedAt
    finishedAt := if state = .sendInFlight then use.finishedAt else some now }

/-- The occurrences of the links are those of the preview. -/
def OccurrencesAgree (owner : SendOwner) (use source : LinkUse) : Prop :=
  owner.operationalKind = .coinMultiDelivery →
    ∀ key ∈ coinOccurrenceMetadataKeys, use.originGet key = source.originGet key

instance (owner : SendOwner) (use source : LinkUse) : Decidable (OccurrencesAgree owner use source) :=
  inferInstanceAs (Decidable (_ → _))

/-- `transition_send`. -/
def transitionSend (t : LinkUses) (useId : Option Nat) (now : Instant) (state : LinkUseState)
    (owner : SendOwner) (errorCode : Option String) (messageId : Option Text) :
    Except String LinkUses := do
  check (state ∈ sendTargets) "AFFILIATE_HISTORY_STATE_INVALID"
  let id ← orRaise useId "AFFILIATE_HISTORY_USE_OWNER_INVALID"
  let use ← orRaise (t.get? id) "AFFILIATE_HISTORY_USE_OWNER_INVALID"
  check (OwnedBy owner use) "AFFILIATE_HISTORY_USE_OWNER_INVALID"
  let sourceId ← orRaise use.previewHistoryUseId "AFFILIATE_HISTORY_USE_OWNER_INVALID"
  let source ← orRaise (t.get? sourceId) "AFFILIATE_HISTORY_USE_OWNER_INVALID"
  check (PreviewFor owner use source) "AFFILIATE_HISTORY_USE_OWNER_INVALID"
  let sourceIds ← useGenerationIds t (some sourceId) use.scope
  let ids ← useGenerationIds t (some id) use.scope
  check (SameIds sourceIds ids) "AFFILIATE_HISTORY_USE_OWNER_INVALID"
  check (OccurrencesAgree owner use source) "AFFILIATE_HISTORY_OCCURRENCE_MAP_INVALID"
  orRaise (t.updateOne id (Movable state) (moved now state errorCode messageId))
    "AFFILIATE_HISTORY_USE_TRANSITION_CONFLICT"

/-! ## What stays of a use -/

/-- What no statement changes of a use. -/
structure SameRecord (use use' : LinkUse) : Prop where
  scope : use'.scope = use.scope
  kind : use'.kind = use.kind
  origin : use'.origin = use.origin
  previewHistoryUseId : use'.previewHistoryUseId = use.previewHistoryUseId
  destinationKey : use'.destinationKey = use.destinationKey
  operationalKind : use'.operationalKind = use.operationalKind
  operationalId : use'.operationalId = use.operationalId
  generations : use'.generations = use.generations

theorem SameRecord.refl (use : LinkUse) : SameRecord use use :=
  ⟨rfl, rfl, rfl, rfl, rfl, rfl, rfl, rfl⟩

theorem sameRecord_moved (now : Instant) (state : LinkUseState) (errorCode : Option String)
    (messageId : Option Text) (use : LinkUse) :
    SameRecord use (moved now state errorCode messageId use) :=
  ⟨rfl, rfl, rfl, rfl, rfl, rfl, rfl, rfl⟩

section Same

variable {use use' source source' : LinkUse} {owner : SendOwner}

theorem SameRecord.originGet (h : SameRecord use use') (key : String) :
    use'.originGet key = use.originGet key := by
  unfold LinkUse.originGet
  rw [h.origin]

theorem OriginAgrees.same (hagrees : OriginAgrees owner use) (h : SameRecord use use') :
    OriginAgrees owner use' := by
  obtain ⟨horigin, hexpected⟩ := hagrees
  refine ⟨?_, fun e he => (h.originGet e.1).trans (hexpected e he)⟩
  unfold LinkUse.HasOrigin
  rw [h.origin, h.previewHistoryUseId]
  exact horigin

theorem OwnedBy.same (howned : OwnedBy owner use) (h : SameRecord use use') :
    OwnedBy owner use' := by
  obtain ⟨hkind, hscope, hoperation, hid, hdestination, horigin⟩ := howned
  exact ⟨h.kind.trans hkind, h.scope.trans hscope, h.operationalKind.trans hoperation,
    h.operationalId.trans hid, h.destinationKey.trans hdestination, horigin.same h⟩

theorem PreviewFor.same (hpreview : PreviewFor owner use source) (h : SameRecord use use')
    (h' : SameRecord source source') : PreviewFor owner use' source' := by
  obtain ⟨hkind, hscope, hoperation, horigin⟩ := hpreview
  refine ⟨h'.kind.trans hkind, ?_, h'.operationalKind.trans hoperation, horigin.same h'⟩
  rw [h'.scope, h.scope, hscope]

theorem OccurrencesAgree.same (hagree : OccurrencesAgree owner use source)
    (h : SameRecord use use') (h' : SameRecord source source') :
    OccurrencesAgree owner use' source' := by
  intro hkind key hkey
  rw [h.originGet, h'.originGet]
  exact hagree hkind key hkey

end Same

/-- Every use is kept. -/
def Kept (t t' : LinkUses) : Prop :=
  ∀ id use, t.get? id = some use → ∃ use', t'.get? id = some use' ∧ SameRecord use use'

/-- **The owner checks of `transition_send` hold** for this use, whatever state it is in. -/
def Sound (t : LinkUses) (owner : SendOwner) (id : Nat) : Prop :=
  ∃ use sourceId source, t.get? id = some use ∧ OwnedBy owner use ∧
    use.previewHistoryUseId = some sourceId ∧ t.get? sourceId = some source ∧
    PreviewFor owner use source ∧ use.generations ≠ [] ∧ source.generations ≠ [] ∧
    SameIds (source.generations.map Prod.fst) (use.generations.map Prod.fst) ∧
    OccurrencesAgree owner use source

variable {t t' : LinkUses} {owner : SendOwner} {id : Nat}

theorem Sound.kept (h : Sound t owner id) (hkept : Kept t t') : Sound t' owner id := by
  obtain ⟨use, sourceId, source, huse, howned, hsourceId, hsource, hpreview, hids, hids', hsame,
    hagree⟩ := h
  obtain ⟨use', huse', hrecord⟩ := hkept id use huse
  obtain ⟨source', hsource', hrecord'⟩ := hkept sourceId source hsource
  refine ⟨use', sourceId, source', huse', howned.same hrecord,
    hrecord.previewHistoryUseId.trans hsourceId, hsource', hpreview.same hrecord hrecord', ?_, ?_,
    ?_, hagree.same hrecord hrecord'⟩
  · rw [hrecord.generations]
    exact hids
  · rw [hrecord'.generations]
    exact hids'
  · rw [hrecord.generations, hrecord'.generations]
    exact hsame

theorem useGenerationIds_eq_ok {scope : HistoryScope} {use : LinkUse} (h : t.get? id = some use)
    (hscope : use.scope = scope) (hids : use.generations ≠ []) :
    useGenerationIds t (some id) scope = .ok (use.generations.map Prod.fst) := by
  refine bind_eq_ok.2 ⟨id, rfl, bind_eq_ok.2 ⟨use, ?_, bind_eq_ok.2 ⟨⟨⟩, check_eq_ok.2 hids, rfl⟩⟩⟩
  rw [h]
  simp [hscope]

theorem exists_of_useGenerationIds {useId : Option Nat} {scope : HistoryScope} {ids : List Nat}
    (h : useGenerationIds t useId scope = .ok ids) :
    ∃ id use, useId = some id ∧ t.get? id = some use ∧ use.scope = scope ∧
      use.generations ≠ [] ∧ ids = use.generations.map Prod.fst := by
  obtain ⟨id, hid, h⟩ := bind_eq_ok.1 h
  obtain ⟨use, huse, h⟩ := bind_eq_ok.1 h
  obtain ⟨_, hne, h⟩ := bind_eq_ok.1 h
  obtain rfl := Except.ok.inj h
  obtain ⟨huse, hscope⟩ := Option.filter_eq_some_iff.1 (orRaise_eq_ok.1 huse)
  exact ⟨id, use, orRaise_eq_ok.1 hid, huse, of_decide_eq_true hscope, check_eq_ok.1 hne, rfl⟩

/-! ## What the transition of a send does -/

/-- **What `transition_send` does**: one send of this owner moves, and every other use is as
before. -/
theorem transitionSend_eq_ok {useId : Option Nat} {now : Instant} {state : LinkUseState}
    {errorCode : Option String} {messageId : Option Text}
    (h : transitionSend t useId now state owner errorCode messageId = .ok t') :
    ∃ id use, useId = some id ∧ t.get? id = some use ∧ OwnedBy owner use ∧ Movable state use ∧
      t'.get? id = some (moved now state errorCode messageId use) ∧
      ∀ j, j ≠ id → t'.get? j = t.get? j := by
  obtain ⟨_, -, h⟩ := bind_eq_ok.1 h
  obtain ⟨id, hid, h⟩ := bind_eq_ok.1 h
  obtain ⟨use, huse, h⟩ := bind_eq_ok.1 h
  obtain ⟨_, howned, h⟩ := bind_eq_ok.1 h
  obtain ⟨sourceId, -, h⟩ := bind_eq_ok.1 h
  obtain ⟨source, -, h⟩ := bind_eq_ok.1 h
  obtain ⟨_, -, h⟩ := bind_eq_ok.1 h
  obtain ⟨sourceIds, -, h⟩ := bind_eq_ok.1 h
  obtain ⟨ids, -, h⟩ := bind_eq_ok.1 h
  obtain ⟨_, -, h⟩ := bind_eq_ok.1 h
  obtain ⟨_, -, h⟩ := bind_eq_ok.1 h
  obtain ⟨⟨use', huse', hmovable, hmoved⟩, hother⟩ := get?_of_updateOne (orRaise_eq_ok.1 h)
  obtain rfl := Option.some.inj ((orRaise_eq_ok.1 huse).symm.trans huse')
  exact ⟨id, use, orRaise_eq_ok.1 hid, huse', check_eq_ok.1 howned, hmovable, hmoved, hother⟩

/-- **A send whose owner checks hold moves** wherever its state allows it. -/
theorem Sound.transitionSend (h : Sound t owner id) (now : Instant) {state : LinkUseState}
    (hstate : state ∈ sendTargets) {use : LinkUse} (huse : t.get? id = some use)
    (hmovable : Movable state use) (errorCode : Option String) (messageId : Option Text) :
    ∃ t', transitionSend t (some id) now state owner errorCode messageId = .ok t' := by
  obtain ⟨use₀, sourceId, source, huse₀, howned, hsourceId, hsource, hpreview, hids, hids', hsame,
    hagree⟩ := h
  obtain rfl := Option.some.inj (huse.symm.trans huse₀)
  have hupdate : t.updateOne id (Movable state) (moved now state errorCode messageId) =
      some (t.updateWhere (fun j _ => j = id) (moved now state errorCode messageId)) :=
    updateOne_eq_some.2 ⟨use, huse, hmovable, rfl⟩
  refine ⟨t.updateWhere (fun j _ => j = id) (moved now state errorCode messageId), ?_⟩
  refine bind_eq_ok.2 ⟨⟨⟩, check_eq_ok.2 hstate, bind_eq_ok.2 ⟨id, rfl, ?_⟩⟩
  refine bind_eq_ok.2 ⟨use, orRaise_eq_ok.2 huse, ?_⟩
  refine bind_eq_ok.2 ⟨⟨⟩, check_eq_ok.2 howned, ?_⟩
  refine bind_eq_ok.2 ⟨sourceId, orRaise_eq_ok.2 hsourceId, ?_⟩
  refine bind_eq_ok.2 ⟨source, orRaise_eq_ok.2 hsource, ?_⟩
  refine bind_eq_ok.2 ⟨⟨⟩, check_eq_ok.2 hpreview, ?_⟩
  refine bind_eq_ok.2 ⟨_, useGenerationIds_eq_ok hsource hpreview.2.1 hids', ?_⟩
  refine bind_eq_ok.2 ⟨_, useGenerationIds_eq_ok huse rfl hids, ?_⟩
  refine bind_eq_ok.2 ⟨⟨⟩, check_eq_ok.2 hsame, ?_⟩
  exact bind_eq_ok.2 ⟨⟨⟩, check_eq_ok.2 hagree, orRaise_eq_ok.2 hupdate⟩

theorem kept_transitionSend {useId : Option Nat} {now : Instant} {state : LinkUseState}
    {errorCode : Option String} {messageId : Option Text}
    (h : transitionSend t useId now state owner errorCode messageId = .ok t') : Kept t t' := by
  obtain ⟨id, use, -, huse, -, -, hmoved, hother⟩ := transitionSend_eq_ok h
  intro j use' huse'
  rcases eq_or_ne j id with rfl | hj
  · obtain rfl := Option.some.inj (huse.symm.trans huse')
    exact ⟨_, hmoved, sameRecord_moved now state errorCode messageId use⟩
  · exact ⟨use', (hother j hj).trans huse', .refl use'⟩

/-! ## What recording a use does -/

variable {history : Generations} {q : UseRecord}

/-- **What `record_use` does**: there is one new use, and every other one is as before. -/
theorem recordUse_eq_ok (h : recordUse history t q = .ok (t', id)) :
    ∃ source origin, q.generationIds ≠ [] ∧ sourceUse t q = .ok source ∧
      inheritedOrigin source q.origin = .ok origin ∧ t.get? id = none ∧
      t'.get? id = some (useRow source origin q) ∧ ∀ j, j ≠ id → t'.get? j = t.get? j := by
  obtain ⟨_, hids, h⟩ := bind_eq_ok.1 h
  obtain ⟨_, -, h⟩ := bind_eq_ok.1 h
  obtain ⟨source, hsource, h⟩ := bind_eq_ok.1 h
  obtain ⟨origin, horigin, h⟩ := bind_eq_ok.1 h
  obtain ⟨rfl, rfl⟩ := Prod.mk.inj (Except.ok.inj h)
  exact ⟨source, origin, check_eq_ok.1 hids, hsource, horigin, get?_freshId t,
    get?_put_self _ _ _, fun j hj => get?_put_ne _ _ hj⟩

theorem recordUse_old (h : recordUse history t q = .ok (t', id)) {j : Nat} {use : LinkUse}
    (huse : t.get? j = some use) : t'.get? j = some use := by
  obtain ⟨source, origin, -, -, -, hfresh, -, hother⟩ := recordUse_eq_ok h
  rw [hother j ?_, huse]
  rintro rfl
  rw [hfresh] at huse
  cases huse

/-- What is found among the entries copied under some keys. -/
theorem lookup_copied {β : Type} (keys : List String) (fields : List (String × β)) (key : String) :
    (keys.filterMap fun k => (fields.lookup k).map fun value => (k, value)).lookup key =
      if key ∈ keys then fields.lookup key else none := by
  induction keys with
  | nil => rfl
  | cons k keys ih =>
    cases hk : fields.lookup k with
    | none =>
      rw [List.filterMap_cons_none (by rw [hk]; rfl), ih]
      by_cases hkey : key = k
      · rw [hkey, hk]
        simp
      · simp [hkey]
    | some value =>
      rw [List.filterMap_cons_some (by rw [hk]; rfl), List.lookup_cons]
      by_cases hkey : key = k
      · rw [hkey, hk]
        simp
      · rw [beq_eq_false_iff_ne.2 hkey]
        dsimp only
        rw [ih]
        simp [hkey]

/-- What a send inherits from its preview: its own origin as it was, and the occurrences as
the preview has them. -/
theorem inheritedOrigin_eq_ok {source : LinkUse} {key : String} {value : Json} {origin : Origin}
    (hkey : key ∉ coinOccurrenceMetadataKeys)
    (h : inheritedOrigin (some source) (some [(key, value)]) = .ok origin) :
    Json.get (origin.getD []) key = value ∧ origin.getD [] ≠ [] ∧
      (source.operationalKind = some .coinMultiPreview →
        ∀ k ∈ coinOccurrenceMetadataKeys, Json.get (origin.getD []) k = source.originGet k) := by
  unfold inheritedOrigin at h
  by_cases hmulti : source.operationalKind = some .coinMultiPreview
  · rw [Option.filter_some, if_pos (decide_eq_true hmulti)] at h
    obtain ⟨_, -, h⟩ := bind_eq_ok.1 h
    obtain rfl := Except.ok.inj h
    refine ⟨?_, by simp, fun _ k hk => ?_⟩
    · rw [Option.getD_some, Json.get, List.lookup_append, lookup_copied, if_neg hkey]
      simp
    · have hne : k ≠ key := fun heq => hkey (heq ▸ hk)
      rw [Option.getD_some, Json.get, List.lookup_append, lookup_copied, if_pos hk]
      rw [LinkUse.originGet, Json.get]
      simp [List.lookup_cons, beq_eq_false_iff_ne.2 hne]
  · rw [Option.filter_some, if_neg (by simpa using hmulti)] at h
    obtain rfl := Except.ok.inj h
    refine ⟨by simp [Json.get], by simp, fun hkind => absurd hkind hmulti⟩

theorem sourceUse_eq_ok {sourceId : Nat} {source : Option LinkUse}
    (hsourceId : q.sourceUseId = some sourceId) (h : sourceUse t q = .ok source) :
    ∃ use, t.get? sourceId = some use ∧ source = some use ∧ use.scope = q.scope ∧
      use.generations ≠ [] ∧ SameIds (use.generations.map Prod.fst) q.generationIds := by
  unfold sourceUse at h
  rw [hsourceId] at h
  obtain ⟨ids, hids, h⟩ := bind_eq_ok.1 h
  obtain ⟨_, hsame, h⟩ := bind_eq_ok.1 h
  obtain rfl := Except.ok.inj h
  obtain ⟨id, use, hid, huse, hscope, hne, rfl⟩ := exists_of_useGenerationIds hids
  obtain rfl := Option.some.inj hid
  exact ⟨use, huse, huse, hscope, hne, check_eq_ok.1 hsame⟩

/-- **A send made from a preview passes its owner checks.** -/
theorem sound_recordUse {key : String} {value : Json} {kind : OperationalKind}
    {operationalId sourceId : Nat} {destination : Text} {preview : LinkUse}
    (h : recordUse history t q = .ok (t', id)) (hkey : key ∉ coinOccurrenceMetadataKeys)
    (hq : q.scope = .shadow ∧ q.kind = .send ∧ q.sourceUseId = some sourceId ∧
      q.origin = some [(key, value)] ∧ q.operationalKind = some kind ∧
      q.operationalId = some operationalId ∧ q.destinationKey = some destination)
    (hpreview : t.get? sourceId = some preview) (hkind : preview.kind = .preview)
    (hoperation : preview.operationalKind = previewKind kind) (horigin : preview.HasOrigin)
    (hvalue : preview.originGet key = value) :
    Sound t' ⟨kind, operationalId, destination, [(key, value)]⟩ id ∧
      ∃ use, t'.get? id = some use ∧ use.state = .sendReserved ∧ use.kind = .send := by
  obtain ⟨hscope, hsend, hsourceId, hexpected, hqkind, hqid, hqdestination⟩ := hq
  obtain ⟨source, origin, hids, hsource, hinherited, -, hrow, -⟩ := recordUse_eq_ok h
  obtain ⟨use, huse, rfl, huseScope, huseIds, hsame⟩ := sourceUse_eq_ok hsourceId hsource
  obtain rfl := Option.some.inj (hpreview.symm.trans huse)
  rw [hexpected] at hinherited
  obtain ⟨hget, hne, hoccurrences⟩ := inheritedOrigin_eq_ok hkey hinherited
  have hgenerations : (useRow (some preview) origin q).generations.map Prod.fst =
      q.generationIds.eraseDups := by
    show (q.generationIds.eraseDups.map _).map Prod.fst = _
    rw [List.map_map]
    exact List.map_id _
  have hagrees : ∀ u : LinkUse, u.HasOrigin → u.originGet key = value →
      OriginAgrees ⟨kind, operationalId, destination, [(key, value)]⟩ u := by
    intro u hu hval
    refine ⟨hu, fun e he => ?_⟩
    obtain rfl := List.mem_singleton.1 he
    exact hval
  refine ⟨⟨useRow (some preview) origin q, sourceId, preview, hrow, ?_, ?_,
    recordUse_old h hpreview, ?_, ?_, huseIds, ?_, ?_⟩, _, hrow, ?_, hsend⟩
  · exact ⟨hsend, hscope, hqkind, hqid, hqdestination, hagrees _ (Or.inr hne) hget⟩
  · show (if q.kind = .send then q.sourceUseId else none) = some sourceId
    rw [if_pos hsend, hsourceId]
  · exact ⟨hkind, huseScope, hoperation, hagrees _ horigin hvalue⟩
  · intro hempty
    rw [hempty, List.map_nil] at hgenerations
    obtain ⟨g, hg⟩ := List.exists_mem_of_ne_nil _ hids
    have hmem : g ∈ q.generationIds.eraseDups := List.mem_eraseDups.2 hg
    rw [← hgenerations] at hmem
    cases hmem
  · rw [hgenerations]
    exact ⟨fun g hg => List.mem_eraseDups.2 (hsame.1 hg), fun g hg =>
      hsame.2 (List.mem_eraseDups.1 hg)⟩
  · rintro rfl k hk
    exact hoccurrences hoperation k hk
  · show initialState q.kind = .sendReserved
    rw [hsend]
    rfl

end AffiliateLinkHistoryRepository

end PromoBot
