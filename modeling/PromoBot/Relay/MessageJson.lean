import PromoBot.Lib.JsonText
import PromoBot.Relay.Models

/-!
# Messages as JSON

The encoders, decoders and hashes of `relay/models.py`: three lists of fields over the same
data.  What `as_dict` makes is stored in a JSON column, which is written with the defaults of
`json.dumps`; the content hash is over the same dictionaries, written compactly and with their
keys sorted.

`from_dict` looks a field up by its key, so it does not see the order of the fields, and it
gives back the value `as_dict` was made of (`fromDict_asDict` and its sorted forms).  That
`has_web_page_preview` is left out when it is false loses nothing, since a field that is
missing is read as false.  It follows that the hashes of two messages are equal exactly when
what is hashed is.
-/

namespace PromoBot

open JsonText

/-! ## Reading fields -/

/-- `str(value)`; the representation of a list or a dictionary is left out. -/
def strOfJson : Json → Option Text
  | .null => some "None".toList
  | .bool true => some "True".toList
  | .bool false => some "False".toList
  | .arr _ | .obj _ => none
  | value => value.numeral?

/-- `int(value)`, of an integer or a truth value.  An ordinal is stored as an integer; the
other values `int` takes are left out. -/
def intOfJson : Json → Option Int
  | .int n => some n
  | .bool b => some (if b then 1 else 0)
  | _ => none

/-- `bool(value)`. -/
def truthy : Json → Bool
  | .null => false
  | .bool b => b
  | .int n => n ≠ 0
  | .number repr => repr ≠ "0.0".toList ∧ repr ≠ "-0.0".toList
  | .str t => t ≠ []
  | .arr vs => ¬ vs.isEmpty
  | .obj fs => ¬ fs.isEmpty

/-- `tuple(str(item) for item in value)`. -/
def textsOf : Json → Option (List Text)
  | .arr vs => vs.mapM strOfJson
  | .str t => some (t.map fun c => [c])
  | .obj fs => some (fs.map fun e => e.1.toList)
  | _ => none

/-! ## Links -/

/-- The values of `LinkSource`. -/
def LinkSource.value : LinkSource → Text
  | .text => "TEXT".toList
  | .entityUrl => "ENTITY_URL".toList
  | .entityTextUrl => "ENTITY_TEXT_URL".toList
  | .button => "BUTTON".toList

/-- `LinkSource(value)`. -/
def LinkSource.ofValue (t : Text) : Option LinkSource :=
  [LinkSource.text, .entityUrl, .entityTextUrl, .button].find? fun source => source.value = t

@[simp] theorem LinkSource.ofValue_value (source : LinkSource) :
    LinkSource.ofValue source.value = some source := by
  cases source <;> decide

namespace ExtractedLink

/-- The fields of `ExtractedLink.as_dict`. -/
def fields (link : ExtractedLink) : List (String × Json) :=
  [("url", .str link.url), ("source", .str link.source.value), ("ordinal", .int link.ordinal)]

/-- `ExtractedLink.as_dict`. -/
def asDict (link : ExtractedLink) : Json := .obj link.fields

/-- `ExtractedLink.from_dict`; `none` is an error. -/
def fromDict : Json → Option ExtractedLink
  | .obj fs => do
    let url ← (fs.lookup "url").bind strOfJson
    let source ← ((fs.lookup "source").bind strOfJson).bind LinkSource.ofValue
    let ordinal ← (fs.lookup "ordinal").bind intOfJson
    if h : url.strip ≠ [] ∧ 0 ≤ ordinal then some ⟨url, source, ordinal.toNat, h.1⟩ else none
  | _ => none

theorem nodup_fields (link : ExtractedLink) : (link.fields.map Prod.fst).Nodup := by
  show ["url", "source", "ordinal"].Nodup
  decide

theorem fromDict_eq_some {link : ExtractedLink} {fs : List (String × Json)}
    (h : ∀ key, fs.lookup key = link.fields.lookup key) : fromDict (.obj fs) = some link := by
  have hurl : fs.lookup "url" = some (.str link.url) := (h _).trans rfl
  have hsource : fs.lookup "source" = some (.str link.source.value) := (h _).trans rfl
  have hordinal : fs.lookup "ordinal" = some (.int link.ordinal) := (h _).trans rfl
  rw [fromDict, hurl, hsource, hordinal]
  simp [strOfJson, intOfJson, Json.numeral?, link.url_ne_blank]

/-- **A link comes back.** -/
theorem fromDict_asDict (link : ExtractedLink) : fromDict link.asDict = some link :=
  fromDict_eq_some fun _ => rfl

theorem fromDict_sortKeys (link : ExtractedLink) : fromDict (sortKeys link.asDict) = some link :=
  fromDict_eq_some (lookup_sortFields_of_flat link.nodup_fields (by simp [fields, sortKeys]))

theorem exact_asDict (link : ExtractedLink) : Exact link.asDict :=
  ⟨link.nodup_fields, trivial, trivial, trivial, trivial⟩

end ExtractedLink

/-! ## Surface metadata -/

namespace MessageSurfaceMetadata

/-- The fields of `MessageSurfaceMetadata.as_dict`. -/
def fields (m : MessageSurfaceMetadata) : List (String × Json) :=
  [("has_buttons", .bool m.hasButtons), ("has_caption", .bool m.hasCaption),
    ("has_custom_emoji", .bool m.hasCustomEmoji), ("has_hidden_links", .bool m.hasHiddenLinks),
    ("has_media", .bool m.hasMedia),
    ("flattened_entity_types", .arr (m.flattenedEntityTypes.map .str)),
    ("unsupported_entity_types", .arr (m.unsupportedEntityTypes.map .str))] ++
  if m.hasWebPagePreview then [("has_web_page_preview", .bool true)] else []

/-- `MessageSurfaceMetadata.as_dict`. -/
def asDict (m : MessageSurfaceMetadata) : Json := .obj m.fields

/-- `bool(value.get(key, False))`. -/
def flag (fs : List (String × Json)) (key : String) : Bool :=
  truthy ((fs.lookup key).getD (.bool false))

/-- `tuple(str(item) for item in value.get(key, []))`. -/
def entityTypes (fs : List (String × Json)) (key : String) : Option (List Text) :=
  textsOf ((fs.lookup key).getD (.arr []))

/-- `MessageSurfaceMetadata.from_dict`; `none` is an error. -/
def fromDict : Json → Option MessageSurfaceMetadata
  | .obj fs => do
    return {
      hasButtons := flag fs "has_buttons"
      hasCaption := flag fs "has_caption"
      hasCustomEmoji := flag fs "has_custom_emoji"
      hasHiddenLinks := flag fs "has_hidden_links"
      hasMedia := flag fs "has_media"
      hasWebPagePreview := flag fs "has_web_page_preview"
      flattenedEntityTypes := ← entityTypes fs "flattened_entity_types"
      unsupportedEntityTypes := ← entityTypes fs "unsupported_entity_types" }
  | _ => none

theorem nodup_fields (m : MessageSurfaceMetadata) : (m.fields.map Prod.fst).Nodup := by
  cases hpreview : m.hasWebPagePreview <;> simp [fields, hpreview]

theorem textsOf_map_str (ts : List Text) : textsOf (.arr (ts.map .str)) = some ts := by
  show (ts.map Json.str).mapM strOfJson = some ts
  induction ts with
  | nil => rfl
  | cons t ts ih =>
    rw [List.map_cons, List.mapM_cons, ih]
    rfl

/-- The metadata is read from any fields that hold its own. -/
theorem fromDict_eq_some {m : MessageSurfaceMetadata} {fs : List (String × Json)}
    (h : ∀ key, fs.lookup key = m.fields.lookup key) : fromDict (.obj fs) = some m := by
  have hflag (key : String) : flag fs key = flag m.fields key := by rw [flag, h, flag]
  have htypes (key : String) : entityTypes fs key = entityTypes m.fields key := by
    rw [entityTypes, h, entityTypes]
  have hflattened : entityTypes m.fields "flattened_entity_types" = some m.flattenedEntityTypes :=
    textsOf_map_str _
  have hunsupported :
      entityTypes m.fields "unsupported_entity_types" = some m.unsupportedEntityTypes :=
    textsOf_map_str _
  -- A preview that is not recorded is read as none.
  have hpreview : flag m.fields "has_web_page_preview" = m.hasWebPagePreview := by
    cases hvalue : m.hasWebPagePreview <;> simp [flag, fields, hvalue, List.lookup_cons, truthy]
  rw [fromDict, htypes, htypes, hflattened, hunsupported]
  simp only [hflag, hpreview]
  rfl

/-- **The metadata comes back.** -/
theorem fromDict_asDict (m : MessageSurfaceMetadata) : fromDict m.asDict = some m :=
  fromDict_eq_some fun _ => rfl

theorem sortItems_map_str (ts : List Text) : sortItems (ts.map .str) = ts.map .str := by
  rw [sortItems_eq_map, List.map_map]
  rfl

theorem fromDict_sortKeys (m : MessageSurfaceMetadata) : fromDict (sortKeys m.asDict) = some m := by
  have hflat : ∀ e ∈ m.fields, sortKeys e.2 = e.2 := by
    cases hpreview : m.hasWebPagePreview <;>
      simp [fields, hpreview, sortKeys, sortItems_map_str]
  exact fromDict_eq_some (lookup_sortFields_of_flat m.nodup_fields hflat)

theorem exactItems_map_str (ts : List Text) : ExactItems (ts.map .str) := by
  rw [exactItems_iff]
  intro v hv
  obtain ⟨t, -, rfl⟩ := List.mem_map.1 hv
  trivial

theorem exact_asDict (m : MessageSurfaceMetadata) : Exact m.asDict := by
  refine ⟨m.nodup_fields, (exactFields_iff _).2 ?_⟩
  cases hpreview : m.hasWebPagePreview <;>
    simp [fields, hpreview, Exact, exactItems_map_str]

end MessageSurfaceMetadata

/-! ## Columns -/

/-- What a JSON column holds: `json.dumps(value)`. -/
def jsonColumn (v : Json) : Text := dumps .default v

/-- The links of a message, as they are stored. -/
def linksJson (links : List ExtractedLink) : Json := .arr (links.map ExtractedLink.asDict)

/-- `tuple(ExtractedLink.from_dict(item) for item in source.links)`. -/
def readLinks (column : Text) : Option (List ExtractedLink) := do
  match ← loads column with
  | .arr vs => vs.mapM ExtractedLink.fromDict
  | _ => none

/-- `MessageSurfaceMetadata.from_dict(source.surface_metadata)`. -/
def readSurface (column : Text) : Option MessageSurfaceMetadata := do
  MessageSurfaceMetadata.fromDict (← loads column)

theorem exact_linksJson (links : List ExtractedLink) : Exact (linksJson links) := by
  refine (exactItems_iff _).2 fun v hv => ?_
  obtain ⟨link, -, rfl⟩ := List.mem_map.1 hv
  exact link.exact_asDict

theorem mapM_fromDict {encode : ExtractedLink → Json}
    (h : ∀ link, ExtractedLink.fromDict (encode link) = some link) (links : List ExtractedLink) :
    (links.map encode).mapM ExtractedLink.fromDict = some links := by
  induction links with
  | nil => rfl
  | cons link links ih =>
    rw [List.map_cons, List.mapM_cons, h, ih]
    rfl

/-- **Stored links come back.** -/
theorem readLinks_jsonColumn (links : List ExtractedLink) :
    readLinks (jsonColumn (linksJson links)) = some links := by
  rw [readLinks, jsonColumn, loads_dumps _ (exact_linksJson links)]
  exact mapM_fromDict ExtractedLink.fromDict_asDict links

/-- **Stored metadata comes back.** -/
theorem readSurface_jsonColumn (m : MessageSurfaceMetadata) :
    readSurface (jsonColumn m.asDict) = some m := by
  rw [readSurface, jsonColumn, loads_dumps _ m.exact_asDict]
  exact m.fromDict_asDict

/-! ## Hashes -/

namespace IncomingMessage

/-- The payload of `legacy_content_hash`. -/
def legacyPayload (m : IncomingMessage) : List (String × Json) :=
  [("text", .str m.originalText), ("links", linksJson m.links)]

/-- The payload of `content_hash`. -/
def payload (m : IncomingMessage) : List (String × Json) :=
  [("text", .str m.originalText), ("links", linksJson m.links),
    ("surface_metadata", m.surfaceMetadata.asDict)]

end IncomingMessage

/-- `json.dumps(payload, ensure_ascii=False, sort_keys=True, separators=(",", ":")).encode()`. -/
def hashedBytes (payload : List (String × Json)) : ByteArray :=
  encode (dumps .compact (sortKeys (.obj payload)))

/-- The hashes of a message.  `sha256` is `hashlib.sha256(encoded).hexdigest()`. -/
def messageHashes (sha256 : ByteArray → Text) : ContentHashes where
  contentHash m := sha256 (hashedBytes m.payload)
  legacyContentHash m := sha256 (hashedBytes m.legacyPayload)

/-- Two messages have the same content. -/
def SameContent (m n : IncomingMessage) : Prop :=
  m.originalText = n.originalText ∧ m.links = n.links ∧ m.surfaceMetadata = n.surfaceMetadata

instance : DecidableRel SameContent := fun _ _ => inferInstanceAs (Decidable (_ ∧ _))

theorem nodup_payload (m : IncomingMessage) : (m.payload.map Prod.fst).Nodup := by
  show ["text", "links", "surface_metadata"].Nodup
  decide

theorem nodup_legacyPayload (m : IncomingMessage) : (m.legacyPayload.map Prod.fst).Nodup := by
  show ["text", "links"].Nodup
  decide

theorem exact_payload (m : IncomingMessage) : Exact (.obj m.payload) :=
  ⟨nodup_payload m, trivial, exact_linksJson m.links, m.surfaceMetadata.exact_asDict, trivial⟩

theorem exact_legacyPayload (m : IncomingMessage) : Exact (.obj m.legacyPayload) :=
  ⟨nodup_legacyPayload m, trivial, exact_linksJson m.links, trivial⟩

/-- **Equal bytes are of equal fields**, whichever key is asked for. -/
theorem lookup_of_hashedBytes_eq {p q : List (String × Json)} (hp : Exact (.obj p))
    (hq : Exact (.obj q)) (h : hashedBytes p = hashedBytes q) (key : String) :
    (p.lookup key).map sortKeys = (q.lookup key).map sortKeys := by
  have hvalues := dumps_injOn .compact (exact_sortKeys _ hp) (exact_sortKeys _ hq)
    (encode_injective h)
  have hfields : (sortFields p).insertionSort KeyLe = (sortFields q).insertionSort KeyLe :=
    Json.obj.inj hvalues
  rw [← lookup_sortFields hp.1, ← lookup_sortFields hq.1, hfields]

/-- **The bytes that are hashed determine the content.** -/
theorem hashedBytes_payload_inj {m n : IncomingMessage} :
    hashedBytes m.payload = hashedBytes n.payload ↔ SameContent m n := by
  constructor
  · intro h
    have hlookup := lookup_of_hashedBytes_eq (exact_payload m) (exact_payload n) h
    have htext : sortKeys (.str m.originalText) = sortKeys (.str n.originalText) :=
      Option.some.inj (hlookup "text")
    have hlinks : sortKeys (linksJson m.links) = sortKeys (linksJson n.links) :=
      Option.some.inj (hlookup "links")
    have hsurface : sortKeys m.surfaceMetadata.asDict = sortKeys n.surfaceMetadata.asDict :=
      Option.some.inj (hlookup "surface_metadata")
    refine ⟨Json.str.inj htext, ?_, ?_⟩
    · have hitems := Json.arr.inj hlinks
      rw [sortItems_eq_map, sortItems_eq_map, List.map_map, List.map_map] at hitems
      have hread := mapM_fromDict ExtractedLink.fromDict_sortKeys m.links
      rw [show (fun link : ExtractedLink => sortKeys link.asDict) =
        sortKeys ∘ ExtractedLink.asDict from rfl, hitems] at hread
      exact Option.some.inj (hread.symm.trans
        (mapM_fromDict ExtractedLink.fromDict_sortKeys n.links))
    · have hread := m.surfaceMetadata.fromDict_sortKeys
      rw [hsurface, n.surfaceMetadata.fromDict_sortKeys] at hread
      exact (Option.some.inj hread).symm
  · rintro ⟨htext, hlinks, hsurface⟩
    rw [IncomingMessage.payload, htext, hlinks, hsurface, IncomingMessage.payload]

theorem hashedBytes_legacyPayload_ne (m n : IncomingMessage) :
    hashedBytes m.payload ≠ hashedBytes n.legacyPayload := by
  intro h
  have hsurface := lookup_of_hashedBytes_eq (exact_payload m) (exact_legacyPayload n) h
    "surface_metadata"
  cases hsurface

/-- **The content hash identifies the content**, SHA-256 taken as injective. -/
theorem contentHash_eq_iff {sha256 : ByteArray → Text} (hsha : Function.Injective sha256)
    {m n : IncomingMessage} :
    (messageHashes sha256).contentHash m = (messageHashes sha256).contentHash n ↔
      SameContent m n :=
  hsha.eq_iff.trans hashedBytes_payload_inj

end PromoBot
