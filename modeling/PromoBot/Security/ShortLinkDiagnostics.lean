import PromoBot.Lib.UrlJoin
import PromoBot.Security.ShortLinkProduct

/-!
# What a rejection tells

`AliExpressShortLinkRejected` of `security/aliexpress_short_links.py`, with the bounded
facts it carries about a rejected redirect or terminal response.  They are computed from
the addresses and headers of whoever answered, so each of these functions is written to
take any text; where one of them calls something that may raise, the source catches it, or
it has been called on the same text before.

`Regex.segments` is `finditer` with groups.
-/

namespace PromoBot
namespace ShortLinkResolver

open PyUrl Urls Fallible

/-- `AliExpressRedirectDiagnostic`. -/
structure RedirectDiagnostic where
  sourceHost : Text
  destinationHost : Text
  redirectIndex : Nat
  destinationScheme : Text
  statusCode : Nat
  decisionCode : String
  deriving DecidableEq, Repr

/-- `AliExpressTerminalDiagnostic`. -/
structure TerminalDiagnostic where
  terminalHost : Text
  statusCode : Nat
  redirectIndex : Nat
  pathClass : String
  pathSegmentCount : Nat
  hasNumericPathCandidate : Bool
  segmentShapes : List String
  segmentLengthBuckets : List String
  hasHtmlSuffix : Bool
  knownQueryKeys : List String
  hasNumericKnownQueryCandidate : Bool
  linkCanonicalClass : String
  contentLocationClass : String
  decisionCode : String
  deriving DecidableEq, Repr

/-- `AliExpressShortLinkRejected`. -/
structure Rejection where
  code : String
  redirectDiagnostic : Option RedirectDiagnostic
  terminalDiagnostic : Option TerminalDiagnostic
  deriving DecidableEq, Repr

/-- A rejection that carries its code alone. -/
def Rejection.plain (code : String) : Rejection := ⟨code, none, none⟩

/-- `AliExpressRedirectHop`. -/
structure RedirectHop where
  statusCode : Nat
  headers : List (Text × Text)
  deriving DecidableEq, Repr

variable (u : PyUnicode) (ips : IpAddresses)

/-! ## Hosts and schemes -/

/-- `MISSING_HOST_MARKER`. -/
def missingHostMarker : Text := "[MISSING_HOST]".toList

/-- `INVALID_HOST_MARKER`. -/
def invalidHostMarker : Text := "[INVALID_HOST]".toList

/-- `IP_LITERAL_HOST_MARKER`. -/
def ipLiteralHostMarker : Text := "[IP_LITERAL]".toList

/-- `MISSING_SCHEME_MARKER`. -/
def missingSchemeMarker : Text := "[MISSING_SCHEME]".toList

/-- `INVALID_SCHEME_MARKER`. -/
def invalidSchemeMarker : Text := "[INVALID_SCHEME]".toList

/-- `[a-z0-9]`. -/
def isLabelChar (c : Char) : Bool := ('a' ≤ c && c ≤ 'z') || Text.isAsciiDigit c

/-- `HOSTNAME_LABEL.fullmatch`. -/
def isHostnameLabel (label : Text) : Bool :=
  1 ≤ label.length && label.length ≤ 63 && label.all (fun c => isLabelChar c || c = '-') &&
    label.head?.any isLabelChar && label.getLast?.any isLabelChar

/-- `_diagnostic_hostname` of a host without its final dots. -/
def diagnosticCandidate (candidate : Text) : Text :=
  if candidate = [] ∨ '%' ∈ candidate then invalidHostMarker
  else if candidate.any fun c => Text.isSpace c || u.isControl c then invalidHostMarker
  else if (ips.parse candidate).isSome then ipLiteralHostMarker
  else
    match (u.idna candidate).map u.casefold with
    | none => invalidHostMarker
    | some normalized =>
      if 253 < normalized.length then invalidHostMarker
      else if (normalized.split '.').all isHostnameLabel then normalized
      else invalidHostMarker

/-- `_diagnostic_hostname`. -/
def diagnosticHostname (value : Option Text) : Text :=
  match value with
  | none => missingHostMarker
  | some value =>
    if ShortLinks.hasUnsafeUrlText u value then invalidHostMarker
    else
      match urlsplit u value with
      | none => invalidHostMarker
      | some parts =>
        match parts.hostname u with
        | none => missingHostMarker
        | some hostname => diagnosticCandidate u ips (hostname.rstripBy (· = '.'))

/-- The scheme at the beginning of an address, as `SCHEME_PREFIX` has it. -/
def isSchemePrefix (scheme : Text) : Bool :=
  scheme.length ≤ 32 && scheme.head?.any Text.isAsciiLetter && scheme.all isSchemeChar

/-- `_diagnostic_scheme`. -/
def diagnosticScheme (value : Option Text) : Text :=
  match value with
  | none => missingSchemeMarker
  | some value =>
    match value.partition ':' with
    | (_, none) => missingSchemeMarker
    | (scheme, some _) => if isSchemePrefix scheme then u.casefold scheme else invalidSchemeMarker

/-- `_redirect_rejection`. -/
def redirectRejection (code : String) (sourceUrl : Text) (destinationUrl : Option Text)
    (redirectIndex statusCode : Nat) (invalidDestinationHost : Bool) : Rejection where
  code := code
  redirectDiagnostic := some {
    sourceHost := diagnosticHostname u ips (some sourceUrl)
    destinationHost :=
      if invalidDestinationHost then invalidHostMarker else diagnosticHostname u ips destinationUrl
    redirectIndex := redirectIndex
    destinationScheme := diagnosticScheme u destinationUrl
    statusCode := statusCode
    decisionCode := code }
  terminalDiagnostic := none

/-! ## Paths -/

/-- `[0-9A-Fa-f]`. -/
def isHexDigit (c : Char) : Bool := (hexValue c).isSome

/-- `_classify_segment_shape`. -/
def classifySegmentShape (segment : Text) : String :=
  if segment.isAscii = false then "unicode"
  else if ((Regex.seq (.one (· = '%')) (.times isHexDigit 2)).search segment).isSome then
    "percent_encoded"
  else if segment ≠ [] ∧ segment.all Text.isAsciiLetter then "ascii_alpha"
  else if isDigits u segment then "ascii_numeric"
  else if segment ≠ [] ∧ segment.all ShortLinks.isAlphanumeric then "ascii_alphanumeric"
  else if 2 ≤ (segment.split '-').length ∧
      (segment.split '-').all (fun part => part ≠ [] && part.all ShortLinks.isAlphanumeric) then
    "ascii_hyphenated"
  else "other"

/-- `_classify_segment_length`. -/
def classifySegmentLength (length : Nat) : String :=
  if length ≤ 4 then "1_4"
  else if length ≤ 8 then "5_8"
  else if length ≤ 16 then "9_16"
  else if length ≤ 32 then "17_32"
  else if length ≤ 64 then "33_64"
  else "65_plus"

/-- `_is_numeric_path_candidate`. -/
def isNumericPathCandidate (segment : Text) : Bool :=
  let candidate : Text :=
    if ".html".toList.isSuffixOf segment then segment.take (segment.length - 5) else segment
  candidate.isAscii && isDigits u candidate

/-- `path_class` of the segments of a path. -/
def pathClass (segments : List Text) : String :=
  match segments with
  | [] => "root"
  | first :: _ =>
    if u.casefold first = "item".toList then "item_shape_mismatch"
    else if u.casefold first ∈ ["p".toList, "product".toList] then "product_shape_mismatch"
    else if segments.any (isNumericPathCandidate u) then "numeric_candidate_elsewhere"
    else "no_numeric_candidate"

/-! ## Queries -/

/-- `KNOWN_PRODUCT_QUERY_KEYS`. -/
def knownProductQueryKeys : List (Text × String) :=
  [("product_id".toList, "product_id"), ("productId".toList, "product_id"),
    ("item_id".toList, "item_id"), ("itemId".toList, "item_id")]

/-- `parse_qsl` with `max_num_fields`; `none` is the `ValueError`. -/
def parseQslAtMost (maxNumFields : Nat) (query : Text) : Option (List (Text × Text)) :=
  if maxNumFields < (query.split '&').length then none else some (parseQsl u query)

/-- `_classify_known_query`. -/
def classifyKnownQuery (query : Text) : List String × Bool :=
  match parseQslAtMost u 64 query with
  | none => ([], false)
  | some pairs =>
    let known := pairs.filterMap fun e => (knownProductQueryKeys.lookup e.1).map (·, e.2)
    (["item_id", "product_id"].filter (· ∈ known.map Prod.fst),
      known.any fun e => e.2.isAscii && isDigits u e.2)

/-! ## Headers -/

/-- `_header_values`. -/
def headerValues (headers : List (Text × Text)) (name : Text) : List Text :=
  (headers.filter fun e => u.casefold e.1 = name).map Prod.snd

/-- `LINK_REFERENCE_PATTERN`.  What follows a semicolon runs up to a comma, so that its
repetition matches at most once. -/
def linkReferencePattern : Regex :=
  .seq (.one (· = '<'))
    (.seq (.group (.many (fun c => c ≠ '<' && c ≠ '>') 0))
      (.seq (.one (· = '>'))
        (.seq (.many Text.isSpace 0)
          (.group (Regex.optional (.seq (.one (· = ';')) (.many (· ≠ ',') 0)))))))

/-- `LINK_REL_PATTERN`, after its `(?:^|;)`. -/
def linkRelPattern : Regex :=
  .seq (.many Text.isSpace 0)
    (.seq (Regex.literalIgnoreCase "rel".toList)
      (.seq (.many Text.isSpace 0)
        (.seq (.one (· = '='))
          (.seq (.many Text.isSpace 0)
            (.either
              (.seq (.one (· = '"')) (.seq (.group (.many (· ≠ '"') 0)) (.one (· = '"'))))
              (.group (.many (fun c => c ≠ ';' && c ≠ ',' && !Text.isSpace c) 1)))))))

/-- `LINK_REL_PATTERN.search`: at the beginning of the text, or after a semicolon. -/
def searchLinkRel (t : Text) : Option Match :=
  (linkRelPattern.match? t).or ((Regex.seq (.one (· = ';')) linkRelPattern).search t)

/-- `str.split()`. -/
def words (t : Text) : List Text :=
  (Text.split ' ' (t.map fun c => if Text.isSpace c then ' ' else c)).filter (· ≠ [])

/-- The references of a `Link` header whose relation is `canonical`. -/
def canonicalReferences (value : Text) : List Text :=
  (Regex.segments (Regex.anywhere linkReferencePattern) none 0 value).filterMap fun
    | .matched _ [reference, parameters] =>
      (searchLinkRel parameters).bind fun relation =>
        if "canonical".toList ∈ (words (relation.groups.headD [])).map u.casefold then
          some reference
        else none
    | _ => none

/-- `_classify_header_reference`. -/
def classifyHeaderReference (value baseUrl : Text) : String :=
  if value = [] ∨ 4096 < value.length ∨ ShortLinks.hasUnsafeUrlText u value then "invalid"
  else
    match (urljoin u baseUrl value).bind fun candidate =>
        (splitWithPort u candidate).map (candidate, ·) with
    | none => "invalid"
    | some (candidate, parts, port) =>
      let hostname := diagnosticHostname u ips (some candidate)
      if u.casefold parts.scheme ≠ "https".toList ∨ parts.username ≠ none ∨
          parts.password ≠ none ∨ port ∉ [none, some 443] ∨
          hostname ∈ [missingHostMarker, invalidHostMarker, ipLiteralHostMarker] then "invalid"
      else if hostname ∉ networkHopHosts then "forbidden_host"
      else if (mobileProductPath.fullMatch? parts.path).isSome then
        if hostname = mobileHopHost then "mobile_product_path" else "allowed_product_path"
      else "allowed_non_product_path"

/-- `_classify_link_canonical`. -/
def classifyLinkCanonical (headers : List (Text × Text)) (baseUrl : Text) : String :=
  match headerValues u headers "link".toList with
  | [] => "absent"
  | [value] =>
    if 4096 < value.length ∨ ShortLinks.hasUnsafeUrlText u value then "invalid"
    else
      match canonicalReferences u value with
      | [] =>
        if ((Regex.literal "canonical".toList).search (u.casefold value)).isSome then "invalid"
        else "absent"
      | [reference] => classifyHeaderReference u ips reference baseUrl
      | _ => "multiple"
  | _ => "multiple"

/-- `_classify_content_location`. -/
def classifyContentLocation (headers : List (Text × Text)) (baseUrl : Text) : String :=
  match headerValues u headers "content-location".toList with
  | [] => "absent"
  | [value] => classifyHeaderReference u ips value baseUrl
  | _ => "multiple"

/-! ## The terminal response -/

/-- What `_terminal_rejection_diagnostic` tells of an address with its parts. -/
def terminalDiagnosticOf (url : Text) (parts : SplitResult) (redirectIndex : Nat)
    (response : RedirectHop) : TerminalDiagnostic :=
  let segments := (parts.path.split '/').filter (· ≠ [])
  let known := classifyKnownQuery u parts.query
  { terminalHost := diagnosticHostname u ips (some url)
    statusCode := response.statusCode
    redirectIndex := redirectIndex
    pathClass := pathClass u segments
    pathSegmentCount := min segments.length 1000
    hasNumericPathCandidate := segments.any (isNumericPathCandidate u)
    segmentShapes := (segments.take 8).map (classifySegmentShape u)
    segmentLengthBuckets := (segments.take 8).map fun s => classifySegmentLength s.length
    hasHtmlSuffix := segments.any fun s => ".html".toList.isSuffixOf (u.casefold s)
    knownQueryKeys := known.1
    hasNumericKnownQueryCandidate := known.2
    linkCanonicalClass := classifyLinkCanonical u ips response.headers url
    contentLocationClass := classifyContentLocation u ips response.headers url
    decisionCode := "ALIEXPRESS_PRODUCT_ID_NOT_FOUND" }

/-- `_terminal_rejection_diagnostic`. -/
def terminalRejectionDiagnostic (url : Text) (redirectIndex : Nat) (response : RedirectHop) :
    Except Raised TerminalDiagnostic := do
  let parts ← orRaise (urlsplit u url) .value
  return terminalDiagnosticOf u ips url parts redirectIndex response

/-- A header that names the canonical address of a product page, and one that has no
reference at all. -/
example : classifyLinkCanonical .ascii ⟨fun _ => none, fun _ => false⟩
      [("Link".toList, "</item/12.html>; rel=\"x CANONICAL\", </y>; rel=next".toList)]
      "https://m.aliexpress.com/p".toList = "mobile_product_path" ∧
    classifyLinkCanonical .ascii ⟨fun _ => none, fun _ => false⟩
      [("Link".toList, "canonical".toList)] "https://m.aliexpress.com/p".toList = "invalid" := by
  decide +kernel

end ShortLinkResolver
end PromoBot
