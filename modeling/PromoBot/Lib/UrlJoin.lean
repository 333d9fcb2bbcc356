import PromoBot.Lib.PyUrl

/-!
# Python's `urljoin`

`urlparse`, `urlunparse` and `urljoin` of `urllib.parse`, on top of `urlsplit`: the
address a reference means when it stands in a document with another address.  A
`ValueError` is `none`.
-/

/-- The result of `urlparse`. -/
structure ParseResult where
  scheme : Text
  netloc : Text
  path : Text
  params : Text
  query : Text
  fragment : Text
  deriving DecidableEq, Repr

namespace PyUrl

variable (u : PyUnicode)

/-! ## Schemes -/

/-- `uses_relative`. -/
def usesRelative : List Text :=
  ["", "ftp", "http", "gopher", "nntp", "imap", "wais", "file", "https", "shttp", "mms",
    "prospero", "rtsp", "rtsps", "rtspu", "sftp", "svn", "svn+ssh", "ws", "wss"].map String.toList

/-- `uses_params`. -/
def usesParams : List Text :=
  ["", "ftp", "hdl", "prospero", "http", "imap", "https", "shttp", "rtsp", "rtsps", "rtspu",
    "sip", "sips", "mms", "sftp", "tel"].map String.toList

/-! ## Parameters of a path -/

/-- `_splitparams`: the parameters of the last segment of a path. -/
def splitParams (path : Text) : Text × Text :=
  match path.rpartition '/' with
  | (some before, last) =>
    let (segment, params) := last.partition ';'
    (before ++ '/' :: segment, params.getD [])
  | (none, last) =>
    let (segment, params) := last.partition ';'
    (segment, params.getD [])

/-- `urlparse`, with a scheme for addresses that have none. -/
def urlparse (url scheme : Text) : Option ParseResult :=
  (urlsplit u url).map fun s =>
    let scheme := if s.scheme = [] then scheme else s.scheme
    let (path, params) :=
      if scheme ∈ usesParams ∧ ';' ∈ s.path then splitParams s.path else (s.path, [])
    ⟨scheme, s.netloc, path, params, s.query, s.fragment⟩

/-- `urlunparse`. -/
def urlunparse (p : ParseResult) : Text :=
  urlunsplit ⟨p.scheme, p.netloc, if p.params ≠ [] then p.path ++ ';' :: p.params else p.path,
    p.query, p.fragment⟩

/-! ## Joining -/

/-- One segment onto the segments resolved so far, the last of them first. -/
def resolveSegment (resolved : List Text) (segment : Text) : List Text :=
  if segment = "..".toList then resolved.tail
  else if segment = ".".toList then resolved
  else segment :: resolved

/-- `'/'.join(segments)`. -/
def joinSegments : List Text → Text
  | [] => []
  | [segment] => segment
  | segment :: segments => segment ++ '/' :: joinSegments segments

/-- The segments of a reference's path, against those of the base. -/
def segmentsOf (basePath path : Text) : List Text :=
  if path.head? = some '/' then path.split '/'
  else
    let baseParts := basePath.split '/'
    let baseParts := if baseParts.getLast? ≠ some [] then baseParts.dropLast else baseParts
    let segments := baseParts ++ path.split '/'
    -- Empty segments between the first and the last are dropped.
    segments.take 1 ++ (segments.drop 1).dropLast.filter (· ≠ []) ++
      (segments.drop 1).getLast?.toList

/-- The path with its `.` and `..` resolved. -/
def resolvePath (segments : List Text) : Text :=
  let resolved := (segments.foldl resolveSegment []).reverse
  let resolved :=
    if segments.getLast? = some ".".toList ∨ segments.getLast? = some "..".toList then
      resolved ++ [[]]
    else resolved
  match joinSegments resolved with
  | [] => ['/']
  | path => path

/-- The scheme is one of addresses which may have a netloc, or there is none. -/
def MayHaveNetloc (scheme : Text) : Prop := scheme = [] ∨ scheme ∈ usesNetloc

instance (scheme : Text) : Decidable (MayHaveNetloc scheme) :=
  inferInstanceAs (Decidable (_ ∨ _))

/-- `urljoin`. -/
def urljoin (base url : Text) : Option Text :=
  if base = [] then some url
  else if url = [] then some base
  else do
    let b ← urlparse u base []
    let p ← urlparse u url b.scheme
    if p.scheme ≠ b.scheme ∨ p.scheme ∉ usesRelative then return url
    else if MayHaveNetloc p.scheme ∧ p.netloc ≠ [] then return urlunparse p
    else
      let netloc := if MayHaveNetloc p.scheme then b.netloc else p.netloc
      if p.path = [] ∧ p.params = [] then
        return urlunparse ⟨p.scheme, netloc, b.path, b.params,
          if p.query = [] then b.query else p.query, p.fragment⟩
      else
        return urlunparse ⟨p.scheme, netloc, resolvePath (segmentsOf b.path p.path), p.params,
          p.query, p.fragment⟩

/-- A relative reference keeps the scheme and the host of its base, an absolute one has its
own. -/
example : urljoin .ascii "https://a.com/x/y;p?q#f".toList "../z/./w?k=1".toList =
      some "https://a.com/z/w?k=1".toList ∧
    urljoin .ascii "https://a.com/x/y".toList "//b.com:81/".toList =
      some "https://b.com:81/".toList := by
  decide +kernel

end PyUrl
