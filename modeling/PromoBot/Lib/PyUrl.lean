import PromoBot.Lib.PyText

/-!
# Python's `urllib.parse`

`urlsplit` with the properties of its result, `urlunsplit`, and reading and
writing query strings.  A `ValueError` is `none`.

What these functions ask of Unicode --- case mappings, normalization, the IDNA
codec, decoding of bytes --- and the parser of bracketed addresses are a
parameter, `PyUnicode`; nothing is assumed of them.  `PyUnicode.ascii` is how
they behave on ASCII text.
-/

/-- The Unicode tables and codecs of a Python. -/
structure PyUnicode where
  /-- `str.lower()`. -/
  lower : Text → Text
  /-- `str.upper()`. -/
  upper : Text → Text
  /-- `str.casefold()`. -/
  casefold : Text → Text
  /-- `unicodedata.normalize("NFKC", …)`. -/
  nfkc : Text → Text
  /-- `str.encode("idna").decode("ascii")`; `none` is a `UnicodeError`. -/
  idna : Text → Option Text
  /-- `str.isdigit()` of one character. -/
  isDigit : Char → Bool
  /-- `unicodedata.category(…).startswith("C")`. -/
  isControl : Char → Bool
  /-- `bytes.decode("utf-8", "replace")`. -/
  decodeUtf8 : List UInt8 → Text
  /-- `_check_bracketed_host` does not raise. -/
  bracketedHost : Text → Bool

namespace PyUnicode

/-- The labels of a name are neither empty, save the last, nor too long. -/
def labelsFit : List Text → Bool
  | [] => true
  | [last] => last.length < 64
  | label :: labels => 0 < label.length && label.length < 64 && labelsFit labels

/-- How Python treats ASCII text. -/
def ascii : PyUnicode where
  lower t := t.map Char.toLower
  upper t := t.map Char.toUpper
  casefold t := t.map Char.toLower
  nfkc t := t
  idna t := if t.isAscii && labelsFit (t.split '.') then some t else none
  isDigit := Text.isAsciiDigit
  isControl c := c.toNat < 32 || c.toNat = 127
  decodeUtf8 bytes := bytes.map fun b => if b < 128 then Char.ofNat b.toNat else '\uFFFD'
  bracketedHost _ := false

end PyUnicode

/-- The result of `urlsplit`. -/
structure SplitResult where
  scheme : Text
  netloc : Text
  path : Text
  query : Text
  fragment : Text
  deriving DecidableEq, Repr

namespace PyUrl

variable (u : PyUnicode)

/-! ## Splitting -/

/-- `_WHATWG_C0_CONTROL_OR_SPACE`. -/
def isC0OrSpace (c : Char) : Bool := c.toNat ≤ 32

/-- `_UNSAFE_URL_BYTES_TO_REMOVE`. -/
def isUnsafe (c : Char) : Bool := c = '\t' || c = '\r' || c = '\n'

/-- `scheme_chars`. -/
def isSchemeChar (c : Char) : Bool :=
  Text.isAsciiLetter c || Text.isAsciiDigit c || c = '+' || c = '-' || c = '.'

/-- What is left of an address after the characters `urlsplit` drops. -/
def cleaned (url : Text) : Text := (url.dropWhile isC0OrSpace).filter fun c => !isUnsafe c

/-- The scheme, lowered, and what follows it. -/
def splitScheme (url : Text) : Text × Text :=
  match url.partition ':' with
  | (c :: scheme, some rest) =>
    if Text.isAsciiLetter c && (c :: scheme).all isSchemeChar then
      (u.lower (c :: scheme), rest)
    else ([], url)
  | _ => ([], url)

/-- The characters that end a netloc. -/
def isDelimiter (c : Char) : Bool := c = '/' || c = '?' || c = '#'

/-- `_splitnetloc`, of what follows `//`. -/
def splitNetloc (url : Text) : Text × Text :=
  (url.takeWhile (!isDelimiter ·), url.dropWhile (!isDelimiter ·))

/-- Whether the brackets of a netloc are in order. -/
def bracketsFit (netloc : Text) : Bool :=
  if '[' ∈ netloc ∧ ']' ∈ netloc then
    u.bracketedHost (Text.partition ']' ((netloc.partition '[').2.getD [])).1
  else '[' ∉ netloc ∧ ']' ∉ netloc

/-- `_checknetloc` does not raise. -/
def netlocFits (netloc : Text) : Bool :=
  let n := netloc.filter fun c => !(c = '@' || c = ':' || c = '#' || c = '?')
  netloc.isAscii || u.nfkc n = n ||
    (u.nfkc n).all fun c => !(c = '/' || c = '?' || c = '#' || c = '@' || c = ':')

/-- The netloc, and the path with what follows it; `none` where `urlsplit` raises over
the brackets. -/
def splitAuthority : Text → Option (Text × Text)
  | '/' :: '/' :: rest =>
    if bracketsFit u (splitNetloc rest).1 then some (splitNetloc rest) else none
  | rest => some ([], rest)

/-- `urlsplit`. -/
def urlsplit (url : Text) : Option SplitResult :=
  let (scheme, rest) := splitScheme u (cleaned url)
  (splitAuthority u rest).bind fun (netloc, rest) =>
    let (rest, fragment) := Text.partition '#' rest
    let (path, query) := Text.partition '?' rest
    if netlocFits u netloc then some ⟨scheme, netloc, path, query.getD [], fragment.getD []⟩
    else none

end PyUrl

/-! ## The parts of a netloc -/

namespace SplitResult

/-- `username`. -/
def username (s : SplitResult) : Option Text :=
  (s.netloc.rpartition '@').1.map fun userinfo => (userinfo.partition ':').1

/-- `password`. -/
def password (s : SplitResult) : Option Text :=
  (s.netloc.rpartition '@').1.bind fun userinfo => (userinfo.partition ':').2

/-- `_hostinfo`: the host as written, and the port as written. -/
def hostinfo (s : SplitResult) : Text × Option Text :=
  let hostinfo := (s.netloc.rpartition '@').2
  let (hostname, port) :=
    match hostinfo.partition '[' with
    | (_, some bracketed) =>
      let (hostname, port) := Text.partition ']' bracketed
      (hostname, (Text.partition ':' (port.getD [])).2)
    | (_, none) => hostinfo.partition ':'
  (hostname, port.filter (· ≠ []))

/-- `hostname`. -/
def hostname (u : PyUnicode) (s : SplitResult) : Option Text :=
  match s.hostinfo.1 with
  | [] => none
  | host =>
    match Text.partition '%' host with
    | (name, some zone) => some (u.lower name ++ '%' :: zone)
    | (name, none) => some (u.lower name)

/-- `port`; the outer `none` is the `ValueError`. -/
def port (s : SplitResult) : Option (Option Nat) :=
  match s.hostinfo.2 with
  | none => some none
  | some port =>
    if List.all port Text.isAsciiDigit ∧ Text.toNat port ≤ 65535 then some (some (Text.toNat port))
    else none

/-- Ports are equal where `==` says so. -/
instance instLawfulBEqPort : LawfulBEq (Option Nat) := Option.instLawfulBEq Nat

end SplitResult

namespace PyUrl

variable (u : PyUnicode)

/-! ## Joining -/

/-- `uses_netloc`. -/
def usesNetloc : List Text :=
  ["ftp", "http", "gopher", "nntp", "telnet", "imap", "wais", "file", "mms", "https", "shttp",
    "snews", "prospero", "rtsp", "rtsps", "rtspu", "rsync", "svn", "svn+ssh", "sftp", "nfs",
    "git", "git+ssh", "ws", "wss"].map String.toList

/-- `urlunsplit`. -/
def urlunsplit (s : SplitResult) : Text :=
  let url :=
    if s.netloc ≠ [] then
      "//".toList ++ s.netloc ++
        (if s.path ≠ [] ∧ s.path.head? ≠ some '/' then '/' :: s.path else s.path)
    else if "//".toList.isPrefixOf s.path then "//".toList ++ s.path
    else if s.scheme ∈ usesNetloc ∧ (s.path = [] ∨ s.path.head? = some '/') then
      "//".toList ++ s.path
    else s.path
  let url := if s.scheme ≠ [] then s.scheme ++ ':' :: url else url
  let url := if s.query ≠ [] then url ++ '?' :: s.query else url
  if s.fragment ≠ [] then url ++ '#' :: s.fragment else url

/-! ## Query strings -/

/-- The value of a hexadecimal digit. -/
def hexValue (c : Char) : Option Nat :=
  if Text.isAsciiDigit c then some (c.toNat - '0'.toNat)
  else if 'a' ≤ c ∧ c ≤ 'f' then some (c.toNat - 'a'.toNat + 10)
  else if 'A' ≤ c ∧ c ≤ 'F' then some (c.toNat - 'A'.toNat + 10)
  else none

/-- `unquote_to_bytes` of ASCII text. -/
def unquoteToBytes : Text → List UInt8
  | '%' :: a :: b :: t =>
    match hexValue a, hexValue b with
    | some x, some y => UInt8.ofNat (16 * x + y) :: unquoteToBytes t
    | _, _ => UInt8.ofNat '%'.toNat :: unquoteToBytes (a :: b :: t)
  | c :: t => UInt8.ofNat c.toNat :: unquoteToBytes t
  | [] => []

/-- `unquote`: runs of ASCII characters are read as bytes, the others stay.  The last
argument is the run read so far, in reverse. -/
def unquoteFrom : Text → Text → Text
  | [], run => u.decodeUtf8 (unquoteToBytes run.reverse)
  | c :: t, run =>
    if c.toNat < 128 then unquoteFrom t (c :: run)
    else u.decodeUtf8 (unquoteToBytes run.reverse) ++ c :: unquoteFrom t []

/-- `unquote_plus`. -/
def unquotePlus (t : Text) : Text :=
  let t := t.map fun c => if c = '+' then ' ' else c
  if '%' ∈ t then unquoteFrom u t [] else t

/-- `parse_qsl(query, keep_blank_values=True)`. -/
def parseQsl (query : Text) : List (Text × Text) :=
  ((query.split '&').filter (· ≠ [])).map fun nameValue =>
    match Text.partition '=' nameValue with
    | (name, value) => (unquotePlus u name, unquotePlus u (value.getD []))

/-- The digit `%`-escapes use. -/
def hexDigit (n : Nat) : Char := if n < 10 then Char.ofNat (48 + n) else Char.ofNat (55 + n)

/-- The characters `quote` leaves alone when nothing else is safe. -/
def isAlwaysSafe (c : Char) : Bool :=
  Text.isAsciiLetter c || Text.isAsciiDigit c || c = '_' || c = '.' || c = '-' || c = '~'

/-- `quote_plus` of one character. -/
def quoteChar (c : Char) : Text :=
  if isAlwaysSafe c then [c]
  else if c = ' ' then ['+']
  else (String.utf8EncodeChar c).flatMap fun b =>
    ['%', hexDigit (b.toNat / 16), hexDigit (b.toNat % 16)]

/-- `quote_plus`. -/
def quotePlus (t : Text) : Text := t.flatMap quoteChar

/-- `urlencode({key: value})`. -/
def urlencodeOne (key value : Text) : Text := quotePlus key ++ '=' :: quotePlus value

/-! ## Reading an address that was written -/

theorem splitNetloc_append {host : Text} (path : Text) (h : ∀ c ∈ host, isDelimiter c = false) :
    splitNetloc (host ++ '/' :: path) = (host, '/' :: path) := by
  have hall : ∀ c ∈ host, (!isDelimiter c) = true := by
    intro c hc
    rw [h c hc]
    rfl
  rw [splitNetloc, List.takeWhile_append_of_pos hall, List.dropWhile_append_of_pos hall]
  simp [isDelimiter]

/-- The query part of an address, with its question mark. -/
def queryPart (query : Text) : Text := if query ≠ [] then '?' :: query else []

theorem urlunsplit_https {host path : Text} (query : Text) (hhost : host ≠ []) :
    urlunsplit ⟨"https".toList, host, '/' :: path, query, []⟩ =
      "https:".toList ++ "//".toList ++ host ++ '/' :: path ++ queryPart query := by
  unfold urlunsplit queryPart
  rw [if_pos hhost]
  by_cases hquery : query = [] <;> simp [hquery]

theorem filter_queryPart (p : Char → Bool) (hp : p '?' = true) (query : Text) :
    (queryPart query).filter p = [] ∨ ∃ q, (queryPart query).filter p = '?' :: q := by
  unfold queryPart
  split
  · exact Or.inr ⟨query.filter p, by rw [List.filter_cons, if_pos hp]⟩
  · exact Or.inl rfl

/-- **An address that was written with a path is read with that path**, whatever its
query is. -/
theorem path_of_urlsplit {host query : Text} (path : Text) {parts : SplitResult} (hne : host ≠ [])
    (hhost : ∀ c ∈ host, isDelimiter c = false ∧ isUnsafe c = false)
    (hpath : ∀ c ∈ path, c ≠ '?' ∧ c ≠ '#' ∧ isUnsafe c = false)
    (h : urlsplit u (urlunsplit ⟨"https".toList, host, '/' :: path, query, []⟩) = some parts) :
    parts.path = '/' :: path := by
  -- Nothing but the query loses characters to the cleaning.
  have hclean : cleaned (urlunsplit ⟨"https".toList, host, '/' :: path, query, []⟩) =
      "https".toList ++ ':' :: ('/' :: '/' :: (host ++ '/' :: (path ++
        (queryPart query).filter fun c => !isUnsafe c))) := by
    have hhost' : (host.filter fun c => !isUnsafe c) = host :=
      List.filter_eq_self.2 fun c hc => by simp [(hhost c hc).2]
    have hpath' : (('/' :: path).filter fun c => !isUnsafe c) = '/' :: path := by
      refine List.filter_eq_self.2 fun c hc => ?_
      rcases List.mem_cons.1 hc with rfl | hc
      · decide
      · simp [(hpath c hc).2.2]
    rw [urlunsplit_https query hne]
    refine Eq.trans (b := ("https:".toList ++ "//".toList ++ host ++ '/' :: path ++
      queryPart query).filter fun c => !isUnsafe c) rfl ?_
    rw [List.filter_append, List.filter_append, List.filter_append, hhost', hpath']
    simp [isUnsafe]
  obtain ⟨tail, htail⟩ : ∃ tail, (queryPart query).filter (fun c => !isUnsafe c) = tail := ⟨_, rfl⟩
  have htail' : tail = [] ∨ ∃ q, tail = '?' :: q := by
    rw [← htail]
    exact filter_queryPart _ (by decide) query
  have hscheme : splitScheme u (cleaned
      (urlunsplit ⟨"https".toList, host, '/' :: path, query, []⟩)) =
        (u.lower "https".toList, '/' :: '/' :: (host ++ '/' :: (path ++ tail))) := by
    rw [hclean, htail, splitScheme, Text.partition_append_cons _ (by decide)]
    rfl
  unfold urlsplit at h
  rw [hscheme] at h
  obtain ⟨⟨netloc, rest⟩, hauth, h⟩ := Option.bind_eq_some_iff.1 h
  have hrest : rest = '/' :: (path ++ tail) := by
    rw [splitAuthority, splitNetloc_append _ fun c hc => (hhost c hc).1] at hauth
    rw [Option.ite_none_right_eq_some] at hauth
    exact (Prod.mk.inj (Option.some.inj hauth.2)).2.symm
  -- The path ends where the query begins.
  have hfragment : '#' ∉ '/' :: path := by
    rw [List.mem_cons, not_or]
    exact ⟨by decide, fun hc => (hpath _ hc).2.1 rfl⟩
  have hquestion : '?' ∉ '/' :: path := by
    rw [List.mem_cons, not_or]
    exact ⟨by decide, fun hc => (hpath _ hc).1 rfl⟩
  have hread : (Text.partition '?' (Text.partition '#' ('/' :: (path ++ tail))).1).1 =
      '/' :: path := by
    rw [← List.cons_append, Text.partition_append_fst _ hfragment]
    rcases htail' with rfl | ⟨q, rfl⟩
    · rw [Text.partition_append_fst _ hquestion]
      exact List.append_nil _
    · rw [Text.partition, if_neg (by decide), Text.partition_append_cons _ hquestion]
  rw [Option.ite_none_right_eq_some] at h
  rw [← Option.some.inj h.2]
  subst hrest
  exact hread

end PyUrl
