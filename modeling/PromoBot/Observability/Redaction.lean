import PromoBot.Lib.PyUrl
import PromoBot.Lib.Substitution

/-!
# What the logs may say

`observability/logging.py`: `redact_text`, through which every message and every field
of a log record goes, and `sanitize_url`, which it applies to the addresses it finds.

Three patterns are applied one after another.  `ASSIGNMENT_PATTERN` hides the value of
an assignment to a sensitive name, `TELEGRAM_BOT_TOKEN_PATTERN` hides bot tokens
wherever they stand, and `URL_PATTERN` hands every address to `sanitize_url`, which
drops user info and fragment and hides the values of sensitive query parameters.

A text here is a sequence of Unicode scalar values, which `_safe_text` leaves as it is;
what Python's tables and its module `ipaddress` say is the parameter `LogEnv`.
-/

namespace PromoBot
namespace Observability

/-! ## The environment -/

/-- The result of `ipaddress.ip_address`, with its `compressed` text. -/
inductive IpAddress
  | v4 (compressed : Text)
  | v6 (compressed : Text)
  deriving DecidableEq, Repr

/-- What the language and its library supply. -/
structure LogEnv where
  unicode : PyUnicode
  /-- A word character of `re`, `\w`. -/
  isWord : Char → Bool
  /-- `ipaddress.ip_address`; `none` is a `ValueError`. -/
  ipAddress : Text → Option IpAddress

/-- How they behave on ASCII text without IP literals. -/
def LogEnv.ascii : LogEnv where
  unicode := PyUnicode.ascii
  isWord c := Text.isAsciiLetter c || Text.isAsciiDigit c || c = '_'
  ipAddress _ := none

/-! ## Sensitive names -/

/-- `SENSITIVE_KEYS`. -/
def sensitiveKeys : List Text :=
  ["access_token", "api_hash", "api_key", "app_key", "app_secret", "authorization", "cookie",
    "credential_secret", "password", "secret", "session", "sign", "token",
    "tracking_id"].map String.toList

/-- `is_sensitive_key`. -/
def isSensitiveKey (u : PyUnicode) (value : Text) : Bool :=
  let normalized := (u.casefold value).map fun c => if c = '-' then '_' else c
  sensitiveKeys.any fun key =>
    normalized = key || ('_' :: key).isSuffixOf normalized || (key ++ ['_']).isPrefixOf normalized

/-! ## The patterns -/

/-- `[a-z0-9_-]` under `re.IGNORECASE`. -/
def isNameChar (c : Char) : Bool :=
  Text.isAsciiLetter c || Text.isAsciiDigit c || c = '_' || c = '-' ||
    c = '\u0130' || c = '\u0131' || c = '\u212A' || c = '\u017F'

/-- `[:=]`. -/
def isAssigner (c : Char) : Bool := c = ':' || c = '='

/-- `[^\s,;]`. -/
def isValueChar (c : Char) : Bool := !Text.isSpace c && c ≠ ',' && c ≠ ';'

/-- Two words of a name, with `[_-]?` between them. -/
def twoWords (first : String) (second : Regex) : Regex :=
  .seq (.literalIgnoreCase first.toList)
    (.seq (.optional (.one fun c => c = '_' || c = '-')) second)

/-- The words which make a name sensitive, the alternatives of `ASSIGNMENT_PATTERN`. -/
def sensitiveWord : Regex :=
  let word (w : String) := Regex.literalIgnoreCase w.toList
  .either (twoWords "access" (word "token")) <|
  .either (twoWords "api" (.either (word "hash") (word "key"))) <|
  .either (twoWords "app" (.either (word "key") (word "secret"))) <|
  .either (word "authorization") <|
  .either (word "cookie") <|
  .either (twoWords "credential" (word "secret")) <|
  .either (word "password") <|
  .either (word "secret") <|
  .either (word "session") <|
  .either (word "sign") <|
  .either (word "token") <|
  twoWords "tracking" (word "id")

/-- The first group of `ASSIGNMENT_PATTERN`. -/
def assignedName : Regex :=
  .seq (.many isNameChar 0) (.seq sensitiveWord (.many isNameChar 0))

/-- The second group, `\s*[:=]\s*`. -/
def assignment : Regex :=
  .seq (.many Text.isSpace 0) (.seq (.one isAssigner) (.many Text.isSpace 0))

/-- `ASSIGNMENT_PATTERN`, after its `\b`. -/
def assignmentPattern : Regex :=
  .seq (.group assignedName) (.seq (.group assignment) (.group (.many isValueChar 1)))

/-- `TELEGRAM_BOT_TOKEN_PATTERN`, between its two `\b`. -/
def telegramBotTokenPattern : Regex :=
  .seq (.between Text.isAsciiDigit 5 15) (.seq (.one (· = ':')) (.many isNameChar 20))

/-- `URL_PATTERN`. -/
def urlPattern : Regex :=
  .seq (.literalIgnoreCase "http".toList)
    (.seq (.optional (.one (Regex.sameLetter 's')))
      (.seq (.literalIgnoreCase "://".toList)
        (.many (fun c => !Text.isSpace c && c ≠ '<' && c ≠ '>') 0)))

/-- `TELEGRAM_BOT_PATH_PATTERN`, after its `^`. -/
def telegramBotPathPattern : Regex :=
  .seq (.literalIgnoreCase "/bot".toList) (.many (· ≠ '/') 1)

/-- `DNS_LABEL_PATTERN.fullmatch`. -/
def isDnsLabel (label : Text) : Bool :=
  let letter (c : Char) := isNameChar c && c ≠ '_' && c ≠ '-'
  (Regex.seq (.one letter) (.optional
    (.seq (.between (fun c => isNameChar c && c ≠ '_') 0 61) (.one letter)))).fullMatches label

/-! ## Sanitizing an address -/

/-- `_sanitize_hostname`. -/
def sanitizeHostname (env : LogEnv) (hostname : Text) : Option Text :=
  let candidate := Text.rstripBy (· = '.') hostname
  if candidate = [] ∨ '%' ∈ candidate then none
  else match env.ipAddress candidate with
    | some (.v6 compressed) => some ('[' :: compressed ++ [']'])
    | some (.v4 compressed) => some compressed
    | none =>
      if ':' ∈ candidate then none
      else (env.unicode.idna candidate).bind fun ascii =>
        let asciiHostname := env.unicode.casefold ascii
        if 253 < asciiHostname.length ∨ (asciiHostname.split '.').any (!isDnsLabel ·) then none
        else some asciiHostname

/-- `TELEGRAM_BOT_PATH_PATTERN.sub("/bot[REDACTED]", path)`. -/
def hideBotPath (path : Text) : Text :=
  match telegramBotPathPattern.match? path with
  | some m => "/bot[REDACTED]".toList ++ m.rest
  | none => path

/-- `urlencode` of a list of pairs. -/
def urlencode (pairs : List (Text × Text)) : Text :=
  ['&'].intercalate (pairs.map fun kv => PyUrl.urlencodeOne kv.1 kv.2)

/-- The body of the `try` of `sanitize_url`; `none` is an exception, or one of the two
early returns, which all give `"[INVALID_URL]"`. -/
def sanitizedUrl (env : LogEnv) (value : Text) : Option Text :=
  (PyUrl.urlsplit env.unicode value).bind fun parts =>
  let scheme := env.unicode.casefold parts.scheme
  parts.port.bind fun port =>
  (parts.hostname env.unicode).bind fun hostname =>
  if scheme ≠ "http".toList ∧ scheme ≠ "https".toList then none
  else (sanitizeHostname env hostname).bind fun safeHostname =>
    let host := match port with
      | none => safeHostname
      | some port => safeHostname ++ ':' :: Text.ofNat port
    let safeQuery := (PyUrl.parseQsl env.unicode parts.query).map fun (key, item) =>
      (key, if isSensitiveKey env.unicode key then "[REDACTED]".toList else item)
    let path := if safeHostname = "api.telegram.org".toList then hideBotPath parts.path
      else parts.path
    some (PyUrl.urlunsplit ⟨scheme, host, path, urlencode safeQuery, []⟩)

/-- `sanitize_url`. -/
def sanitizeUrl (env : LogEnv) (value : Text) : Text :=
  (sanitizedUrl env value).getD "[INVALID_URL]".toList

/-! ## Redacting a text -/

/-- `f"{match.group(1)}{match.group(2)}[REDACTED]"`. -/
def hideValue : Text → List Text → Text
  | _, name :: assigner :: _ => name ++ assigner ++ "[REDACTED]".toList
  | raw, _ => raw

/-- `ASSIGNMENT_PATTERN.sub`. -/
def hideAssignments (env : LogEnv) (value : Text) : Text :=
  Regex.replace (assignmentPattern.fromBoundary env.isWord) hideValue value

/-- `TELEGRAM_BOT_TOKEN_PATTERN.sub`. -/
def hideBotTokens (env : LogEnv) (value : Text) : Text :=
  Regex.replace (telegramBotTokenPattern.betweenBoundaries env.isWord)
    (fun _ _ => "[REDACTED]".toList) value

/-- `URL_PATTERN.sub`. -/
def sanitizeUrls (env : LogEnv) (value : Text) : Text :=
  Regex.replace urlPattern.anywhere (fun raw _ => sanitizeUrl env raw) value

/-- `redact_text`. -/
def redactText (env : LogEnv) (value : Text) : Text :=
  sanitizeUrls env (hideBotTokens env (hideAssignments env value))

end Observability
end PromoBot
