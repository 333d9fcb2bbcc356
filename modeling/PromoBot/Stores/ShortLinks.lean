import PromoBot.Stores.Urls

/-!
# Short AliExpress links

The part of `security/aliexpress_short_links.py` which tells a supported short
link from other addresses.  Following such a link is done when a message is
taken in; its result is the `expanded_url` of the link row.
-/

namespace PromoBot
namespace ShortLinks

open PyUrl Urls

variable (u : PyUnicode)

/-- `_has_unsafe_url_text`. -/
def hasUnsafeUrlText (url : Text) : Bool := 4096 < url.length || url.any u.isControl

/-- `[A-Za-z0-9]`. -/
def isAlphanumeric (c : Char) : Bool := Text.isAsciiLetter c || Text.isAsciiDigit c

/-- `_is_proven_a_short_shape`, with `ALIEXPRESS_A_SHORT_PATH`. -/
def isProvenAShortShape (parts : SplitResult) : Bool :=
  (match parts.path with
    | '/' :: '_' :: code => (code.length = 7 || code.length = 8) && code.all isAlphanumeric
    | _ => false) && parts.query = [] && parts.fragment = []

/-- `_validate_hop_syntax`, with the hosts of a redirect; `none` is the rejection.  That
the host is no numeric address holds of every allowed host. -/
def validateHopSyntax (url : Text) : Option Text :=
  if hasUnsafeUrlText u url ∨ '\\' ∈ url then none
  else
    (urlsplit u url).bind fun parts => parts.port.bind fun port =>
      let hostname := ((parts.hostname u).map (normalizeHostname u)).getD []
      if u.casefold parts.scheme = "https".toList ∧ parts.username = none ∧
          parts.password = none ∧ port ∈ [none, some 443] ∧
          hostname ∈ aliexpressHosts ++ aliexpressRedirectorHosts ∧
          (hostname = "a.aliexpress.com".toList → isProvenAShortShape parts = true) then
        some hostname
      else none

/-- `is_supported_aliexpress_short_input`. -/
def isSupportedAliexpressShortInput (url : Text) : Bool :=
  match validateHopSyntax u url, urlsplit u url with
  | some hostname, some parts =>
    if hostname = "s.click.aliexpress.com".toList then "/e/".toList.isPrefixOf parts.path
    else hostname = "a.aliexpress.com".toList && isProvenAShortShape parts
  | _, _ => false

end ShortLinks
end PromoBot
