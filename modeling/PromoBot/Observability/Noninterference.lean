import PromoBot.Observability.Assignments

/-!
# Which credentials the logs hide

A credential stands in a log message between a text `p` and a text `q`.  The logs hide it when
no other credential in its place gives another line: `Noninterfering`.

`redact_text` hides the credentials it recognizes as the value of an assignment, and those
only.  A place is `Covered` when a match of `ASSIGNMENT_PATTERN`, found scanning from the
beginning of the message, has reached its value there.

* At a covered place the match takes the credential and everything up to the next space, comma
  or semicolon, and writes one constant for it.  The two other patterns see the same text
  whatever the credential is.
* At any other place the credentials `<` and `<<` come through.  No name, no assigner, no bot
  token and no address has that character in it, so each of the three patterns rewrites what
  stands before it and what stands after it on their own, and the lines differ in length.

So hiding user info, fragments and query values in `sanitize_url` makes no further place safe
for every credential, and the forms a sensitive name does not lead directly are not safe at
all: a quoted name, whose quotation mark comes before the sign, and the token of an
`Authorization` header, where the value ends at the space after `Bearer`.

## Why noninterference

That a credential does not occur in the line would be the plainer statement, and it is the
wrong one.  A credential of one letter occurs in every line, and a line that shows its length,
or its first characters, or a digest without a key, does not contain it and gives it away.
What matters is that somebody who sees the line learns nothing about what stood there: the line
is the same for every credential.

## The scan

The pattern is searched from left to right, and where it has matched it goes on behind the
match.  So whether a place is covered depends on all of the message before it, since an earlier
match may have swallowed the name that would have led to it.  It does not depend on what comes
after, and not on the credential (`hidden_of_endsInMatch`): one more character of a value is
enough to tell.  `Covered` is decidable for this reason, and can be evaluated on a message.
-/

namespace PromoBot
namespace Observability

open Regex

/-! ## Credentials and their places -/

/-- A credential: characters, none of them whitespace, a comma or a semicolon. -/
structure IsCredential (c : Text) : Prop where
  ne : c ≠ []
  chars : ∀ d ∈ c, isValueChar d = true

/-- A quotation mark of JSON or of `repr`. -/
def isQuote (c : Char) : Bool := c = '"' || c = '\x27'

/-- The texts before and after a credential, in the forms a message gives one in. -/
inductive CredentialForm (u : PyUnicode) : Text → Text → Prop
  /-- `key=value`. -/
  | keyValue {pre key post : Text} (h : isSensitiveKey u key = true) :
    CredentialForm u (pre ++ key ++ "=".toList) post
  /-- `key: value`. -/
  | keyColonValue {pre key post : Text} (h : isSensitiveKey u key = true) :
    CredentialForm u (pre ++ key ++ ": ".toList) post
  /-- `"key": "value"`, with quotation marks of either kind. -/
  | quotedPair {pre key post : Text} {quote : Char} (h : isSensitiveKey u key = true)
      (hquote : isQuote quote = true) :
    CredentialForm u (pre ++ quote :: key ++ quote :: ": ".toList ++ [quote]) (quote :: post)
  /-- An `Authorization` header. -/
  | bearer {pre post : Text} : CredentialForm u (pre ++ "Authorization: Bearer ".toList) post
  /-- The password of an address. -/
  | userinfo {pre scheme user post : Text}
      (hscheme : scheme = "http".toList ∨ scheme = "https".toList) :
    CredentialForm u (pre ++ scheme ++ "://".toList ++ user ++ ":".toList) ('@' :: post)
  /-- A parameter of the query or of the fragment of an address. -/
  | parameter {pre scheme address key post : Text} {mark : Char}
      (hscheme : scheme = "http".toList ∨ scheme = "https".toList)
      (hmark : mark = '?' ∨ mark = '&' ∨ mark = '#') (h : isSensitiveKey u key = true) :
    CredentialForm u (pre ++ scheme ++ "://".toList ++ address ++ mark :: key ++ "=".toList) post

/-- **The logs hide the credential between `p` and `q`.** -/
def Noninterfering (env : LogEnv) (p q : Text) : Prop :=
  ∀ c₁ c₂, IsCredential c₁ → IsCredential c₂ →
    redactText env (p ++ c₁ ++ q) = redactText env (p ++ c₂ ++ q)

/-- A match of `ASSIGNMENT_PATTERN` has reached its value after `p`: scanning `p` and one
more character, which only a value has, ends in a match. -/
def Covered (env : LogEnv) (p : Text) : Prop :=
  EndsInMatch (segments (assignmentFinder env) none 0 (p ++ ['<']))

instance (env : LogEnv) (p : Text) : Decidable (Covered env p) :=
  inferInstanceAs (Decidable (EndsInMatch _))

variable {env : LogEnv}

/-! ## A covered place -/

/-- A match takes a sign, so there is one before the place. -/
theorem exists_sign {before : Option Char} {skip : Nat} {p : Text}
    (h : EndsInMatch (segments (assignmentFinder env) before skip (p ++ ['<']))) :
    ∃ e ∈ p, isAssigner e = true := by
  obtain ⟨front, raw, groups, h⟩ := h
  have hmatched : Segment.matched raw groups ∈
      segments (assignmentFinder env) before skip (p ++ ['<']) := by
    rw [h]
    exact List.mem_append_right front List.mem_cons_self
  obtain ⟨b, u, m, hm, -, hu⟩ := exists_of_matched_mem hmatched
  have hanswer : answer (assignmentFinder env) b u = some (m.text, m.groups) := by
    rw [answer, hm]
    rfl
  obtain ⟨-, name, sep, value, rest, hassigns, rfl, -⟩ := answer_eq_some_iff.1 hanswer
  obtain ⟨a, ch, d, rfl, -, hch, -⟩ := hassigns.assigner
  have hmem : ch ∈ p ++ ['<'] := hu.subset (by simp)
  rcases List.mem_append.1 hmem with hmem | hmem
  · exact ⟨ch, hmem, hch⟩
  · obtain rfl := List.mem_singleton.1 hmem
    exact absurd hch (by decide)

/-- The scan of a text which begins with a character of no name does not depend on the
character before. -/
theorem segments_of_head {t : Text} (ht : ∀ d, t.head? = some d → isNameChar d = false)
    (before before' : Option Char) :
    segments (assignmentFinder env) before 0 t = segments (assignmentFinder env) before' 0 t := by
  cases t with
  | nil => rfl
  | cons c t => rw [segments_answer, segments_answer, answer_eq_none ht, answer_eq_none ht]

/-- At a pending place of a scan, the match takes the credential and what follows it up to
the end of the value, and one text is written for it. -/
theorem hidden_of_pending {before : Option Char} {x q : Text} (hx : Pending x)
    (hboundary : ∀ y, atBoundary env.isWord before (x ++ y) = true) :
    ∃ line, ∀ c, IsCredential c →
      replaceFrom (assignmentFinder env) hideValue before (x ++ (c ++ q)) = line := by
  obtain ⟨name, sep, v, hname, hsep, hv, rfl⟩ := hx
  have hstop : ∀ d, (q.dropWhile isValueChar).head? = some d → isNameChar d = false := by
    intro d hd
    have hdrop := List.head?_dropWhile_not isValueChar q
    rw [hd] at hdrop
    rw [Bool.eq_false_iff]
    intro hname
    have hvalue := isValueChar_of_isNameChar hname
    have hno : isValueChar d = false := hdrop
    rw [hvalue] at hno
    exact absurd hno (by decide)
  refine ⟨name ++ sep ++ "[REDACTED]".toList ++
    replaceFrom (assignmentFinder env) hideValue none (q.dropWhile isValueChar),
    fun c hc => ?_⟩
  have hassigns := assigns_append (q := q) hname hsep hv hc.ne hc.chars
  have htext : name ++ (sep ++ v) ++ (c ++ q) = name ++ (sep ++ (v ++
      (c ++ q.takeWhile isValueChar))) ++ q.dropWhile isValueChar := by
    simp only [List.append_assoc, List.takeWhile_append_dropWhile]
  generalize hraw : name ++ (sep ++ (v ++ (c ++ q.takeWhile isValueChar))) = raw at htext
  have hne : raw ≠ [] := by
    rw [← hraw]
    exact fun h => hsep.ne_nil (List.append_eq_nil_iff.1 (List.append_eq_nil_iff.1 h).2).1
  have hanswer : answer (assignmentFinder env) before (raw ++ q.dropWhile isValueChar) =
      some (raw, [name, sep, v ++ (c ++ q.takeWhile isValueChar)]) := by
    refine answer_eq_some_iff.2 ⟨htext ▸ hboundary (c ++ q), name, sep, _, _, hassigns, ?_,
      hraw.symm, rfl⟩
    rw [← hraw]
    simp only [List.append_assoc]
  rw [replaceFrom, htext]
  obtain ⟨d, u, rfl⟩ := List.exists_cons_of_ne_nil hne
  have hskip := segments_skip_append (f := assignmentFinder env) (d :: u)
    (q.dropWhile isValueChar) hne before
  rw [List.length_cons, List.cons_append, segments_skip] at hskip
  rw [List.cons_append] at hanswer ⊢
  rw [segments_answer, hanswer]
  dsimp only
  rw [if_neg (List.cons_ne_nil d u), List.length_cons, Nat.add_sub_cancel, hskip,
    segments_of_head hstop _ none, List.flatMap_cons]
  rfl

/-- **At a covered place every credential is hidden alike.** -/
theorem hidden_of_endsInMatch {p : Text} (q : Text) {before : Option Char} {skip : Nat}
    (hskip : skip ≤ p.length)
    (h : EndsInMatch (segments (assignmentFinder env) before skip (p ++ ['<']))) :
    ∃ line, ∀ c, IsCredential c →
      (segments (assignmentFinder env) before skip (p ++ (c ++ q))).flatMap
        (Segment.replaced hideValue) = line := by
  induction p generalizing before skip with
  | nil =>
    obtain ⟨e, he, -⟩ := exists_sign h
    exact absurd he List.not_mem_nil
  | cons d p ih =>
    cases skip with
    | succ n =>
      rw [List.cons_append, segments_skip] at h
      obtain ⟨line, hline⟩ := ih (Nat.le_of_succ_le_succ hskip) h
      refine ⟨line, fun c hc => ?_⟩
      rw [List.cons_append, segments_skip, hline c hc]
    | zero =>
      have hboundary : ∀ y, atBoundary env.isWord before (d :: p ++ y) =
          atBoundary env.isWord before [d] := fun _ => rfl
      by_cases hx : Pending (d :: p) ∧ atBoundary env.isWord before [d] = true
      · exact hidden_of_pending hx.1 fun y => (hboundary y).trans hx.2
      · -- The answer here is the same for every credential, and for the placeholder.
        have hsign := exists_sign h
        have hsame : ∀ c, IsCredential c →
            answer (assignmentFinder env) before (d :: p ++ (c ++ q)) =
              answer (assignmentFinder env) before (d :: p ++ ['<']) := by
          intro c hc
          by_cases hpending : Pending (d :: p)
          · have hno : atBoundary env.isWord before [d] ≠ true := fun h => hx ⟨hpending, h⟩
            unfold answer assignmentFinder fromBoundary
            rw [hboundary, hboundary, if_neg hno, if_neg hno]
          · obtain ⟨b, u, rfl⟩ := List.exists_cons_of_ne_nil hc.ne
            exact answer_agrees ⟨b, u ++ q, rfl, hc.chars b List.mem_cons_self, Or.inr hsign⟩
              (goes_lt _ []) hpending rfl
        generalize hfound : answer (assignmentFinder env) before (d :: p ++ ['<']) = found at hsame
        have hlength : ∀ raw groups, found = some (raw, groups) → raw.length ≤ p.length + 1 := by
          rintro raw groups rfl
          by_cases hpending : Pending (d :: p)
          · exact absurd ⟨hpending, (answer_eq_some_iff.1 hfound).1⟩ hx
          · exact (answer_within (goes_lt _ []) hpending hfound).1
        obtain ⟨s, k, hs, hk⟩ := segments_of_answer (assignmentFinder env) before d found
        -- So the scan goes on alike, towards the same match.
        have hlt : k < (p ++ ['<']).length := by
          rw [List.length_append, List.length_singleton]
          exact Nat.lt_succ_of_le (hk _ hlength)
        rw [List.cons_append, hs (p ++ ['<']) hfound] at h
        obtain ⟨line, hline⟩ := ih (hk _ hlength) (h.of_cons (segments_ne_nil hlt))
        refine ⟨s.replaced hideValue ++ line, fun c hc => ?_⟩
        rw [List.cons_append, hs (p ++ (c ++ q)) (hsame c hc), List.flatMap_cons, hline c hc]

/-! ## Any other place -/

/-- A bot token has no `<` in it, and an address has none. -/
theorem avoids_lt :
    telegramBotTokenPattern.avoids '<' = true ∧ urlPattern.avoids '<' = true := by
  decide

/-- `redact_text` of the text after a character. -/
def redactFrom (env : LogEnv) (before : Option Char) (value : Text) : Text :=
  replaceFrom urlPattern.anywhere (fun raw _ => sanitizeUrl env raw) before <|
    replaceFrom (telegramBotTokenPattern.betweenBoundaries env.isWord)
      (fun _ _ => "[REDACTED]".toList) before <|
      replaceFrom (assignmentFinder env) hideValue before value

/-- **Where no value takes it, a `<` comes through**, and the texts before and after it are
rewritten on their own. -/
theorem redactFrom_barrier {before : Option Char} {p : Text}
    (h : ¬ EndsInMatch (segments (assignmentFinder env) before 0 (p ++ ['<']))) :
    ∃ front, ∀ rest, redactFrom env before (p ++ '<' :: rest) =
      front ++ '<' :: redactFrom env (some '<') rest := by
  obtain ⟨htoken, hurl⟩ := avoids_lt
  obtain ⟨front₁, h₁⟩ := replaceFrom_barrier decides_assignmentFinder hideValue _ _ h
  obtain ⟨front₂, h₂⟩ := replaceFrom_barrier (decides_betweenBoundaries env.isWord htoken)
    (fun _ _ => "[REDACTED]".toList) before front₁
    (not_endsInMatch (length_betweenBoundaries env.isWord htoken) (Nat.zero_le _))
  obtain ⟨front₃, h₃⟩ := replaceFrom_barrier (decides_anywhere hurl)
    (fun raw _ => sanitizeUrl env raw) before front₂
    (not_endsInMatch (length_anywhere hurl) (Nat.zero_le _))
  refine ⟨front₃, fun rest => ?_⟩
  unfold redactFrom
  rw [h₁, h₂, h₃]

/-- No value has begun right after a `<`. -/
theorem not_covered_nil (env : LogEnv) (before : Option Char) :
    ¬ EndsInMatch (segments (assignmentFinder env) before 0 ([] ++ ['<'])) := by
  intro h
  obtain ⟨e, he, -⟩ := exists_sign h
  exact absurd he List.not_mem_nil

/-- **Credentials are hidden at the covered places, and at no others.** -/
theorem noninterfering_iff (env : LogEnv) (p q : Text) :
    Noninterfering env p q ↔ Covered env p := by
  constructor
  · intro h
    by_contra hopen
    obtain ⟨front, hfront⟩ := redactFrom_barrier hopen
    obtain ⟨mid, hmid⟩ := redactFrom_barrier (not_covered_nil env (some '<'))
    have hsame := h ['<'] ['<', '<'] ⟨by simp, by decide⟩ ⟨by simp, by decide⟩
    rw [List.append_assoc, List.append_assoc] at hsame
    change redactFrom env none (p ++ '<' :: q) = redactFrom env none (p ++ '<' :: '<' :: q) at hsame
    rw [hfront, hfront, List.append_cancel_left_eq, List.cons.injEq] at hsame
    -- The second line is longer.
    have hlonger := congrArg List.length (hsame.2.trans (hmid q))
    rw [List.length_append, List.length_cons] at hlonger
    omega
  · intro h c₁ c₂ h₁ h₂
    obtain ⟨line, hline⟩ := hidden_of_endsInMatch q (Nat.zero_le _) h
    have hhidden : ∀ c, IsCredential c → hideAssignments env (p ++ c ++ q) = line := by
      intro c hc
      rw [List.append_assoc]
      exact hline c hc
    unfold redactText
    rw [hhidden c₁ h₁, hhidden c₂ h₂]

/-- **Not every form is hidden**: the value of a quoted pair comes through, since the
quotation mark after the name keeps the pattern from matching. -/
theorem quotedPair_leaks :
    ¬ ∀ (env : LogEnv) (p q : Text), CredentialForm env.unicode p q → Noninterfering env p q := by
  intro h
  have hform : CredentialForm LogEnv.ascii.unicode
      ("\x7b".toList ++ '"' :: "password".toList ++ '"' :: ": ".toList ++ ['"'])
      ('"' :: "\x7d".toList) := .quotedPair (by decide) (by decide)
  have hsame := h LogEnv.ascii _ _ hform "one".toList "two".toList ⟨by decide, by decide⟩
    ⟨by decide, by decide⟩
  exact absurd hsame (by decide +kernel)

end Observability
end PromoBot
