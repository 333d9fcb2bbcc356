import Mathlib.Data.List.ReduceOption
import PromoBot.Affiliate.HistoryQuery
import PromoBot.Lib.RowOrder

/-!
# The filters of the history query say what they are called

What a filter of `read_history` asks for can be read off the reports it returns (`Matches`):
the scope, the platform and the state shown, the time of generation shown, and a use shown
inside the dates with the result asked for.  `read_history` returns the first `limit` of the
matching reports, the newest generation first (`readHistory_eq_matching`).

Dates are compared as instants there: an argument stands for the instant it names with its
offset (`ReadsAs`), and a text shown for the instant it was written for.  In the database both
are texts, and the comparison is the same (`DateTime.stored_lt_isoformat_iff`).

A send that is still on its way is reported as uncertain, and found with what is uncertain.
Asked for by its state, `SEND_IN_FLIGHT`, it is found by that state, although no result shown
is called so (`inFlight_shown_uncertain`).

## What has to be compared

The statement is built from strings: each filter adds a condition with a placeholder, and the
filters on uses add a subquery of their own.  `Affiliate/HistoryQuery` has it that way,
condition by condition, on columns that hold texts.  `Matches` says nothing of columns: it
speaks of the report a caller is given.  The proof goes from the one to the other one condition
at a time: `conditions_iff` for the generation, `sendConditions_iff` for the state of a use,
and `given_iff` for the dates, whichever side of the interval they are and whichever column
they are about. `selects_iff_matches` puts them together, for one row.

What is returned is a list, so the order and the limit are part of it.  The statement orders by
the text of the creation time, and the reports are ordered by the time itself
(`creationKey_le`); since a `LIMIT` takes the first rows of those selected, the answer is the
first of the matching reports and not only some of them.
-/

namespace PromoBot

/-! ## The states of sends -/

section Writers

open AffiliateLinkHistoryRepository

variable {t t' : LinkUses}

/-- A new use is in a state of sends only if it is a send. -/
theorem SendsOnly.recordUse {history : Generations} {q : UseRecord} {id : Nat} (ht : SendsOnly t)
    (h : recordUse history t q = .ok (t', id)) : SendsOnly t' := by
  obtain ⟨source, origin, -, -, -, -, hnew, hother⟩ := recordUse_eq_ok h
  intro k u hu hstate
  rcases eq_or_ne k id with rfl | hk
  · obtain rfl := Option.some.inj (hnew.symm.trans hu)
    have hinitial : initialState q.kind ∈ LinkUseState.sendStates := hstate
    show q.kind = .send
    cases hkind : q.kind with
    | preview =>
      rw [hkind] at hinitial
      exact absurd hinitial (by decide)
    | explicitOutput =>
      rw [hkind] at hinitial
      exact absurd hinitial (by decide)
    | send => rfl
  · exact ht k u ((hother k hk).symm.trans hu) hstate

theorem SendsOnly.transitionSend {useId : Option Nat} {now : Instant} {state : LinkUseState}
    {owner : SendOwner} {errorCode : Option String} {messageId : Option Text} (ht : SendsOnly t)
    (h : transitionSend t useId now state owner errorCode messageId = .ok t') : SendsOnly t' := by
  obtain ⟨id, use, -, -, howned, -, hmoved, hother⟩ := transitionSend_eq_ok h
  intro k u hu hstate
  rcases eq_or_ne k id with rfl | hk
  · obtain rfl := Option.some.inj (hmoved.symm.trans hu)
    exact howned.1
  · exact ht k u ((hother k hk).symm.trans hu) hstate

end Writers

namespace HistoryQuery

open Fallible SqlWhere DateTime

/-! ## What the arguments name -/

section Reading

variable {fromisoformat : Text → Except Text (DateTime × Option Int)} {q : HistoryQuery}

/-- The text names the instant: it is a time with an offset, and one of the calendar in UTC. -/
def ReadsAs (fromisoformat : Text → Except Text (DateTime × Option Int)) (value : Text)
    (m : Instant) : Prop :=
  ∃ d offset, fromisoformat value = .ok (d, some offset) ∧ m = d.instant - offset ∧ Representable m

/-- The instants of the filters. -/
structure Periods where
  generatedAfter : Option Instant
  generatedBefore : Option Instant
  usedAfter : Option Instant
  usedBefore : Option Instant

/-- `read_history` takes the arguments, and its dates name these instants. -/
structure Accepted (fromisoformat : Text → Except Text (DateTime × Option Int)) (q : HistoryQuery)
    (w : Periods) : Prop where
  valid : q.Valid
  generatedAfter : Option.Rel (ReadsAs fromisoformat) q.generatedAfter w.generatedAfter
  generatedBefore : Option.Rel (ReadsAs fromisoformat) q.generatedBefore w.generatedBefore
  usedAfter : Option.Rel (ReadsAs fromisoformat) (truthy q.usedAfter) w.usedAfter
  usedBefore : Option.Rel (ReadsAs fromisoformat) (truthy q.usedBefore) w.usedBefore

/-- The text is how `_date` writes the instant. -/
def Writes (t : Text) (m : Instant) : Prop := ∃ d : DateTime, t = d.isoformat ∧ m = d.instant

theorem checkArguments_eq_ok {x : Unit} : q.checkArguments = .ok x ↔ q.Valid := by
  unfold checkArguments
  constructor
  · intro h
    obtain ⟨_, hscope, h⟩ := bind_eq_ok.1 h
    obtain ⟨_, hplatform, h⟩ := bind_eq_ok.1 h
    obtain ⟨_, hgeneration, h⟩ := bind_eq_ok.1 h
    obtain ⟨hscope, hlimit⟩ := check_eq_ok.1 hscope
    exact ⟨hscope, hlimit, check_eq_ok.1 hplatform, check_eq_ok.1 hgeneration, check_eq_ok.1 h⟩
  · rintro ⟨hscope, hlimit, hplatform, hgeneration, hsend⟩
    exact bind_eq_ok.2 ⟨⟨⟩, check_eq_ok.2 ⟨hscope, hlimit⟩, bind_eq_ok.2 ⟨⟨⟩,
      check_eq_ok.2 hplatform, bind_eq_ok.2 ⟨⟨⟩, check_eq_ok.2 hgeneration, check_eq_ok.2 hsend⟩⟩⟩

/-- **`_date` writes the instant its argument names.** -/
theorem date_of_readsAs {value : Text} {m : Instant} (h : ReadsAs fromisoformat value m) :
    ∃ t, date fromisoformat value = .ok t ∧ Writes t m := by
  obtain ⟨d, offset, hread, rfl, hm⟩ := h
  obtain ⟨utc, hutc, hinstant⟩ := exists_ofInstant? hm
  refine ⟨utc.isoformat, ?_, utc, rfl, hinstant.symm⟩
  exact bind_eq_ok.2 ⟨_, mapError_eq_ok.2 hread, bind_eq_ok.2 ⟨offset, rfl,
    bind_eq_ok.2 ⟨utc, orRaise_eq_ok.2 hutc, rfl⟩⟩⟩

/-- What `_date` takes names an instant. -/
theorem readsAs_of_date {value t : Text} (h : date fromisoformat value = .ok t) :
    ∃ m, ReadsAs fromisoformat value m ∧ Writes t m := by
  obtain ⟨⟨d, o⟩, hread, h⟩ := bind_eq_ok.1 h
  obtain ⟨offset, hoffset, h⟩ := bind_eq_ok.1 h
  obtain ⟨utc, hutc, h⟩ := bind_eq_ok.1 h
  have ho : o = some offset := orRaise_eq_ok.1 hoffset
  have hinstant := ofInstant?_eq_some (orRaise_eq_ok.1 hutc)
  refine ⟨utc.instant, ⟨d, offset, ?_, hinstant, representable_instant utc⟩, utc,
    (Except.ok.inj h).symm, rfl⟩
  rw [mapError_eq_ok.1 hread, ho]

theorem rel_split {α β γ : Type} {R : α → β → Prop} {S : α → γ → Prop} {T : γ → β → Prop}
    {o : Option α} {o' : Option β} (ho : Option.Rel R o o')
    (h : ∀ a b, R a b → ∃ c, S a c ∧ T c b) :
    ∃ o'', Option.Rel S o o'' ∧ Option.Rel T o'' o' := by
  cases ho with
  | none => exact ⟨none, .none, .none⟩
  | some hab =>
    obtain ⟨c, hac, hcb⟩ := h _ _ hab
    exact ⟨some c, .some hac, .some hcb⟩

/-- The dates of the statement are written for the instants of the filters. -/
structure Written (d : Dates) (w : Periods) : Prop where
  generatedAfter : Option.Rel Writes d.generatedAfter w.generatedAfter
  generatedBefore : Option.Rel Writes d.generatedBefore w.generatedBefore
  usedAfter : Option.Rel Writes d.usedAfter w.usedAfter
  usedBefore : Option.Rel Writes d.usedBefore w.usedBefore

theorem Accepted.dates {w : Periods} (h : q.Accepted fromisoformat w) :
    ∃ d, q.dates fromisoformat = .ok d ∧ Written d w := by
  have hsplit {o : Option Text} {o' : Option Instant} (ho : Option.Rel (ReadsAs fromisoformat) o o') :=
    rel_split (S := fun value t => date fromisoformat value = .ok t) (T := Writes) ho
      fun _ _ => date_of_readsAs
  obtain ⟨ga, hga, hga'⟩ := hsplit h.generatedAfter
  obtain ⟨gb, hgb, hgb'⟩ := hsplit h.generatedBefore
  obtain ⟨ua, hua, hua'⟩ := hsplit h.usedAfter
  obtain ⟨ub, hub, hub'⟩ := hsplit h.usedBefore
  refine ⟨⟨ga, gb, ua, ub⟩, ?_, hga', hgb', hua', hub'⟩
  exact bind_eq_ok.2 ⟨ga, optionMapM_eq_ok.2 hga, bind_eq_ok.2 ⟨gb, optionMapM_eq_ok.2 hgb,
    bind_eq_ok.2 ⟨ua, optionMapM_eq_ok.2 hua, bind_eq_ok.2 ⟨ub, optionMapM_eq_ok.2 hub, rfl⟩⟩⟩⟩

/-- Arguments whose dates are converted are accepted. -/
theorem Valid.accepted {d : Dates} (h : q.Valid) (hd : q.dates fromisoformat = .ok d) :
    ∃ w, q.Accepted fromisoformat w := by
  have hsplit {o o' : Option Text} (ho : o.mapM (date fromisoformat) = .ok o') :=
    rel_split (S := ReadsAs fromisoformat) (T := fun m t => Writes t m) (optionMapM_eq_ok.1 ho)
      fun _ _ => readsAs_of_date
  obtain ⟨_, hga, hd⟩ := bind_eq_ok.1 hd
  obtain ⟨_, hgb, hd⟩ := bind_eq_ok.1 hd
  obtain ⟨_, hua, hd⟩ := bind_eq_ok.1 hd
  obtain ⟨_, hub, hd⟩ := bind_eq_ok.1 hd
  obtain ⟨ga, hga, -⟩ := hsplit hga
  obtain ⟨gb, hgb, -⟩ := hsplit hgb
  obtain ⟨ua, hua, -⟩ := hsplit hua
  obtain ⟨ub, hub, -⟩ := hsplit hub
  exact ⟨⟨ga, gb, ua, ub⟩, h, hga, hgb, hua, hub⟩

end Reading

/-! ## Times shown -/

section Times

variable {m n : Instant} {t : Text} {column : Option Instant}

theorem timeText_of_representable (h : Representable m) :
    ∃ d : DateTime, timeText m = d.stored ∧ d.instant = m := by
  obtain ⟨d, hd, hinstant⟩ := exists_ofInstant? h
  exact ⟨d, by rw [timeText, hd, Option.map_some, Option.getD_some], hinstant⟩

theorem timeText_lt_iff (hm : Representable m) (hn : Representable n) :
    timeText m < timeText n ↔ m < n := by
  obtain ⟨d, hd, rfl⟩ := timeText_of_representable hm
  obtain ⟨e, he, rfl⟩ := timeText_of_representable hn
  rw [hd, he, stored_lt_stored_iff]

theorem timeText_le_iff (hm : Representable m) (hn : Representable n) :
    timeText m ≤ timeText n ↔ m ≤ n := by
  rw [← not_lt, timeText_lt_iff hn hm, not_lt]

theorem timeText_inj (hm : Representable m) (hn : Representable n) :
    timeText m = timeText n ↔ m = n := by
  rw [le_antisymm_iff, timeText_le_iff hm hn, timeText_le_iff hn hm, ← le_antisymm_iff]

theorem Writes.lt_iff (ht : Writes t n) (hm : Representable m) : timeText m < t ↔ m < n := by
  obtain ⟨d, hd, rfl⟩ := timeText_of_representable hm
  obtain ⟨e, rfl, rfl⟩ := ht
  rw [hd, stored_lt_isoformat_iff]

theorem Writes.le_iff (ht : Writes t n) (hm : Representable m) : t ≤ timeText m ↔ n ≤ m := by
  obtain ⟨d, hd, rfl⟩ := timeText_of_representable hm
  obtain ⟨e, rfl, rfl⟩ := ht
  rw [hd, isoformat_le_stored_iff]

/-- The text shown is that of a time of which `P` is true. -/
def Shows (P : Instant → Prop) (shown : Option Text) : Prop :=
  ∃ m, Representable m ∧ shown = some (timeText m) ∧ P m

theorem shows_iff {P : Instant → Prop} (h : ∀ m ∈ column, Representable m) :
    Shows P (column.map timeText) ↔ ∃ m ∈ column, P m := by
  constructor
  · rintro ⟨m, hm, hshown, hP⟩
    obtain ⟨n, hn, heq⟩ := Option.map_eq_some_iff.1 hshown
    obtain rfl := (timeText_inj (h n hn) hm).1 heq
    exact ⟨n, hn, hP⟩
  · rintro ⟨m, hm, hP⟩
    rw [Option.mem_def.1 hm]
    exact ⟨m, h m hm, rfl, hP⟩

/-- **A filter on dates compares instants.** -/
theorem given_iff {op : Operator} {P : Instant → Instant → Prop} {o : Option Text}
    {w : Option Instant}
    (hP : ∀ t n m, Writes t n → Representable m → (op.Compares (timeText m) t ↔ P n m))
    (h : ∀ m ∈ column, Representable m) (ho : Option.Rel Writes o w) :
    (∀ v, o = some v → ∃ x ∈ column.map timeText, op.Compares x v) ↔
      ∀ a ∈ w, Shows (P a) (column.map timeText) := by
  cases ho with
  | none => simp
  | @some t a hwrites =>
    have hiff : (∃ x ∈ column.map timeText, op.Compares x t) ↔ ∃ m ∈ column, P a m := by
      simp only [Option.mem_def, Option.map_eq_some_iff, exists_exists_and_eq_and]
      exact exists_congr fun m => and_congr_right fun hm => hP t a m hwrites (h m hm)
    simpa [shows_iff h] using hiff

theorem since_iff {o : Option Text} {w : Option Instant} (h : ∀ m ∈ column, Representable m)
    (ho : Option.Rel Writes o w) :
    (∀ v, o = some v → ∃ x ∈ column.map timeText, Operator.ge.Compares x v) ↔
      ∀ a ∈ w, Shows (a ≤ ·) (column.map timeText) :=
  given_iff (fun _ _ _ ht hm => ht.le_iff hm) h ho

theorem until_iff {o : Option Text} {w : Option Instant} (h : ∀ m ∈ column, Representable m)
    (ho : Option.Rel Writes o w) :
    (∀ v, o = some v → ∃ x ∈ column.map timeText, Operator.lt.Compares x v) ↔
      ∀ b ∈ w, Shows (· < b) (column.map timeText) :=
  given_iff (fun _ _ _ ht hm => ht.lt_iff hm) h ho

end Times

/-! ## What a report matches -/

/-- The result asked for is that of the use, or its state if that is asked for. -/
def ShowsResult (result : Text) (u : UseReport) : Prop :=
  if result = LinkUseState.sendInFlight.text then u.state = result
  else u.effectiveSendResult = some result

/-- A use shown is one the filters ask for. -/
structure UseMatches (q : HistoryQuery) (w : Periods) (u : UseReport) : Prop where
  result : ∀ result ∈ q.sendResult, ShowsResult result u
  usedAfter : ∀ a ∈ w.usedAfter, Shows (a ≤ ·) (some u.occurredAt)
  usedBefore : ∀ b ∈ w.usedBefore, Shows (· < b) (some u.occurredAt)

/-- **The filters are true of what is reported of a generation.** -/
structure Matches (q : HistoryQuery) (w : Periods) (g : GenerationReport) : Prop where
  scope : g.scope = q.scope
  generationId : ∀ id ∈ q.generationId, g.id = id
  platform : ∀ platform ∈ q.platform, g.platform = platform
  generationResult : ∀ state ∈ q.generationResult, g.state = state
  generatedAfter : ∀ a ∈ w.generatedAfter, Shows (a ≤ ·) g.generatedAt
  generatedBefore : ∀ b ∈ w.generatedBefore, Shows (· < b) g.generatedAt
  use : q.AsksForUse → ∃ u ∈ g.uses, UseMatches q w u

/-! ## The conditions on a generation -/

variable {db : HistoryDatabase} {q : HistoryQuery} {d : Dates} {w : Periods} {k : Nat}
  {r : GenerationRow}

theorem representable_generatedAt (hr : db.generations.get? k = some r) :
    ∀ m ∈ r.generatedAt, Representable m := by
  intro m hm
  refine db.generation_times k r hr m (List.mem_cons_of_mem _ ?_)
  rw [List.reduceOption_mem_iff, ← Option.mem_def.1 hm]
  simp

/-- The conditions on a generation say what the report shows of it. -/
theorem conditions_iff (hd : Written d w) (hr : db.generations.get? k = some r) :
    (q.conditions d).Holds (generationColumns db k r) ↔
      r.scope.text = q.scope ∧ (∀ id ∈ q.generationId, db.uuid k = id) ∧
        (∀ platform ∈ q.platform, r.platform.toList = platform) ∧
        (∀ state ∈ q.generationResult, r.state.text = state) ∧
        (∀ a ∈ w.generatedAfter, Shows (a ≤ ·) (r.generatedAt.map timeText)) ∧
        (∀ b ∈ w.generatedBefore, Shows (· < b) (r.generatedAt.map timeText)) := by
  have htimes := representable_generatedAt hr
  unfold conditions
  simp only [Where.holds_addIfGiven]
  have hafter := since_iff htimes hd.generatedAfter
  have hbefore := until_iff htimes hd.generatedBefore
  have hgiven (o : Option Text) (c : Column) (x : Text) (hc : generationColumns db k r c = some x) :
      (∀ v, o = some v → ∃ y ∈ generationColumns db k r c, Operator.eq.Compares y v) ↔
        ∀ v ∈ o, x = v := by
    simp [hc, Operator.Compares]
  rw [hgiven _ .id _ rfl, hgiven _ .platform _ rfl, hgiven _ .state _ rfl]
  have hscope : Where.Holds (generationColumns db k r)
      ⟨[.parameter .scope .eq], [q.scope], rfl⟩ ↔ r.scope.text = q.scope := by
    simp [Where.Holds, SqlWhere.Holds, Condition.Holds, Condition.holes, generationColumns,
      Operator.Compares]
  rw [hscope]
  simp only [and_assoc]
  exact and_congr_right' (and_congr_right' (and_congr_right' (and_congr_right'
    (and_congr hafter hbefore))))

/-! ## The conditions on a use -/

variable {j : JoinedUse}

theorem mem_joinedUses : j ∈ joinedUses db ↔
    db.uses.get? j.useId = some j.use ∧ (j.generationId, j.cacheHit) ∈ j.use.generations := by
  unfold joinedUses
  rw [List.mem_flatMap]
  constructor
  · rintro ⟨⟨useId, use⟩, he, hj⟩
    obtain ⟨l, hl, rfl⟩ := List.mem_map.1 hj
    exact ⟨(SqlTable.mem_select.1 he).1, hl⟩
  · rintro ⟨huse, hl⟩
    exact ⟨(j.useId, j.use), SqlTable.mem_select.2 ⟨huse, trivial⟩, List.mem_map.2 ⟨_, hl, rfl⟩⟩

theorem mem_uses {id : Text} {u : UseReport} : u ∈ uses db id ↔
    ∃ j ∈ joinedUses db, db.uuid j.generationId = id ∧
      useReport db j.useId j.use j.cacheHit = u := by
  unfold uses
  simp only [List.mem_map, List.mem_insertionSort, List.mem_filter, decide_eq_true_eq, and_assoc]

theorem representable_occurredAt (hj : j ∈ joinedUses db) : Representable j.use.occurredAt :=
  db.use_times _ _ (mem_joinedUses.1 hj).1 _ List.mem_cons_self

theorem state_text_injective : Function.Injective LinkUseState.text := by
  intro s t h
  cases s <;> cases t <;> first | rfl | exact absurd h (by decide)

theorem kind_text_injective : Function.Injective LinkUseKind.text := by
  intro s t h
  cases s <;> cases t <;> first | rfl | exact absurd h (by decide)

/-- A result other than "in flight" is shown of a send in that state, and "uncertain" of one
in flight as well. -/
theorem effectiveSendResult_iff {u : LinkUse} {s : LinkUseState} (hs : s ≠ .sendInFlight)
    (hsends : u.state ∈ LinkUseState.sendStates → u.kind = .send) :
    effectiveSendResult u = some s.text ↔
      u.kind = .send ∧ (u.state = s ∨ s = .sendUncertain ∧ u.state = .sendInFlight) := by
  unfold effectiveSendResult
  by_cases hflight : u.state = .sendInFlight
  · have hsent : u.kind = .send := hsends (hflight ▸ by decide)
    have huncertain : ("SEND_UNCERTAIN".toList : Text) = LinkUseState.sendUncertain.text := rfl
    rw [if_pos hflight, hflight, Option.some.injEq, huncertain, state_text_injective.eq_iff]
    simp [hsent, hs.symm, eq_comm]
  · rw [if_neg hflight]
    by_cases hsent : u.kind = .send
    · rw [if_pos hsent, Option.some.injEq, state_text_injective.eq_iff]
      simp [hsent, hflight]
    · rw [if_neg hsent]
      simp [hsent]

/-- What is asked for of a use is shown of it exactly if it is a send in such a state. -/
theorem showsResult_iff {s : LinkUseState}
    (hsends : j.use.state ∈ LinkUseState.sendStates → j.use.kind = .send) :
    ShowsResult s.text (useReport db j.useId j.use j.cacheHit) ↔
      j.use.kind = .send ∧
        (j.use.state = s ∨ s = .sendUncertain ∧ j.use.state = .sendInFlight) := by
  unfold ShowsResult
  by_cases hflight : s = .sendInFlight
  · rw [hflight, if_pos rfl]
    have hstate : (useReport db j.useId j.use j.cacheHit).state = j.use.state.text := rfl
    rw [hstate, state_text_injective.eq_iff]
    constructor
    · exact fun h => ⟨hsends (h ▸ by decide), Or.inl h⟩
    · rintro ⟨-, h | ⟨h, -⟩⟩
      · exact h
      · cases h
  · rw [if_neg fun h => hflight (state_text_injective h)]
    exact effectiveSendResult_iff hflight hsends

/-- **The conditions on the state and the kind of a use say what the report shows of it.** -/
theorem sendConditions_iff {base : Where Column Text} {row : Column → Option Text}
    (hstate : row .useState = some j.use.state.text) (hkind : row .useKind = some j.use.kind.text)
    (hsends : j.use.state ∈ LinkUseState.sendStates → j.use.kind = .send) {o : Option Text}
    (ho : ∀ result ∈ o, result ∈ sendStates) :
    (sendConditions base o).Holds row ↔ base.Holds row ∧
      ∀ result ∈ o, ShowsResult result (useReport db j.useId j.use j.cacheHit) := by
  cases o with
  | none => simp [sendConditions]
  | some result =>
    obtain ⟨s, hs, rfl⟩ := List.mem_map.1 (ho result rfl)
    have hsend : (Condition.literal Column.useKind "SEND".toList).Holds row [] ↔
        j.use.kind = .send := by
      show row .useKind = some LinkUseKind.send.text ↔ _
      rw [hkind, Option.some.injEq, kind_text_injective.eq_iff]
    have hshown : ShowsResult s.text (useReport db j.useId j.use j.cacheHit) ↔
        j.use.kind = .send ∧
          (j.use.state = s ∨ s = .sendUncertain ∧ j.use.state = .sendInFlight) :=
      showsResult_iff hsends
    unfold sendConditions
    dsimp only
    rw [Where.holds_addPlain, hsend]
    simp only [Option.mem_some_iff, forall_eq', hshown]
    split_ifs with huncertain
    · -- What is uncertain is looked for with what is in flight.
      obtain rfl : s = .sendUncertain := state_text_injective huncertain
      have hstates : (Condition.isIn Column.useState
          ["SEND_UNCERTAIN".toList, "SEND_IN_FLIGHT".toList]).Holds row [] ↔
            j.use.state = .sendUncertain ∨ j.use.state = .sendInFlight := by
        show (∃ x ∈ row .useState, x ∈ [LinkUseState.sendUncertain.text,
          LinkUseState.sendInFlight.text]) ↔ _
        simp [hstate, state_text_injective.eq_iff]
      rw [Where.holds_addPlain, hstates, and_assoc, and_comm (a := _ ∨ _)]
      simp
    · have hne : s ≠ .sendUncertain := fun h => huncertain (h ▸ rfl)
      have hstates : (∀ v, some s.text = some v →
          ∃ x ∈ row .useState, Operator.eq.Compares x v) ↔ j.use.state = s := by
        simp [hstate, Operator.Compares, state_text_injective.eq_iff]
      rw [Where.holds_addIfGiven, hstates, and_assoc, and_comm (a := _ = _)]
      simp [hne]

theorem Valid.truthy_sendResult (h : q.Valid) : truthy q.sendResult = q.sendResult := by
  cases hresult : q.sendResult with
  | none => rfl
  | some result =>
    obtain ⟨s, -, rfl⟩ := List.mem_map.1 (h.sendResult result hresult)
    cases s <;> rfl

/-- The conditions on a use say what the report shows of it. -/
theorem usesConditions_iff (hq : q.Valid) (hd : Written d w) (hj : j ∈ joinedUses db) :
    (q.usesConditions d).Holds (joinedColumns db (generationColumns db k r) j) ↔
      db.uuid j.generationId = db.uuid k ∧
        UseMatches q w (useReport db j.useId j.use j.cacheHit) := by
  have htimes : ∀ m ∈ some j.use.occurredAt, Representable m := by
    simpa using representable_occurredAt hj
  have hafter := since_iff htimes hd.usedAfter
  have hbefore := until_iff htimes hd.usedBefore
  have hlink : Where.Holds (joinedColumns db (generationColumns db k r) j)
      ⟨[.same .linkGenerationId .id], [], rfl⟩ ↔ db.uuid j.generationId = db.uuid k := by
    simp [Where.Holds, SqlWhere.Holds, Condition.Holds, joinedColumns, generationColumns, eq_comm]
  unfold usesConditions
  rw [hq.truthy_sendResult, Where.holds_addIfGiven, Where.holds_addIfGiven,
    sendConditions_iff rfl rfl (db.send_states _ _ (mem_joinedUses.1 hj).1) hq.sendResult, hlink]
  simp only [and_assoc]
  refine and_congr_right' ⟨fun h => ?_, fun h => ?_⟩
  · exact ⟨h.1, hafter.1 h.2.1, hbefore.1 h.2.2⟩
  · exact ⟨h.result, hafter.2 h.usedAfter, hbefore.2 h.usedBefore⟩

/-- **The statement selects the rows whose report matches.** -/
theorem selects_iff_matches (hq : q.Valid) (hd : Written d w)
    (hr : db.generations.get? k = some r) :
    (q.statement d).Selects (q.statement d).parameters (generationColumns db k r)
        ((joinedUses db).map (joinedColumns db (generationColumns db k r))) ↔
      Matches q w (report db q.includeUrls q.includeLegacy (k, r)) := by
  have huse : (∃ row ∈ (joinedUses db).map (joinedColumns db (generationColumns db k r)),
      (q.usesConditions d).Holds row) ↔ ∃ u ∈ uses db (db.uuid k), UseMatches q w u := by
    constructor
    · rintro ⟨row, hrow, hholds⟩
      obtain ⟨j, hj, rfl⟩ := List.mem_map.1 hrow
      obtain ⟨hid, hmatches⟩ := (usesConditions_iff hq hd hj).1 hholds
      exact ⟨_, mem_uses.2 ⟨j, hj, hid, rfl⟩, hmatches⟩
    · rintro ⟨u, hu, hmatches⟩
      obtain ⟨j, hj, hid, rfl⟩ := mem_uses.1 hu
      exact ⟨_, List.mem_map_of_mem hj, (usesConditions_iff hq hd hj).2 ⟨hid, hmatches⟩⟩
  have hinner : (∀ c ∈ (q.statement d).inner,
      ∃ row ∈ (joinedUses db).map (joinedColumns db (generationColumns db k r)), c.Holds row) ↔
        (q.AsksForUse → ∃ u ∈ uses db (db.uuid k), UseMatches q w u) := by
    rw [← huse]
    by_cases hasks : q.AsksForUse <;> simp [statement, hasks]
  rw [Subquery.selects_iff, hinner]
  refine (and_congr_left' (conditions_iff hd hr)).trans ⟨fun h => ?_, fun h => ?_⟩
  · obtain ⟨⟨hscope, hid, hplatform, hstate, hafter, hbefore⟩, huses⟩ := h
    exact ⟨hscope, hid, hplatform, hstate, hafter, hbefore, huses⟩
  · exact ⟨⟨h.scope, h.generationId, h.platform, h.generationResult, h.generatedAfter,
      h.generatedBefore⟩, h.use⟩

/-! ## The reports, the newest generation first -/

/-- The order of the generations: the newest first, and by their keys among those of one
time. -/
def creationKey (db : HistoryDatabase) (e : Nat × GenerationRow) : Instantᵒᵈ ×ₗ Text :=
  toLex (OrderDual.toDual e.2.createdAt, db.uuid e.1)

/-- The reports of all generations, the newest first. -/
def reports (db : HistoryDatabase) (includeUrls includeLegacy : Bool) : List GenerationReport :=
  ((db.generations.select fun _ _ => True).insertionSort
    fun e f => creationKey db e ≤ creationKey db f).map (report db includeUrls includeLegacy)

theorem representable_createdAt (hr : db.generations.get? k = some r) :
    Representable r.createdAt :=
  db.generation_times k r hr _ List.mem_cons_self

theorem creationKey_le {e f : Nat × GenerationRow} (he : db.generations.get? e.1 = some e.2)
    (hf : db.generations.get? f.1 = some f.2) (h : generationKey db e ≤ generationKey db f) :
    creationKey db e ≤ creationKey db f := by
  unfold generationKey at h
  unfold creationKey
  rw [Prod.Lex.toLex_le_toLex, OrderDual.toDual_lt_toDual, EmbeddingLike.apply_eq_iff_eq] at h ⊢
  rw [timeText_lt_iff (representable_createdAt hf) (representable_createdAt he),
    timeText_inj (representable_createdAt he) (representable_createdAt hf)] at h
  exact h

theorem eq_of_creationKey_le {e f : Nat × GenerationRow}
    (he : db.generations.get? e.1 = some e.2) (hf : db.generations.get? f.1 = some f.2)
    (h : creationKey db e ≤ creationKey db f) (h' : creationKey db f ≤ creationKey db e) :
    e = f := by
  have hkey := congrArg (fun p => (ofLex p).2) (le_antisymm h h')
  have hid : e.1 = f.1 := db.uuid_injective hkey
  refine Prod.ext hid (Option.some.inj ?_)
  rw [← he, ← hf, hid]

open Classical in
/-- The rows a statement returns are the first of those whose report matches. -/
theorem map_report_rows (hq : q.Valid) (hd : Written d w) (limit : Nat) :
    (rows db (q.statement d) limit).map (report db q.includeUrls q.includeLegacy) =
      ((reports db q.includeUrls q.includeLegacy).filter fun g => Matches q w g).take limit := by
  have hrow : ∀ e ∈ db.generations.select fun _ _ => True,
      db.generations.get? e.1 = some e.2 := fun e he => (SqlTable.mem_select.1 he).1
  have hselect : (db.generations.select fun k r =>
      (q.statement d).Selects (q.statement d).parameters (generationColumns db k r)
        ((joinedUses db).map (joinedColumns db (generationColumns db k r)))) =
      (db.generations.select fun _ _ => True).filter fun e =>
        Matches q w (report db q.includeUrls q.includeLegacy e) := by
    rw [SqlTable.select_eq_filter]
    exact List.filter_congr fun e he => decide_eq_decide.2 (selects_iff_matches hq hd (hrow e he))
  unfold rows reports
  rw [hselect, RowOrder.insertionSort_filter _ (fun e f => creationKey db e ≤ creationKey db f),
    List.map_take, List.filter_map]
  · exact rfl
  · exact fun e he f hf h => creationKey_le (hrow e he) (hrow f hf) h
  · exact fun e he f hf h h' => eq_of_creationKey_le (hrow e he) (hrow f hf) h h'

open Classical in
/-- **The filters are true of what is returned, and of nothing else up to the limit.**  With
arguments it accepts `read_history` returns the first `limit` of the reports the filters match,
the newest generation first, and of those asked for by their key the one there is; other
arguments it refuses. -/
theorem readHistory_eq_matching
    (fromisoformat : Text → Except Text (DateTime × Option Int)) (db : HistoryDatabase)
    (q : HistoryQuery) :
    (∀ w, q.Accepted fromisoformat w → readHistory fromisoformat (.history db) q =
      answer q.generationId (((reports db q.includeUrls q.includeLegacy).filter
        fun g => Matches q w g).take q.limit.toNat)) ∧
    ((∀ w, ¬ q.Accepted fromisoformat w) →
      ∃ e, readHistory fromisoformat (.history db) q = .error e) := by
  constructor
  · intro w hw
    obtain ⟨d, hd, hwritten⟩ := hw.dates
    rw [← map_report_rows hw.valid hwritten]
    unfold readHistory
    rw [(checkArguments_eq_ok (x := ())).2 hw.valid, hd]
    rfl
  · intro hnone
    cases h : readHistory fromisoformat (.history db) q with
    | error e => exact ⟨e, rfl⟩
    | ok r =>
      obtain ⟨_, hvalid, h⟩ := bind_eq_ok.1 h
      obtain ⟨d, hd, -⟩ := bind_eq_ok.1 h
      obtain ⟨w, hw⟩ := (checkArguments_eq_ok.1 hvalid).accepted hd
      exact absurd hw (hnone w)

/-! ## A send on its way -/

/-- 2026-10-02, midnight UTC. -/
def october : Instant := 63926496000000000

/-- A confirmed generation. -/
def octoberGeneration : GenerationRow where
  toGeneration :=
    { AffiliateLinkHistoryRepository.newRow .shadow (.canonical 1) with
      state := .confirmed
      callStartedAt := some october
      generatedAt := some october
      finishedAt := some october
      generatedUrl := some "https://s.click.aliexpress.com/e/_promo".toList
      contractVersion := some "top-link-generate-tracking-v2"
      correlationMode := some "PRODUCT_ID_CORRELATED"
      trackingConfirmed := true
      validationFacts := some [("tracking_confirmed", .bool true)] }
  createdAt := october
  operatorRequestedAt := none
  requestReason := none
  legacyRecordSnapshot := none

/-- A send of its link, which is on its way. -/
def octoberSend : LinkUse :=
  AffiliateLinkHistoryRepository.moved (october + 2000000) .sendInFlight none none
    (AffiliateLinkHistoryRepository.useRow none none
      { scope := .shadow
        kind := .send
        generationIds := [0]
        now := october + 1500000
        cacheHit := false
        cacheHits := none
        sourceUseId := none
        origin := none
        operationalKind := some .canonicalDelivery
        operationalId := some 7
        destinationKey := some "private-test".toList })

/-- The text of a key, as a UUID is written. -/
def octoberUuid (k : Nat) : Text := "00000000-0000-4000-8000-".toList ++ Text.pad 12 k

theorem octoberUuid_injective : Function.Injective octoberUuid := by
  intro k l h
  rw [← Text.toNat_pad 12 k, ← Text.toNat_pad 12 l, List.append_cancel_left h]

theorem eq_of_get?_put {ρ : Type} {k l : Nat} {r r' : ρ}
    (h : (SqlTable.put ∅ l r).get? k = some r') : r = r' := by
  rw [SqlTable.get?_put, SqlTable.get?_empty, Option.ite_none_right_eq_some] at h
  exact Option.some.inj h.2

theorem october_generation_times (k : Nat) (r : GenerationRow)
    (hr : (SqlTable.put ∅ 0 octoberGeneration).get? k = some r) :
    ∀ m ∈ r.times, Representable m := by
  obtain rfl := eq_of_get?_put hr
  decide

theorem october_use_times (k : Nat) (u : LinkUse)
    (hu : (SqlTable.put ∅ 1 octoberSend).get? k = some u) : ∀ m ∈ u.times, Representable m := by
  obtain rfl := eq_of_get?_put hu
  decide

theorem october_sendsOnly : SendsOnly (SqlTable.put ∅ 1 octoberSend) := by
  intro k u hu _
  obtain rfl := eq_of_get?_put hu
  rfl

/-- A history with that generation and that send. -/
def octoberHistory : HistoryDatabase where
  generations := SqlTable.put ∅ 0 octoberGeneration
  uses := SqlTable.put ∅ 1 octoberSend
  uuid := octoberUuid
  uuid_injective := octoberUuid_injective
  generation_times := october_generation_times
  use_times := october_use_times
  send_states := october_sendsOnly

/-- The sends with this result, since a date. -/
def sentQuery (result : Text) (usedAfter : Option Text) : HistoryQuery where
  scope := "shadow".toList
  generationId := none
  platform := some "aliexpress".toList
  generationResult := some "CONFIRMED".toList
  sendResult := some result
  generatedAfter := none
  generatedBefore := none
  usedAfter := usedAfter
  usedBefore := none
  limit := 20
  includeUrls := false
  includeLegacy := false

theorem octoberFirst_lt : 63926409600000000 < endOfTime := by decide

/-- 2026-10-01, midnight. -/
def octoberFirst : DateTime := ofMicroseconds 63926409600000000 octoberFirst_lt

example : octoberFirst.stored = "2026-10-01 00:00:00.000000".toList := by decide +kernel

/-- `datetime.fromisoformat`, of the one date used below. -/
def readOctober (t : Text) : Except Text (DateTime × Option Int) :=
  if t = "2026-10-01T00:00:00-03:00".toList then .ok (octoberFirst, some (-10800000000))
  else .error "Invalid isoformat string".toList

/-- The report of the generation, as both queries below return it. -/
def octoberReport : GenerationReport := report octoberHistory false false (0, octoberGeneration)

/-- **A send found as in flight is shown as uncertain**: the query for `SEND_IN_FLIGHT` returns
the generation, and no use shown of it has that result. -/
theorem inFlight_shown_uncertain :
    readHistory readOctober (.history octoberHistory) (sentQuery "SEND_IN_FLIGHT".toList none) =
        .ok (.generations [octoberReport] 1) ∧
      ¬ ∃ u ∈ octoberReport.uses, u.effectiveSendResult = some "SEND_IN_FLIGHT".toList := by
  decide +kernel

open Classical in
/-- The same send is found as uncertain, since a date with an offset. -/
theorem uncertain_since_october :
    readHistory readOctober (.history octoberHistory)
        (sentQuery "SEND_UNCERTAIN".toList (some "2026-10-01T00:00:00-03:00".toList)) =
      answer none (((reports octoberHistory false false).filter fun g => Matches
        (sentQuery "SEND_UNCERTAIN".toList (some "2026-10-01T00:00:00-03:00".toList))
        ⟨none, none, some 63926420400000000, none⟩ g).take 20) ∧
    readHistory readOctober (.history octoberHistory)
        (sentQuery "SEND_UNCERTAIN".toList (some "2026-10-01T00:00:00-03:00".toList)) =
      .ok (.generations [octoberReport] 1) := by
  refine ⟨(readHistory_eq_matching readOctober octoberHistory _).1 _
    ⟨⟨Or.inl rfl, ?_, ?_, ?_, ?_⟩, .none, .none, ?_, .none⟩, ?_⟩
  · decide
  · decide +kernel
  · decide
  · decide
  · exact .some ⟨octoberFirst, -10800000000, if_pos rfl, by decide +kernel, by decide⟩
  · decide +kernel

end HistoryQuery

end PromoBot
