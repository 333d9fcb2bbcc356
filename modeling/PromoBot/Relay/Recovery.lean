import PromoBot.Relay.Fencing

/-!
# Recovery and live leases

`recover_once` first ends every row that has used up its attempts, and only then looks for rows
to take up again.  The second query respects a live lease; the first does not ask for the lease
at all.  So a row which is being processed on its last attempt is ended under its processor,
and the processor's `complete` then finds nothing to complete.

`recoverOnce_keeps_live_iff` is the exact condition: recovery keeps every live row if and only
if no live row has used up its attempts.  Along a run (`completed_of_undisturbed`) that
condition, and that no processor writes a row it has lost, is all it takes: a processor which
keeps its lease and reaches the end leaves its row `COMPLETED`, on the last attempt as on the
first.

## Two statements about a lease

That recovery leaves a live row alone is about one call, and can be said for every table.  That
a processor which keeps its lease gets its row completed is about a run, in which recovery runs
any number of times, other processors claim, fail and complete, and the processor renews its
lease when it pleases.  The first is a part of the second only: a row may also be taken away by
a late statement of somebody who has lost it, which is the subject of `Relay/Fencing`.
`Undisturbed` has both conditions, so that the two defects are kept apart.

## The invariant

`Owned` says of a processor and its claim: while it is at work the row is in `PROCESSING`,
under the lease it wrote last, and when it is done the row is `COMPLETED`.  Its own steps keep
this by what they write (`Owned.of_writer`).  The steps of others keep it because a row in such
a state is changed by its holder only (`row_kept`): a claim asks for a lease that has run out,
a recovery in time leaves live rows alone, and a writer that is not stale holds another row.
-/

namespace PromoBot
namespace Relay

open SqlTable SourceMessageRepository DurableRelayQueue

variable {cfg : TelegramRelayConfig} {w w' : World} {act : Action}

/-- The row is being processed under a lease later than `now`. -/
def Live (now : Instant) (r : SourceMessage) : Prop :=
  Processing r ∧ Above r.processingLeaseUntil now

/-- The state, the attempts and the lease of a row. -/
def leaseFields (r : SourceMessage) : SourceMessageState × Nat × Option Instant :=
  (r.processingStatus, r.attemptCount, r.processingLeaseUntil)

/-- Every live row keeps its state, its attempts and its lease across
`recover_once`. -/
def KeepsLiveRows (cfg : TelegramRelayConfig) (t : SourceMessages) (queue : RelayQueue)
    (now : Instant) : Prop :=
  ∀ i r, t.get? i = some r → Live now r →
    ((recoverOnce cfg t queue now).1.get? i).map leaseFields = some (leaseFields r)

/-- No live row has used up its attempts. -/
def LiveRowsHaveAttempts (cfg : TelegramRelayConfig) (t : SourceMessages) (now : Instant) :
    Prop :=
  ∀ i r, t.get? i = some r → Live now r → r.attemptCount < cfg.processingMaxAttempts

theorem exhausted_iff_of_processing {maxAttempts : Nat} {r : SourceMessage} (h : Processing r) :
    Exhausted maxAttempts r ↔ maxAttempts ≤ r.attemptCount := by
  have hmem : r.processingStatus ∈
      [SourceMessageState.received, .processing, .failedRetryable] := by
    rw [show r.processingStatus = .processing from h]
    decide
  exact ⟨And.left, fun hle => ⟨hle, hmem⟩⟩

/-- **Recovery keeps the live rows exactly when none of them has used up its
attempts.** -/
theorem recoverOnce_keeps_live_iff (t : SourceMessages) (queue : RelayQueue) (now : Instant) :
    KeepsLiveRows cfg t queue now ↔ LiveRowsHaveAttempts cfg t now := by
  refine forall_congr' fun i => forall_congr' fun r => ?_
  refine forall_congr' fun hr => forall_congr' fun hlive => ?_
  rw [recoverOnce_fst, get?_markExhausted, hr, Option.map_some, Option.map_some,
    Option.some.injEq]
  by_cases hle : cfg.processingMaxAttempts ≤ r.attemptCount
  · have hex := (exhausted_iff_of_processing hlive.1).2 hle
    have hne : SourceMessageState.failedPermanent ≠ r.processingStatus := by
      rw [show r.processingStatus = .processing from hlive.1]
      decide
    simp [hex, leaseFields, exhausted, hne, Nat.not_lt.2 hle]
  · have hex := mt (exhausted_iff_of_processing hlive.1).1 hle
    simp [hex, Nat.lt_of_not_le hle]

/-! ## Who changes a row -/

/-- A row changes only when it is claimed, when its holder writes it, or when
recovery ends it. -/
theorem row_step (h : step cfg w act = some w') (i : Nat) :
    w'.rows.get? i = w.rows.get? i ∨ ∃ r, w.rows.get? i = some r ∧
      ((∃ now, now ≤ w.clock ∧ Claimable now cfg.processingMaxAttempts r) ∨
        (∃ q k, act.writer? = some q ∧ (w.processors q).held? = some k ∧ k.internalId = i) ∨
        (∃ queue now, now ≤ w.clock ∧ act = .recover queue now ∧
          Exhausted cfg.processingMaxAttempts r)) := by
  cases act with
  | tick now =>
    simp only [step] at h
    split at h
    · exact Or.inl (Option.some.inj h ▸ rfl)
    · simp at h
  | begin' p j now =>
    simp only [step] at h
    split at h
    · next hnow =>
      split at h
      · next t ht =>
        simp only [Option.map_eq_some_iff] at h
        obtain ⟨_, _, rfl⟩ := h
        obtain ⟨⟨r, hr, hclaim, _⟩, hother⟩ := get?_of_claim ht
        rcases eq_or_ne i j with rfl | hij
        · exact Or.inr ⟨r, hr, Or.inl ⟨now, hnow.1, hclaim⟩⟩
        · exact Or.inl (hother i hij)
      · exact Or.inl (Option.some.inj h ▸ rfl)
    · simp at h
  | renew p now =>
    simp only [step] at h
    split at h
    · next k _ rest hp =>
      split at h
      · rw [← Option.some.inj h, World.after_rows, get?_renewLease]
        rcases eq_or_ne i k.internalId with rfl | hi
        · cases hr : w.rows.get? k.internalId with
          | none => exact Or.inl rfl
          | some r => exact Or.inr ⟨r, rfl, Or.inr (Or.inl ⟨p, k, rfl, by rw [hp]; rfl, rfl⟩)⟩
        · exact Or.inl (by simp [hi])
      · simp at h
    · simp at h
  | complete p now =>
    simp only [step] at h
    split at h
    · next k hp =>
      split at h
      · rw [← Option.some.inj h, World.after_rows, get?_complete]
        rcases eq_or_ne i k.internalId with rfl | hi
        · cases hr : w.rows.get? k.internalId with
          | none => exact Or.inl rfl
          | some r => exact Or.inr ⟨r, rfl, Or.inr (Or.inl ⟨p, k, rfl, by rw [hp]; rfl, rfl⟩)⟩
        · exact Or.inl (by simp [hi])
      · simp at h
    · simp at h
  | fail p now jitter =>
    simp only [step] at h
    split at h
    · next k e hp =>
      split at h
      · simp only [Option.map_eq_some_iff] at h
        obtain ⟨t, ht, rfl⟩ := h
        obtain ⟨⟨r, hr, _⟩, hother⟩ := get?_of_fail ht
        rcases eq_or_ne i k.internalId with rfl | hi
        · exact Or.inr ⟨r, hr, Or.inr (Or.inl ⟨p, k, rfl, by rw [hp]; rfl, rfl⟩)⟩
        · exact Or.inl (hother i hi)
      · simp at h
    · simp at h
  | linkEnds p outcome =>
    simp only [step] at h
    split at h
    · split at h <;> exact Or.inl (Option.some.inj h ▸ rfl)
    · simp at h
  | recover queue now =>
    simp only [step] at h
    split at h
    · next hnow =>
      rw [← Option.some.inj h]
      simp only [recoverOnce_fst, get?_markExhausted]
      cases hr : w.rows.get? i with
      | none => exact Or.inl rfl
      | some r =>
        by_cases hex : Exhausted cfg.processingMaxAttempts r
        · exact Or.inr ⟨r, rfl, Or.inr (Or.inr ⟨queue, now, hnow, rfl, hex⟩)⟩
        · exact Or.inl (by simp [hex])
    · simp at h
  | crash p =>
    simp only [step, Option.map_eq_some_iff] at h
    obtain ⟨_, _, rfl⟩ := h
    exact Or.inl rfl

/-- Unless it writes, a processor goes on with the claim it had, or not at all,
and does not become `completed`. -/
theorem quiet_step {p : Nat} (h : step cfg w act = some w') (hact : act.writer? ≠ some p)
    (hidle : w.processors p ≠ .idle) :
    (∀ k, (w'.processors p).working? = some k → (w.processors p).working? = some k) ∧
      ∀ k, w'.processors p = .completed k → w.processors p = .completed k := by
  have other : ∀ {q t} {c : Processor}, w.after q t c = w' → p ≠ q →
      w'.processors p = w.processors p := fun e hpq => by
    rw [← e, World.after_processors, Function.update_of_ne hpq]
  have unmoved : w'.processors p = w.processors p →
      (∀ k, (w'.processors p).working? = some k → (w.processors p).working? = some k) ∧
        ∀ k, w'.processors p = .completed k → w.processors p = .completed k := fun e => by
    rw [e]
    exact ⟨fun _ => id, fun _ => id⟩
  cases act with
  | tick now | recover queue now =>
    simp only [step] at h
    split at h
    · exact unmoved (Option.some.inj h ▸ rfl)
    · simp at h
  | begin' q i now =>
    simp only [step] at h
    split at h
    · next hq =>
      have hpq : p ≠ q := fun e => hidle (e ▸ hq.2)
      split at h
      · simp only [Option.map_eq_some_iff] at h
        obtain ⟨_, _, h⟩ := h
        exact unmoved (other h hpq)
      · exact unmoved (other (Option.some.inj h) hpq)
    · simp at h
  | renew q now | complete q now =>
    have hpq : p ≠ q := fun e => hact (by simp [Action.writer?, e])
    simp only [step] at h
    split at h
    · split at h
      · exact unmoved (other (Option.some.inj h) hpq)
      · simp at h
    · simp at h
  | fail q now jitter =>
    have hpq : p ≠ q := fun e => hact (by simp [Action.writer?, e])
    simp only [step] at h
    split at h
    · split at h
      · simp only [Option.map_eq_some_iff] at h
        obtain ⟨_, _, h⟩ := h
        exact unmoved (other h hpq)
      · simp at h
    · simp at h
  | linkEnds q outcome =>
    simp only [step] at h
    split at h
    · next k rest hq =>
      rcases eq_or_ne p q with rfl | hpq
      · split at h <;>
        · rw [← Option.some.inj h]
          simp [Processor.working?, hq]
      · split at h <;> exact unmoved (other (Option.some.inj h) hpq)
    · simp at h
  | crash q =>
    simp only [step, Option.map_eq_some_iff] at h
    obtain ⟨_, _, h⟩ := h
    rcases eq_or_ne p q with rfl | hpq
    · rw [← h]
      simp [Processor.working?]
    · exact unmoved (other h hpq)

/-! ## A processor that keeps its lease -/

/-- When recovery runs, no live row has used up its attempts. -/
def RecoverySafe (cfg : TelegramRelayConfig) (w : World) (act : Action) : Prop :=
  ∀ queue now, act = .recover queue now → LiveRowsHaveAttempts cfg w.rows now

/-- No processor writes a row which another one has re-claimed. -/
def NoStaleWrite (w : World) (act : Action) : Prop :=
  ∀ q k, act.writer? = some q → (w.processors q).held? = some k →
    ∀ r, w.rows.get? k.internalId = some r → r.attemptCount = k.attempt

/-- The lease processor `p` wrote last has not run out. -/
def KeepsLease (p : Nat) (w : World) : Prop :=
  ∀ k, (w.processors p).working? = some k → w.clock < k.lease

/-- A step of a run in which recovery is safe, nobody writes a row it has lost, and
`p` keeps its lease. -/
def Undisturbed (cfg : TelegramRelayConfig) (p : Nat) (w : World) (act : Action) : Prop :=
  RecoverySafe cfg w act ∧ NoStaleWrite w act ∧ KeepsLease p w

/-- While `p` works on its claim the row is in `PROCESSING` under the lease of `p`;
when `p` has completed it, the row is in `COMPLETED`. -/
structure Owned (p : Nat) (h : Held) (w : World) : Prop where
  begun : w.processors p ≠ .idle
  working : ∀ k, (w.processors p).working? = some k → h.Same k ∧
    ∃ r, w.rows.get? h.internalId = some r ∧ Processing r ∧ r.attemptCount = h.attempt ∧
      r.processingLeaseUntil = some k.lease
  completed : ∀ k, w.processors p = .completed k → h.Same k ∧
    ∃ r, w.rows.get? h.internalId = some r ∧ r.processingStatus = .completed ∧
      r.attemptCount = h.attempt

theorem held?_of_working? {c : Processor} {k : Held} (h : c.working? = some k) :
    c.held? = some k := by
  cases c <;> simp_all [Processor.working?, Processor.held?]

/-- A row in `COMPLETED`, or in `PROCESSING` under a lease which has not run out,
is changed by its holder only. -/
theorem row_kept {p : Nat} {h k : Held} {r : SourceMessage} (hd : Distinct w)
    (hp : (w.processors p).held? = some k) (hk : h.Same k)
    (hr : w.rows.get? h.internalId = some r) (hatt : r.attemptCount = h.attempt)
    (hstate : r.processingStatus = .completed ∨ Live w.clock r)
    (hsafe : RecoverySafe cfg w act) (hstale : NoStaleWrite w act)
    (hact : act.writer? ≠ some p) (hstep : step cfg w act = some w') :
    w'.rows.get? h.internalId = some r := by
  rcases row_step hstep h.internalId with heq | ⟨r', hr', hwho⟩
  · rw [heq, hr]
  obtain rfl : r = r' := Option.some.inj (hr.symm.trans hr')
  rcases hwho with ⟨now, hnow, _, hrec⟩ | ⟨q, l, hq, hl, hid⟩ | ⟨queue, now, hnow, rfl, hex⟩
  · -- a claim needs a row that is neither completed nor under a live lease
    rcases hstate with hdone | ⟨hproc, hlease⟩
    · simp [Recoverable, hdone] at hrec
    · obtain ⟨v, hv, hlt⟩ := hlease
      rw [Option.mem_def] at hv
      rw [Recoverable, show r.processingStatus = .processing from hproc, hv] at hrec
      simp only [atMost_some] at hrec
      rcases hrec with h | ⟨h, _⟩ | ⟨_, hle⟩
      · simp at h
      · simp at h
      · exact absurd (hlt.trans_le (hle.trans hnow)) (lt_irrefl _)
  · -- a writer with the attempt of the row is its holder
    have hsame : k.Same l := by
      refine ⟨hk.1.symm.trans hid.symm, ?_⟩
      have := hstale q l hq hl r (hid ▸ hr)
      have := hk.2
      omega
    have hpq := hd.unique p q k l hp hl hsame
    exact absurd (hpq ▸ hq) hact
  · -- recovery ends neither completed rows nor live ones with attempts left
    rcases hstate with hdone | hlive
    · exact absurd hex.2 (by simp [hdone])
    · have hlive' : Live now r := by
        obtain ⟨v, hv, hlt⟩ := hlive.2
        exact ⟨hlive.1, v, hv, hnow.trans_lt hlt⟩
      have := hsafe queue now rfl _ r hr hlive'
      have := hex.1
      omega

/-- The steps of the others leave the claim of `p` as it is. -/
theorem Owned.of_quiet {p : Nat} {h : Held} (ho : Owned p h w) (hd : Distinct w)
    (hgood : Undisturbed cfg p w act) (hact : act.writer? ≠ some p)
    (hstep : Relay.step cfg w act = some w') : Owned p h w' := by
  obtain ⟨hsafe, hstale, hkeeps⟩ := hgood
  obtain ⟨hworking, hcompleted⟩ := quiet_step hstep hact ho.begun
  refine ⟨?_, fun k hk => ?_, fun k hk => ?_⟩
  · rcases processors_step hstep with e | ⟨q, c, hc, e⟩
    · exact e ▸ ho.begun
    · rw [e]
      rcases eq_or_ne p q with rfl | hpq
      · rwa [Function.update_self]
      · rw [Function.update_of_ne hpq]
        exact ho.begun
  · obtain ⟨hsame, r, hr, hproc, hatt, hlease⟩ := ho.working k (hworking k hk)
    have hlive : Live w.clock r :=
      ⟨hproc, k.lease, hlease, hkeeps k (hworking k hk)⟩
    exact ⟨hsame, r, row_kept hd (held?_of_working? (hworking k hk)) hsame hr hatt
      (Or.inr hlive) hsafe hstale hact hstep, hproc, hatt, hlease⟩
  · obtain ⟨hsame, r, hr, hdone, hatt⟩ := ho.completed k (hcompleted k hk)
    have hheld : (w.processors p).held? = some k := by rw [hcompleted k hk]; rfl
    exact ⟨hsame, r, row_kept hd hheld hsame hr hatt (Or.inl hdone) hsafe hstale hact hstep,
      hdone, hatt⟩

/-- The steps of `p` itself renew its lease, complete the row, or give up. -/
theorem Owned.of_writer {p : Nat} {h : Held} (ho : Owned p h w)
    (hact : act.writer? = some p) (hstep : Relay.step cfg w act = some w') : Owned p h w' := by
  cases act with
  | renew q now =>
    obtain rfl : q = p := by simpa [Action.writer?] using hact
    simp only [Relay.step] at hstep
    split at hstep
    · next k _ rest hq =>
      split at hstep
      · rw [← Option.some.inj hstep]
        obtain ⟨hsame, r, hr, hproc, hatt, _⟩ := ho.working k (by rw [hq]; rfl)
        refine ⟨by simp, fun l hl => ?_, fun l hl => by simp at hl⟩
        simp only [World.after_processors, Function.update_self, Processor.working?,
          Option.some.injEq] at hl
        subst hl
        refine ⟨hsame, renewed (cfg.leaseUntil now) r, ?_, hproc, hatt, rfl⟩
        rw [World.after_rows, get?_renewLease, hr]
        simp [hsame.1, hproc]
      · simp at hstep
    · simp at hstep
  | complete q now =>
    obtain rfl : q = p := by simpa [Action.writer?] using hact
    simp only [Relay.step] at hstep
    split at hstep
    · next k hq =>
      split at hstep
      · rw [← Option.some.inj hstep]
        obtain ⟨hsame, r, hr, hproc, hatt, _⟩ := ho.working k (by rw [hq]; rfl)
        refine ⟨by simp, fun l hl => by simp [Processor.working?] at hl, fun l hl => ?_⟩
        simp only [World.after_processors, Function.update_self, Processor.completed.injEq] at hl
        subst hl
        refine ⟨hsame, SourceMessageRepository.completed now r, ?_, rfl, hatt⟩
        rw [World.after_rows, get?_complete, hr]
        simp [hsame.1, hproc]
      · simp at hstep
    · simp at hstep
  | fail q now jitter =>
    obtain rfl : q = p := by simpa [Action.writer?] using hact
    simp only [Relay.step] at hstep
    split at hstep
    · split at hstep
      · simp only [Option.map_eq_some_iff] at hstep
        obtain ⟨t, _, rfl⟩ := hstep
        exact ⟨by simp, fun l hl => by simp [Processor.working?] at hl,
          fun l hl => by simp at hl⟩
      · simp at hstep
    · simp at hstep
  | tick | begin' | linkEnds | recover | crash => simp [Action.writer?] at hact

/-- A claim just made is owned. -/
theorem owned_of_claim {p i : Nat} {now : Instant} {h : Held} {links : List ExtractedLink}
    (hstep : step cfg w (.begin' p i now) = some w')
    (hp : w'.processors p = .linking h links) : Owned p h w' := by
  simp only [step] at hstep
  split at hstep
  · split at hstep
    · next t ht =>
      simp only [Option.map_eq_some_iff] at hstep
      obtain ⟨r', hr', rfl⟩ := hstep
      obtain ⟨⟨r, hr, _, hr''⟩, _⟩ := get?_of_claim ht
      obtain rfl : claimed now (cfg.leaseUntil now) r = r' :=
        Option.some.inj (hr''.symm.trans hr')
      simp only [World.after_processors, Function.update_self, Processor.linking.injEq] at hp
      obtain ⟨rfl, rfl⟩ := hp
      refine ⟨by simp, fun k hk => ?_, fun k hk => by simp at hk⟩
      simp only [World.after_processors, Function.update_self, Processor.working?,
        Option.some.injEq] at hk
      subst hk
      exact ⟨⟨rfl, rfl⟩, _, hr', rfl, rfl, rfl⟩
    · rw [← Option.some.inj hstep] at hp
      simp at hp
  · simp at hstep

/-- **A processor that keeps its lease completes its row**, as long as recovery is
safe and nobody writes a row it has lost. -/
theorem completed_of_undisturbed {w₀ w₁ : World} {p i : Nat} {now : Instant} {h k : Held}
    {links : List ExtractedLink} (hw₀ : (system cfg).Reachable w₀)
    (hclaim : step cfg w₀ (.begin' p i now) = some w₁) (hp : w₁.processors p = .linking h links)
    (hrun : (system cfg).RunUnder (Undisturbed cfg p) w₁ w)
    (hdone : w.processors p = .completed k) :
    ∃ r, w.rows.get? h.internalId = some r ∧ r.processingStatus = .completed ∧
      r.attemptCount = h.attempt := by
  have hboth : Distinct w ∧ Owned p h w := by
    refine hrun.invariant (P := fun w => Distinct w ∧ Owned p h w)
      ⟨(distinct_of_reachable hw₀).step hclaim, owned_of_claim hclaim hp⟩ ?_
    rintro w act w' ⟨hd, ho⟩ hgood hstep
    refine ⟨hd.step hstep, ?_⟩
    by_cases hact : act.writer? = some p
    · exact ho.of_writer hact hstep
    · exact ho.of_quiet hd hgood hact hstep
  exact (hboth.2.completed k hdone).2

/-- **Recovery and live leases.**  For every table, recovery keeps the state, the
attempts and the lease of every live row if and only if no live row has used up
its attempts.  And in every run whose recoveries meet that condition, and in which
no processor writes a row it has lost, a processor that keeps its lease and gets
through all its links leaves the row in `COMPLETED`, with the attempt it made. -/
theorem recovery_keeps_live_leases (cfg : TelegramRelayConfig) :
    (∀ t queue now, KeepsLiveRows cfg t queue now ↔ LiveRowsHaveAttempts cfg t now) ∧
    ∀ (w₀ w₁ w : World) (p i : Nat) (now : Instant) (h k : Held) (links : List ExtractedLink),
      (system cfg).Reachable w₀ → step cfg w₀ (.begin' p i now) = some w₁ →
      w₁.processors p = .linking h links → (system cfg).RunUnder (Undisturbed cfg p) w₁ w →
      w.processors p = .completed k →
      ∃ r, w.rows.get? h.internalId = some r ∧ r.processingStatus = .completed ∧
        r.attemptCount = h.attempt :=
  ⟨recoverOnce_keeps_live_iff, fun _ _ _ _ _ _ _ _ _ hw₀ hclaim hp hrun hdone =>
    completed_of_undisturbed hw₀ hclaim hp hrun hdone⟩

/-! ## The last attempt -/

/-- A configuration with a single attempt. -/
def singleAttempt : TelegramRelayConfig :=
  { TelegramRelayConfig.default with processingMaxAttempts := 1, attempts_bounds := by decide }

/-- Processor 0 is at work on the last attempt of its row. -/
def lastAttempt : World := (system singleAttempt).endOf oneMessage [.begin' 0 1 0]

/-- Recovery ran, and then processor 0 completed its row. -/
def lastAttemptCompleted : World :=
  (system singleAttempt).endOf lastAttempt [.recover ⟨[], []⟩ 0, .complete 0 0]

theorem reachable_lastAttempt : (system singleAttempt).Reachable lastAttempt :=
  ⟨oneMessage, fun _ => rfl, TransitionSystem.run_endOf rfl⟩

/-- **Recovery ends a live row on its last attempt.**  It does not keep every live
row, and the processor which kept its lease throughout and completed its row
leaves it in `FAILED_PERMANENT`. -/
theorem recovery_ends_last_attempt :
    (¬ ∀ cfg w queue now, (system cfg).Reachable w → KeepsLiveRows cfg w.rows queue now) ∧
    (system singleAttempt).Run lastAttempt lastAttemptCompleted ∧
    lastAttemptCompleted.processors 0 = .completed ⟨1, 1, minutes 15⟩ ∧
    lastAttemptCompleted.clock < minutes 15 ∧
    (lastAttemptCompleted.rows.get? 1).map (·.processingStatus) = some .failedPermanent := by
  refine ⟨fun hkeeps => ?_, TransitionSystem.run_endOf rfl, rfl, by decide, rfl⟩
  have hrow := hkeeps singleAttempt lastAttempt ⟨[], []⟩ 0 reachable_lastAttempt 1 _ rfl
    ⟨rfl, minutes 15, rfl, by decide⟩
  exact absurd hrow (by decide)

/-- With attempts left, recovery leaves the row alone and processor 0 completes
it. -/
theorem recovery_keeps_first_attempt :
    ∃ w, (system .default).Run oneMessage w ∧
      w.processors 0 = .completed ⟨1, 1, minutes 15⟩ ∧
      ∃ r, w.rows.get? 1 = some r ∧ r.processingStatus = .completed ∧ r.attemptCount = 1 := by
  let w₁ := (system .default).endOf oneMessage [.begin' 0 1 0]
  let w₂ := (system .default).endOf w₁ [.recover ⟨[], []⟩ 0]
  let w := (system .default).endOf w₂ [.complete 0 0]
  have hkeeps₁ : KeepsLease 0 w₁ := fun k hk => by
    obtain rfl : (⟨1, 1, minutes 15⟩ : Held) = k := Option.some.inj hk
    decide
  have hkeeps₂ : KeepsLease 0 w₂ := hkeeps₁
  have hlive : LiveRowsHaveAttempts .default w₁.rows 0 := by
    intro i r hr _
    have hrow : w₁.rows.get? i =
        ((oneMessage.rows.get? i).map fun r => if i = 1 then claimed 0 (minutes 15) r else r) :=
      get?_updateWhere oneMessage.rows _ _ i
    rw [hrow, oneMessage, get?_put] at hr
    split at hr
    · next hi =>
      simp only [Option.map_some, Option.some.injEq] at hr
      subst hr
      decide
    · simp at hr
  have h₁ : Undisturbed .default 0 w₁ (.recover ⟨[], []⟩ 0) :=
    ⟨fun _ _ e => by obtain ⟨rfl, rfl⟩ := Action.recover.inj e; exact hlive,
      fun q k e => by simp [Action.writer?] at e, hkeeps₁⟩
  have h₂ : Undisturbed .default 0 w₂ (.complete 0 0) := by
    refine ⟨fun _ _ e => by simp at e, fun q k e hk r hr => ?_, hkeeps₂⟩
    obtain rfl : (0 : Nat) = q := Option.some.inj e
    obtain rfl : (⟨1, 1, minutes 15⟩ : Held) = k := Option.some.inj hk
    obtain rfl := Option.some.inj hr
    rfl
  have hrun : (system .default).RunUnder (Undisturbed .default 0) w₁ w :=
    ((TransitionSystem.RunUnder.refl w₁).tail h₁ rfl).tail h₂ rfl
  have hw₀ : (system .default).Reachable oneMessage := ⟨_, oneMessage_init, .refl _⟩
  have hw₁ : (system .default).Run oneMessage w₁ := TransitionSystem.run_endOf rfl
  exact ⟨w, hw₁.trans (hrun.mono fun _ _ _ => trivial), rfl,
    (recovery_keeps_live_leases .default).2 oneMessage w₁ w 0 1 0 ⟨1, 1, minutes 15⟩
      ⟨1, 1, minutes 15⟩ [] hw₀ rfl rfl hrun rfl⟩

end Relay
end PromoBot
