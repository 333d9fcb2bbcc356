import PromoBot.Relay.Processor

/-!
# Which processor a row belongs to

A claim carries no owner: what tells the holder of a row from a processor that lost it is the
attempt number alone.  `Distinct` is the invariant behind that: no two processors hold the same
attempt of the same row, and nobody holds an attempt the row has not counted.

The three finishing statements do not ask for the attempt.  So a processor which was re-claimed
away --- *stale* --- may still change the row; `Harmless` is the exact condition on the row
under which its next statement leaves the fields alone, and `stale_write_unchanged_iff` says
so.

## Who is stale

A processor does not notice that it lost its row.  Its lease runs out while it waits for the
network, another one claims the row, and the first goes on with what it knew.  That it is stale
can be said from outside only: the row counts more attempts than the one the processor made.
The invariant makes this a fact about all later states, however many claims there were in
between and whatever became of them, because the count only goes up and a processor holds one
attempt until it is done.

## What harmless means

Fencing would be a guard: the statement asks for the attempt and takes no row if it is another
one.  Without the guard a late statement is harmless by luck, and `Harmless` spells out the
luck.  `renew_lease` and `complete` ask for a row in `PROCESSING`, so they leave alone what
another processor has ended; `renew_lease` may also write the lease that is there already.
`fail` asks for nothing, so it is harmless only where the row shows this very failure.  Each
part is a condition on the row before the statement, and `write_unchanged_iff` is the
equivalence for any holder, stale or not.
-/

namespace PromoBot
namespace Relay

open SqlTable SourceMessageRepository

variable {cfg : TelegramRelayConfig} {w w' : World} {act : Action}

/-! ## What a step does -/

/-- Every step changes a row the way the repository may. -/
theorem change_step (h : step cfg w act = some w') (i : Nat) :
    Change (fun _ => True) (w.rows.get? i) (w'.rows.get? i) := by
  cases act with
  | tick now =>
    simp only [step] at h
    split at h
    · simp only [Option.some.injEq] at h
      exact h ▸ .keep _
    · simp at h
  | begin' p j now =>
    simp only [step] at h
    split at h
    · split at h
      · next t ht =>
        simp only [Option.map_eq_some_iff] at h
        obtain ⟨r, _, rfl⟩ := h
        exact change_claim ht i
      · simp only [Option.some.injEq] at h
        exact h ▸ .keep _
    · simp at h
  | renew p now =>
    simp only [step] at h
    split at h
    · split at h
      · simp only [Option.some.injEq] at h
        exact h ▸ change_renewLease _ _ _ i
      · simp at h
    · simp at h
  | linkEnds p outcome =>
    simp only [step] at h
    split at h
    · split at h <;> (simp only [Option.some.injEq] at h; exact h ▸ .keep _)
    · simp at h
  | fail p now jitter =>
    simp only [step] at h
    split at h
    · split at h
      · simp only [Option.map_eq_some_iff] at h
        obtain ⟨t, ht, rfl⟩ := h
        exact change_fail ht (fun _ _ => trivial) i
      · simp at h
    · simp at h
  | complete p now =>
    simp only [step] at h
    split at h
    · split at h
      · simp only [Option.some.injEq] at h
        exact h ▸ change_complete _ _ _ i
      · simp at h
    · simp at h
  | recover queue now =>
    simp only [step] at h
    split at h
    · simp only [Option.some.injEq] at h
      exact h ▸ change_markExhausted _ _ i
    · simp at h
  | crash p =>
    simp only [step, Option.map_eq_some_iff] at h
    obtain ⟨k, _, rfl⟩ := h
    exact .keep _

/-- Time only passes. -/
theorem clock_le_of_step (h : step cfg w act = some w') : w.clock ≤ w'.clock := by
  have after : ∀ {p t} {c : Processor}, w.after p t c = w' → w.clock ≤ w'.clock :=
    fun e => e ▸ le_refl w.clock
  cases act with
  | tick now =>
    simp only [step] at h
    split at h
    · next hle => exact Option.some.inj h ▸ hle
    · simp at h
  | begin' p j now =>
    simp only [step] at h
    split at h
    · split at h
      · obtain ⟨_, _, h⟩ := Option.map_eq_some_iff.1 h
        exact after h
      · exact after (Option.some.inj h)
    · simp at h
  | renew p now | complete p now =>
    simp only [step] at h
    split at h
    · split at h
      · exact after (Option.some.inj h)
      · simp at h
    · simp at h
  | linkEnds p outcome =>
    simp only [step] at h
    split at h
    · split at h <;> exact after (Option.some.inj h)
    · simp at h
  | fail p now jitter =>
    simp only [step] at h
    split at h
    · split at h
      · obtain ⟨_, _, h⟩ := Option.map_eq_some_iff.1 h
        exact after h
      · simp at h
    · simp at h
  | recover queue now =>
    simp only [step] at h
    split at h
    · exact Option.some.inj h ▸ le_refl w.clock
    · simp at h
  | crash p =>
    obtain ⟨_, _, h⟩ := Option.map_eq_some_iff.1 h
    exact after h

/-- Two claims are of the same attempt of the same row. -/
def Held.Same (h k : Held) : Prop := h.internalId = k.internalId ∧ h.attempt = k.attempt

/-- A claim of processor `q` on the row `k`, just made. -/
def JustClaimed (w w' : World) (act : Action) (q : Nat) (k : Held) : Prop :=
  w.processors q = .idle ∧ (∃ now, act = .begin' q k.internalId now) ∧
    ∃ r r', w.rows.get? k.internalId = some r ∧ w'.rows.get? k.internalId = some r' ∧
      k.attempt = r.attemptCount + 1 ∧ r'.attemptCount = k.attempt

theorem Held.Same.symm {h k : Held} (hs : h.Same k) : k.Same h := ⟨hs.1.symm, hs.2.symm⟩

theorem Held.Same.trans {h k l : Held} (hk : h.Same k) (kl : k.Same l) : h.Same l :=
  ⟨hk.1.trans kl.1, hk.2.trans kl.2⟩

theorem held?_after {p q : Nat} {t : SourceMessages} {c : Processor} {h k : Held}
    (hk : ((w.after p t c).processors q).held? = some k)
    (hp : (w.processors p).held? = some h) (hc : ∀ l, c.held? = some l → h.Same l) :
    ∃ k₀, (w.processors q).held? = some k₀ ∧ k₀.Same k := by
  rw [World.after_processors] at hk
  rcases eq_or_ne q p with rfl | hq
  · rw [Function.update_self] at hk
    exact ⟨h, hp, hc k hk⟩
  · rw [Function.update_of_ne hq] at hk
    exact ⟨k, hk, rfl, rfl⟩

/-- **Where claims come from.**  What a processor holds after a step it held
before, or it has just claimed it. -/
theorem held?_step (h : step cfg w act = some w') {q : Nat} {k : Held}
    (hk : (w'.processors q).held? = some k) :
    (∃ k₀, (w.processors q).held? = some k₀ ∧ k₀.Same k) ∨ JustClaimed w w' act q k := by
  have same : ∀ {h l : Held}, some h = some l → h.Same l := fun e => by
    obtain rfl := Option.some.inj e
    exact ⟨rfl, rfl⟩
  cases act with
  | tick now =>
    simp only [step] at h
    split at h
    · simp only [Option.some.injEq] at h
      exact Or.inl ⟨k, by rwa [← h] at hk, rfl, rfl⟩
    · simp at h
  | begin' p i now =>
    simp only [step] at h
    split at h
    · next hidle =>
      split at h
      · next t ht =>
        simp only [Option.map_eq_some_iff] at h
        obtain ⟨r', hr', rfl⟩ := h
        rcases eq_or_ne q p with rfl | hq
        · obtain ⟨⟨r, hr, _, hr''⟩, _⟩ := get?_of_claim ht
          obtain rfl : claimed now (cfg.leaseUntil now) r = r' :=
            Option.some.inj (hr''.symm.trans hr')
          simp only [World.after_processors, Function.update_self, Processor.held?,
            Option.some.injEq] at hk
          subst hk
          exact Or.inr ⟨hidle.2, ⟨now, rfl⟩, r, _, hr, hr', rfl, rfl⟩
        · rw [World.after_processors, Function.update_of_ne hq] at hk
          exact Or.inl ⟨k, hk, rfl, rfl⟩
      · simp only [Option.some.injEq] at h
        subst h
        rcases eq_or_ne q p with rfl | hq
        · simp [Processor.held?] at hk
        · rw [World.after_processors, Function.update_of_ne hq] at hk
          exact Or.inl ⟨k, hk, rfl, rfl⟩
    · simp at h
  | renew p now =>
    simp only [step] at h
    split at h
    · next h₀ _ rest hp =>
      split at h
      · simp only [Option.some.injEq] at h
        subst h
        refine Or.inl (held?_after (h := h₀) hk (by rw [hp]; rfl) fun l hl => ?_)
        obtain rfl := Option.some.inj hl
        exact ⟨rfl, rfl⟩
      · simp at h
    · simp at h
  | linkEnds p outcome =>
    simp only [step] at h
    split at h
    · next h₀ rest hp =>
      split at h <;>
      · simp only [Option.some.injEq] at h
        subst h
        exact Or.inl (held?_after (h := h₀) hk (by rw [hp]; rfl) fun _ hl => same hl)
    · simp at h
  | fail p now jitter =>
    simp only [step] at h
    split at h
    · next h₀ _ hp =>
      split at h
      · simp only [Option.map_eq_some_iff] at h
        obtain ⟨t, ht, rfl⟩ := h
        exact Or.inl (held?_after (h := h₀) hk (by rw [hp]; rfl) fun _ hl => same hl)
      · simp at h
    · simp at h
  | complete p now =>
    simp only [step] at h
    split at h
    · next h₀ hp =>
      split at h
      · simp only [Option.some.injEq] at h
        subst h
        exact Or.inl (held?_after (h := h₀) hk (by rw [hp]; rfl) fun _ hl => same hl)
      · simp at h
    · simp at h
  | recover queue now =>
    simp only [step] at h
    split at h
    · simp only [Option.some.injEq] at h
      exact Or.inl ⟨k, by rwa [← h] at hk, rfl, rfl⟩
    · simp at h
  | crash p =>
    simp only [step, Option.map_eq_some_iff] at h
    obtain ⟨h₀, hp, rfl⟩ := h
    rcases eq_or_ne q p with rfl | hq
    · simp [Processor.held?] at hk
    · rw [World.after_processors, Function.update_of_ne hq] at hk
      exact Or.inl ⟨k, hk, rfl, rfl⟩

/-! ## Nobody shares an attempt -/

/-- The attempts held are pairwise different, and the rows have counted them. -/
structure Distinct (w : World) : Prop where
  unique : ∀ p q h k, (w.processors p).held? = some h → (w.processors q).held? = some k →
    h.Same k → p = q
  counted : ∀ p h, (w.processors p).held? = some h →
    ∃ r, w.rows.get? h.internalId = some r ∧ h.attempt ≤ r.attemptCount

theorem Distinct.step (hw : Distinct w) (h : Relay.step cfg w act = some w') : Distinct w' where
  unique p q hp hq hph hqh hsame := by
    -- an attempt just claimed is above every attempt the row had counted
    have fresh : ∀ {p q : Nat} {hp hq k : Held}, JustClaimed w w' act p hp →
        (w.processors q).held? = some k → k.Same hq → hp.Same hq → False := by
      rintro p q hp hq k ⟨_, _, r, _, hr, _, hatt, _⟩ hk hkq hpq
      obtain ⟨r', hr', hle⟩ := hw.counted q k hk
      rw [hkq.1, ← hpq.1, hr] at hr'
      obtain rfl := Option.some.inj hr'
      have := hkq.2
      have := hpq.2
      omega
    rcases held?_step h hph with ⟨kp, hkp, hkps⟩ | hnewp
    · rcases held?_step h hqh with ⟨kq, hkq, hkqs⟩ | hnewq
      · exact hw.unique p q kp kq hkp hkq (hkps.trans (hsame.trans hkqs.symm))
      · exact (fresh hnewq hkp hkps hsame.symm).elim
    · rcases held?_step h hqh with ⟨kq, hkq, hkqs⟩ | hnewq
      · exact (fresh hnewp hkq hkqs hsame).elim
      · obtain ⟨_, ⟨now, hact⟩, _⟩ := hnewp
        obtain ⟨_, ⟨now', hact'⟩, _⟩ := hnewq
        exact (Action.begin'.inj (hact.symm.trans hact')).1
  counted p k hk := by
    rcases held?_step h hk with ⟨k₀, hk₀, hsame⟩ | ⟨_, _, _, r', _, hr', _, hatt⟩
    · obtain ⟨r, hr, hle⟩ := hw.counted p k₀ hk₀
      have hc := change_step h k.internalId
      rw [← hsame.1, hr] at hc
      obtain ⟨x, hx, hxle⟩ := hc.attemptCount_le
      exact ⟨x, hsame.1 ▸ hx, hsame.2 ▸ hle.trans hxle⟩
    · exact ⟨r', hr', hatt.ge⟩

theorem distinct_of_reachable (hw : (system cfg).Reachable w) : Distinct w := by
  refine hw.invariant (fun w hinit => ⟨fun p q h k hp => ?_, fun p h hp => ?_⟩)
    fun w act w' hd hstep => hd.step hstep
  · simp [hinit p, Processor.held?] at hp
  · simp [hinit p, Processor.held?] at hp

/-! ## A processor keeps its claim, or nothing -/

/-- A step moves at most one processor, and not back to the start. -/
theorem processors_step (h : step cfg w act = some w') :
    w'.processors = w.processors ∨
      ∃ p c, c ≠ Processor.idle ∧ w'.processors = Function.update w.processors p c := by
  have moved : ∀ {p t} {c : Processor}, c ≠ .idle → w.after p t c = w' →
      ∃ p c, c ≠ Processor.idle ∧ w'.processors = Function.update w.processors p c :=
    fun hc e => ⟨_, _, hc, by rw [← e, World.after_processors]⟩
  cases act with
  | tick now | recover queue now =>
    simp only [step] at h
    split at h
    · exact Or.inl (Option.some.inj h ▸ rfl)
    · simp at h
  | begin' p i now =>
    simp only [step] at h
    split at h
    · split at h
      · simp only [Option.map_eq_some_iff] at h
        obtain ⟨r, _, h⟩ := h
        exact Or.inr (moved (by simp) h)
      · exact Or.inr (moved (by simp) (Option.some.inj h))
    · simp at h
  | renew p now | complete p now =>
    simp only [step] at h
    split at h
    · split at h
      · exact Or.inr (moved (by simp) (Option.some.inj h))
      · simp at h
    · simp at h
  | linkEnds p outcome =>
    simp only [step] at h
    split at h
    · split at h <;> exact Or.inr (moved (by simp) (Option.some.inj h))
    · simp at h
  | fail p now jitter =>
    simp only [step] at h
    split at h
    · split at h
      · simp only [Option.map_eq_some_iff] at h
        obtain ⟨t, _, h⟩ := h
        exact Or.inr (moved (by simp) h)
      · simp at h
    · simp at h
  | crash p =>
    simp only [step, Option.map_eq_some_iff] at h
    obtain ⟨_, _, h⟩ := h
    exact Or.inr (moved (by simp) h)

/-- Processor `p` has begun, and holds the claim `h` or none. -/
def HoldsAtMost (p : Nat) (h : Held) (w : World) : Prop :=
  w.processors p ≠ .idle ∧ ∀ k, (w.processors p).held? = some k → h.Same k

theorem HoldsAtMost.step {p : Nat} {h : Held} (hw : HoldsAtMost p h w)
    (hstep : Relay.step cfg w act = some w') : HoldsAtMost p h w' := by
  refine ⟨?_, fun k hk => ?_⟩
  · rcases processors_step hstep with e | ⟨q, c, hc, e⟩
    · rw [e]
      exact hw.1
    · rw [e]
      rcases eq_or_ne p q with rfl | hpq
      · rwa [Function.update_self]
      · rw [Function.update_of_ne hpq]
        exact hw.1
  · rcases held?_step hstep hk with ⟨k₀, hk₀, hsame⟩ | ⟨hidle, _⟩
    · exact (hw.2 k₀ hk₀).trans hsame
    · exact absurd hidle hw.1

theorem HoldsAtMost.run {p : Nat} {h : Held} (hw : HoldsAtMost p h w)
    (hrun : (system cfg).Run w w') : HoldsAtMost p h w' :=
  hrun.invariant hw fun _ _ _ hw _ hstep => hw.step hstep

/-- The processor that writes the row in this step: in `renew_lease`, `complete` or
`fail`. -/
def Action.writer? : Action → Option Nat
  | .renew p _ | .complete p _ | .fail p _ _ => some p
  | _ => none

/-- One received message, nobody working. -/
def oneMessage : World where
  clock := 0
  rows := (∅ : SourceMessages).put 1 (receivedRow ⟨fun _ => [], fun _ => []⟩ plainMessage)
  processors := fun _ => .idle

theorem oneMessage_init : (system .default).init oneMessage := fun _ => rfl

/-- Processor 0 has claimed the row and stalled until its lease ran out. -/
def stalled : World := (system .default).endOf oneMessage [.begin' 0 1 0, .tick (minutes 15)]

/-- Processor 1 has re-claimed the row. -/
def reclaimed : World := (system .default).endOf stalled [.begin' 1 1 (minutes 15)]

end Relay
end PromoBot
