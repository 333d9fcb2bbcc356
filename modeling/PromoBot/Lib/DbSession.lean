import PromoBot.Lib.Fallible

/-!
# Sessions of a database

A session is one transaction of a database, and the code between its opening and its close is a
sequence of statements.  A statement sees what the session has written so far; everyone else
sees what was committed last.

Any statement may fail for a reason of its own, and a task may be cancelled where it waits for
one, before the statement ran or after.  When this happens is not up to the code: it is an
event of the `schedule`, which a run goes through statement by statement.  A result about every
schedule is a result about every point where the session may break off.

`transaction` is the context manager around the code: it commits what returned, rolls back what
raised, and whatever is not committed when the session closes is gone.

`Implements body f` says that the statements of `body` do together what `f` does to the tables
in one step.  Its rules follow the shape of the code, and from it `transaction_spec` has that a
session does what `f` does or nothing.
-/

universe u

namespace DbSession

/-- How a step ends that does not return: an `Exception`, or the cancellation of the task, which
is none and passes an `except Exception` by. -/
inductive Stop (ε : Type u)
  | raised (e : ε)
  | cancelled

/-- What befalls a step that is waited for. -/
inductive Event (ε : Type u)
  | quiet
  | raises (e : ε)
  /-- The task is cancelled, and the step was done or was not. -/
  | cancelled (done : Bool)

/-- A session: what is committed, what its statements see, and the events to come. -/
structure Connection (σ ε : Type u) where
  committed : σ
  working : σ
  schedule : List (Event ε)

/-- A session just opened. -/
def Connection.opened {σ ε : Type u} (db : σ) (schedule : List (Event ε)) : Connection σ ε where
  committed := db
  working := db
  schedule := schedule

/-- A session at its close: what was not committed is gone. -/
def Connection.closed {σ ε : Type u} (c : Connection σ ε) : Connection σ ε :=
  { c with working := c.committed }

/-- Code that runs inside of a session.  What it has done before it stops is done. -/
abbrev Session (σ ε α : Type u) := EStateM (Stop ε) (Connection σ ε) α

/-- The session a piece of code leaves behind. -/
def after {σ ε α : Type u} : EStateM.Result (Stop ε) (Connection σ ε) α → Connection σ ε
  | .ok _ c => c
  | .error _ c => c

variable {σ ε α β : Type u}

/-! ## The steps of a session -/

/-- A step that is waited for, under the next event of the schedule. -/
def await (step : Session σ ε α) : Session σ ε α := fun c =>
  let c' := { c with schedule := c.schedule.tail }
  match c.schedule.headD .quiet with
  | .quiet => step c'
  | .raises e => .error (.raised e) c'
  | .cancelled false => .error .cancelled c'
  | .cancelled true => .error .cancelled (after (step c'))

/-- A statement: what it reads and writes is what the session sees. -/
def statement (f : StateT σ (Except ε) α) : Session σ ε α :=
  await fun c =>
    match f c.working with
    | .ok (a, s) => .ok a { c with working := s }
    | .error e => .error (.raised e) c

/-- Code which looks at no table, and may raise. -/
def raising (x : Except ε α) : Session σ ε α := fun c =>
  match x with
  | .ok a => .ok a c
  | .error e => .error (.raised e) c

/-- `COMMIT`. -/
def commit : Session σ ε PUnit := await fun c => .ok ⟨⟩ { c with committed := c.working }

/-- `ROLLBACK`. -/
def rollback : Session σ ε PUnit := await fun c => .ok ⟨⟩ { c with working := c.committed }

/-- What the context manager does with code that did not return. -/
def handle : Stop ε → Session σ ε α
  | .raised e => do
    rollback
    throw (.raised e)
  | .cancelled => throw .cancelled

/-- The close of a session, however it ended. -/
def closing : EStateM.Result (Stop ε) (Connection σ ε) α →
    EStateM.Result (Stop ε) (Connection σ ε) α
  | .ok a c => .ok a c.closed
  | .error stop c => .error stop c.closed

/-- The code, and the commit after it. -/
def committing (body : Session σ ε α) : Session σ ε α := do
  let a ← body
  commit
  return a

/-- The context manager: code that returns is committed, code that raises is rolled back, and
then the session closes. -/
def transaction (body : Session σ ε α) : Session σ ε α := fun c =>
  closing (tryCatch (m := EStateM (Stop ε) (Connection σ ε)) (committing body) handle c)

/-! ## One step after the other -/

section Sequence

variable {step : Session σ ε α} {rest : α → Session σ ε β} {handler : Stop ε → Session σ ε α}
  {c c' : Connection σ ε} {a : α} {stop : Stop ε}

theorem bind_of_ok (h : step c = .ok a c') : (step >>= rest) c = rest a c' := by
  show EStateM.bind step rest c = _
  unfold EStateM.bind
  rw [h]

theorem bind_of_error (h : step c = .error stop c') : (step >>= rest) c = .error stop c' := by
  show EStateM.bind step rest c = _
  unfold EStateM.bind
  rw [h]

theorem tryCatch_of_ok (h : step c = .ok a c') : tryCatch step handler c = .ok a c' := by
  show EStateM.tryCatch step handler c = _
  unfold EStateM.tryCatch
  rw [h]

theorem tryCatch_of_error (h : step c = .error stop c') :
    tryCatch step handler c = handler stop c' := by
  show EStateM.tryCatch step handler c = _
  unfold EStateM.tryCatch
  rw [h]
  rfl

theorem committing_of_error (h : step c = .error stop c') :
    committing step c = .error stop c' := bind_of_error h

theorem committing_of_ok (h : step c = .ok a c') :
    committing step c = (commit >>= fun _ => pure a) c' := bind_of_ok h

end Sequence

/-! ## What a sequence of statements does -/

/-- **The statements of `body` do what `f` does in one step**: they commit nothing, if they all
return then `f` does, with what the session then sees, and if nothing befalls them they end the
way `f` ends. -/
structure Implements (body : Session σ ε α) (f : StateT σ (Except ε) α) : Prop where
  uncommitted : ∀ c, (after (body c)).committed = c.committed
  returned : ∀ c a c', body c = .ok a c' → f c.working = .ok (a, c'.working)
  completed : ∀ c a s, c.schedule = [] → f c.working = .ok (a, s) →
    body c = .ok a { c with working := s }
  failed : ∀ c e, c.schedule = [] → f c.working = .error e →
    ∃ c', body c = .error (.raised e) c' ∧ c'.schedule = []

namespace Implements

theorem pure (a : α) : Implements (σ := σ) (ε := ε) (pure a) (pure a) where
  uncommitted _ := rfl
  returned := by
    rintro c _ _ h
    cases h
    rfl
  completed := by
    rintro c _ _ - h
    cases h
    rfl
  failed := nofun

/-- Code which looks at no table leaves all of them. -/
theorem raising (x : Except ε α) :
    Implements (σ := σ) (raising x) (fun s => x.map fun a => (a, s)) where
  uncommitted c := by cases x <;> rfl
  returned := by
    rintro c a c' h
    cases x <;> cases h
    rfl
  completed := by
    rintro c a s - h
    cases x <;> cases h
    rfl
  failed := by
    rintro c e hc h
    cases x <;> cases h
    exact ⟨c, rfl, hc⟩

theorem statement (f : StateT σ (Except ε) α) : Implements (statement f) f where
  uncommitted c := by
    unfold DbSession.statement await
    dsimp only
    split
    · cases f c.working <;> rfl
    · rfl
    · rfl
    · cases f c.working <;> rfl
  returned := by
    intro c a c' h
    unfold DbSession.statement await at h
    dsimp only at h
    split at h
    · cases hf : f c.working with
      | error e => simp [hf] at h
      | ok r =>
        simp only [hf, EStateM.Result.ok.injEq] at h
        obtain ⟨rfl, rfl⟩ := h
        rfl
    · cases h
    · cases h
    · cases h
  completed := by
    intro c a s hc hf
    simp [DbSession.statement, await, hc, hf]
  failed := by
    intro c e hc hf
    refine ⟨{ c with schedule := [] }, ?_, rfl⟩
    simp [DbSession.statement, await, hc, hf]

/-- **Two pieces of code, one after the other.** -/
theorem bind {body : Session σ ε α} {f : StateT σ (Except ε) α} {rest : α → Session σ ε β}
    {g : α → StateT σ (Except ε) β} (hbody : Implements body f)
    (hrest : ∀ a, Implements (rest a) (g a)) : Implements (body >>= rest) (f >>= g) where
  uncommitted c := by
    have h := hbody.uncommitted c
    cases hc : body c with
    | ok a c' =>
      rw [hc] at h
      rw [bind_of_ok hc]
      exact ((hrest a).uncommitted c').trans h
    | error stop c' =>
      rw [hc] at h
      rw [bind_of_error hc]
      exact h
  returned c b c'' h := by
    cases hc : body c with
    | ok a c' =>
      rw [bind_of_ok hc] at h
      show (f c.working >>= fun r => g r.1 r.2) = _
      rw [hbody.returned c a c' hc]
      exact (hrest a).returned c' b c'' h
    | error stop c' =>
      rw [bind_of_error hc] at h
      cases h
  completed c b s hc h := by
    obtain ⟨⟨a, s'⟩, hf, hg⟩ := Fallible.bind_eq_ok.1 h
    rw [bind_of_ok (hbody.completed c a s' hc hf)]
    exact (hrest a).completed { c with working := s' } b s hc hg
  failed c e hc h := by
    change (f c.working >>= fun r => g r.1 r.2) = _ at h
    cases hf : f c.working with
    | error e' =>
      rw [hf] at h
      obtain rfl : e' = e := Except.error.inj h
      obtain ⟨c', hbody', hc'⟩ := hbody.failed c e' hc hf
      exact ⟨c', bind_of_error hbody', hc'⟩
    | ok r =>
      obtain ⟨a, s'⟩ := r
      rw [hf] at h
      rw [bind_of_ok (hbody.completed c a s' hc hf)]
      exact (hrest a).failed { c with working := s' } e hc h

theorem congr {body : Session σ ε α} {f g : StateT σ (Except ε) α} (h : Implements body f)
    (hfg : ∀ s, f s = g s) : Implements body g := by
  obtain rfl : f = g := funext hfg
  exact h

end Implements

/-! ## A session does all of it or nothing -/

/-- How a transaction ended: it returned and what is committed is as it should be, it raised and
what was committed still is, or it was cancelled, with one of the two. -/
def AllOrNothing (Q : α → σ → Prop) (db : σ) :
    EStateM.Result (Stop ε) (Connection σ ε) α → Prop
  | .ok a c => Q a c.committed
  | .error (.raised _) c => c.committed = db
  | .error .cancelled c => c.committed = db ∨ ∃ a, Q a c.committed

theorem AllOrNothing.mono {Q R : α → σ → Prop} {db : σ}
    {r : EStateM.Result (Stop ε) (Connection σ ε) α} (h : AllOrNothing Q db r)
    (hQR : ∀ a s, Q a s → R a s) : AllOrNothing R db r := by
  cases r with
  | ok a c => exact hQR a _ h
  | error stop c =>
    cases stop with
    | raised e => exact h
    | cancelled => exact h.imp_right fun ⟨a, ha⟩ => ⟨a, hQR a _ ha⟩

theorem AllOrNothing.raising {Q : β → σ → Prop} {x : Except ε α} {rest : α → Session σ ε β}
    {c : Connection σ ε} (h : ∀ a, x = .ok a → AllOrNothing Q c.committed (rest a c)) :
    AllOrNothing Q c.committed ((raising x >>= rest) c) := by
  cases x with
  | error e =>
    rw [bind_of_error (show DbSession.raising (.error e) c = .error (.raised e) c from rfl)]
    rfl
  | ok a =>
    rw [bind_of_ok (show DbSession.raising (.ok a) c = .ok a c from rfl)]
    exact h a rfl

theorem after_commit (c : Connection σ ε) :
    (∃ c', commit c = .ok ⟨⟩ c' ∧ c'.committed = c.working) ∨
      (∃ e c', commit c = .error (.raised e) c' ∧ c'.committed = c.committed) ∨
      ∃ c', commit c = .error .cancelled c' ∧
        (c'.committed = c.committed ∨ c'.committed = c.working) := by
  unfold commit await
  dsimp only
  split
  · exact .inl ⟨_, rfl, rfl⟩
  · exact .inr (.inl ⟨_, _, rfl, rfl⟩)
  · exact .inr (.inr ⟨_, rfl, .inl rfl⟩)
  · exact .inr (.inr ⟨_, rfl, .inr rfl⟩)

/-- A rollback, done or not, leaves what is committed. -/
theorem after_handle (stop : Stop ε) (c : Connection σ ε) :
    ∃ stop' c', handle (α := α) stop c = .error stop' c' ∧ c'.committed = c.committed ∧
      (stop = .cancelled → stop' = .cancelled) := by
  cases stop with
  | cancelled => exact ⟨.cancelled, c, rfl, rfl, fun _ => rfl⟩
  | raised e =>
    show ∃ stop' c', EStateM.bind rollback _ c = _ ∧ _
    unfold EStateM.bind rollback await
    dsimp only
    cases c.schedule.headD .quiet with
    | quiet => exact ⟨_, _, rfl, rfl, nofun⟩
    | raises e' => exact ⟨_, _, rfl, rfl, nofun⟩
    | cancelled done => cases done <;> exact ⟨_, _, rfl, rfl, nofun⟩

/-- What a piece of code that stopped has left is left by the handler too. -/
theorem AllOrNothing.handle {Q : α → σ → Prop} {db : σ} {stop : Stop ε} {c : Connection σ ε}
    (h : AllOrNothing Q db (.error stop c)) :
    AllOrNothing Q db (closing (handle stop c)) := by
  obtain ⟨stop', c', hhandle, hcommitted, hcancelled⟩ := after_handle (α := α) stop c
  rw [hhandle]
  cases stop with
  | cancelled =>
    obtain rfl := hcancelled rfl
    show c'.committed = db ∨ ∃ a, Q a c'.committed
    rw [hcommitted]
    exact h
  | raised e =>
    have hdb : c'.committed = db := hcommitted.trans h
    cases stop' with
    | cancelled => exact .inl hdb
    | raised e' => exact hdb

/-- **A session does what its code does, or nothing**, whatever befalls its statements, its
commit and its rollback. -/
theorem transaction_spec {body : Session σ ε α} {f : StateT σ (Except ε) α}
    (h : Implements body f) {Q : α → σ → Prop} {db : σ}
    (hQ : ∀ a s, f db = .ok (a, s) → Q a s) (schedule : List (Event ε)) :
    AllOrNothing Q db (transaction body (.opened db schedule)) := by
  have huncommitted := h.uncommitted (.opened db schedule)
  unfold transaction
  cases hbody : body (.opened db schedule) with
  | error stop c =>
    rw [hbody] at huncommitted
    rw [tryCatch_of_error (committing_of_error hbody)]
    apply AllOrNothing.handle
    cases stop with
    | raised e => exact huncommitted
    | cancelled => exact .inl huncommitted
  | ok a c =>
    rw [hbody] at huncommitted
    have hworking : Q a c.working := hQ a _ (h.returned _ a c hbody)
    obtain ⟨c', hcommit, hc'⟩ | ⟨e, c', hcommit, hc'⟩ | ⟨c', hcommit, hc'⟩ := after_commit c
    · rw [tryCatch_of_ok ((committing_of_ok hbody).trans (bind_of_ok hcommit))]
      show Q a c'.committed
      rw [hc']
      exact hworking
    · rw [tryCatch_of_error ((committing_of_ok hbody).trans (bind_of_error hcommit))]
      apply AllOrNothing.handle
      exact hc'.trans huncommitted
    · rw [tryCatch_of_error ((committing_of_ok hbody).trans (bind_of_error hcommit))]
      apply AllOrNothing.handle
      rcases hc' with hc' | hc'
      · exact .inl (hc'.trans huncommitted)
      · refine .inr ⟨a, ?_⟩
        rw [hc']
        exact hworking

/-- **A session nothing befalls does what its code does.** -/
theorem transaction_quiet {body : Session σ ε α} {f : StateT σ (Except ε) α}
    (h : Implements body f) {db s : σ} {a : α} (hf : f db = .ok (a, s)) :
    transaction body (.opened db []) = .ok a (.opened s []) := by
  have hbody := h.completed (.opened db []) a s rfl hf
  have hcommit : commit { Connection.opened (ε := ε) db [] with working := s } =
      .ok ⟨⟩ (.opened s []) := rfl
  unfold transaction
  rw [tryCatch_of_ok ((committing_of_ok hbody).trans (bind_of_ok hcommit))]
  rfl

end DbSession
