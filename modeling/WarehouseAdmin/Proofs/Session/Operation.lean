import WarehouseAdmin.Session.Operation

/-!
# What operations keep

Three things that are said of operations, each for all sessions: that what was logged before makes
no difference (`IgnoresLog`), that nothing is handed to the driver (`HandsNothing`), and that every
failure is of a certain kind (`FailsWith`). Each of them holds of the operations that need no
session and is kept when operations are put one after another, so that for a client it is enough to
look at what it does with one statement.

`IgnoresLog` is what makes it possible to speak of the look-ups of a walk without the lines that the
walk logs between them.
-/

set_option autoImplicit false

namespace WarehouseAdmin.Operation

variable {α β : Type}

/-! ## One operation after another -/

theorem bind_eq (op : Operation α) (next : α → Operation β) : op >>= next = op.andThen next := rfl

theorem andThen_done {op : Operation α} {next : α → Operation β} {s s' : Session} {a : α}
    (h : op s = (.done a, s')) : op.andThen next s = next a s' := by
  rw [andThen, h]

theorem andThen_failed {op : Operation α} {next : α → Operation β} {s s' : Session} {e : Error}
    (h : op s = (.failed e, s')) : op.andThen next s = (.failed e, s') := by
  rw [andThen, h]

theorem andThen_never {op : Operation α} {next : α → Operation β} {s s' : Session}
    (h : op s = (.never, s')) : op.andThen next s = (.never, s') := by
  rw [andThen, h]

theorem andThen_assoc {γ : Type} (op : Operation α) (f : α → Operation β) (g : β → Operation γ) :
    (op.andThen f).andThen g = op.andThen fun a => (f a).andThen g := by
  funext s
  unfold andThen
  rcases op s with ⟨outcome, s₁⟩
  cases outcome <;> rfl

/-- Computations that need no session, one after another. -/
theorem ofExcept_andThen (r : Except Error α) (f : α → Except Error β) :
    (ofExcept r).andThen (fun a => ofExcept (f a)) = ofExcept (r.bind f) := by
  cases r <;> rfl

/-! ## What was logged before makes no difference -/

/-- From sessions that differ in what was logged, the operation comes to the same, in sessions that
differ in what was logged. -/
def IgnoresLog (op : Operation α) : Prop :=
  ∀ s events, ∃ events',
    op { s with events } = ((op s).1, { (op s).2 with events := events' })

theorem ignoresLog_result (a : α) : (result a).IgnoresLog := fun _ events => ⟨events, rfl⟩

theorem ignoresLog_fail (e : Error) : (fail e : Operation α).IgnoresLog :=
  fun _ events => ⟨events, rfl⟩

theorem ignoresLog_ofExcept (r : Except Error α) : (ofExcept r).IgnoresLog := by
  cases r with
  | ok a => exact ignoresLog_result a
  | error e => exact ignoresLog_fail e

theorem IgnoresLog.andThen {op : Operation α} {next : α → Operation β} (hop : op.IgnoresLog)
    (hnext : ∀ a, (next a).IgnoresLog) : (op.andThen next).IgnoresLog := by
  intro s events
  obtain ⟨events₁, h⟩ := hop s events
  rcases hs : op s with ⟨outcome, s₁⟩
  rw [hs] at h
  cases outcome with
  | done a =>
    rw [andThen_done h, andThen_done hs]
    exact hnext a s₁ events₁
  | failed e =>
    rw [andThen_failed h, andThen_failed hs]
    exact ⟨events₁, rfl⟩
  | never =>
    rw [andThen_never h, andThen_never hs]
    exact ⟨events₁, rfl⟩

/-! ## Nothing is handed to the driver -/

def HandsNothing (op : Operation α) : Prop := ∀ s, (op s).2.dispatches = s.dispatches

theorem handsNothing_result (a : α) : (result a).HandsNothing := fun _ => rfl

theorem handsNothing_ofExcept (r : Except Error α) : (ofExcept r).HandsNothing := by
  cases r <;> exact fun _ => rfl

/-! ## Failures -/

def FailsWith (P : Error → Prop) (op : Operation α) : Prop :=
  ∀ s e, (op s).1 = .failed e → P e

variable {P : Error → Prop}

theorem failsWith_ofExcept {r : Except Error α} (h : ∀ e, r = .error e → P e) :
    (ofExcept r).FailsWith P := by
  intro s e he
  cases r with
  | ok a => exact absurd he (by simp [ofExcept, result])
  | error x =>
    obtain rfl : x = e := by simpa [ofExcept, fail] using he
    exact h x rfl

theorem FailsWith.andThen {op : Operation α} {next : α → Operation β} (hop : op.FailsWith P)
    (hnext : ∀ a, (next a).FailsWith P) : (op.andThen next).FailsWith P := by
  intro s e h
  rcases hs : op s with ⟨outcome, s₁⟩
  cases outcome with
  | done a =>
    rw [andThen_done hs] at h
    exact hnext a s₁ e h
  | failed x =>
    rw [andThen_failed hs] at h
    obtain rfl : x = e := by simpa using h
    exact hop s x (by rw [hs])
  | never =>
    rw [andThen_never hs] at h
    exact absurd h (by simp)

end WarehouseAdmin.Operation
