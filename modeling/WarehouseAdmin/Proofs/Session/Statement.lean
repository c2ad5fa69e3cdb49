import WarehouseAdmin.Session.Client
import WarehouseAdmin.Proofs.Error.Flat
import WarehouseAdmin.Proofs.Session.Operation

/-!
# What a client does with one statement

Everything that a client does comes down to `run`: one statement, handed to the driver at most once,
and one wait. Three facts about it are carried up to what is built on it. What was logged before
makes no difference. Every failure is a single error, never several joined ones. And what is handed
to the driver is known in advance (`HandsOver`): the checked statement, at the time at which the
operation begins, unless the check fails or the context is cancelled.
-/

set_option autoImplicit false

namespace WarehouseAdmin

/-! ## Errors of drivers are single -/

theorem DriverError.classify_isSingle (e : DriverError) : e.classify.IsSingle := by
  unfold classify
  split <;> trivial

/-- Logging several events one by one adds them at the end. -/
theorem Session.foldl_log (es : List Event) (s : Session) :
    es.foldl Session.log s = { s with events := s.events ++ es } := by
  induction es generalizing s with
  | nil => simp
  | cons e es ih => rw [List.foldl_cons, ih, log, List.append_assoc, List.singleton_append]

/-! ## The driver's own cancellation -/

namespace Behaviour

variable (b : Behaviour) (ctx : Context) (time : Nat) (s : Session)

/-- The time at which the driver has cancelled the context, if it has done so until `time` and if
nobody was faster. -/
def cancelTimes (b : Behaviour) (ctx : Context) (time : Nat) (s : Session) : List Nat :=
  if b.cancels.any (s.now + · ≤ time) && !({ s with now := time } : Session).isCancelled ctx then
    [time]
  else []

theorem target_mem_tokens : b.target ctx ∈ ctx.tokens := by
  rw [target, List.getD_eq_getElem?_getD]
  cases h : ctx.tokens[b.above]? with
  | none => exact List.mem_cons_self
  | some token => exact List.mem_of_getElem? h

/-- Until the end of the waiting, time passes, and the driver may cancel the context. -/
theorem upTo_eq : b.upTo ctx time s =
    { s with
      now := time
      cancellations := s.cancellations ++ (b.cancelTimes ctx time s).map (b.target ctx, ·) } := by
  unfold upTo cancelTimes
  dsimp only
  split
  · rfl
  · simp

@[simp]
theorem now_upTo : (b.upTo ctx time s).now = time := by rw [upTo_eq]

@[simp]
theorem dispatches_upTo : (b.upTo ctx time s).dispatches = s.dispatches := by rw [upTo_eq]

/-- What was logged makes no difference to what the driver does, and the driver logs nothing. -/
theorem upTo_events (events : List Event) :
    b.upTo ctx time { s with events } = { b.upTo ctx time s with events } := by
  rw [upTo_eq, upTo_eq]
  rfl

end Behaviour

/-- What is handed to the driver for a statement that has been checked. -/
def handedOver (ctx : Context) (kind : StatementKind) (statement : Except Error String)
    (s : Session) : List Dispatch :=
  match statement with
  | .error _ => []
  | .ok sql => if s.isCancelled ctx then [] else [⟨s.now, kind, sql⟩]

/-- The operation hands the checked statement to the driver when it begins, and nothing else. -/
def Operation.HandsOver {α : Type} (ctx : Context) (kind : StatementKind)
    (statement : Except Error String) (op : Operation α) : Prop :=
  ∀ s, (op s).2.dispatches = s.dispatches ++ handedOver ctx kind statement s

namespace Operation

variable {α β : Type} {ctx : Context} {kind : StatementKind} {statement : Except Error String}

theorem HandsOver.andThen {op : Operation α} {next : α → Operation β}
    (hop : op.HandsOver ctx kind statement) (hnext : ∀ a, (next a).HandsNothing) :
    (op.andThen next).HandsOver ctx kind statement := by
  intro s
  have h := hop s
  rcases hs : op s with ⟨outcome, s₁⟩
  rw [hs] at h
  cases outcome with
  | done a =>
    rw [andThen_done hs, hnext a s₁]
    exact h
  | failed e =>
    rw [andThen_failed hs]
    exact h
  | never =>
    rw [andThen_never hs]
    exact h

/-- A statement that does not pass its check is not handed over. -/
theorem handsOver_checked {next : String → Operation α}
    (hnext : ∀ sql, (next sql).HandsOver ctx kind (.ok sql)) :
    ((ofExcept statement).andThen next).HandsOver ctx kind statement := by
  intro s
  cases statement with
  | ok sql => exact hnext sql s
  | error e => exact (List.append_nil s.dispatches).symm

end Operation

namespace Client

open Operation

variable (c : Client) (ctx : Context)

/-! ## Waiting for an answer -/

theorem ignoresLog_receive (answer : Except DriverError Answer) : (receive answer).IgnoresLog := by
  intro s events
  cases answer with
  | ok a => exact ⟨events, rfl⟩
  | error e =>
    refine ⟨events ++ e.events, ?_⟩
    simp only [receive, Session.foldl_log]

theorem handsNothing_receive (answer : Except DriverError Answer) :
    (receive answer).HandsNothing := by
  intro s
  cases answer with
  | ok a => rfl
  | error e => simp only [receive, Session.foldl_log]

theorem failsWith_receive (answer : Except DriverError Answer) :
    (receive answer).FailsWith Error.IsSingle := by
  intro s e h
  cases answer with
  | ok a => exact absurd h (by simp [receive])
  | error x =>
    obtain rfl : x.classify = e := by simpa [receive] using h
    exact x.classify_isSingle

/-- What the waiting comes to, once it is known how it ends. -/
def ended (sql : String) (b : Behaviour) (timed : Option Ending.Timed) :
    Operation Answer := fun s =>
  match timed with
  | none => (.never, s)
  | some (time, .answered) => receive b.answer (b.upTo ctx time s)
  | some (time, .timedOut limit) =>
    (.failed (.timeout (Time.Span.ofMillis limit)), b.upTo ctx time s)
  | some (time, .cancelled) =>
    (.failed .cancelled,
      (b.upTo ctx time s).log (.cancelled (if c.settings.logStatements then some sql else none)))

theorem await_eq (sql : String) (b : Behaviour) (s : Session) :
    c.await ctx sql b s =
      c.ended ctx sql b
        (settle s.now (s.cancelTime? ctx) b.delay (c.limit? ctx s.now) b.cancels) s := by
  unfold await ended
  rcases settle s.now (s.cancelTime? ctx) b.delay (c.limit? ctx s.now) b.cancels with
    _ | ⟨time, ending⟩
  · rfl
  · cases ending <;> rfl

theorem ignoresLog_ended (sql : String) (b : Behaviour) (timed : Option Ending.Timed) :
    (c.ended ctx sql b timed).IgnoresLog := by
  intro s events
  rcases timed with _ | ⟨time, _ | _ | limit⟩
  · exact ⟨events, rfl⟩
  · show ∃ events', (Outcome.failed Error.cancelled, (b.upTo ctx time { s with events }).log _) = _
    rw [b.upTo_events]
    exact ⟨_, rfl⟩
  · show ∃ events', receive b.answer (b.upTo ctx time { s with events }) = _
    rw [b.upTo_events]
    exact ignoresLog_receive b.answer (b.upTo ctx time s) events
  · show ∃ events', (Outcome.failed (.timeout _), b.upTo ctx time { s with events }) = _
    rw [b.upTo_events]
    exact ⟨events, rfl⟩

theorem handsNothing_ended (sql : String) (b : Behaviour) (timed : Option Ending.Timed) :
    (c.ended ctx sql b timed).HandsNothing := by
  intro s
  rcases timed with _ | ⟨time, _ | _ | limit⟩
  · rfl
  · exact b.dispatches_upTo ctx time s
  · exact (handsNothing_receive b.answer (b.upTo ctx time s)).trans (b.dispatches_upTo ctx time s)
  · exact b.dispatches_upTo ctx time s

theorem failsWith_ended (sql : String) (b : Behaviour) (timed : Option Ending.Timed) :
    (c.ended ctx sql b timed).FailsWith Error.IsSingle := by
  intro s e h
  rcases timed with _ | ⟨time, _ | _ | limit⟩
  · exact absurd h (by simp [ended])
  · obtain rfl : .cancelled = e := by simpa [ended] using h
    trivial
  · exact failsWith_receive b.answer (b.upTo ctx time s) e h
  · obtain rfl : .timeout _ = e := by simpa [ended] using h
    trivial

theorem ignoresLog_await (sql : String) (b : Behaviour) : (c.await ctx sql b).IgnoresLog := by
  intro s events
  rw [await_eq, await_eq]
  exact c.ignoresLog_ended ctx sql b _ s events

theorem handsNothing_await (sql : String) (b : Behaviour) : (c.await ctx sql b).HandsNothing := by
  intro s
  rw [await_eq]
  exact c.handsNothing_ended ctx sql b _ s

theorem failsWith_await (sql : String) (b : Behaviour) :
    (c.await ctx sql b).FailsWith Error.IsSingle := by
  intro s e h
  rw [await_eq] at h
  exact c.failsWith_ended ctx sql b _ s e h

/-! ## One statement -/

theorem ignoresLog_dispatch (kind : StatementKind) (sql : String) :
    (c.dispatch kind sql).IgnoresLog := fun _ events => ⟨events, rfl⟩

theorem failsWith_dispatch (kind : StatementKind) (sql : String) :
    (c.dispatch kind sql).FailsWith Error.IsSingle := by
  intro s e h
  exact absurd h (by simp [dispatch])

/-- A statement is handed over and awaited, after the line that is logged for it. -/
theorem run_eq (kind : StatementKind) (sql : String) {s : Session} (h : s.isCancelled ctx = false) :
    ∃ events, c.run ctx kind sql s =
      (c.dispatch kind sql).andThen (c.await ctx sql) { s with events } := by
  unfold run
  rw [h]
  by_cases hlog : c.settings.logStatements = true
  · exact ⟨s.events ++ [.executing sql (c.account ctx)], by simp only [hlog]; rfl⟩
  · exact ⟨s.events, by simp only [hlog]; rfl⟩

theorem run_cancelled (kind : StatementKind) (sql : String) {s : Session}
    (h : s.isCancelled ctx = true) : c.run ctx kind sql s = (.failed .cancelled, s) := by
  unfold run
  rw [if_pos h]

theorem ignoresLog_run (kind : StatementKind) (sql : String) : (c.run ctx kind sql).IgnoresLog := by
  intro s events
  by_cases h : s.isCancelled ctx = true
  · rw [c.run_cancelled ctx kind sql h]
    exact ⟨events, c.run_cancelled ctx kind sql h⟩
  · have h : s.isCancelled ctx = false := by simpa using h
    -- Both runs may log a line before they begin, and are compared behind it.
    obtain ⟨events₁, h₁⟩ := c.run_eq ctx kind sql h
    obtain ⟨events₂, h₂⟩ := c.run_eq (s := { s with events }) ctx kind sql h
    have hrest := (c.ignoresLog_dispatch kind sql).andThen (c.ignoresLog_await ctx sql)
    obtain ⟨events', h'⟩ := hrest { s with events := events₁ } events₂
    rw [h₁, h₂]
    exact ⟨events', h'⟩

theorem handsOver_run (kind : StatementKind) (sql : String) :
    (c.run ctx kind sql).HandsOver ctx kind (.ok sql) := by
  intro s
  by_cases h : s.isCancelled ctx = true
  · rw [c.run_cancelled ctx kind sql h]
    simp [handedOver, h]
  · have h : s.isCancelled ctx = false := by simpa using h
    obtain ⟨events, hrun⟩ := c.run_eq ctx kind sql h
    rw [hrun]
    -- The hand-over itself never fails, and the wait that comes behind it adds nothing.
    obtain ⟨b, s₁, hd, hs₁⟩ : ∃ b s₁, c.dispatch kind sql { s with events } = (.done b, s₁) ∧
        s₁.dispatches = s.dispatches ++ [⟨s.now, kind, sql⟩] := ⟨_, _, rfl, rfl⟩
    rw [andThen_done hd, c.handsNothing_await ctx sql b s₁, hs₁]
    simp [handedOver, h]

theorem failsWith_run (kind : StatementKind) (sql : String) :
    (c.run ctx kind sql).FailsWith Error.IsSingle := by
  intro s e h
  by_cases hc : s.isCancelled ctx = true
  · rw [c.run_cancelled ctx kind sql hc] at h
    obtain rfl : .cancelled = e := by simpa using h
    trivial
  · obtain ⟨events, hrun⟩ := c.run_eq ctx kind sql (by simpa using hc)
    rw [hrun] at h
    exact (c.failsWith_dispatch kind sql).andThen (c.failsWith_await ctx sql) _ e h

end Client

end WarehouseAdmin
