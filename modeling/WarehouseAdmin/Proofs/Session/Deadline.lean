import WarehouseAdmin.Session.Script
import WarehouseAdmin.Proofs.Session.Accounts

/-!
# Deadlines

A deadline belongs to a context and not to a statement. An operation that sends several statements
asks before each how much time is left, and a default time limit of the client does not count as
long as there is a deadline. So the whole operation comes to an end by then, however many of its
statements are never answered (`asked_deadline`).

What a deadline does not do is to keep statements from being sent. A statement that finds no time left
is handed over all the same, and an answer that is there at once counts; but it is not waited for, and
the clock stands still from then on (`asked_deadline_reached`).
-/

set_option autoImplicit false

namespace WarehouseAdmin

namespace Client

variable {c : Client} {ctx : Context} {kind : StatementKind} {sql : String} {s : Session}

/-- A statement with a time limit does not wait for ever. -/
theorem run_ne_never_of_limit {l : Nat} (hl : c.limit? ctx s.now = some l) :
    (c.run ctx kind sql s).1 ≠ .never := by
  cases hs : s.isCancelled ctx with
  | true =>
    rw [c.run_cancelled ctx kind sql hs]
    exact nofun
  | false =>
    obtain ⟨time, ending, hending, -⟩ := c.ending_by_limit ctx kind sql hl
    exact run_ne_never hs hending

/-- A statement that runs out of time says how much it was given. -/
theorem limit_of_run {span : Time.Span} (h : (c.run ctx kind sql s).1 = .failed (.timeout span)) :
    ∃ l, c.limit? ctx s.now = some l ∧ span = .ofMillis l := by
  cases hs : s.isCancelled ctx with
  | true =>
    rw [c.run_cancelled ctx kind sql hs] at h
    exact nomatch h
  | false =>
    rw [c.run_fst ctx kind sql hs] at h
    rcases hending : c.ending ctx kind sql s with _ | ⟨time, _ | _ | l⟩
    · rw [hending] at h
      exact nomatch h
    · rw [hending] at h
      exact nomatch h
    · rw [hending] at h
      have h : Outcome.ofExcept ((c.behaviour kind sql s).answer.mapError DriverError.classify) =
          .failed (.timeout span) := h
      cases hanswer : (c.behaviour kind sql s).answer with
      | ok a =>
        rw [hanswer] at h
        exact nomatch h
      | error e =>
        rw [hanswer] at h
        -- What a driver reports is never classified as running out of time.
        have hclassify : e.classify = .timeout span := Outcome.failed.inj h
        unfold DriverError.classify at hclassify
        split at hclassify <;> exact nomatch hclassify
    · rw [hending] at h
      obtain rfl : Time.Span.ofMillis l = span := Error.timeout.inj (Outcome.failed.inj h)
      exact ⟨l, (settle_eq_timedOut_iff.mp hending).1.1, rfl⟩

/-- Under a deadline no operation waits for ever, for its statements are given a time limit. -/
theorem ne_never_of_deadline {α : Type} {op : Operation α} (hruns : op.Runs c ctx) {deadline : Nat}
    (hdeadline : ctx.deadline = some deadline) (s : Session) : (op s).1 ≠ .never := by
  intro hnever
  obtain ⟨s₁, kind, sql, -, hrun⟩ := hruns.sticks s hnever
  have hlimit := Reaches.limit?_of_deadline (c := c) hdeadline s₁.now
  exact run_ne_never_of_limit hlimit (congrArg Prod.fst hrun)

end Client

open Client

/-- **A deadline bounds the whole operation**, of whatever statements it is composed, whatever the
driver does and whatever time limit the client's settings give. The operation comes to an end, not
after the deadline, or at once if that has passed. Of the errors that it reports, each is a single
one, and one that says that time has run out says so of no more than was left at the start. -/
theorem asked_deadline {c : Client} {ctx : Context} {α : Type} {op : Operation α}
    (h : c.Asked ctx op) {deadline : Nat} (hdeadline : ctx.deadline = some deadline) (s : Session) :
    (op s).1 ≠ .never ∧ (op s).2.now ≤ max s.now deadline ∧
      ∀ e, (op s).1 = .failed e → (∀ x ∈ e.errors, x.IsSingle) ∧
        ∀ span, .timeout span ∈ e.errors →
          ∃ ms, ms ≤ deadline - s.now ∧ span = .ofMillis ms := by
  have hruns := h.composed.runs
  refine ⟨ne_never_of_deadline hruns hdeadline s, (hruns.reaches s).now_le_deadline hdeadline,
    fun e he => ?_⟩
  have hexplained := h.composed.accounts s e he
  refine ⟨fun x hx => (hexplained x hx).1, fun span hspan => ?_⟩
  obtain ⟨s₁, kind, sql, hreach, hrun, -⟩ := (hexplained _ hspan).2 rfl
  obtain ⟨l, hl, rfl⟩ := limit_of_run hrun
  rw [Reaches.limit?_of_deadline hdeadline] at hl
  obtain rfl := Option.some.inj hl
  exact ⟨deadline - s₁.now, Nat.sub_le_sub_left hreach.now_le deadline, rfl⟩

/-! ## A drop that is looked into -/

namespace SilentServer

/-- A server that hides the alert, and never answers when it is asked about anything else. -/
def client : Client where
  driver.respond _ d :=
    match d.kind with
    | .execute => { answer := .error { text := "does not exist or not authorized" } }
    | .query => { delay := none }

def context : Context := { token := 0, deadline := some 7 }

def drop : Operation ActionResult :=
  client.act context (.alert (.dropSafely ⟨"db", "sc", "a"⟩ {}))

/-- What the drop has to report, begun at the time 3. -/
def messages : List String :=
  match (drop { now := 3 }).1 with
  | .failed e => e.errors.map Error.message
  | _ => []

/-- The look-up of the schema takes all the time that is left, and that of the database is given
none. -/
theorem asked_deadline_silent :
    messages = ["object does not exist or not authorized: does not exist or not authorized",
        "operation timed out after 4ms", "operation timed out after 0ns"] ∧
      (drop { now := 3 }).2.now ≤ 7 ∧
      ∀ e, (drop { now := 3 }).1 = .failed e →
        ∀ span, .timeout span ∈ e.errors → ∃ ms, ms ≤ 4 ∧ span = .ofMillis ms := by
  have hasked : client.Asked context drop := .act _
  obtain ⟨-, hnow, herrors⟩ := asked_deadline hasked rfl { now := 3 }
  exact ⟨by decide +kernel, hnow, fun e he => (herrors e he).2⟩

end SilentServer

/-! ## Statements that find no time left -/

/-- What comes of a statement that is given no time: only an answer that is there at once counts. -/
def Behaviour.atOnce (b : Behaviour) : Outcome Answer := b.over 0

namespace Client

variable {c : Client} {ctx : Context} {kind : StatementKind} {sql : String} {s s' : Session}

theorem run_of_no_time (hs : s.isCancelled ctx = false) (hl : c.limit? ctx s.now = some 0) :
    (c.run ctx kind sql s).1 = (c.behaviour kind sql s).atOnce := by
  refine run_eq_over hs ⟨fun d _ => ?_, fun l _ => ?_⟩ (fun t ht => ?_) (fun x _ => ?_) fun _ => hl
  · exact Nat.le_add_right s.now d
  · exact Nat.le_add_right s.now l
  · exact Session.lt_of_not_isCancelled hs t ht
  · exact Nat.zero_le x

/-- Once the deadline has passed, the clock stands still. -/
theorem Reaches.now_eq_of_deadline_le (h : c.Reaches ctx s s') {deadline : Nat}
    (hdeadline : ctx.deadline = some deadline) (hle : deadline ≤ s.now) : s'.now = s.now := by
  have hnow := h.now_le_deadline hdeadline
  rw [Nat.max_eq_left hle] at hnow
  exact Nat.le_antisymm hnow h.now_le

/-- Time passes only behind a statement, and the first one is handed over where the way begins. -/
theorem Reaches.exists_earlier (h : c.Reaches ctx s s') {before : List Dispatch}
    (hbefore : s'.dispatches = s.dispatches ++ before) (hlt : s.now < s'.now) :
    ∃ d ∈ before, d.time = s.now := by
  cases before with
  | nil =>
    have hnow := h.now_eq (hbefore.trans (List.append_nil _))
    omega
  | cons d rest => exact ⟨d, List.mem_cons_self, h.time_first hbefore⟩

end Client

open Client

/-- **What a deadline means for the statements of an operation.** None is handed over after the deadline,
unless the operation itself began after it; then all are handed over at its beginning. A statement that
is handed over when the deadline is reached

* is behind another one that was handed over before the deadline, if the operation began before it;
* is not waited for: it comes to an answer that is there at once, and else it has run out of time;
* leaves the operation no time, so that this ends, and at the very moment. -/
theorem asked_deadline_reached {c : Client} {ctx : Context} {α : Type} {op : Operation α}
    (h : c.Asked ctx op) {deadline : Nat} (hdeadline : ctx.deadline = some deadline) {s : Session}
    {before after : List Dispatch} {d : Dispatch}
    (hd : (op s).2.dispatches = s.dispatches ++ before ++ d :: after) :
    s.now ≤ d.time ∧ d.time ≤ max s.now deadline ∧
      (deadline ≤ d.time →
        (s.now < deadline → ∃ d' ∈ before, d'.time < deadline) ∧
          c.ComesTo ctx s (op s).2 before d (c.driver.respond (s.dispatches ++ before) d).atOnce ∧
          (op s).1 ≠ .never ∧ (op s).2.now = d.time) := by
  have hruns := h.composed.runs
  obtain ⟨s₁, hs₁⟩ := (hruns.reaches s).exists_runsIn hd
  have htime := hs₁.now_eq
  refine ⟨htime ▸ hs₁.reaches.now_le, htime ▸ hs₁.reaches.now_le_deadline hdeadline, fun hlate =>
    ⟨fun hlt => ?_, ?_, ne_never_of_deadline hruns hdeadline s, ?_⟩⟩
  · have hlt₁ : s.now < s₁.now := by omega
    obtain ⟨d', hmem, hd'⟩ := hs₁.reaches.exists_earlier hs₁.dispatches_eq hlt₁
    exact ⟨d', hmem, hd' ▸ hlt⟩
  · have hlimit : c.limit? ctx s₁.now = some 0 := by
      rw [Reaches.limit?_of_deadline hdeadline, htime, Nat.sub_eq_zero_of_le hlate]
    have hrun : (c.run ctx d.kind d.sql s₁).1 = (c.behaviour d.kind d.sql s₁).atOnce :=
      run_of_no_time hs₁.notCancelled hlimit
    rw [hs₁.behaviour_eq] at hrun
    exact hrun ▸ hs₁.comesTo
  · have hway : c.Reaches ctx s₁ (op s).2 := (Reaches.start.run d.kind d.sql).trans hs₁.rest
    rw [← htime]
    exact hway.now_eq_of_deadline_le hdeadline (htime ▸ hlate)

namespace SilentServer

/-- What the drop sends before the deadline, and what it sends when that is reached. -/
def inTime : List Dispatch :=
  [⟨3, .execute, "DROP ALERT \"db\".\"sc\".\"a\""⟩,
    ⟨3, .query, "SHOW SCHEMAS LIKE 'sc' IN DATABASE \"db\""⟩]

def late : Dispatch := ⟨7, .query, "SHOW DATABASES LIKE 'db'"⟩

/-- The look-up of the database is sent at the deadline, and there is no waiting for it. -/
theorem asked_deadline_reached_silent :
    (drop { now := 3 }).2.dispatches = inTime ++ [late] ∧
      (drop { now := 3 }).1 ≠ .never ∧ (drop { now := 3 }).2.now = 7 ∧
      client.ComesTo context { now := 3 } (drop { now := 3 }).2 inTime late
        (.failed (.timeout (.ofMillis 0))) ∧
      ∃ d ∈ inTime, d.time < 7 := by
  have hasked : client.Asked context drop := .act _
  have hsent : (drop { now := 3 }).2.dispatches = inTime ++ [late] := by decide +kernel
  obtain ⟨-, -, hreached⟩ := asked_deadline_reached hasked rfl (s := { now := 3 }) hsent
  obtain ⟨hearlier, hcomes, hended, hnow⟩ := hreached (by decide)
  exact ⟨hsent, hended, hnow, hcomes, hearlier (by decide)⟩

/-- A drop that begins in time sends its last look-up at the deadline, and a statement that is asked
for after the deadline is sent as well. -/
theorem sent_past_deadline :
    client.Asked context drop ∧ client.Asked context (client.execute context "SELECT 1") ∧
      context.deadline = some 7 ∧
      (drop { now := 3 }).2.dispatches.map Dispatch.time = [3, 3, 7] ∧
      (client.execute context "SELECT 1" { now := 8 }).2.dispatches.map Dispatch.time = [8] :=
  ⟨.act _, .execute _, rfl, by decide +kernel, by decide +kernel⟩

end SilentServer

end WarehouseAdmin
