import WarehouseAdmin.Proofs.Session.Waiting

/-!
# The sessions that a client comes to

Whatever a client is asked to do, it does two things to a session: it logs lines, and it runs
statements under the context that it was given. `Reaches` is what can come of these two, and the
facts below hold of all of it. They are shown for one statement, and then by induction along the
way.

* The clock does not go back, nothing that was handed over or cancelled is forgotten, and in a
  session in which the context is cancelled nothing happens any more (`Reaches.of_isCancelled`).
* Where the context is cancelled, or has a deadline, that is where the clock stops
  (`Reaches.now_le_cancel`, `Reaches.now_le_deadline`).
* The clock stands still as long as nothing is handed over, and whatever was handed over was run in
  some session on the way (`Reaches.now_eq`, `Reaches.exists_runsIn`).
* A statement is handed over before anybody cancels the context. One that is interrupted, or whose
  driver cancels the context, is the last (`RunsIn.interrupted`, `RunsIn.cancelled_by_driver`).
-/

set_option autoImplicit false

namespace WarehouseAdmin

namespace Client

/-- The session `s'` can come of `s` by logging lines and running statements under the context. -/
inductive Reaches (c : Client) (ctx : Context) (s : Session) : Session → Prop where
  | start : Reaches c ctx s s
  | log {s₁ : Session} (e : Event) : Reaches c ctx s s₁ → Reaches c ctx s (s₁.log e)
  | run {s₁ : Session} (kind : StatementKind) (sql : String) :
      Reaches c ctx s s₁ → Reaches c ctx s (c.run ctx kind sql s₁).2

namespace Reaches

variable {c : Client} {ctx : Context} {s s₁ s₂ : Session}

theorem trans (h : c.Reaches ctx s s₁) (h' : c.Reaches ctx s₁ s₂) : c.Reaches ctx s s₂ := by
  induction h' with
  | start => exact h
  | log e _ ih => exact ih.log e
  | run kind sql _ ih => exact ih.run kind sql

/-- Induction along the way. A statement under a cancelled context leaves the session as it is, so
only those that are sent need be looked at. -/
@[elab_as_elim]
theorem sent_induction {motive : (s' : Session) → c.Reaches ctx s s' → Prop}
    (start : motive s .start)
    (log : ∀ {s₁ : Session} (e : Event) (h : c.Reaches ctx s s₁), motive s₁ h →
      motive (s₁.log e) (h.log e))
    (run : ∀ {s₁ : Session} (kind : StatementKind) (sql : String) (h : c.Reaches ctx s s₁),
      s₁.isCancelled ctx = false → motive s₁ h → motive (c.run ctx kind sql s₁).2 (h.run kind sql))
    {s' : Session} (h : c.Reaches ctx s s') : motive s' h := by
  induction h with
  | start => exact start
  | log e h ih => exact log e h ih
  | @run s₁ kind sql h ih =>
    cases hs : s₁.isCancelled ctx with
    | true =>
      have hsame : ∀ (s₂ : Session) (h₂ : c.Reaches ctx s s₂), s₂ = s₁ → motive s₂ h₂ := by
        rintro s₂ h₂ rfl
        exact ih
      exact hsame _ (h.run kind sql) (congrArg Prod.snd (c.run_cancelled ctx kind sql hs))
    | false => exact run kind sql h hs ih

theorem now_le (h : c.Reaches ctx s s₁) : s.now ≤ s₁.now := by
  induction h using sent_induction with
  | start => exact Nat.le_refl s.now
  | log e _ ih => exact ih
  | run kind sql _ hs ih => exact Nat.le_trans ih (now_le_run hs)

theorem cancelTimes_prefix (h : c.Reaches ctx s s₁) : s.cancelTimes ctx <+: s₁.cancelTimes ctx := by
  induction h using sent_induction with
  | start => exact List.prefix_rfl
  | log e _ ih => exact ih
  | run kind sql _ hs ih =>
    rcases cancelTimes_run hs with htimes | ⟨-, htimes⟩
    · rwa [htimes]
    · rw [htimes]
      exact ih.trans (List.prefix_append _ _)

theorem dispatches_prefix (h : c.Reaches ctx s s₁) : s.dispatches <+: s₁.dispatches := by
  induction h using sent_induction with
  | start => exact List.prefix_rfl
  | log e _ ih => exact ih
  | run kind sql _ hs ih =>
    rw [dispatches_run hs]
    exact ih.trans (List.prefix_append _ _)

/-- Under a cancelled context nothing happens but that lines are logged. -/
theorem of_isCancelled (h : c.Reaches ctx s s₁) (hs : s.isCancelled ctx = true) :
    s₁.isCancelled ctx = true ∧ s₁.dispatches = s.dispatches ∧ s₁.now = s.now := by
  induction h with
  | start => exact ⟨hs, rfl, rfl⟩
  | log e _ ih => exact ih
  | run kind sql _ ih =>
    rw [c.run_cancelled ctx kind sql ih.1]
    exact ih

/-- **The clock stops where the context is cancelled.** -/
theorem now_le_cancel (h : c.Reaches ctx s s₁) {t : Nat} (ht : t ∈ s₁.cancelTimes ctx) :
    s₁.now ≤ max s.now t := by
  induction h using sent_induction with
  | start => exact Nat.le_max_left _ _
  | log e _ ih => exact ih ht
  | run kind sql _ hs _ => exact Nat.le_trans (run_by_cancel hs ht).2 (Nat.le_max_right _ _)

theorem limit?_of_deadline {deadline : Nat} (hdeadline : ctx.deadline = some deadline) (now : Nat) :
    c.limit? ctx now = some (deadline - now) := by
  rw [limit?, Context.remaining, hdeadline]
  rfl

/-- **The clock stops at the deadline of the context.** The time that is left is asked for anew before
every statement. -/
theorem now_le_deadline (h : c.Reaches ctx s s₁) {deadline : Nat}
    (hdeadline : ctx.deadline = some deadline) : s₁.now ≤ max s.now deadline := by
  induction h using sent_induction with
  | start => exact Nat.le_max_left _ _
  | log e _ ih => exact ih
  | @run s₁ kind sql _ hs ih =>
    obtain ⟨time, e, hending, hle⟩ :=
      c.ending_by_limit ctx kind sql (limit?_of_deadline hdeadline s₁.now)
    rw [now_run hs, hending]
    show time ≤ max s.now deadline
    omega

/-- The clock stands still as long as nothing is handed over. -/
theorem now_eq (h : c.Reaches ctx s s₁) (hd : s₁.dispatches = s.dispatches) : s₁.now = s.now := by
  induction h using sent_induction with
  | start => rfl
  | log e _ ih => exact ih hd
  | run kind sql hreach hs _ =>
    rw [dispatches_run hs] at hd
    have hle := hreach.dispatches_prefix.length_le
    have hlength := congrArg List.length hd
    rw [List.length_append, List.length_singleton] at hlength
    omega

/-- As long as the context is not cancelled, nobody on the way has cancelled it: a driver that does so
leaves it cancelled. -/
theorem cancelTimes_eq (h : c.Reaches ctx s s₁) (hs : s₁.isCancelled ctx = false) :
    s₁.cancelTimes ctx = s.cancelTimes ctx := by
  induction h using sent_induction with
  | start => rfl
  | log e _ ih => exact ih hs
  | run kind sql _ hbefore ih =>
    rcases cancelTimes_run hbefore with htimes | ⟨-, htimes⟩
    · exact htimes.trans (ih hbefore)
    · refine absurd (Session.lt_of_not_isCancelled hs _ ?_) (Nat.lt_irrefl _)
      rw [htimes]
      exact List.mem_append_right _ (List.mem_singleton_self _)

end Reaches

/-! ## One statement on the way -/

/-- On the way from `s` to `s'` the statement `d`, which is handed over behind those of `before`, is
run in the session `s₁`. -/
structure RunsIn (c : Client) (ctx : Context) (s s' : Session) (before : List Dispatch)
    (d : Dispatch) (s₁ : Session) : Prop where
  reaches : c.Reaches ctx s s₁
  notCancelled : s₁.isCancelled ctx = false
  dispatches_eq : s₁.dispatches = s.dispatches ++ before
  now_eq : s₁.now = d.time
  rest : c.Reaches ctx (c.run ctx d.kind d.sql s₁).2 s'

/-- On the way from `s` to `s'` the statement `d`, which is handed over behind those of `before`, comes
to `outcome`. -/
def ComesTo (c : Client) (ctx : Context) (s s' : Session) (before : List Dispatch) (d : Dispatch)
    (outcome : Outcome Answer) : Prop :=
  ∃ s₁, c.Reaches ctx s s₁ ∧ s₁.dispatches = s.dispatches ++ before ∧ s₁.now = d.time ∧
    (c.run ctx d.kind d.sql s₁).1 = outcome ∧ c.Reaches ctx (c.run ctx d.kind d.sql s₁).2 s'

variable {c : Client} {ctx : Context} {s s₁ s₂ : Session} {before after : List Dispatch}
  {d : Dispatch}

/-- **Every statement on the way was run**, in a session that holds what was handed over before it. -/
theorem Reaches.exists_runsIn (h : c.Reaches ctx s s₂)
    (hd : s₂.dispatches = s.dispatches ++ before ++ d :: after) :
    ∃ s₁, c.RunsIn ctx s s₂ before d s₁ := by
  induction h using sent_induction generalizing after with
  | start => exact absurd hd (by simp)
  | log e _ ih =>
    obtain ⟨s₁, hs₁⟩ := ih hd
    exact ⟨s₁, { hs₁ with rest := hs₁.rest.log e }⟩
  | @run s' kind sql hreach hs ih =>
    rw [dispatches_run hs] at hd
    rcases List.eq_nil_or_concat after with rfl | ⟨rest, last, rfl⟩
    · -- The statement is the one that was handed over last.
      obtain ⟨hbefore, hlast⟩ := List.append_inj' hd rfl
      obtain rfl := List.singleton_inj.mp hlast
      exact ⟨s', hreach, hs, hbefore, rfl, .start⟩
    · -- A later one followed it.
      have hall : s'.dispatches ++ [⟨s'.now, kind, sql⟩] =
          (s.dispatches ++ before ++ d :: rest) ++ [last] := by
        rw [hd]
        simp
      obtain ⟨s₁, hs₁⟩ := ih (List.append_inj' hall rfl).1
      exact ⟨s₁, { hs₁ with rest := hs₁.rest.run kind sql }⟩

/-- The first statement on the way is handed over where the way begins. -/
theorem Reaches.time_first (h : c.Reaches ctx s s₂)
    (hd : s₂.dispatches = s.dispatches ++ d :: after) : d.time = s.now := by
  have hd : s₂.dispatches = s.dispatches ++ [] ++ d :: after := by rwa [List.append_nil]
  obtain ⟨s₁, hs₁⟩ := h.exists_runsIn hd
  rw [← hs₁.now_eq]
  exact hs₁.reaches.now_eq (hs₁.dispatches_eq.trans (List.append_nil _))

namespace RunsIn

variable (h : c.RunsIn ctx s s₂ before d s₁)
include h

theorem dispatch_eq : (⟨s₁.now, d.kind, d.sql⟩ : Dispatch) = d := by rw [h.now_eq]

theorem behaviour_eq :
    c.behaviour d.kind d.sql s₁ = c.driver.respond (s.dispatches ++ before) d := by
  rw [behaviour, h.dispatches_eq, h.dispatch_eq]

theorem cancelTimes_eq : s₁.cancelTimes ctx = s.cancelTimes ctx :=
  h.reaches.cancelTimes_eq h.notCancelled

theorem comesTo : c.ComesTo ctx s s₂ before d (c.run ctx d.kind d.sql s₁).1 :=
  ⟨s₁, h.reaches, h.dispatches_eq, h.now_eq, rfl, h.rest⟩

/-- A statement is handed over before anybody cancels the context. -/
theorem lt_cancel {t : Nat} (ht : t ∈ s.cancelTimes ctx) : d.time < t := by
  rw [← h.cancelTimes_eq] at ht
  rw [← h.now_eq]
  exact Session.lt_of_not_isCancelled h.notCancelled t ht

/-- A statement behind which the context is cancelled is the last: nothing is handed over any more, and
no time passes. -/
theorem last_of_isCancelled (hd : s₂.dispatches = s.dispatches ++ before ++ d :: after)
    (hcancelled : (c.run ctx d.kind d.sql s₁).2.isCancelled ctx = true) :
    after = [] ∧ s₂.isCancelled ctx = true ∧ s₂.now = (c.run ctx d.kind d.sql s₁).2.now := by
  obtain ⟨hlast, hsent, hnow⟩ := h.rest.of_isCancelled hcancelled
  rw [dispatches_run h.notCancelled, h.dispatch_eq, h.dispatches_eq, hd] at hsent
  exact ⟨by simpa using hsent, hlast, hnow⟩

/-- **A statement that is interrupted** comes back as cancelled, and is the last. -/
theorem interrupted (hd : s₂.dispatches = s.dispatches ++ before ++ d :: after)
    (hcut : c.IsInterrupted ctx (s.dispatches ++ before) d (s.cancelTimes ctx)) :
    after = [] ∧ s₂.isCancelled ctx = true ∧ c.ComesTo ctx s s₂ before d (.failed .cancelled) := by
  rw [← h.dispatches_eq, ← h.cancelTimes_eq, ← h.dispatch_eq] at hcut
  obtain ⟨hrun, hcancelled⟩ := run_of_isInterrupted h.notCancelled hcut
  obtain ⟨hlast, hstays, -⟩ := h.last_of_isCancelled hd hcancelled
  exact ⟨hlast, hstays, hrun ▸ h.comesTo⟩

/-- **A statement whose driver cancels the context** is the last, and the waiting for it ends by that.
If it is not interrupted, then it ends in the very step as it would have without that. -/
theorem cancelled_by_driver (hd : s₂.dispatches = s.dispatches ++ before ++ d :: after) {x : Nat}
    (hcancels : c.CancelsAfter ctx (s.dispatches ++ before) d x) :
    after = [] ∧ s₂.isCancelled ctx = true ∧ s₂.now ≤ d.time + x ∧
      (¬ c.IsInterrupted ctx (s.dispatches ++ before) d (s.cancelTimes ctx) →
        c.ComesTo ctx s s₂ before d ((c.driver.respond (s.dispatches ++ before) d).over x)) := by
  have hrun : c.CancelsAfter ctx s₁.dispatches ⟨s₁.now, d.kind, d.sql⟩ x := by
    rwa [h.dispatches_eq, h.dispatch_eq]
  obtain ⟨-, hnow, hcancelled⟩ := run_of_cancelsAfter h.notCancelled hrun
  obtain ⟨hlast, hstays, hends⟩ := h.last_of_isCancelled hd hcancelled
  refine ⟨hlast, hstays, ?_, fun hnot => ?_⟩
  · rw [hends, ← h.now_eq]
    exact hnow
  · rw [← h.dispatches_eq, ← h.cancelTimes_eq, ← h.dispatch_eq] at hnot
    have hover := run_of_not_isInterrupted h.notCancelled hrun hnot
    rw [h.behaviour_eq] at hover
    exact hover ▸ h.comesTo

end RunsIn

end Client

end WarehouseAdmin
