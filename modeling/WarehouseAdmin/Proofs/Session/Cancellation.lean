import WarehouseAdmin.Session.Script
import WarehouseAdmin.Proofs.Session.Accounts

/-!
# Cancellation

Once a context is cancelled, nothing is handed to the driver any more under it or under a context
that is a child of it, and a statement that is waited for at that time comes back as cancelled. For
one statement this is `run_of_isInterrupted`. An operation that goes on after a failed statement must
not lose it: a look-up that was cut short neither shows its container to be missing, nor do the ones
after it, because they are not sent. So the walk through the containers goes on to its end, and what
it brings back is that it was cancelled (`cancelled_of_walk`).

There is one exception. The driver itself may cancel the context, or one that this is a child of, in
any of the steps in which it is asked for the answer. If the statement is over in this very step,
because its answer is there or its time has passed, then nobody looks for the cancellation any more,
and the statement ends as it would have (`Behaviour.over`); only what would have come behind it is
not sent.
-/

set_option autoImplicit false

namespace WarehouseAdmin

/-- An element of two lists together is in the first, or what is before it goes beyond the first. -/
theorem split_before {α : Type} {xs ys before after : List α} {a : α}
    (h : xs ++ ys = before ++ a :: after) :
    (∃ after', xs = before ++ a :: after') ∨
      ∃ rest, before = xs ++ rest ∧ ys = rest ++ a :: after := by
  rcases List.append_eq_append_iff.mp h with ⟨rest, hbefore, hys⟩ | ⟨rest, hxs, hrest⟩
  · exact .inr ⟨rest, hbefore, hys⟩
  · cases rest with
    | nil => exact .inr ⟨[], by simpa using hxs.symm, by simpa using hrest.symm⟩
    | cons x rest =>
      obtain ⟨rfl, -⟩ := List.cons.inj hrest
      exact .inl ⟨rest, hxs⟩

namespace Client

/-- Between `s` and `s'` a statement is interrupted, and these statements were handed over `before`
it. -/
def Interrupted (c : Client) (ctx : Context) (s s' : Session) (before : List Dispatch) : Prop :=
  ∃ d after, s'.dispatches = s.dispatches ++ before ++ d :: after ∧
    c.IsInterrupted ctx (s.dispatches ++ before) d (s.cancelTimes ctx)

variable {c : Client} {ctx : Context} {s s₁ s₂ : Session} {before : List Dispatch}

theorem Interrupted.isCancelled (h : c.Interrupted ctx s s₁ before) (hreach : c.Reaches ctx s s₁) :
    s₁.isCancelled ctx = true := by
  obtain ⟨d, after, hd, hcut⟩ := h
  obtain ⟨s', hs'⟩ := hreach.exists_runsIn hd
  exact (hs'.interrupted hd hcut).2.1

theorem not_interrupted_of_dispatches (h : s₁.dispatches = s.dispatches) :
    ¬ c.Interrupted ctx s s₁ before := by
  rintro ⟨d, after, hd, -⟩
  rw [h] at hd
  simp at hd

/-- A statement that is interrupted on the way is interrupted on the first part of the way or on the
second. -/
theorem Interrupted.cases (h : c.Interrupted ctx s s₂ before) (hfirst : c.Reaches ctx s s₁)
    (hsecond : c.Reaches ctx s₁ s₂) :
    c.Interrupted ctx s s₁ before ∨
      ∃ given rest, s₁.dispatches = s.dispatches ++ given ∧ before = given ++ rest ∧
        c.Interrupted ctx s₁ s₂ rest := by
  obtain ⟨d, after, hd, hcut⟩ := h
  obtain ⟨given, hgiven⟩ := hfirst.dispatches_prefix
  obtain ⟨more, hmore⟩ := hsecond.dispatches_prefix
  have hlists : given ++ more = before ++ d :: after := by
    rw [← hmore, ← hgiven, List.append_assoc, List.append_assoc] at hd
    exact List.append_cancel_left hd
  have hlater := hcut.mono hfirst.cancelTimes_prefix.subset
  rcases split_before hlists with ⟨after', hbefore⟩ | ⟨rest, rfl, hrest⟩
  · refine .inl ⟨d, after', ?_, hcut⟩
    rw [← hgiven, hbefore, List.append_assoc]
  · refine .inr ⟨given, rest, hgiven.symm, rfl, d, after, ?_, ?_⟩
    · rw [← hmore, hrest, List.append_assoc]
    · rwa [← hgiven, List.append_assoc]

theorem Interrupted.congr (h : c.Interrupted ctx s s₁ before)
    (hdispatches : s₂.dispatches = s₁.dispatches) : c.Interrupted ctx s s₂ before := by
  obtain ⟨d, after, hd, hcut⟩ := h
  exact ⟨d, after, hdispatches.trans hd, hcut⟩

/-- A statement that failed for another reason than a cancellation was handed over. -/
theorem Meets.dispatches_ne {e : Error} (h : c.Meets ctx s s₁ (.failed e)) (he : e ≠ .cancelled) :
    s₁.dispatches ≠ s.dispatches := by
  obtain ⟨s', kind, sql, hfirst, hrun, hsecond⟩ := h
  cases hs : s'.isCancelled ctx with
  | true =>
    rw [c.run_cancelled ctx kind sql hs] at hrun
    exact absurd (Outcome.failed.inj hrun).symm he
  | false =>
    have hle := hfirst.dispatches_prefix.length_le
    have hlt := hsecond.dispatches_prefix.length_le
    rw [dispatches_run hs, List.length_append, List.length_singleton] at hlt
    intro heq
    rw [heq] at hlt
    omega

end Client

namespace Operation

variable {c : Client} {ctx : Context} {α β : Type}

/-- The operation reports every interruption, the one of its first statement by nothing else. -/
def Reports (c : Client) (ctx : Context) (op : Operation α) : Prop :=
  ∀ s before, c.Interrupted ctx s (op s).2 before →
    ∃ e, (op s).1 = .failed e ∧ .cancelled ∈ e.errors ∧ (before = [] → e = .cancelled)

theorem reports_run (kind : StatementKind) (sql : String) : (c.run ctx kind sql).Reports c ctx := by
  intro s before h
  cases hs : s.isCancelled ctx with
  | true =>
    rw [c.run_cancelled ctx kind sql hs] at h
    exact absurd h (Client.not_interrupted_of_dispatches rfl)
  | false =>
    obtain ⟨d, after, hd, hcut⟩ := h
    rw [Client.dispatches_run hs, List.append_assoc, List.append_right_inj] at hd
    obtain ⟨rfl, rfl⟩ : before = [] ∧ d = ⟨s.now, kind, sql⟩ := by
      cases before with
      | nil => exact ⟨rfl, (List.cons.inj hd).1.symm⟩
      | cons x rest => exact absurd (congrArg List.length hd) (by simp)
    rw [List.append_nil] at hcut
    exact ⟨.cancelled, (Client.run_of_isInterrupted hs hcut).1, List.mem_singleton_self _,
      fun _ => rfl⟩

/-- What only makes something of the result hides no interruption. -/
theorem Reports.andThen {op : Operation α} {next : α → Operation β} (hop : op.Reports c ctx)
    (hnext : ∀ a, (next a).HandsNothing) : (op.andThen next).Reports c ctx := by
  intro s before h
  have hreports := hop s before
  rcases hs : op s with ⟨outcome, s₁⟩
  rw [hs] at hreports
  cases outcome with
  | done a =>
    rw [andThen_done hs] at h
    obtain ⟨e, he, -⟩ := hreports (h.congr (hnext a s₁).symm)
    exact nomatch he
  | failed x =>
    rw [andThen_failed hs] at h ⊢
    obtain ⟨e, he, hrest⟩ := hreports h
    obtain rfl : x = e := Outcome.failed.inj he
    exact ⟨x, rfl, hrest⟩
  | never =>
    rw [andThen_never hs] at h
    obtain ⟨e, he, -⟩ := hreports h
    exact nomatch he

theorem reports_checked {sql : Except Error String} {next : String → Operation α}
    (hnext : ∀ sql, (next sql).Reports c ctx) : ((ofExcept sql).andThen next).Reports c ctx := by
  cases sql with
  | ok sql => exact hnext sql
  | error e =>
    intro s before h
    exact absurd h (Client.not_interrupted_of_dispatches rfl)

section
variable {op : Operation α} {kind : StatementKind} {statement : Except Error String}
variable {means : Answer → Except Error α → Prop} (h : op.Sends c ctx kind statement means)
include h

theorem Sends.reports : op.Reports c ctx := by
  obtain ⟨read, -, rfl⟩ := h
  refine reports_checked fun sql => ?_
  exact (reports_run kind sql).andThen fun a => handsNothing_ofExcept (read a)

/-- Under a cancelled context a statement is not sent, if it passes its check at all. -/
theorem Sends.of_isCancelled {s : Session} (hs : s.isCancelled ctx = true) :
    ∃ e, op s = (.failed e, s) ∧ (statement = .error e ∨ e = .cancelled) := by
  obtain ⟨read, -, rfl⟩ := h
  cases statement with
  | error e => exact ⟨e, rfl, .inl rfl⟩
  | ok sql =>
    refine ⟨.cancelled, ?_, .inr rfl⟩
    show (c.run ctx kind sql).andThen _ s = _
    rw [andThen_failed (c.run_cancelled ctx kind sql hs)]

end

end Operation

namespace Client

open Operation

/-! ## Going on after an interruption -/

section
variable (c : Client) (ctx : Context) {α : Type}

theorem reports_probe (a : Ancestor) : (c.probe ctx a).Reports c ctx :=
  (c.sends_probe ctx a).reports

/-- Under a cancelled context a look-up fails, and not because its container is missing. -/
theorem probe_of_isCancelled (a : Ancestor) {s : Session} (hs : s.isCancelled ctx = true) :
    ∃ e, c.probe ctx a s = (.failed e, s) ∧ e.is .objectNotFound = false := by
  obtain ⟨e, hprobe, he⟩ := (c.sends_probe ctx a).of_isCancelled hs
  refine ⟨e, hprobe, ?_⟩
  rcases he with he | rfl
  · obtain ⟨q, hq⟩ := a.exists_request
    exact Request.is_of_render (hq.symm.trans he) nofun nofun nofun nofun
  · rfl

/-- Under a cancelled context a walk finds nothing missing. -/
theorem walk_of_isCancelled (id : Identifier) (as : List Ancestor) {s : Session}
    (hs : s.isCancelled ctx = true) :
    ∃ w, (c.walk ctx id as s).1 = .done w ∧ w.missing = false := by
  induction as with
  | nil => exact ⟨{}, rfl, rfl⟩
  | cons a rest ih =>
    obtain ⟨e, hprobe, he⟩ := c.probe_of_isCancelled ctx a hs
    obtain ⟨w, hw, hmissing⟩ := ih
    exact ⟨w.after e, (walk_failed_eq_done hprobe he).mpr ⟨w, hw, rfl⟩, hmissing⟩

/-- **A walk that is interrupted goes on to its end**, finds nothing missing and brings the interruption
back. The induction is over the containers; the look-ups behind the one that is interrupted are made
under a cancelled context. -/
theorem cancelled_of_walk (id : Identifier) (as : List Ancestor) {s : Session}
    {before : List Dispatch} (h : c.Interrupted ctx s (c.walk ctx id as s).2 before) :
    ∃ w, (c.walk ctx id as s).1 = .done w ∧ w.missing = false ∧ .cancelled ∈ w.errors := by
  induction as generalizing s before with
  | nil => exact absurd h (not_interrupted_of_dispatches rfl)
  | cons a rest ih =>
    have hreach := (c.runs_probe ctx a).reaches s
    have hreports := c.reports_probe ctx a s
    have hsingle := c.failsWith_probe ctx a s
    rcases hprobe : c.probe ctx a s with ⟨outcome, s₁⟩
    rw [hprobe] at hreach hreports hsingle
    cases outcome with
    | done _ =>
      rw [walk_exists hprobe] at h ⊢
      have hrest := (c.runs_walk ctx id rest).reaches (s₁.log .ancestorExists)
      rcases h.cases (hreach.log _) hrest with h | ⟨given, later, -, -, h⟩
      · obtain ⟨e, he, -⟩ := hreports _ (h.congr rfl)
        exact nomatch he
      · exact ih h
    | never =>
      rw [walk_never hprobe] at h
      obtain ⟨e, he, -⟩ := hreports _ h
      exact nomatch he
    | failed x =>
      have hx : ∀ {b}, c.Interrupted ctx s s₁ b → x = .cancelled := by
        intro b hb
        obtain ⟨e, he, hmem, -⟩ := hreports _ hb
        obtain rfl : x = e := Outcome.failed.inj he
        rw [(hsingle x rfl).errors_eq, List.mem_singleton] at hmem
        exact hmem.symm
      cases hmissing : x.is .objectNotFound with
      | true =>
        rw [walk_missing hprobe hmissing] at h
        rw [hx (h.congr rfl)] at hmissing
        exact nomatch hmissing
      | false =>
        rw [walk_failed_snd hprobe hmissing] at h
        obtain ⟨w, hw, hnone, herrors⟩ : ∃ w, (c.walk ctx id rest s₁).1 = .done w ∧
            w.missing = false ∧ .cancelled ∈ x :: w.errors := by
          rcases h.cases hreach ((c.runs_walk ctx id rest).reaches s₁) with
            h | ⟨given, later, -, -, h⟩
          · obtain ⟨w, hw, hnone⟩ := c.walk_of_isCancelled ctx id rest (h.isCancelled hreach)
            exact ⟨w, hw, hnone, by rw [hx h]; exact List.mem_cons_self⟩
          · obtain ⟨w, hw, hnone, herrors⟩ := ih h
            exact ⟨w, hw, hnone, List.mem_cons_of_mem x herrors⟩
        have hdone := (walk_failed_eq_done hprobe hmissing).mpr ⟨w, hw, rfl⟩
        exact ⟨w.after x, hdone, hnone, herrors⟩

end

section
variable {c : Client} {ctx : Context} {α : Type} {op : Operation α} {s s₁ : Session} {e : Error}
  {before : List Dispatch}

/-- What is done with the walk after an operation that failed: nothing may be lost of an interruption
on the way. -/
theorem reports_of_andThen_walk (hruns : op.Runs c ctx) (haccounts : op.Accounts c ctx)
    (hreports : op.Reports c ctx) (hop : op s = (.failed e, s₁)) (hsingle : e.IsSingle)
    (hremote : e.kind.isRemote = true) (he : e ≠ .cancelled) {id : Identifier}
    {next : Walk → Operation α} (hnothing : ∀ w, (next w).HandsNothing)
    (hnext : ∀ w s₂, w.missing = false → (next w s₂).1 = .failed (explained e w))
    (hrest : ((c.walk ctx id id.ancestors).andThen next).Runs c ctx)
    (h : c.Interrupted ctx s ((c.walk ctx id id.ancestors).andThen next s₁).2 before) :
    ∃ e', ((c.walk ctx id id.ancestors).andThen next s₁).1 = .failed e' ∧
      .cancelled ∈ e'.errors ∧ (before = [] → e' = .cancelled) := by
  have hreach := hruns.reaches s
  have hmet := (haccounts s e (by rw [hop]) e
    (by rw [hsingle.errors_eq]; exact List.mem_singleton_self e)).2 hremote
  have hfirst := hreports s
  rw [hop] at hreach hmet hfirst
  rcases h.cases hreach (hrest.reaches s₁) with hcut | ⟨given, later, hgiven, rfl, hcut⟩
  · -- An operation that is cut short fails with a cancellation, and is not looked into.
    obtain ⟨x, hx, hmem, -⟩ := hfirst _ hcut
    obtain rfl : e = x := Outcome.failed.inj hx
    rw [hsingle.errors_eq, List.mem_singleton] at hmem
    exact absurd hmem.symm he
  · have hafter : ((c.walk ctx id id.ancestors).andThen next s₁).2.dispatches =
        (c.walk ctx id id.ancestors s₁).2.dispatches := by
      rw [Operation.andThen]
      rcases c.walk ctx id id.ancestors s₁ with ⟨w | _ | _, s₂⟩
      · exact hnothing w s₂
      · rfl
      · rfl
    obtain ⟨w, hw, hmissing, herrors⟩ := c.cancelled_of_walk ctx id _ (hcut.congr hafter.symm)
    have hwalk : c.walk ctx id id.ancestors s₁ = (.done w, (c.walk ctx id id.ancestors s₁).2) :=
      Prod.ext hw rfl
    rw [andThen_done hwalk]
    refine ⟨explained e w, hnext w _ hmissing, ?_, fun hnil => ?_⟩
    · rw [errors_explained hsingle]
      exact List.mem_cons_of_mem e (List.mem_flatMap.mpr
        ⟨.cancelled, herrors, List.mem_singleton_self _⟩)
    · -- The operation that failed has sent something, so the look-up is not the first statement.
      obtain ⟨rfl, -⟩ := List.append_eq_nil_iff.mp hnil
      exact absurd (hgiven.trans (List.append_nil _)) (hmet.dispatches_ne he)

/-- **Every interruption is reported**, whatever is asked for. -/
theorem Composed.reports (h : c.Composed ctx op) : op.Reports c ctx := by
  induction h with
  | statement kind _ _ => exact (sends_statement kind _ _).reports
  | @safely α find id hfind ih =>
    intro s before h
    rcases c.safely_cases ctx id find s with hs | ⟨e, s₁, hop, hsingle, hremote, he, hs⟩
    · rw [hs] at h ⊢
      exact ih s before h
    · rw [hs] at h ⊢
      refine reports_of_andThen_walk hfind.runs hfind.accounts ih hop hsingle hremote he
        (fun w _ => rfl) (fun w s₂ _ => rfl) ?_ h
      exact (c.runs_walk ctx id _).andThen fun w => runs_fail _
  | @dropSafely drop id hdrop ih =>
    intro s before h
    rcases c.dropSafely_cases ctx id drop s with hs | ⟨e, s₁, hop, hsingle, hremote, he, hs⟩
    · rw [hs] at h ⊢
      exact ih s before h
    · rw [hs] at h ⊢
      refine reports_of_andThen_walk hdrop.runs hdrop.accounts ih hop hsingle hremote he
        (fun w => ?_) (fun w s₂ hmissing => ?_) ?_ h
      · by_cases hmissing : w.missing = true
        · rw [if_pos hmissing]
          exact fun _ => rfl
        · rw [if_neg hmissing]
          exact fun _ => rfl
      · rw [if_neg (by simp [hmissing])]
        rfl
      · refine (c.runs_walk ctx id _).andThen fun w => ?_
        split
        · exact runs_log _
        · exact runs_fail _
  | map f hop ih => exact ih.andThen fun a => handsNothing_result _

/-- An operation that never ends has not come upon a cancellation, for its statements are waited for
only up to that. -/
theorem ne_never_of_mem_cancelTimes (hruns : op.Runs c ctx) {t : Nat}
    (ht : t ∈ (op s).2.cancelTimes ctx) : (op s).1 ≠ .never := by
  intro hnever
  obtain ⟨s₁, kind, sql, -, hrun⟩ := hruns.sticks s hnever
  have hstuck : (c.run ctx kind sql s₁).1 = .never := congrArg Prod.fst hrun
  cases hs : s₁.isCancelled ctx with
  | true =>
    rw [c.run_cancelled ctx kind sql hs] at hstuck
    exact nomatch hstuck
  | false =>
    have htimes : t ∈ (c.run ctx kind sql s₁).2.cancelTimes ctx := by
      rw [hrun]
      exact ht
    exact (run_by_cancel hs htimes).1 hstuck

end

end Client

open Client

/-- **Nothing is handed over after a cancellation**, of whatever statements the operation is composed
and whatever the driver does. A statement is handed over before any time at which the context, or a
context that it is a child of, is cancelled.

* One that is waited for while the context is cancelled is the last. It comes back as cancelled, and
  the operation reports this: as its only error, if no statement was sent before, and otherwise among
  the errors that it joins.
* One whose driver cancels the context is the last as well, and the operation ends by then. If it is not
  interrupted, because it is over in the very step in which its driver cancels the context, then it comes
  to its answer, or else it has run out of time.

Where there is a cancellation, the operation ends no later, or at once if the context was cancelled
before. -/
theorem asked_cancellation {c : Client} {ctx : Context} {α : Type} {op : Operation α}
    (h : c.Asked ctx op) (s : Session) :
    (∀ before d after, (op s).2.dispatches = s.dispatches ++ before ++ d :: after →
      (∀ t ∈ s.cancelTimes ctx, d.time < t) ∧
        (c.IsInterrupted ctx (s.dispatches ++ before) d (s.cancelTimes ctx) →
          after = [] ∧ c.ComesTo ctx s (op s).2 before d (.failed .cancelled) ∧
            ∃ e, (op s).1 = .failed e ∧ .cancelled ∈ e.errors ∧ (before = [] → e = .cancelled)) ∧
        ∀ x, c.CancelsAfter ctx (s.dispatches ++ before) d x →
          after = [] ∧ (op s).1 ≠ .never ∧ (op s).2.now ≤ d.time + x ∧
            (¬ c.IsInterrupted ctx (s.dispatches ++ before) d (s.cancelTimes ctx) →
              c.ComesTo ctx s (op s).2 before d
                ((c.driver.respond (s.dispatches ++ before) d).over x))) ∧
      ∀ t ∈ (op s).2.cancelTimes ctx, (op s).1 ≠ .never ∧ (op s).2.now ≤ max s.now t := by
  have hruns := h.composed.runs
  have hreach := hruns.reaches s
  refine ⟨fun before d after hd => ?_, fun t ht => ?_⟩
  · obtain ⟨s₁, hs₁⟩ := hreach.exists_runsIn hd
    refine ⟨fun t ht => hs₁.lt_cancel ht, fun hcut => ?_, fun x hcancels => ?_⟩
    · obtain ⟨hlast, -, hcomes⟩ := hs₁.interrupted hd hcut
      exact ⟨hlast, hcomes, h.composed.reports s before ⟨d, after, hd, hcut⟩⟩
    · obtain ⟨hlast, hcancelled, hnow, hover⟩ := hs₁.cancelled_by_driver hd hcancels
      obtain ⟨t, ht, -⟩ := Session.isCancelled_iff.mp hcancelled
      exact ⟨hlast, ne_never_of_mem_cancelTimes hruns ht, hnow, hover⟩
  · exact ⟨ne_never_of_mem_cancelTimes hruns ht, hreach.now_le_cancel ht⟩

/-! ## A drop that is cut short, and statements that are not -/

namespace HastyServer

/-- A server that hides the alert and takes its time over every look-up. It can be told to end the
session, and says so, at once or a little later, or to go down, and then says nothing. -/
def client : Client where
  driver.respond _ d :=
    match d.kind, d.sql with
    | .query, _ => { delay := some 9 }
    | .execute, "KILL" => { cancels := some 0, answer := .ok { affected := 4 } }
    | .execute, "QUIT" =>
      { cancels := some 3, above := 1, delay := some 3, answer := .ok { affected := 4 } }
    | .execute, "HALT" => { cancels := some 0, delay := none }
    | .execute, _ => { answer := .error { text := "does not exist or not authorized" } }

def context : Context := { token := 1, above := [0] }

/-- The context that the one in use is a child of is cancelled at the time 6. -/
def session : Session := { now := 2, cancellations := [(0, 6)] }

def drop : Operation ActionResult :=
  client.act context (.alert (.dropSafely ⟨"db", "sc", "a"⟩ {}))

def dropped : Dispatch := ⟨2, .execute, "DROP ALERT \"db\".\"sc\".\"a\""⟩

def lookedUp : Dispatch := ⟨2, .query, "SHOW SCHEMAS LIKE 'sc' IN DATABASE \"db\""⟩

def quit : Operation Nat := client.execute context "QUIT"

/-- The look-up of the schema is cut short, and that of the database is not sent. A server that ends the
session answers in the same step. -/
theorem asked_cancellation_drop :
    ((drop session).2.dispatches = [dropped, lookedUp] ∧ 6 ∈ session.cancelTimes context ∧
      (∀ t ∈ session.cancelTimes context, lookedUp.time < t) ∧
      client.ComesTo context session (drop session).2 [dropped] lookedUp (.failed .cancelled) ∧
      (∃ e, (drop session).1 = .failed e ∧ .cancelled ∈ e.errors) ∧ (drop session).2.now ≤ 6) ∧
    (client.CancelsAfter context [] ⟨2, .execute, "QUIT"⟩ 3 ∧ (quit session).2.now ≤ 5 ∧
      client.ComesTo context session (quit session).2 [] ⟨2, .execute, "QUIT"⟩
        (.done { affected := 4 })) := by
  have hcancelled : 6 ∈ session.cancelTimes context := List.mem_cons_self
  refine ⟨?_, ?_⟩
  · have hdispatches : (drop session).2.dispatches = [dropped, lookedUp] := by decide +kernel
    have hcut : client.IsInterrupted context [dropped] lookedUp (session.cancelTimes context) := by
      refine .inl ⟨6, hcancelled, ?_, nofun⟩
      intro x hx
      obtain rfl : 9 = x := Option.some.inj hx
      decide
    obtain ⟨hhanded, hended⟩ := asked_cancellation (.act _ : client.Asked context drop) session
    obtain ⟨htimes, hreported, -⟩ := hhanded [dropped] lookedUp [] hdispatches
    obtain ⟨-, hcomes, e, he, hmem, -⟩ := hreported hcut
    have hstill : 6 ∈ (drop session).2.cancelTimes context := by decide +kernel
    exact ⟨hdispatches, hcancelled, htimes, hcomes, ⟨e, he, hmem⟩, (hended 6 hstill).2⟩
  · have hdispatches : (quit session).2.dispatches = [⟨2, .execute, "QUIT"⟩] := by decide +kernel
    have hcancels : client.CancelsAfter context [] ⟨2, .execute, "QUIT"⟩ 3 := by
      refine ⟨rfl, ?_, nofun⟩
      intro x hx
      obtain rfl : 3 = x := Option.some.inj hx
      exact Nat.le_refl _
    -- The others cancel the context later, and the server answers when it does.
    have hnot : ¬ client.IsInterrupted context [] ⟨2, .execute, "QUIT"⟩
        (session.cancelTimes context) := by
      rintro (⟨t, ht, hanswer, -⟩ | ⟨x, ⟨hx, -⟩, hdelay, -⟩)
      · obtain rfl : t = 6 := List.mem_singleton.mp ht
        exact absurd (hanswer 3 rfl) (by decide)
      · obtain rfl : 3 = x := Option.some.inj hx
        exact hdelay rfl
    obtain ⟨hhanded, -⟩ := asked_cancellation (.execute _ : client.Asked context quit) session
    obtain ⟨-, -, hdriver⟩ := hhanded [] ⟨2, .execute, "QUIT"⟩ [] hdispatches
    obtain ⟨-, -, hnow, hcomes⟩ := hdriver 3 hcancels
    exact ⟨hcancels, hnow, hcomes hnot⟩

/-- A statement is handed over at the time 0, and its driver cancels the context. It was answered in
this very step, or its time was over; and so it ends, and not as cancelled. -/
theorem ends_in_handover :
    (let ended := client.execute context "KILL" {}
      ∃ d, ended.2.dispatches = [d] ∧ 0 ∈ ended.2.cancelTimes context ∧
        client.IsOpenUntil context [] d 0 ∧ ended.1 = .done 4) ∧
    (let context := context.withDeadline 0
      let ended := client.execute context "HALT" {}
      ∃ d, ended.2.dispatches = [d] ∧ 0 ∈ ended.2.cancelTimes context ∧
        client.IsOpenUntil context [] d 0 ∧ ended.1 = .failed (.timeout (.ofMillis 0))) := by
  have hopen (context : Context) (d : Dispatch) : client.IsOpenUntil context [] d 0 :=
    ⟨fun _ _ => Nat.zero_le _, fun _ _ => Nat.zero_le _⟩
  refine ⟨⟨⟨0, .execute, "KILL"⟩, ?_, ?_, hopen _ _, rfl⟩,
    ⟨⟨0, .execute, "HALT"⟩, ?_, ?_, hopen _ _, rfl⟩⟩
  all_goals decide +kernel

end HastyServer

end WarehouseAdmin
