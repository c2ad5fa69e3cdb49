import WarehouseAdmin.Proofs.Session.Sending

/-!
# How long a statement is waited for

The waiting for an answer has up to four reasons to end: somebody cancels the context, the answer is
there, a time limit has passed, or the driver cancels the context. `settle` picks the earliest, and
the order in which it goes through them decides between those that come at one time
(`settle_eq_some_iff`). From this everything else is derived: wherever there is a reason, the waiting
ends, and not after it; and a cancellation is never passed over, but for the driver's own, which comes
too late in a step in which the waiting is over.

The second half says the same of a statement that is run: what it leaves behind in the session, and
when (`run_snd`, `run_by_cancel`), and what it comes to if the context is cancelled meanwhile
(`run_of_isInterrupted`, `run_eq_over`).
-/

set_option autoImplicit false

namespace WarehouseAdmin

/-! ## The earliest ending -/

section
variable {es xs ys : List Ending.Timed} {e f : Ending.Timed}

theorem earliest_eq_none_iff : earliest es = none ↔ es = [] := by
  cases es with
  | nil => simp [earliest]
  | cons e rest =>
    rw [earliest]
    cases earliest rest with
    | none => simp
    | some f =>
      dsimp only
      split <;> simp

theorem earliest_spec (h : earliest es = some e) : e ∈ es ∧ ∀ f ∈ es, e.1 ≤ f.1 := by
  induction es generalizing e with
  | nil => exact nomatch h
  | cons f rest ih =>
    rw [earliest] at h
    cases hrest : earliest rest with
    | none =>
      rw [hrest] at h
      obtain rfl := Option.some.inj h
      rw [earliest_eq_none_iff.mp hrest]
      exact ⟨List.mem_cons_self, by simp⟩
    | some g =>
      obtain ⟨hmem, hmin⟩ := ih hrest
      rw [hrest] at h
      dsimp only at h
      split at h
      · next hlt =>
        obtain rfl := Option.some.inj h
        exact ⟨List.mem_cons_of_mem f hmem, List.forall_mem_cons.mpr ⟨Nat.le_of_lt hlt, hmin⟩⟩
      · next hlt =>
        obtain rfl := Option.some.inj h
        refine ⟨List.mem_cons_self, List.forall_mem_cons.mpr ⟨Nat.le_refl _, fun x hx => ?_⟩⟩
        exact Nat.le_trans (Nat.le_of_not_lt hlt) (hmin x hx)

/-- The first ending is taken if no other is earlier, and else the earliest of the others. -/
theorem earliest_cons_eq_some_iff :
    earliest (f :: es) = some e ↔
      f = e ∧ (∀ g ∈ es, e.1 ≤ g.1) ∨ earliest es = some e ∧ e.1 < f.1 := by
  rw [earliest]
  cases hes : earliest es with
  | none =>
    rw [earliest_eq_none_iff.mp hes]
    simp
  | some g =>
    obtain ⟨hmem, hmin⟩ := earliest_spec hes
    dsimp only
    split
    · next hlt =>
      constructor
      · intro h
        obtain rfl := Option.some.inj h
        exact .inr ⟨rfl, hlt⟩
      · rintro (⟨rfl, hle⟩ | ⟨h, -⟩)
        · exact absurd (hle g hmem) (Nat.not_le.mpr hlt)
        · exact h
    · next hlt =>
      constructor
      · intro h
        obtain rfl := Option.some.inj h
        exact .inl ⟨rfl, fun x hx => Nat.le_trans (Nat.le_of_not_lt hlt) (hmin x hx)⟩
      · rintro (⟨rfl, -⟩ | ⟨h, hearlier⟩)
        · rfl
        · obtain rfl := Option.some.inj h
          exact absurd hearlier hlt

/-- Of endings at one time, those that stand in front are taken. -/
theorem earliest_append_eq_some_iff :
    earliest (xs ++ ys) = some e ↔
      earliest xs = some e ∧ (∀ f ∈ ys, e.1 ≤ f.1) ∨
        earliest ys = some e ∧ ∀ f ∈ xs, e.1 < f.1 := by
  induction xs with
  | nil => simp [earliest]
  | cons x xs ih =>
    rw [List.cons_append, earliest_cons_eq_some_iff, earliest_cons_eq_some_iff, ih,
      List.forall_mem_append, List.forall_mem_cons]
    tauto

end

/-! ## When the waiting ends -/

section
variable {start time t x l : Nat} {cancel delay limit own : Option Nat} {timed : Ending.Timed}

/-- **Which ending it is.** One that is there, that comes before everything that has precedence over
it, and not after anything else. -/
theorem settle_eq_some_iff : settle start cancel delay limit own = some timed ↔
    ((∃ t, cancel = some t ∧ (t, .cancelled) = timed) ∧
      (∀ d, delay = some d → timed.1 ≤ start + d) ∧ (∀ l, limit = some l → timed.1 ≤ start + l) ∧
        ∀ x, own = some x → timed.1 ≤ start + x) ∨
    ((∃ d, delay = some d ∧ (start + d, .answered) = timed) ∧
      (∀ t, cancel = some t → timed.1 < t) ∧ (∀ l, limit = some l → timed.1 ≤ start + l) ∧
        ∀ x, own = some x → timed.1 ≤ start + x) ∨
    ((∃ l, limit = some l ∧ (start + l, .timedOut l) = timed) ∧
      (∀ t, cancel = some t → timed.1 < t) ∧ (∀ d, delay = some d → timed.1 < start + d) ∧
        ∀ x, own = some x → timed.1 ≤ start + x) ∨
    ((∃ x, own = some x ∧ (start + x, .cancelled) = timed) ∧
      (∀ t, cancel = some t → timed.1 < t) ∧ (∀ d, delay = some d → timed.1 < start + d) ∧
        ∀ l, limit = some l → timed.1 < start + l) := by
  have hone (o : Option Nat) (ending : Nat → Ending.Timed) :
      earliest (o.toList.map ending) = some timed ↔ ∃ n, o = some n ∧ ending n = timed := by
    cases o <;> simp [earliest]
  have hall (o : Option Nat) (ending : Nat → Ending.Timed) (P : Ending.Timed → Prop) :
      (∀ f ∈ o.toList.map ending, P f) ↔ ∀ n, o = some n → P (ending n) := by
    cases o <;> simp
  simp only [settle, endings, earliest_append_eq_some_iff, List.forall_mem_append, hone, hall,
    or_and_right, and_assoc, or_assoc]

theorem settle_eq_answered_iff :
    settle start cancel delay limit own = some (time, .answered) ↔
      (∃ d, delay = some d ∧ start + d = time) ∧ (∀ t, cancel = some t → time < t) ∧
        (∀ l, limit = some l → time ≤ start + l) ∧ ∀ x, own = some x → time ≤ start + x := by
  simp [settle_eq_some_iff]

theorem settle_eq_timedOut_iff :
    settle start cancel delay limit own = some (time, .timedOut l) ↔
      (limit = some l ∧ start + l = time) ∧ (∀ t, cancel = some t → time < t) ∧
        (∀ d, delay = some d → time < start + d) ∧ ∀ x, own = some x → time ≤ start + x := by
  rw [settle_eq_some_iff]
  simp

theorem settle_eq_cancelled_iff :
    settle start cancel delay limit own = some (time, .cancelled) ↔
      (cancel = some time ∧ (∀ d, delay = some d → time ≤ start + d) ∧
        (∀ l, limit = some l → time ≤ start + l) ∧ ∀ x, own = some x → time ≤ start + x) ∨
      ((∃ x, own = some x ∧ start + x = time) ∧ (∀ t, cancel = some t → time < t) ∧
        (∀ d, delay = some d → time < start + d) ∧ ∀ l, limit = some l → time < start + l) := by
  simp [settle_eq_some_iff]

/-- Whatever may end the waiting, ends it by its time. -/
theorem settle_le (h : timed ∈ endings start cancel delay limit own) :
    ∃ time e, settle start cancel delay limit own = some (time, e) ∧ time ≤ timed.1 := by
  cases hs : settle start cancel delay limit own with
  | none => exact absurd (earliest_eq_none_iff.mp hs) (List.ne_nil_of_mem h)
  | some ended => exact ⟨ended.1, ended.2, rfl, (earliest_spec hs).2 timed h⟩

theorem settle_by_cancel (h : cancel = some t) :
    ∃ time e, settle start cancel delay limit own = some (time, e) ∧ time ≤ t := by
  have hmem : ((t, .cancelled) : Ending.Timed) ∈ endings start cancel delay limit own := by
    simp [endings, h]
  exact settle_le hmem

theorem settle_by_limit (h : limit = some l) :
    ∃ time e, settle start cancel delay limit own = some (time, e) ∧ time ≤ start + l := by
  have hmem : ((start + l, .timedOut l) : Ending.Timed) ∈ endings start cancel delay limit own := by
    simp [endings, h]
  exact settle_le hmem

theorem settle_by_own (h : own = some x) :
    ∃ time e, settle start cancel delay limit own = some (time, e) ∧ time ≤ start + x := by
  have hmem : ((start + x, .cancelled) : Ending.Timed) ∈ endings start cancel delay limit own := by
    simp [endings, h]
  exact settle_le hmem

/-- A cancellation that is there in time counts, also against an answer or a limit at that time. -/
theorem settle_cancelled (hcancel : cancel = some t) (hdelay : ∀ d, delay = some d → t ≤ start + d)
    (hlimit : ∀ l, limit = some l → t ≤ start + l) :
    ∃ time, settle start cancel delay limit own = some (time, .cancelled) := by
  obtain ⟨time, _ | _ | l, hs, -⟩ : ∃ time e, settle start cancel delay limit own = some (time, e) ∧
      time ≤ t := settle_by_cancel hcancel
  · exact ⟨time, hs⟩
  · obtain ⟨⟨d, hd, rfl⟩, hbefore, -⟩ := settle_eq_answered_iff.mp hs
    exact absurd (hdelay d hd) (Nat.not_le.mpr (hbefore t hcancel))
  · obtain ⟨⟨hl, rfl⟩, hbefore, -⟩ := settle_eq_timedOut_iff.mp hs
    exact absurd (hlimit l hl) (Nat.not_le.mpr (hbefore t hcancel))

/-- So does that of the driver, if the waiting is not over by then. -/
theorem settle_cancelled_of_own (hown : own = some x) (hdelay : ∀ d, delay = some d → x < d)
    (hlimit : ∀ l, limit = some l → x < l) :
    ∃ time, settle start cancel delay limit own = some (time, .cancelled) := by
  obtain ⟨time, _ | _ | l, hs, hle⟩ : ∃ time e, settle start cancel delay limit own = some (time, e) ∧
      time ≤ start + x := settle_by_own hown
  · exact ⟨time, hs⟩
  · obtain ⟨⟨d, hd, rfl⟩, -⟩ := settle_eq_answered_iff.mp hs
    exact absurd (Nat.add_le_add_iff_left.mp hle) (Nat.not_le.mpr (hdelay d hd))
  · obtain ⟨⟨hl, rfl⟩, -⟩ := settle_eq_timedOut_iff.mp hs
    exact absurd (Nat.add_le_add_iff_left.mp hle) (Nat.not_le.mpr (hlimit l hl))

/-- The waiting does not end before it begins. -/
theorem le_of_settle (hcancel : ∀ t, cancel = some t → start ≤ t)
    (h : settle start cancel delay limit own = some timed) : start ≤ timed.1 := by
  rcases settle_eq_some_iff.mp h with ⟨⟨t, ht, rfl⟩, -⟩ | ⟨⟨n, -, rfl⟩, -⟩ | ⟨⟨n, -, rfl⟩, -⟩ |
    ⟨⟨n, -, rfl⟩, -⟩
  · exact hcancel t ht
  all_goals exact Nat.le_add_right start n

end

/-! ## What a statement leaves behind -/

/-- A driver that cancels the context does so at the time up to which it is looked at, for then it is
not asked any more. -/
theorem Behaviour.cancelTimes_eq (b : Behaviour) (ctx : Context) (time : Nat) (s : Session) :
    b.cancelTimes ctx time s = [] ∨ b.cancelTimes ctx time s = [time] := by
  unfold cancelTimes
  split
  · exact .inr rfl
  · exact .inl rfl

theorem Behaviour.cancelTimes_upTo (b : Behaviour) (ctx : Context) (time : Nat) (s : Session) :
    (b.upTo ctx time s).cancelTimes ctx = s.cancelTimes ctx ++ b.cancelTimes ctx time s := by
  rw [upTo_eq]
  simp [Session.cancelTimes, List.filter_map, Function.comp_def, b.target_mem_tokens ctx]

theorem Session.isCancelled_iff {s : Session} {ctx : Context} :
    s.isCancelled ctx = true ↔ ∃ t ∈ s.cancelTimes ctx, t ≤ s.now := by
  simp [isCancelled]

theorem Session.lt_of_not_isCancelled {s : Session} {ctx : Context}
    (h : s.isCancelled ctx = false) : ∀ t ∈ s.cancelTimes ctx, s.now < t := by
  intro t ht
  by_contra hle
  have hc := Session.isCancelled_iff.mpr ⟨t, ht, Nat.le_of_not_lt hle⟩
  exact absurd (hc.symm.trans h) (by simp)

/-- The first time from which on the context is cancelled is not after any other. -/
theorem Session.exists_cancelTime {s : Session} {ctx : Context} {t : Nat}
    (h : t ∈ s.cancelTimes ctx) :
    ∃ first, s.cancelTime? ctx = some first ∧ first ∈ s.cancelTimes ctx ∧ first ≤ t := by
  obtain ⟨first, hfirst⟩ := Option.isSome_iff_exists.mp (List.isSome_min?_of_mem h)
  exact ⟨first, hfirst, List.min?_mem hfirst, (List.min?_eq_some_iff.mp hfirst).2 t h⟩

/-- A driver that cancels the context leaves it cancelled, if not somebody else has done so before. -/
theorem Behaviour.isCancelled_upTo {b : Behaviour} {ctx : Context} {x time : Nat} {s : Session}
    (hcancels : b.cancels = some x) (hle : s.now + x ≤ time) :
    (b.upTo ctx time s).isCancelled ctx = true := by
  unfold upTo
  dsimp only
  split
  · next h =>
    refine Session.isCancelled_iff.mpr ⟨time, ?_, Nat.le_refl time⟩
    simp [Session.cancelTimes, Session.cancel, Session.cancelAt, b.target_mem_tokens ctx]
  · next h =>
    simpa [hcancels, hle] using h

/-- The session behind the waiting for a statement, once it is known how it ends. -/
def Behaviour.after (b : Behaviour) (ctx : Context) (timed : Option Ending.Timed) (s : Session) :
    Session :=
  match timed with
  | none => s
  | some (time, _) => b.upTo ctx time s

namespace Client

open Operation

variable (c : Client) (ctx : Context) (kind : StatementKind) (sql : String)

theorem ended_snd (b : Behaviour) (timed : Option Ending.Timed) (s : Session) :
    ∃ events, (c.ended ctx sql b timed s).2 = { b.after ctx timed s with events := events } := by
  rcases timed with _ | ⟨time, _ | _ | l⟩
  · exact ⟨s.events, rfl⟩
  · exact ⟨_, rfl⟩
  · show ∃ events, (receive b.answer (b.upTo ctx time s)).2 = _
    cases b.answer with
    | ok a => exact ⟨(b.upTo ctx time s).events, rfl⟩
    | error e =>
      refine ⟨(b.upTo ctx time s).events ++ e.events, ?_⟩
      simp only [receive, Session.foldl_log]
      rfl
  · exact ⟨(b.upTo ctx time s).events, rfl⟩

/-- **What a statement leaves behind**, where the context is not cancelled beforehand: one hand-over,
and what comes of the waiting, which is the time at which it ends and the driver's own cancellation. -/
theorem run_snd {s : Session} (h : s.isCancelled ctx = false) :
    ∃ events, (c.run ctx kind sql s).2 =
      { (c.behaviour kind sql s).after ctx (c.ending ctx kind sql s) s with
        dispatches := s.dispatches ++ [⟨s.now, kind, sql⟩]
        events := events } := by
  obtain ⟨events, hrun⟩ := c.run_eq ctx kind sql h
  have hdispatch : c.dispatch kind sql { s with events } =
      (.done (c.behaviour kind sql s),
        { s with dispatches := s.dispatches ++ [⟨s.now, kind, sql⟩], events := events }) := rfl
  rw [hrun, andThen_done hdispatch, await_eq]
  obtain ⟨events', hended⟩ := c.ended_snd ctx sql (c.behaviour kind sql s) (c.ending ctx kind sql s)
    { s with dispatches := s.dispatches ++ [⟨s.now, kind, sql⟩], events := events }
  refine ⟨events', hended.trans ?_⟩
  unfold Behaviour.after
  split
  · rfl
  · rw [Behaviour.upTo_eq, Behaviour.upTo_eq]
    rfl

section
variable {c ctx kind sql} {s : Session} (h : s.isCancelled ctx = false)
include h

theorem now_run : (c.run ctx kind sql s).2.now =
    ((c.ending ctx kind sql s).map Prod.fst).getD s.now := by
  obtain ⟨events, hrun⟩ := c.run_snd ctx kind sql h
  rw [hrun]
  show (Behaviour.after _ ctx (c.ending ctx kind sql s) s).now = _
  cases c.ending ctx kind sql s with
  | none => rfl
  | some timed => exact Behaviour.now_upTo _ ctx timed.1 s

theorem dispatches_run :
    (c.run ctx kind sql s).2.dispatches = s.dispatches ++ [⟨s.now, kind, sql⟩] := by
  obtain ⟨events, hrun⟩ := c.run_snd ctx kind sql h
  rw [hrun]

/-- A statement that is not waited for without end comes to an end. -/
theorem run_ne_never {timed : Ending.Timed} (hending : c.ending ctx kind sql s = some timed) :
    (c.run ctx kind sql s).1 ≠ .never := by
  rw [c.run_fst ctx kind sql h, hending]
  obtain ⟨time, _ | _ | l⟩ := timed
  · exact nofun
  · show Outcome.ofExcept ((c.behaviour kind sql s).answer.mapError _) ≠ .never
    cases (c.behaviour kind sql s).answer <;> exact nofun
  · exact nofun

/-- A statement adds at most one cancellation, that of its driver, at the time at which it ends. -/
theorem cancelTimes_run :
    (c.run ctx kind sql s).2.cancelTimes ctx = s.cancelTimes ctx ∨
      (c.run ctx kind sql s).1 ≠ .never ∧ (c.run ctx kind sql s).2.cancelTimes ctx =
        s.cancelTimes ctx ++ [(c.run ctx kind sql s).2.now] := by
  obtain ⟨events, hrun⟩ := c.run_snd ctx kind sql h
  have htimes : (c.run ctx kind sql s).2.cancelTimes ctx =
      ((c.behaviour kind sql s).after ctx (c.ending ctx kind sql s) s).cancelTimes ctx := by
    rw [hrun]
    rfl
  cases hending : c.ending ctx kind sql s with
  | none =>
    rw [hending] at htimes
    exact .inl htimes
  | some timed =>
    rw [hending] at htimes
    have htimes := htimes.trans (Behaviour.cancelTimes_upTo _ ctx timed.1 s)
    rcases (c.behaviour kind sql s).cancelTimes_eq ctx timed.1 s with hown | hown
    · rw [hown, List.append_nil] at htimes
      exact .inl htimes
    · rw [hown] at htimes
      refine .inr ⟨run_ne_never h hending, htimes.trans ?_⟩
      rw [now_run h, hending]
      rfl

/-- The clock does not go back while a statement is waited for. -/
theorem now_le_run : s.now ≤ (c.run ctx kind sql s).2.now := by
  rw [now_run h]
  cases hending : c.ending ctx kind sql s with
  | none => exact Nat.le_refl _
  | some timed =>
    refine le_of_settle (fun t ht => ?_) hending
    exact Nat.le_of_lt (Session.lt_of_not_isCancelled h t (List.min?_mem ht))

end

/-- Where the context is to be cancelled, the waiting ends, and no later than that. -/
theorem ending_by_cancel {s : Session} {t : Nat} (ht : t ∈ s.cancelTimes ctx) :
    ∃ time e, c.ending ctx kind sql s = some (time, e) ∧ time ≤ t := by
  obtain ⟨first, hfirst, -, hle⟩ := Session.exists_cancelTime ht
  have hsettle : ∃ time e, c.ending ctx kind sql s = some (time, e) ∧ time ≤ first :=
    settle_by_cancel hfirst
  obtain ⟨time, e, hs, htime⟩ := hsettle
  exact ⟨time, e, hs, Nat.le_trans htime hle⟩

/-- Where there is a time limit, the waiting ends, and no later than that. -/
theorem ending_by_limit {s : Session} {l : Nat} (hl : c.limit? ctx s.now = some l) :
    ∃ time e, c.ending ctx kind sql s = some (time, e) ∧ time ≤ s.now + l :=
  settle_by_limit hl

section
variable {c ctx kind sql} {s : Session} (h : s.isCancelled ctx = false)
include h

/-- **A statement is waited for up to a cancellation at most**, whoever cancels the context. -/
theorem run_by_cancel {t : Nat} (ht : t ∈ (c.run ctx kind sql s).2.cancelTimes ctx) :
    (c.run ctx kind sql s).1 ≠ .never ∧ (c.run ctx kind sql s).2.now ≤ t := by
  have hgiven (ht : t ∈ s.cancelTimes ctx) :
      (c.run ctx kind sql s).1 ≠ .never ∧ (c.run ctx kind sql s).2.now ≤ t := by
    obtain ⟨time, e, hending, hle⟩ := c.ending_by_cancel ctx kind sql ht
    refine ⟨run_ne_never h hending, ?_⟩
    rw [now_run h, hending]
    exact hle
  rcases @cancelTimes_run c ctx kind sql s h with htimes | ⟨hended, htimes⟩
  · rw [htimes] at ht
    exact hgiven ht
  · rw [htimes, List.mem_append, List.mem_singleton] at ht
    rcases ht with ht | rfl
    · exact hgiven ht
    · exact ⟨hended, Nat.le_refl _⟩

end

/-! ## Statements that are interrupted -/

/-- Up to the time `t`, the statement `d` that was handed over after those `before` has neither been
answered nor run out of time. -/
def IsOpenUntil (before : List Dispatch) (d : Dispatch) (t : Nat) : Prop :=
  (∀ x, (c.driver.respond before d).delay = some x → t ≤ d.time + x) ∧
    ∀ l, c.limit? ctx d.time = some l → t ≤ d.time + l

/-- The driver cancels the context, or one that this is a child of, `x` milliseconds after it was handed
the statement `d`, which is not over before. -/
def CancelsAfter (before : List Dispatch) (d : Dispatch) (x : Nat) : Prop :=
  (c.driver.respond before d).cancels = some x ∧ c.IsOpenUntil ctx before d (d.time + x)

/-- The context is cancelled while the statement `d` is waited for: at one of the `times`, or by the
driver, in a step in which the statement neither is answered nor runs out of time. -/
def IsInterrupted (before : List Dispatch) (d : Dispatch) (times : List Nat) : Prop :=
  (∃ t ∈ times, c.IsOpenUntil ctx before d t) ∨
    ∃ x, c.CancelsAfter ctx before d x ∧ (c.driver.respond before d).delay ≠ some x ∧
      c.limit? ctx d.time ≠ some x

section
variable {c ctx} {before : List Dispatch} {d : Dispatch} {x : Nat}

theorem IsInterrupted.mono {times times' : List Nat} (h : c.IsInterrupted ctx before d times)
    (hsub : times ⊆ times') : c.IsInterrupted ctx before d times' := by
  refine h.imp_left ?_
  rintro ⟨t, ht, hopen⟩
  exact ⟨t, hsub ht, hopen⟩

variable (hopen : c.IsOpenUntil ctx before d (d.time + x))
include hopen

theorem IsOpenUntil.lt_delay (hne : (c.driver.respond before d).delay ≠ some x) :
    ∀ y, (c.driver.respond before d).delay = some y → x < y := by
  intro y hy
  have hle : x ≤ y := Nat.le_of_add_le_add_left (hopen.1 y hy)
  exact Nat.lt_of_le_of_ne hle fun heq => hne (heq ▸ hy)

theorem IsOpenUntil.lt_limit (hne : c.limit? ctx d.time ≠ some x) :
    ∀ l, c.limit? ctx d.time = some l → x < l := by
  intro l hl
  have hle : x ≤ l := Nat.le_of_add_le_add_left (hopen.2 l hl)
  exact Nat.lt_of_le_of_ne hle fun heq => hne (heq ▸ hl)

end

section
variable {c ctx kind sql} {s : Session} (h : s.isCancelled ctx = false)
include h

/-- A statement that is over after `x` milliseconds, before anybody cancels the context but for its
driver in that very step, comes to its answer, or else it has run out of time. -/
theorem run_eq_over {x : Nat}
    (hopen : c.IsOpenUntil ctx s.dispatches ⟨s.now, kind, sql⟩ (s.now + x))
    (hothers : ∀ t ∈ s.cancelTimes ctx, s.now + x < t)
    (hown : ∀ y, (c.behaviour kind sql s).cancels = some y → x ≤ y)
    (hover : (c.behaviour kind sql s).delay ≠ some x → c.limit? ctx s.now = some x) :
    (c.run ctx kind sql s).1 = (c.behaviour kind sql s).over x := by
  have hbefore : ∀ t, s.cancelTime? ctx = some t → s.now + x < t :=
    fun t ht => hothers t (List.min?_mem ht)
  have hlast : ∀ y, (c.behaviour kind sql s).cancels = some y → s.now + x ≤ s.now + y :=
    fun y hy => Nat.add_le_add_left (hown y hy) s.now
  rw [c.run_fst ctx kind sql h, Behaviour.over]
  by_cases hdelay : (c.behaviour kind sql s).delay = some x
  · have hending : c.ending ctx kind sql s = some (s.now + x, .answered) :=
      settle_eq_answered_iff.mpr ⟨⟨x, hdelay, rfl⟩, hbefore, hopen.2, hlast⟩
    rw [hending, if_pos hdelay]
    rfl
  · have hlater : ∀ d, (c.behaviour kind sql s).delay = some d → s.now + x < s.now + d :=
      fun d hd => Nat.add_lt_add_left (hopen.lt_delay hdelay d hd) s.now
    have hending : c.ending ctx kind sql s = some (s.now + x, .timedOut x) :=
      settle_eq_timedOut_iff.mpr ⟨⟨hover hdelay, rfl⟩, hbefore, hlater, hlast⟩
    rw [hending, if_neg hdelay]
    rfl

theorem isCancelled_run {time : Nat} {e : Ending}
    (hending : c.ending ctx kind sql s = some (time, e)) :
    (c.run ctx kind sql s).2.isCancelled ctx =
      ((c.behaviour kind sql s).upTo ctx time s).isCancelled ctx := by
  obtain ⟨events, hrun⟩ := c.run_snd ctx kind sql h
  rw [hrun, hending]
  rfl

theorem isCancelled_run_of_cancelled {time : Nat}
    (hending : c.ending ctx kind sql s = some (time, .cancelled)) :
    (c.run ctx kind sql s).2.isCancelled ctx = true := by
  rw [isCancelled_run h hending]
  rcases settle_eq_cancelled_iff.mp hending with ⟨hcancel, -⟩ | ⟨⟨x, hx, rfl⟩, -⟩
  · refine Session.isCancelled_iff.mpr ⟨time, ?_, by simp⟩
    rw [Behaviour.cancelTimes_upTo]
    exact List.mem_append_left _ (List.min?_mem hcancel)
  · exact Behaviour.isCancelled_upTo hx (Nat.le_refl _)

/-- **A statement that is interrupted comes back as cancelled**, also if somebody else cancels the
context at the very moment at which the answer is there or the time is over. -/
theorem run_of_isInterrupted
    (hcut : c.IsInterrupted ctx s.dispatches ⟨s.now, kind, sql⟩ (s.cancelTimes ctx)) :
    (c.run ctx kind sql s).1 = .failed .cancelled ∧
      (c.run ctx kind sql s).2.isCancelled ctx = true := by
  obtain ⟨time, hending⟩ : ∃ time, c.ending ctx kind sql s = some (time, .cancelled) := by
    rcases hcut with ⟨t, ht, hanswer, hlimit⟩ | ⟨x, ⟨hown, hopen⟩, hdelay, hnow⟩
    · obtain ⟨first, hfirst, -, hle⟩ := Session.exists_cancelTime ht
      exact settle_cancelled hfirst (fun d hd => Nat.le_trans hle (hanswer d hd))
        fun l hl => Nat.le_trans hle (hlimit l hl)
    · exact settle_cancelled_of_own hown (hopen.lt_delay hdelay) (hopen.lt_limit hnow)
  refine ⟨?_, isCancelled_run_of_cancelled h hending⟩
  rw [c.run_fst ctx kind sql h, hending]
  rfl

section
variable {x : Nat} (hcancels : c.CancelsAfter ctx s.dispatches ⟨s.now, kind, sql⟩ x)
include hcancels

/-- **A driver that cancels the context** ends the waiting for its statement by that, however the
statement ends, and the context is cancelled then. -/
theorem run_of_cancelsAfter :
    (c.run ctx kind sql s).1 ≠ .never ∧ (c.run ctx kind sql s).2.now ≤ s.now + x ∧
      (c.run ctx kind sql s).2.isCancelled ctx = true := by
  obtain ⟨hown, hanswer, hlimit⟩ := hcancels
  obtain ⟨time, e, hending, hle⟩ : ∃ time e, c.ending ctx kind sql s = some (time, e) ∧
      time ≤ s.now + x := settle_by_own hown
  refine ⟨run_ne_never h hending, ?_, ?_⟩
  · rw [now_run h, hending]
    exact hle
  · cases e with
    | cancelled => exact isCancelled_run_of_cancelled h hending
    | answered =>
      obtain ⟨⟨d, hd, rfl⟩, -⟩ := settle_eq_answered_iff.mp hending
      rw [isCancelled_run h hending]
      exact Behaviour.isCancelled_upTo hown (hanswer d hd)
    | timedOut l =>
      obtain ⟨⟨hl, rfl⟩, -⟩ := settle_eq_timedOut_iff.mp hending
      rw [isCancelled_run h hending]
      exact Behaviour.isCancelled_upTo hown (hlimit l hl)

/-- If nothing interrupts the statement even so, then it is over in the step in which the driver
cancels the context, and ends as it would have without that. -/
theorem run_of_not_isInterrupted
    (hnot : ¬ c.IsInterrupted ctx s.dispatches ⟨s.now, kind, sql⟩ (s.cancelTimes ctx)) :
    (c.run ctx kind sql s).1 = (c.behaviour kind sql s).over x := by
  obtain ⟨hothers, hstep⟩ := not_or.mp hnot
  refine run_eq_over h hcancels.2 (fun t ht => ?_) (fun y hy => ?_) fun hdelay => ?_
  · by_contra hle
    have hle := Nat.le_of_not_lt hle
    exact hothers ⟨t, ht, fun d hd => Nat.le_trans hle (hcancels.2.1 d hd),
      fun l hl => Nat.le_trans hle (hcancels.2.2 l hl)⟩
  · exact Nat.le_of_eq (Option.some.inj (hcancels.1.symm.trans hy))
  · by_contra hlimit
    exact hstep ⟨x, hcancels, hdelay, hlimit⟩

end

end

end Client

end WarehouseAdmin
