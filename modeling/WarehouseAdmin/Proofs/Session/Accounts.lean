import WarehouseAdmin.Proofs.Session.Asked
import WarehouseAdmin.Proofs.Session.Reach
import WarehouseAdmin.Proofs.Session.Safely
import WarehouseAdmin.Proofs.Session.Drop

/-!
# What operations do and what they report

Two things are shown of everything that a client can be asked for, along the way in which operations
are composed. An operation does to a session what a client does, and if it never ends, it ends in the
waiting for a statement (`Operation.Runs`). And of the errors that it reports, those that are not
found by the client itself are errors of statements on its way (`Operation.Accounts`), however many
of them are joined.
-/

set_option autoImplicit false

namespace WarehouseAdmin

/-! ## On the way -/

namespace Client

/-- On the way from `s` to `s'`, a statement has come to `outcome`. -/
def Meets (c : Client) (ctx : Context) (s s' : Session) (outcome : Outcome Answer) : Prop :=
  ∃ s₁ kind sql, c.Reaches ctx s s₁ ∧ (c.run ctx kind sql s₁).1 = outcome ∧
    c.Reaches ctx (c.run ctx kind sql s₁).2 s'

/-- From `s` the client has come to wait for a statement, in `s'`, that never ends. -/
def Sticks (c : Client) (ctx : Context) (s s' : Session) : Prop :=
  ∃ s₁ kind sql, c.Reaches ctx s s₁ ∧ c.run ctx kind sql s₁ = (.never, s')

/-- An error that comes of what happens from `s` to `s'`: the remote ones of those that are joined in
it are errors of statements on the way. -/
def IsExplained (c : Client) (ctx : Context) (s s' : Session) (e : Error) : Prop :=
  ∀ x ∈ e.errors, x.IsSingle ∧ (x.kind.isRemote = true → c.Meets ctx s s' (.failed x))

variable {c : Client} {ctx : Context} {s s₁ s₂ : Session} {e : Error} {outcome : Outcome Answer}

theorem Meets.after (h : c.Reaches ctx s s₁) (hm : c.Meets ctx s₁ s₂ outcome) :
    c.Meets ctx s s₂ outcome := by
  obtain ⟨s', kind, sql, hreach, hrun, hrest⟩ := hm
  exact ⟨s', kind, sql, h.trans hreach, hrun, hrest⟩

theorem Meets.before (hm : c.Meets ctx s s₁ outcome) (h : c.Reaches ctx s₁ s₂) :
    c.Meets ctx s s₂ outcome := by
  obtain ⟨s', kind, sql, hreach, hrun, hrest⟩ := hm
  exact ⟨s', kind, sql, hreach, hrun, hrest.trans h⟩

theorem Sticks.after (h : c.Reaches ctx s s₁) (hm : c.Sticks ctx s₁ s₂) : c.Sticks ctx s s₂ := by
  obtain ⟨s', kind, sql, hreach, hrun⟩ := hm
  exact ⟨s', kind, sql, h.trans hreach, hrun⟩

theorem IsExplained.after (h : c.Reaches ctx s s₁) (he : c.IsExplained ctx s₁ s₂ e) :
    c.IsExplained ctx s s₂ e :=
  fun x hx => ⟨(he x hx).1, fun hk => ((he x hx).2 hk).after h⟩

theorem IsExplained.before (he : c.IsExplained ctx s s₁ e) (h : c.Reaches ctx s₁ s₂) :
    c.IsExplained ctx s s₂ e :=
  fun x hx => ⟨(he x hx).1, fun hk => ((he x hx).2 hk).before h⟩

theorem isExplained_of_isLocal (he : e.IsLocal) : c.IsExplained ctx s s₁ e := by
  intro x hx
  refine ⟨he.isFlat.errors_single x hx, fun hk => ?_⟩
  exact absurd (hk.symm.trans (he.notRemote x hx)) (by simp)

/-- A statement that fails is met, with its one error. -/
theorem isExplained_of_run {kind : StatementKind} {sql : String}
    (h : (c.run ctx kind sql s).1 = .failed e) :
    c.IsExplained ctx s (c.run ctx kind sql s).2 e := by
  have hsingle : e.IsSingle := c.failsWith_run ctx kind sql s e h
  intro x hx
  rw [hsingle.errors_eq, List.mem_singleton] at hx
  rw [hx]
  exact ⟨hsingle, fun _ => ⟨s, kind, sql, .start, h, .start⟩⟩

end Client

namespace Operation

variable {c : Client} {ctx : Context} {α β : Type}

/-- The operation does nothing to a session but what a client does. -/
structure Runs (c : Client) (ctx : Context) (op : Operation α) : Prop where
  reaches : ∀ s, c.Reaches ctx s (op s).2
  sticks : ∀ s, (op s).1 = .never → c.Sticks ctx s (op s).2

theorem runs_result (a : α) : (result a).Runs c ctx := ⟨fun _ => .start, fun _ => nofun⟩

theorem runs_fail (e : Error) : (fail e : Operation α).Runs c ctx := ⟨fun _ => .start, fun _ => nofun⟩

theorem runs_ofExcept (r : Except Error α) : (ofExcept r).Runs c ctx := by
  cases r with
  | ok a => exact runs_result a
  | error e => exact runs_fail e

theorem runs_log (e : Event) : (Operation.log e).Runs c ctx :=
  ⟨fun _ => Client.Reaches.start.log e, fun _ => nofun⟩

theorem runs_run (kind : StatementKind) (sql : String) : (c.run ctx kind sql).Runs c ctx :=
  ⟨fun _ => Client.Reaches.start.run kind sql, fun s h => ⟨s, kind, sql, .start, Prod.ext h rfl⟩⟩

theorem Runs.andThen {op : Operation α} {next : α → Operation β} (hop : op.Runs c ctx)
    (hnext : ∀ a, (next a).Runs c ctx) : (op.andThen next).Runs c ctx := by
  have h : ∀ s, c.Reaches ctx s (op.andThen next s).2 ∧
      ((op.andThen next s).1 = .never → c.Sticks ctx s (op.andThen next s).2) := by
    intro s
    have hreach := hop.reaches s
    have hsticks := hop.sticks s
    rcases hs : op s with ⟨outcome, s₁⟩
    rw [hs] at hreach hsticks
    cases outcome with
    | done a =>
      rw [andThen_done hs]
      exact ⟨hreach.trans ((hnext a).reaches s₁),
        fun hnever => ((hnext a).sticks s₁ hnever).after hreach⟩
    | failed e =>
      rw [andThen_failed hs]
      exact ⟨hreach, nofun⟩
    | never =>
      rw [andThen_never hs]
      exact ⟨hreach, fun _ => hsticks rfl⟩
  exact ⟨fun s => (h s).1, fun s => (h s).2⟩

theorem Runs.attempt {op : Operation α} (hop : op.Runs c ctx) : op.attempt.Runs c ctx := by
  have h : ∀ s, c.Reaches ctx s (op.attempt s).2 ∧
      ((op.attempt s).1 = .never → c.Sticks ctx s (op.attempt s).2) := by
    intro s
    have hreach := hop.reaches s
    have hsticks := hop.sticks s
    unfold Operation.attempt
    rcases hs : op s with ⟨outcome, s₁⟩
    rw [hs] at hreach hsticks
    cases outcome with
    | done a => exact ⟨hreach, nofun⟩
    | failed e => exact ⟨hreach, nofun⟩
    | never => exact ⟨hreach, fun _ => hsticks rfl⟩
  exact ⟨fun s => (h s).1, fun s => (h s).2⟩

theorem Sends.runs {op : Operation α} {kind : StatementKind} {statement : Except Error String}
    {means : Answer → Except Error α → Prop} (h : op.Sends c ctx kind statement means) :
    op.Runs c ctx := by
  obtain ⟨read, -, rfl⟩ := h
  refine (runs_ofExcept statement).andThen fun sql => ?_
  exact (runs_run kind sql).andThen fun a => runs_ofExcept (read a)

end Operation

namespace Client

open Operation

section
variable (c : Client) (ctx : Context) {α : Type}

theorem runs_probe (a : Ancestor) : (c.probe ctx a).Runs c ctx := (c.sends_probe ctx a).runs

theorem runs_walk (id : Identifier) (as : List Ancestor) : (c.walk ctx id as).Runs c ctx := by
  induction as with
  | nil => exact runs_result _
  | cons a rest ih =>
    refine (c.runs_probe ctx a).attempt.andThen fun r => ?_
    cases r with
    | ok _ => exact (runs_log _).andThen fun _ => ih
    | error e =>
      dsimp only
      split
      · exact (runs_log _).andThen fun _ => runs_result _
      · exact ih.andThen fun w => runs_result _

/-! ## The two safe operations, case by case -/

/-- A safe look-up is the look-up, or the look-up is ambiguous and the containers are gone through. -/
theorem safely_cases (id : Identifier) (find : Operation α) (s : Session) :
    c.safely ctx id find s = find s ∨
      ∃ e s₁, find s = (.failed e, s₁) ∧ e.IsSingle ∧ e.kind.isRemote = true ∧ e ≠ .cancelled ∧
        c.safely ctx id find s =
          (c.walk ctx id id.ancestors).andThen (fun w => fail (explained e w)) s₁ := by
  by_cases h : ∀ e, (find s).1 = .failed e → isAmbiguous e.kind = false
  · exact .inl (safely_eq_find h)
  · simp only [Classical.not_forall, Bool.not_eq_false] at h
    obtain ⟨e, hfailed, he⟩ := h
    have hfind : find s = (.failed e, (find s).2) := Prod.ext hfailed rfl
    refine .inr ⟨e, _, hfind, isSingle_of_isAmbiguous he, ?_, ?_, safely_walk hfind he⟩
    · rcases isAmbiguous_iff.mp he with hk | hk <;> rw [hk] <;> rfl
    · rintro rfl
      exact nomatch he

/-- A safe drop is the drop, or the drop is ambiguous and the containers are gone through. -/
theorem dropSafely_cases (id : Identifier) (drop : Operation Unit) (s : Session) :
    c.dropSafely ctx id drop s = drop s ∨
      ∃ e s₁, drop s = (.failed e, s₁) ∧ e.IsSingle ∧ e.kind.isRemote = true ∧ e ≠ .cancelled ∧
        c.dropSafely ctx id drop s =
          (c.walk ctx id id.ancestors).andThen
            (fun w => if w.missing then Operation.log (.dropSkipped id.qualifiedName)
              else fail (explained e w)) s₁ := by
  by_cases h : ∀ e, (drop s).1 = .failed e → e.kind ≠ .notExistOrNotAuthorized
  · exact .inl (dropSafely_eq_drop h)
  · simp only [Classical.not_forall, Classical.not_not] at h
    obtain ⟨e, hfailed, he⟩ := h
    have hdrop : drop s = (.failed e, (drop s).2) := Prod.ext hfailed rfl
    refine .inr ⟨e, _, hdrop, Error.isSingle_of_kind_ne (by rw [he]; decide), ?_, ?_,
      dropSafely_walk hdrop he⟩
    · rw [he]
      rfl
    · rintro rfl
      exact nomatch he

/-- A walk never fails: the errors on its way are what it comes to. -/
theorem walk_cases (id : Identifier) (as : List Ancestor) (s : Session) :
    (∃ w, (c.walk ctx id as s).1 = .done w) ∨ (c.walk ctx id as s).1 = .never := by
  rw [(c.walk_eq ctx id as s).1]
  unfold verdict
  split
  · exact .inr rfl
  · exact .inl ⟨_, rfl⟩

end

section
variable {c : Client} {ctx : Context} {α : Type} {s : Session} {e : Error}

/-- What fails after a walk, fails in what is done with what the walk came to. -/
theorem failed_of_walk_andThen {id : Identifier} {as : List Ancestor} {next : Walk → Operation α}
    (h : ((c.walk ctx id as).andThen next s).1 = .failed e) :
    ∃ w s₁, c.walk ctx id as s = (.done w, s₁) ∧
      (c.walk ctx id as).andThen next s = next w s₁ := by
  have hended := c.walk_cases ctx id as s
  rcases hwalk : c.walk ctx id as s with ⟨outcome, s₁⟩
  rw [hwalk] at hended
  cases outcome with
  | done w => exact ⟨w, s₁, rfl, andThen_done hwalk⟩
  | failed x => exact absurd hended (by simp)
  | never =>
    rw [andThen_never hwalk] at h
    exact nomatch h

/-- Of the two things that a safe drop does with a walk, only the explaining fails. -/
theorem failed_of_skipped_or_explained {w : Walk} {skipped : Event} {e' : Error}
    (h : ((if w.missing then Operation.log skipped else fail (explained e w)) s).1 = .failed e') :
    e' = explained e w ∧
      ((if w.missing then Operation.log skipped else fail (explained e w)) s).2 = s := by
  by_cases hmissing : w.missing = true
  · rw [if_pos hmissing] at h
    exact nomatch h
  · rw [if_neg hmissing] at h ⊢
    exact ⟨(Outcome.failed.inj h).symm, rfl⟩

end

theorem Composed.runs {c : Client} {ctx : Context} {α : Type} {op : Operation α}
    (h : c.Composed ctx op) : op.Runs c ctx := by
  induction h with
  | statement kind _ _ => exact (sends_statement kind _ _).runs
  | safely id _ ih =>
    refine ih.attempt.andThen fun r => ?_
    cases r with
    | ok a => exact runs_result a
    | error e =>
      dsimp only
      split
      · exact (c.runs_walk ctx id _).andThen fun w => runs_fail _
      · exact runs_fail e
  | dropSafely id _ ih =>
    refine ih.attempt.andThen fun r => ?_
    cases r with
    | ok a => exact runs_result a
    | error e =>
      dsimp only
      split
      · refine (c.runs_walk ctx id _).andThen fun w => ?_
        split
        · exact runs_log _
        · exact runs_fail _
      · exact runs_fail e
  | map f _ ih => exact ih.andThen fun a => runs_result _

end Client

/-! ## The errors that are reported -/

namespace Operation

variable {c : Client} {ctx : Context} {α β : Type}

/-- The errors of the operation are explained by what it does. -/
def Accounts (c : Client) (ctx : Context) (op : Operation α) : Prop :=
  ∀ s e, (op s).1 = .failed e → c.IsExplained ctx s (op s).2 e

theorem accounts_ofExcept {r : Except Error α} (h : ∀ e, r = .error e → e.IsLocal) :
    (ofExcept r).Accounts c ctx := by
  intro s e he
  cases r with
  | ok a => exact nomatch he
  | error x =>
    obtain rfl : x = e := Outcome.failed.inj he
    exact Client.isExplained_of_isLocal (h x rfl)

theorem accounts_run (kind : StatementKind) (sql : String) : (c.run ctx kind sql).Accounts c ctx :=
  fun _ _ h => Client.isExplained_of_run h

theorem Accounts.andThen {op : Operation α} {next : α → Operation β} (hop : op.Accounts c ctx)
    (hruns : op.Runs c ctx) (hnext : ∀ a, (next a).Accounts c ctx) :
    (op.andThen next).Accounts c ctx := by
  intro s e he
  have hreach := hruns.reaches s
  rcases hs : op s with ⟨outcome, s₁⟩
  rw [hs] at hreach
  cases outcome with
  | done a =>
    rw [andThen_done hs] at he ⊢
    exact (hnext a s₁ e he).after hreach
  | failed x =>
    rw [andThen_failed hs] at he ⊢
    obtain rfl : x = e := Outcome.failed.inj he
    have hx := hop s x (by rw [hs])
    rwa [hs] at hx
  | never =>
    rw [andThen_never hs] at he
    exact nomatch he

/-- What one statement fails with is its own error, or was found before it was sent or in its
answer. -/
theorem Sends.accounts {op : Operation α} {kind : StatementKind} {statement : Except Error String}
    {means : Answer → Except Error α → Prop} (h : op.Sends c ctx kind statement means)
    (hstatement : ∀ e, statement = .error e → e.IsLocal)
    (hmeans : ∀ a e, means a (.error e) → e.IsLocal) : op.Accounts c ctx := by
  obtain ⟨read, hread, rfl⟩ := h
  refine (accounts_ofExcept hstatement).andThen (runs_ofExcept statement) fun sql => ?_
  refine (accounts_run kind sql).andThen (runs_run kind sql) fun a => accounts_ofExcept ?_
  intro e he
  exact hmeans a e (he ▸ hread a)

end Operation

namespace Client

open Operation

theorem accounts_probe (c : Client) (ctx : Context) (a : Ancestor) :
    (c.probe ctx a).Accounts c ctx := by
  refine (c.sends_probe ctx a).accounts (fun e he => ?_) fun _ e h => (h e rfl).2
  obtain ⟨q, hq⟩ := a.exists_request
  exact Request.isLocal_of_render (hq.symm.trans he)

section
variable {c : Client} {ctx : Context} {α : Type} {s s₁ : Session} {e : Error}

/-- The errors that a walk collects are those of its look-ups. The induction is over the containers,
with one case for each way in which a look-up can end. -/
theorem isExplained_of_walk {id : Identifier} {as : List Ancestor} {w : Walk}
    (h : (c.walk ctx id as s).1 = .done w) :
    ∀ e ∈ w.errors, c.IsExplained ctx s (c.walk ctx id as s).2 e := by
  induction as generalizing s w with
  | nil =>
    obtain rfl : ({} : Walk) = w := Outcome.done.inj h
    exact fun e he => absurd he (by simp)
  | cons a rest ih =>
    have hreach := (c.runs_probe ctx a).reaches s
    have haccounts := c.accounts_probe ctx a s
    rcases hprobe : c.probe ctx a s with ⟨outcome, s₁⟩
    rw [hprobe] at hreach haccounts
    cases outcome with
    | done _ =>
      rw [walk_exists hprobe] at h ⊢
      exact fun e he => (ih h e he).after (hreach.log _)
    | never =>
      rw [walk_never hprobe] at h
      exact nomatch h
    | failed x =>
      have hx := haccounts x rfl
      cases hmissing : x.is .objectNotFound with
      | true =>
        rw [walk_missing hprobe hmissing] at h ⊢
        obtain rfl := Outcome.done.inj h
        intro e he
        rw [List.mem_singleton.mp he]
        exact hx.before (Reaches.start.log _)
      | false =>
        obtain ⟨w', hw', rfl⟩ := (walk_failed_eq_done hprobe hmissing).mp h
        rw [walk_failed_snd hprobe hmissing]
        intro e he
        rcases List.mem_cons.mp he with rfl | he
        · exact hx.before ((c.runs_walk ctx id rest).reaches s₁)
        · exact (ih hw' e he).after hreach

theorem isExplained_explained (hsingle : e.IsSingle) (he : c.IsExplained ctx s s₁ e) {w : Walk}
    (hw : ∀ x ∈ w.errors, c.IsExplained ctx s s₁ x) : c.IsExplained ctx s s₁ (explained e w) := by
  intro x hx
  rw [errors_explained hsingle] at hx
  rcases List.mem_cons.mp hx with rfl | hx
  · exact he x (by rw [hsingle.errors_eq]; exact List.mem_singleton_self x)
  · obtain ⟨y, hy, hxy⟩ := List.mem_flatMap.mp hx
    exact hw y hy x hxy

/-- What is done with the walk after an operation that failed: its errors explain the failure. -/
theorem isExplained_of_andThen_walk {op : Operation α} (hruns : op.Runs c ctx)
    (haccounts : op.Accounts c ctx) (hop : op s = (.failed e, s₁)) (hsingle : e.IsSingle)
    {id : Identifier} {next : Walk → Operation α} {e' : Error}
    (hnext : ∀ w s₂, (next w s₂).1 = .failed e' → e' = explained e w ∧ (next w s₂).2 = s₂)
    (h : ((c.walk ctx id id.ancestors).andThen next s₁).1 = .failed e') :
    c.IsExplained ctx s ((c.walk ctx id id.ancestors).andThen next s₁).2 e' := by
  have hreach := hruns.reaches s
  have hexplained := haccounts s e (by rw [hop])
  rw [hop] at hreach hexplained
  obtain ⟨w, s₂, hwalk, hrest⟩ := failed_of_walk_andThen h
  rw [hrest] at h ⊢
  obtain ⟨rfl, hs₂⟩ := hnext w s₂ h
  have hway := (c.runs_walk ctx id id.ancestors).reaches s₁
  have herrors := isExplained_of_walk (congrArg Prod.fst hwalk)
  rw [hwalk] at hway herrors
  rw [hs₂]
  exact isExplained_explained hsingle (hexplained.before hway) fun x hx => (herrors x hx).after hreach

/-- **Every error that is reported is explained**, whatever is asked for. -/
theorem Composed.accounts {op : Operation α} (h : c.Composed ctx op) : op.Accounts c ctx := by
  induction h with
  | statement kind hsql hread =>
    exact (sends_statement kind _ _).accounts hsql fun a e he => hread a e he.symm
  | @safely α find id hfind ih =>
    intro s e' he'
    rcases c.safely_cases ctx id find s with hs | ⟨e, s₁, hop, hsingle, -, -, hs⟩
    · rw [hs] at he' ⊢
      exact ih s e' he'
    · rw [hs] at he' ⊢
      refine isExplained_of_andThen_walk hfind.runs ih hop hsingle ?_ he'
      intro w s₂ h
      exact ⟨(Outcome.failed.inj h).symm, rfl⟩
  | @dropSafely drop id hdrop ih =>
    intro s e' he'
    rcases c.dropSafely_cases ctx id drop s with
      hs | ⟨e, s₁, hop, hsingle, -, -, hs⟩
    · rw [hs] at he' ⊢
      exact ih s e' he'
    · rw [hs] at he' ⊢
      refine isExplained_of_andThen_walk hdrop.runs ih hop hsingle ?_ he'
      exact fun w s₂ => failed_of_skipped_or_explained
  | map f hop ih =>
    refine ih.andThen hop.runs fun a => ?_
    intro s e he
    exact nomatch he

end

end Client

end WarehouseAdmin
