import WarehouseAdmin.Session.Safe
import WarehouseAdmin.Proofs.Request.Refusal
import WarehouseAdmin.Proofs.Session.Sending

/-!
# Looking containers up, one after another

A walk does four things at once: it looks containers up, it logs what it finds, it collects errors
and it decides when to stop. Here these are taken apart. `lookUps` says what comes of looking up
*all* containers, each in the session that the one before left, without a thought of stopping; and
`upToEnd` cuts this list after the first look-up that shows its container to be missing, or that
never comes back. `walk_eq` says that a walk is just this: its errors, its verdict and what it hands
to the driver are read off the list that was cut.

The lines that a walk logs stand between its look-ups and not between those of `lookUps`; they drop
out because no look-up can tell the difference (`lookUps_log`).
-/

set_option autoImplicit false

namespace WarehouseAdmin

/-- The statement by which a container is looked up. -/
def Ancestor.statement : Ancestor → Except Error String
  | .schema id => render (ShowSchemas.forId id)
  | .database id => render (ShowDatabases.forId id)

/-- The statement is a request as any other. -/
theorem Ancestor.exists_request (a : Ancestor) : ∃ q : Request, a.statement = render q := by
  cases a with
  | schema id =>
    have h : render (ShowSchemas.forId id) = render (Request.showSchemas (.forId id)) :=
      render_congr rfl rfl
    exact ⟨_, h⟩
  | database id =>
    have h : render (ShowDatabases.forId id) = render (Request.showDatabases (.forId id)) :=
      render_congr rfl rfl
    exact ⟨_, h⟩

/-- A container that was looked up, what this came to, and what was handed to the driver for it. -/
structure LookUp where
  container : Ancestor
  outcome : Outcome Unit
  handed : List Dispatch

namespace LookUp

/-- The server knows no such container. -/
def isMissing (l : LookUp) : Bool :=
  match l.outcome with
  | .failed e => e.kind == .objectNotFound
  | _ => false

/-- The answer never comes. -/
def isEndless (l : LookUp) : Bool :=
  match l.outcome with
  | .never => true
  | _ => false

theorem isMissing_failed {a : Ancestor} {e : Error} {ds : List Dispatch} :
    isMissing ⟨a, .failed e, ds⟩ = (e.kind == .objectNotFound) := rfl

def error? (l : LookUp) : Option Error :=
  match l.outcome with
  | .failed e => some e
  | _ => none

/-- The errors of the look-up, taken apart if they are joined; none if the container was found. -/
def errors (l : LookUp) : List Error :=
  match l.outcome with
  | .failed e => e.errors
  | _ => []

end LookUp

/-- The look-ups up to and including the first that is missing or endless. -/
def upToEnd : List LookUp → List LookUp
  | [] => []
  | l :: rest => if l.isMissing || l.isEndless then [l] else l :: upToEnd rest

theorem flatMap_errors_filterMap (ls : List LookUp) :
    (ls.filterMap LookUp.error?).flatMap Error.errors = ls.flatMap LookUp.errors := by
  induction ls with
  | nil => rfl
  | cons l rest ih =>
    obtain ⟨container, outcome, handed⟩ := l
    cases outcome with
    | failed e => exact congrArg (e.errors ++ ·) ih
    | _ => exact ih

theorem upToEnd_of_missing {l : LookUp} (h : l.isMissing = true) (ls : List LookUp) :
    upToEnd (l :: ls) = [l] := by
  rw [upToEnd, h]
  rfl

theorem upToEnd_of_endless {l : LookUp} (h : l.isEndless = true) (ls : List LookUp) :
    upToEnd (l :: ls) = [l] := by
  rw [upToEnd, h, Bool.or_true]
  rfl

theorem upToEnd_of_going_on {l : LookUp} (hmissing : l.isMissing = false)
    (hendless : l.isEndless = false) (ls : List LookUp) : upToEnd (l :: ls) = l :: upToEnd ls := by
  rw [upToEnd, hmissing, hendless]
  rfl

namespace Client

/-- Looks all containers up, each in the session that the one before left. -/
def lookUps (c : Client) (ctx : Context) : List Ancestor → Session → List LookUp
  | [], _ => []
  | a :: rest, s =>
    ⟨a, (c.probe ctx a s).1, handedOver ctx .query a.statement s⟩ ::
      c.lookUps ctx rest (c.probe ctx a s).2

open Operation

variable (c : Client) (ctx : Context)

/-! ## One look-up -/

theorem isSingle_of_validate_forSchema {id : DatabaseObjectId} {e : Error}
    (h : validate (ShowSchemas.forId id) = .error e) : e.IsSingle := by
  have hfailures : Validate.failures (ShowSchemas.forId id) =
      nested (validate (Ancestor.place (.database id.databaseId))) := by
    show nested _ ++ [] = _
    rw [List.append_nil]
    rfl
  rw [validate, hfailures, validate, Ancestor.failures_place] at h
  cases hvalid : (Ancestor.database id.databaseId).isValid with
  | true =>
    rw [hvalid] at h
    exact absurd h (by simp [validId, nested, conclude, Error.join])
  | false =>
    rw [hvalid] at h
    obtain rfl : .invalidIdentifier (.invalidField "In" "database") = e := Except.error.inj h
    trivial

theorem isSingle_of_render {R : Type} [Clause R] [Validate R] {request : R}
    (hvalidate : ∀ e, validate request = .error e → e.IsSingle) {e : Error}
    (h : render request = .error e) : e.IsSingle := by
  rcases cases_of_render h with hv | ⟨x, rfl⟩
  · exact hvalidate e hv
  · trivial

theorem isSingle_of_statement {a : Ancestor} {e : Error} (h : a.statement = .error e) :
    e.IsSingle := by
  cases a with
  | schema id =>
    have hshow : ∀ x, validate (ShowSchemas.forId id) = .error x → x.IsSingle := fun _ =>
      isSingle_of_validate_forSchema
    exact isSingle_of_render hshow h
  | database id =>
    have hvalid : validate (ShowDatabases.forId id) = .ok () := rfl
    have hshow : ∀ x, validate (ShowDatabases.forId id) = .error x → x.IsSingle := fun x hx =>
      absurd (hvalid.symm.trans hx) (by simp)
    exact isSingle_of_render hshow h

section
variable {α Id Show : Type} [OfRow α] [Identified α Id] [Listed α Id Show] [Clause Show]
  [Validate Show] [DecidableEq Id]

/-- An object can be looked up only to learn whether it is there. -/
theorem sends_presence (id : Id) :
    ((c.find α ctx id).andThen fun _ => result ()).Sends c ctx .query
      (render (Listed.showFor α id)) fun _ r => ∀ e, r = .error e → e.IsSingle ∧ e.IsLocal := by
  refine (c.sends_find ctx id).andThen (f := fun _ => .ok ()) fun _ r h e he => ?_
  cases r with
  | ok a => exact nomatch he
  | error x =>
    obtain rfl : x = e := Except.error.inj he
    exact ⟨h.isSingle, h.isLocal⟩

end

/-- **A look-up is one statement.** -/
theorem sends_probe (a : Ancestor) : (c.probe ctx a).Sends c ctx .query a.statement fun _ r =>
    ∀ e, r = .error e → e.IsSingle ∧ e.IsLocal := by
  cases a with
  | schema id => exact c.sends_presence (α := Schema) ctx id
  | database id => exact c.sends_presence (α := Database) ctx id

/-- A look-up fails with a single error. -/
theorem failsWith_probe (a : Ancestor) : (c.probe ctx a).FailsWith Error.IsSingle :=
  (c.sends_probe ctx a).failsWith (fun _ => isSingle_of_statement) fun _ e h => (h e rfl).1

theorem ignoresLog_probe (a : Ancestor) : (c.probe ctx a).IgnoresLog :=
  (c.sends_probe ctx a).ignoresLog

theorem handsOver_probe (a : Ancestor) : (c.probe ctx a).HandsOver ctx .query a.statement :=
  (c.sends_probe ctx a).handsOver

/-- The look-ups do not depend on what was logged before. -/
theorem lookUps_log (as : List Ancestor) (s : Session) (events : List Event) :
    c.lookUps ctx as { s with events } = c.lookUps ctx as s := by
  induction as generalizing s events with
  | nil => rfl
  | cons a rest ih =>
    obtain ⟨events', h⟩ := c.ignoresLog_probe ctx a s events
    rw [lookUps, lookUps, h, ih]
    rfl

/-! ## The steps of a walk -/

section
variable {c ctx}
variable {id : Identifier} {a : Ancestor} {rest : List Ancestor} {s s₁ : Session} {e : Error}

theorem walk_exists (h : c.probe ctx a s = (.done (), s₁)) :
    c.walk ctx id (a :: rest) s = c.walk ctx id rest (s₁.log .ancestorExists) := by
  rw [walk, bind_eq, andThen, attempt, h]
  rfl

theorem walk_missing (h : c.probe ctx a s = (.failed e, s₁)) (he : e.is .objectNotFound = true) :
    c.walk ctx id (a :: rest) s =
      (.done { errors := [e], missing := true }, s₁.log (.ancestorMissing id.qualifiedName)) := by
  rw [walk, bind_eq, andThen, attempt, h]
  simp only [he]
  rfl

theorem walk_failed (h : c.probe ctx a s = (.failed e, s₁)) (he : e.is .objectNotFound = false) :
    c.walk ctx id (a :: rest) s =
      (c.walk ctx id rest).andThen (fun w => result (w.after e)) s₁ := by
  rw [walk, bind_eq, andThen, attempt, h]
  simp only [he]
  rfl

/-- After an error that does not end it, a walk goes on, and adds the error to those of the rest. -/
theorem walk_failed_snd (h : c.probe ctx a s = (.failed e, s₁))
    (he : e.is .objectNotFound = false) :
    (c.walk ctx id (a :: rest) s).2 = (c.walk ctx id rest s₁).2 := by
  rw [walk_failed h he, andThen]
  rcases c.walk ctx id rest s₁ with ⟨_ | _ | _, s₂⟩ <;> rfl

theorem walk_failed_eq_done (h : c.probe ctx a s = (.failed e, s₁))
    (he : e.is .objectNotFound = false) {w : Walk} :
    (c.walk ctx id (a :: rest) s).1 = .done w ↔
      ∃ w', (c.walk ctx id rest s₁).1 = .done w' ∧ w'.after e = w := by
  rw [walk_failed h he, andThen]
  rcases c.walk ctx id rest s₁ with ⟨_ | _ | _, s₂⟩ <;> simp [result]

theorem walk_never (h : c.probe ctx a s = (.never, s₁)) :
    c.walk ctx id (a :: rest) s = (.never, s₁) := by
  rw [walk, bind_eq, andThen, attempt, h]

end

/-! ## The whole walk -/

/-- What a walk comes to, read off its look-ups. -/
def verdict (ls : List LookUp) : Outcome Walk :=
  if ls.any LookUp.isEndless then .never
  else .done { errors := ls.filterMap LookUp.error?, missing := ls.any LookUp.isMissing }

/-- An error that does not end the walk is put before those of the rest. -/
theorem verdict_cons_failed {l : LookUp} {ls : List LookUp} {e : Error} (h : l.outcome = .failed e)
    (hmissing : l.isMissing = false) :
    verdict (l :: ls) =
      match verdict ls with
      | .done w => .done (w.after e)
      | .failed x => .failed x
      | .never => .never := by
  have hendless : l.isEndless = false := by rw [LookUp.isEndless, h]
  have herror : l.error? = some e := by rw [LookUp.error?, h]
  unfold verdict
  rw [List.any_cons, List.any_cons, hendless, hmissing, List.filterMap_cons, herror]
  cases ls.any LookUp.isEndless <;> rfl

/-- **A walk is its look-ups, up to the end.** -/
theorem walk_eq (id : Identifier) (as : List Ancestor) (s : Session) :
    (c.walk ctx id as s).1 = verdict (upToEnd (c.lookUps ctx as s)) ∧
      (c.walk ctx id as s).2.dispatches =
        s.dispatches ++ (upToEnd (c.lookUps ctx as s)).flatMap LookUp.handed := by
  induction as generalizing s with
  | nil => exact ⟨rfl, (List.append_nil s.dispatches).symm⟩
  | cons a rest ih =>
    have hhanded := c.handsOver_probe ctx a s
    rcases hprobe : c.probe ctx a s with ⟨outcome, s₁⟩
    rw [hprobe] at hhanded
    rw [lookUps, hprobe]
    cases outcome with
    | done _ =>
      -- A line is logged before the walk goes on; the look-ups behind it cannot tell.
      obtain ⟨hverdict, hdispatches⟩ := ih (s₁.log .ancestorExists)
      have hls : c.lookUps ctx rest (s₁.log .ancestorExists) = c.lookUps ctx rest s₁ :=
        c.lookUps_log ctx rest s₁ _
      rw [hls] at hverdict hdispatches
      rw [walk_exists hprobe, upToEnd_of_going_on rfl rfl, hverdict, hdispatches]
      refine ⟨rfl, ?_⟩
      show s₁.dispatches ++ _ = _
      rw [hhanded, List.append_assoc]
      rfl
    | failed e =>
      have hsingle : e.IsSingle := c.failsWith_probe ctx a s e (by rw [hprobe])
      -- The walk asks for a kind that the error has or contains. A single error contains no other.
      have his := hsingle.is_eq .objectNotFound
      cases hkind : e.kind == .objectNotFound with
      | true =>
        rw [walk_missing hprobe (his.trans hkind),
          upToEnd_of_missing (LookUp.isMissing_failed.trans hkind)]
        refine ⟨?_, ?_⟩
        · simp [verdict, LookUp.isEndless, LookUp.error?, LookUp.isMissing, hkind]
        · show s₁.dispatches = _
          rw [hhanded, List.flatMap_singleton]
      | false =>
        obtain ⟨hverdict, hdispatches⟩ := ih s₁
        rw [walk_failed hprobe (his.trans hkind),
          upToEnd_of_going_on (LookUp.isMissing_failed.trans hkind) rfl,
          verdict_cons_failed rfl (LookUp.isMissing_failed.trans hkind), ← hverdict,
          List.flatMap_cons, ← List.append_assoc, ← hhanded, ← hdispatches]
        rcases hrest : c.walk ctx id rest s₁ with ⟨outcome, s₂⟩
        cases outcome with
        | done w => rw [andThen_done hrest]; exact ⟨rfl, rfl⟩
        | failed x => rw [andThen_failed hrest]; exact ⟨rfl, rfl⟩
        | never => rw [andThen_never hrest]; exact ⟨rfl, rfl⟩
    | never =>
      rw [walk_never hprobe, upToEnd_of_endless rfl]
      refine ⟨rfl, ?_⟩
      show s₁.dispatches = _
      rw [hhanded, List.flatMap_singleton]

/-! ## The error that explains another -/

theorem flatMap_errors_cons {e : Error} (he : e.IsSingle) (es : List Error) :
    (e :: es).flatMap Error.errors = e :: es.flatMap Error.errors := by
  rw [List.flatMap_cons, he.errors_eq]
  rfl

/-- An explained error lists the error itself, and then those of the walk, taken apart. -/
theorem errors_explained {e : Error} (he : e.IsSingle) (w : Walk) :
    (explained e w).errors = e :: w.errors.flatMap Error.errors := by
  rw [explained, Error.join, flatMap_errors_cons he]
  cases w.errors.flatMap Error.errors with
  | nil => exact he.errors_eq
  | cons x rest => rfl

/-- Where the walk has no errors, there is nothing to join. -/
theorem explained_eq_self {e : Error} (he : e.IsSingle) {w : Walk}
    (hw : w.errors.flatMap Error.errors = []) : explained e w = e := by
  rw [explained, Error.join, flatMap_errors_cons he, hw]
  rfl

end Client

end WarehouseAdmin
