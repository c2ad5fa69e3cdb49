import WarehouseAdmin.Session.Script
import WarehouseAdmin.Proofs.Session.Walk

/-!
# Dropping objects that may be gone

A drop that fails because the object does not exist or may not be seen is looked into: if a
container of the object turns out to be missing, the object is gone with it and the drop counts as
done. The main statement `dropSafely_exact` says what this comes to, for every identifier, every
drop and every driver, in terms of the drop alone and of the look-ups behind it (`lookUpsAfter`):
when it is done, when it fails and with which errors, when it waits for ever, and what the driver
gets to see.

A drop that is done and one that waits for ever are never read off the same look-ups. This rests on
`upToEnd`, which keeps a missing container only as the last of all.
-/

set_option autoImplicit false

namespace WarehouseAdmin

/-- A missing container ends the look-ups, so that none of them is endless. -/
theorem not_endless_of_missing {ls : List LookUp} (h : ∃ l ∈ upToEnd ls, l.isMissing = true) :
    (upToEnd ls).any LookUp.isEndless = false := by
  induction ls with
  | nil => rfl
  | cons l rest ih =>
    cases hmissing : l.isMissing with
    | true =>
      have hendless : l.isEndless = false := by
        obtain ⟨container, outcome, handed⟩ := l
        cases outcome with
        | failed e => rfl
        | _ => exact absurd hmissing (by simp [LookUp.isMissing])
      rw [upToEnd_of_missing hmissing, List.any_cons, hendless]
      rfl
    | false =>
      cases hendless : l.isEndless with
      | true =>
        rw [upToEnd_of_endless hendless] at h
        obtain ⟨x, hx, hmiss⟩ := h
        rw [List.mem_singleton.mp hx, hmissing] at hmiss
        exact absurd hmiss (by simp)
      | false =>
        rw [upToEnd_of_going_on hmissing hendless] at h ⊢
        obtain ⟨x, hx, hmiss⟩ := h
        rcases List.mem_cons.mp hx with rfl | hx
        · exact absurd (hmissing.symm.trans hmiss) (by simp)
        · rw [List.any_cons, hendless, ih ⟨x, hx, hmiss⟩]
          rfl

namespace Client

open Operation

variable (c : Client) (ctx : Context)

/-- The look-ups that are made once a drop has come to an end, in the session that it left: none at
all, unless it failed because the object does not exist or may not be seen. -/
def lookUpsAfter (id : Identifier) : Outcome Unit × Session → List LookUp
  | (.failed e, s) =>
    if e.kind = .notExistOrNotAuthorized then upToEnd (c.lookUps ctx id.ancestors s) else []
  | (.done _, _) | (.never, _) => []

/-! ## The steps of a drop -/

section
variable {c ctx}
variable {id : Identifier} {drop : Operation Unit} {s s₁ s₂ : Session} {e : Error} {w : Walk}

/-- A drop that does not fail in the way that is looked into is left alone. -/
theorem dropSafely_eq_drop (h : ∀ e, (drop s).1 = .failed e → e.kind ≠ .notExistOrNotAuthorized) :
    c.dropSafely ctx id drop s = drop s := by
  rw [dropSafely, bind_eq, andThen, attempt]
  rcases hdrop : drop s with ⟨outcome, s₁⟩
  rw [hdrop] at h
  cases outcome with
  | done _ => rfl
  | never => rfl
  | failed e =>
    simp only [if_neg (h e rfl)]
    rfl

theorem lookUpsAfter_eq_nil {outcome : Outcome Unit}
    (h : ∀ e, outcome = .failed e → e.kind ≠ .notExistOrNotAuthorized) :
    c.lookUpsAfter ctx id (outcome, s) = [] := by
  cases outcome with
  | failed e => exact if_neg (h e rfl)
  | _ => rfl

/-- A drop that is looked into does what the walk says. -/
theorem dropSafely_walk (h : drop s = (.failed e, s₁)) (he : e.kind = .notExistOrNotAuthorized) :
    c.dropSafely ctx id drop s =
      (c.walk ctx id id.ancestors).andThen
        (fun w => if w.missing then Operation.log (.dropSkipped id.qualifiedName)
          else fail (explained e w)) s₁ := by
  rw [dropSafely, bind_eq, andThen, attempt, h]
  simp only [if_pos he]
  rfl

end

/-- What a drop that is looked into comes to, read off the look-ups. -/
def resolved (e : Error) (ls : List LookUp) : Outcome Unit :=
  if ls.any LookUp.isEndless then .never
  else if ls.any LookUp.isMissing then .done ()
  else .failed (explained e { errors := ls.filterMap LookUp.error? })

theorem dropSafely_resolved {id : Identifier} {drop : Operation Unit} {s s₁ : Session} {e : Error}
    (h : drop s = (.failed e, s₁)) (he : e.kind = .notExistOrNotAuthorized) :
    (c.dropSafely ctx id drop s).1 = resolved e (upToEnd (c.lookUps ctx id.ancestors s₁)) ∧
      (c.dropSafely ctx id drop s).2.dispatches =
        s₁.dispatches ++ (upToEnd (c.lookUps ctx id.ancestors s₁)).flatMap LookUp.handed := by
  obtain ⟨hverdict, hdispatches⟩ := c.walk_eq ctx id id.ancestors s₁
  rw [dropSafely_walk h he, ← hdispatches]
  -- From here on only the verdict on the look-ups counts, and not where they come from.
  generalize upToEnd (c.lookUps ctx id.ancestors s₁) = ls at hverdict ⊢
  rcases hwalk : c.walk ctx id id.ancestors s₁ with ⟨outcome, s₂⟩
  rw [hwalk] at hverdict
  obtain rfl : outcome = verdict ls := hverdict
  unfold verdict at hwalk
  unfold resolved
  cases hendless : ls.any LookUp.isEndless with
  | true =>
    rw [hendless] at hwalk
    rw [andThen_never hwalk]
    exact ⟨rfl, rfl⟩
  | false =>
    rw [hendless] at hwalk
    rw [andThen_done hwalk]
    cases hmissing : ls.any LookUp.isMissing <;> exact ⟨rfl, rfl⟩

theorem resolved_eq_never {e : Error} {ls : List LookUp} :
    resolved e ls = .never ↔ ∃ l ∈ ls, l.isEndless = true := by
  rw [← List.any_eq_true, resolved]
  cases ls.any LookUp.isEndless with
  | true => simp
  | false => cases ls.any LookUp.isMissing <;> simp

theorem resolved_eq_done {e : Error} {ls : List LookUp} :
    resolved e (upToEnd ls) = .done () ↔ ∃ l ∈ upToEnd ls, l.isMissing = true := by
  constructor
  · intro h
    rw [← List.any_eq_true]
    unfold resolved at h
    cases hmissing : (upToEnd ls).any LookUp.isMissing with
    | true => rfl
    | false =>
      rw [hmissing] at h
      cases hendless : (upToEnd ls).any LookUp.isEndless <;> exact absurd h (by simp [hendless])
  · intro h
    rw [resolved, not_endless_of_missing h, List.any_eq_true.mpr h]
    rfl

theorem errors_of_resolved {e e' : Error} {ls : List LookUp} (he : e.IsSingle)
    (h : resolved e ls = .failed e') : e'.errors = e :: ls.flatMap LookUp.errors := by
  unfold resolved at h
  split at h
  · exact absurd h (by simp)
  · split at h
    · exact absurd h (by simp)
    · obtain rfl := Outcome.failed.inj h
      rw [errors_explained he, flatMap_errors_filterMap]

end Client

open Client

/-- **What a safe drop comes to.** Let `ls` be the look-ups that are made after the drop, and these
are none unless the drop failed because the object does not exist or may not be seen.

The safe drop is done exactly if the drop is or one of the look-ups finds its container missing. It
never ends exactly if the drop or one of the look-ups never does. Otherwise it fails, and its error
lists the drop's own errors followed by those of the look-ups. If nothing is looked up, it is in all
respects the drop. The driver gets to see what it sees of the drop, and then the statements of the
look-ups; and of a drop that executes a request, it sees the request's checked statement alone. -/
theorem dropSafely_exact (c : Client) (ctx : Context) (id : Identifier) (drop : Operation Unit)
    (s : Session) :
    let ls := c.lookUpsAfter ctx id (drop s)
    ((c.dropSafely ctx id drop s).1 = .done () ↔
        (drop s).1 = .done () ∨ ∃ l ∈ ls, l.isMissing = true) ∧
      ((c.dropSafely ctx id drop s).1 = .never ↔
        (drop s).1 = .never ∨ ∃ l ∈ ls, l.isEndless = true) ∧
      (∀ e', (c.dropSafely ctx id drop s).1 = .failed e' →
        ∃ e, (drop s).1 = .failed e ∧ e'.errors = e.errors ++ ls.flatMap LookUp.errors) ∧
      ((∀ e, (drop s).1 = .failed e → e.kind ≠ .notExistOrNotAuthorized) →
        c.dropSafely ctx id drop s = drop s) ∧
      (c.dropSafely ctx id drop s).2.dispatches =
        (drop s).2.dispatches ++ ls.flatMap LookUp.handed ∧
      ∀ {R Id : Type} [Clause R] [Validate R] [Named R Id] (name : Id) (request : R),
        drop = c.performOn ctx name request →
          (drop s).2.dispatches =
            s.dispatches ++ handedOver ctx .execute (render (withName name request)) s := by
  intro ls
  have hsent : ∀ {R Id : Type} [Clause R] [Validate R] [Named R Id] (name : Id) (request : R),
      drop = c.performOn ctx name request → (drop s).2.dispatches =
        s.dispatches ++ handedOver ctx .execute (render (withName name request)) s := by
    intro R Id _ _ _ name request hdrop
    rw [hdrop]
    exact c.handsOver_perform ctx (withName name request) s
  by_cases h : ∀ e, (drop s).1 = .failed e → e.kind ≠ .notExistOrNotAuthorized
  · have hls : ls = [] := lookUpsAfter_eq_nil h
    rw [dropSafely_eq_drop h, hls]
    exact ⟨by simp, by simp, fun e' he' => ⟨e', he', (List.append_nil _).symm⟩, fun _ => rfl,
      (List.append_nil _).symm, hsent⟩
  · simp only [Classical.not_forall, Classical.not_not] at h
    obtain ⟨e, hfailed, hkind⟩ := h
    -- A joined error has a kind of its own, so an error that is looked into is a single one.
    have hsingle : e.IsSingle := Error.isSingle_of_kind_ne (by rw [hkind]; decide)
    have hdrop : drop s = (.failed e, (drop s).2) := Prod.ext hfailed rfl
    have hls : ls = upToEnd (c.lookUps ctx id.ancestors (drop s).2) := by
      show c.lookUpsAfter ctx id (drop s) = _
      rw [hdrop]
      exact if_pos hkind
    obtain ⟨hresolved, hdispatches⟩ := c.dropSafely_resolved ctx hdrop hkind
    rw [hls, hresolved, hfailed]
    refine ⟨?_, ?_, ?_, ?_, hdispatches, hsent⟩
    · rw [resolved_eq_done]
      simp
    · rw [resolved_eq_never]
      simp
    · intro e' he'
      exact ⟨e, rfl, by rw [errors_of_resolved hsingle he', hsingle.errors_eq]; rfl⟩
    · intro hother
      exact absurd hkind (hother e rfl)

/-! ## An alert whose database is gone -/

namespace GoneDatabase

/-- The answer about what may not be seen, whatever is asked. -/
def hidden : Behaviour := { answer := .error { text := "does not exist or not authorized" } }

/-- A server that hides the alert and its schema, and knows of no database. -/
def client : Client := { driver := .scripted [⟨"DROP ALERT", hidden⟩, ⟨"SHOW SCHEMAS", hidden⟩] }

def context : Context := { token := 0 }

def alert : SchemaObjectId := ⟨"db", "sc", "a"⟩

def drop : Operation Unit := client.performOn context alert ({} : DropAlert)

/-- The schema's look-up is as ambiguous as the drop, and only that of the database settles it. -/
theorem dropSafely_exact_gone :
    (client.dropSafely context (.schema alert) drop {}).1 = .done () ∧
      (client.dropSafely context (.schema alert) drop {}).2.dispatches.map Dispatch.sql =
        ["DROP ALERT \"db\".\"sc\".\"a\"", "SHOW SCHEMAS LIKE 'sc' IN DATABASE \"db\"",
          "SHOW DATABASES LIKE 'db'"] := by
  obtain ⟨hdone, -, -, -, hseen, hrequest⟩ :=
    dropSafely_exact client context (.schema alert) drop {}
  refine ⟨hdone.mpr (.inr (by decide)), ?_⟩
  rw [hseen, hrequest alert ({} : DropAlert) rfl]
  decide

end GoneDatabase

end WarehouseAdmin
