import WarehouseAdmin.Session.Script
import WarehouseAdmin.Proofs.Session.Walk

/-!
# What a safe look-up comes to

A look-up can fail in a way that leaves open what is missing, the object or one of its containers.
A safe look-up then looks the containers up as well, but unlike a safe drop it never turns a failure
into a success: whatever is found, what comes back is the error of the look-up with those of the
containers behind it. So its outcome is a function of that one error and of the list `upToEnd` of
look-ups (`explainedBy`), and nothing is left to decide but whether one of them waits for ever.
-/

set_option autoImplicit false

namespace WarehouseAdmin

namespace Client

open Operation

variable (c : Client) (ctx : Context) {α : Type}

theorem isAmbiguous_iff {k : ErrorKind} :
    isAmbiguous k = true ↔ k = .notExistOrNotAuthorized ∨ k = .notExistOrNotPossible := by
  simp [isAmbiguous]

/-- An ambiguous error is a single one: joined errors have a kind of their own. -/
theorem isSingle_of_isAmbiguous {e : Error} (h : isAmbiguous e.kind = true) : e.IsSingle := by
  refine Error.isSingle_of_kind_ne ?_
  rcases isAmbiguous_iff.mp h with hk | hk <;> rw [hk] <;> decide

/-! ## The steps of a safe look-up -/

section
variable {c ctx}
variable {id : Identifier} {find : Operation α} {s s₁ : Session} {e : Error}

/-- A look-up that does not fail in an ambiguous way is left alone. -/
theorem safely_eq_find (h : ∀ e, (find s).1 = .failed e → isAmbiguous e.kind = false) :
    c.safely ctx id find s = find s := by
  rw [safely, bind_eq, andThen, attempt]
  rcases hfind : find s with ⟨outcome, s₁⟩
  rw [hfind] at h
  cases outcome with
  | done _ => rfl
  | never => rfl
  | failed e =>
    simp only [h e rfl]
    rfl

/-- A look-up that is ambiguous fails with what the walk explains. -/
theorem safely_walk (h : find s = (.failed e, s₁)) (he : isAmbiguous e.kind = true) :
    c.safely ctx id find s =
      (c.walk ctx id id.ancestors).andThen (fun w => fail (explained e w)) s₁ := by
  rw [safely, bind_eq, andThen, attempt, h]
  simp only [he]
  rfl

end

/-- What an ambiguous error comes to, read off the look-ups of the containers. -/
def explainedBy (e : Error) (ls : List LookUp) : Outcome α :=
  if ls.any LookUp.isEndless then .never
  else .failed (explained e { errors := ls.filterMap LookUp.error? })

theorem safely_explainedBy (id : Identifier) {find : Operation α} {s s₁ : Session} {e : Error}
    (h : find s = (.failed e, s₁)) (he : isAmbiguous e.kind = true) :
    (c.safely ctx id find s).1 = explainedBy e (upToEnd (c.lookUps ctx id.ancestors s₁)) ∧
      (c.safely ctx id find s).2.dispatches =
        s₁.dispatches ++ (upToEnd (c.lookUps ctx id.ancestors s₁)).flatMap LookUp.handed := by
  obtain ⟨hverdict, hdispatches⟩ := c.walk_eq ctx id id.ancestors s₁
  rw [safely_walk h he, ← hdispatches]
  -- As for a drop, only the verdict on the look-ups counts, and not where they come from.
  generalize upToEnd (c.lookUps ctx id.ancestors s₁) = ls at hverdict ⊢
  rcases hwalk : c.walk ctx id id.ancestors s₁ with ⟨outcome, s₂⟩
  rw [hwalk] at hverdict
  obtain rfl : outcome = verdict ls := hverdict
  unfold verdict at hwalk
  unfold explainedBy
  cases hendless : ls.any LookUp.isEndless with
  | true =>
    rw [hendless] at hwalk
    rw [andThen_never hwalk]
    exact ⟨rfl, rfl⟩
  | false =>
    rw [hendless] at hwalk
    rw [andThen_done hwalk]
    exact ⟨rfl, rfl⟩

/-- Without containers there is nothing to walk through. -/
theorem safely_eq_find_of_ancestors {id : Identifier} (hid : id.ancestors = [])
    (find : Operation α) (s : Session) : c.safely ctx id find s = find s := by
  by_cases h : ∀ e, (find s).1 = .failed e → isAmbiguous e.kind = false
  · exact safely_eq_find h
  · simp only [Classical.not_forall, Bool.not_eq_false] at h
    obtain ⟨e, hfailed, he⟩ := h
    have hfind : find s = (.failed e, (find s).2) := Prod.ext hfailed rfl
    have hsingle : e.IsSingle := isSingle_of_isAmbiguous he
    have hwalk : c.walk ctx id [] (find s).2 = (.done {}, (find s).2) := rfl
    rw [safely_walk hfind he, hid, andThen_done hwalk, explained_eq_self hsingle rfl]
    exact hfind.symm

end Client

theorem container_upToEnd_prefix (ls : List LookUp) :
    (upToEnd ls).map LookUp.container <+: ls.map LookUp.container := by
  induction ls with
  | nil => exact List.prefix_rfl
  | cons l rest ih =>
    rw [upToEnd]
    split
    · exact ⟨rest.map LookUp.container, rfl⟩
    · exact (List.prefix_cons_inj l.container).mpr ih

theorem Client.container_lookUps (c : Client) (ctx : Context) (as : List Ancestor) (s : Session) :
    (c.lookUps ctx as s).map LookUp.container = as := by
  induction as generalizing s with
  | nil => rfl
  | cons a rest ih => rw [lookUps, List.map_cons, ih]

open Client

/-- **What a safe look-up comes to.** Unless the look-up fails with one of the two ambiguous kinds,
the safe look-up is the look-up, in all respects: it comes to the same and nothing is sent besides.
It is the look-up as well where the object has no containers.

If the look-up fails in one of these two ways, let `ls` be the look-ups of the containers, innermost
first, up to the first that is missing. Nothing but their statements is sent besides. If one of them
never ends, neither does the safe look-up. Otherwise it fails, and its error lists the error of the
look-up followed by those of `ls`, taken apart; a container that was found has none. If none of them
has any, the error is the error of the look-up itself. -/
theorem safely_exact {α : Type} (c : Client) (ctx : Context) (id : Identifier) (find : Operation α)
    (s : Session) :
    ((∀ e, (find s).1 = .failed e →
        e.kind ≠ .notExistOrNotAuthorized ∧ e.kind ≠ .notExistOrNotPossible) →
      c.safely ctx id find s = find s) ∧
    (id.ancestors = [] → c.safely ctx id find s = find s) ∧
    ∀ e, (find s).1 = .failed e →
      e.kind = .notExistOrNotAuthorized ∨ e.kind = .notExistOrNotPossible →
      let ls := upToEnd (c.lookUps ctx id.ancestors (find s).2)
      ls.map LookUp.container <+: id.ancestors ∧
        (c.safely ctx id find s).2.dispatches =
          (find s).2.dispatches ++ ls.flatMap LookUp.handed ∧
        ((∃ l ∈ ls, l.isEndless = true) → (c.safely ctx id find s).1 = .never) ∧
        ((∀ l ∈ ls, l.isEndless = false) →
          ∃ e', (c.safely ctx id find s).1 = .failed e' ∧
            e'.errors = e :: ls.flatMap LookUp.errors ∧
            (ls.flatMap LookUp.errors = [] → e' = e)) := by
  refine ⟨fun h => ?_, fun hid => c.safely_eq_find_of_ancestors ctx hid find s, ?_⟩
  · refine safely_eq_find fun e he => ?_
    rw [← Bool.not_eq_true, isAmbiguous_iff, not_or]
    exact h e he
  · intro e hfailed hkind ls
    have hambiguous : isAmbiguous e.kind = true := isAmbiguous_iff.mpr hkind
    have hsingle : e.IsSingle := isSingle_of_isAmbiguous hambiguous
    have hfind : find s = (.failed e, (find s).2) := Prod.ext hfailed rfl
    obtain ⟨houtcome, hdispatches⟩ := c.safely_explainedBy ctx id hfind hambiguous
    have hcontainers : ls.map LookUp.container <+: id.ancestors := by
      have h := container_upToEnd_prefix (c.lookUps ctx id.ancestors (find s).2)
      rwa [c.container_lookUps] at h
    refine ⟨hcontainers, hdispatches, fun hendless => ?_, fun hends => ?_⟩
    · rw [houtcome, explainedBy, if_pos (List.any_eq_true.mpr hendless)]
    · have hany : ¬ ls.any LookUp.isEndless = true := by
        rw [List.any_eq_true]
        rintro ⟨l, hl, h⟩
        exact absurd ((hends l hl).symm.trans h) (by simp)
      refine ⟨explained e { errors := ls.filterMap LookUp.error? }, ?_, ?_, fun hnone => ?_⟩
      · rw [houtcome, explainedBy, if_neg hany]
      · rw [errors_explained hsingle, flatMap_errors_filterMap]
      · exact explained_eq_self hsingle ((flatMap_errors_filterMap ls).trans hnone)

/-! ## An alert whose schema is there and whose database is not -/

namespace HiddenAlert

/-- A row of a listing of schemas. -/
def schemaRow : Row := ⟨[("name", .text "sc"), ("database_name", .text "db")]⟩

/-- A server that hides the alert, shows its schema, and knows of no database. -/
def client : Client :=
  { driver := .scripted
      [⟨"SHOW ALERTS", { answer := .error { text := "does not exist or not authorized" } }⟩,
        ⟨"SHOW SCHEMAS", { answer := .ok { rows := [schemaRow] } }⟩] }

def context : Context := { token := 0 }

def alert : SchemaObjectId := ⟨"db", "sc", "a"⟩

def hidden : Error := .notExistOrNotAuthorized { text := "does not exist or not authorized" }

/-- The schema that was found adds no error, and the missing database ends the walk. -/
theorem safely_exact_hidden :
    ∃ e, (client.safely context (.schema alert) (client.find Alert context alert) {}).1 =
        .failed e ∧
      e.errors = [hidden, .objectNotFound "\"db\""] := by
  obtain ⟨-, -, h⟩ :=
    safely_exact client context (.schema alert) (client.find Alert context alert) {}
  obtain ⟨-, -, -, hfails⟩ := h hidden rfl (.inl rfl)
  obtain ⟨e, he, herrors, -⟩ := hfails (by decide)
  exact ⟨e, he, herrors⟩

end HiddenAlert

end WarehouseAdmin
