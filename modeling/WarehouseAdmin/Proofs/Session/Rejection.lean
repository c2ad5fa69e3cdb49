import WarehouseAdmin.Session.Script
import WarehouseAdmin.Proofs.Request.Place
import WarehouseAdmin.Proofs.Request.Shape
import WarehouseAdmin.Proofs.Session.Action

/-!
# Actions on objects without a proper name

An action that names an object by an invalid identifier is refused before anything is sent, because
its request holds the identifier and is checked. Looking an object up is the exception. Its request
is a listing, which holds the containers of the object only; the name of the object itself has
become a pattern, and argument types do not occur at all. So a look-up is refused if a container has
no valid identifier, and sent otherwise (`act_invalid_exact`).
-/

set_option autoImplicit false

namespace WarehouseAdmin

open Client Operation

/-! ## What the checks find -/

namespace Action

variable {a : Action} {q : Request} {id : Identifier}

/-- An action that is no look-up holds the identifier in its request, where it is checked. -/
theorem anyIs_failures (hq : a.request? = some q) (hid : a.subject? = some id)
    (hfind : a.isFind = false) (hinvalid : id.isValid = false) :
    Error.anyIs .invalidIdentifier (Validate.failures q) = true := by
  cases a with
  | warehouse t | database t | schema t | alert t =>
    cases t with
    | create o r | alter o r | drop o r =>
      obtain rfl := Option.some.inj hq
      obtain rfl := Option.some.inj hid
      have ho : o.isValid = false := hinvalid
      simp [Validate.failures, Request.on, ho]
    | describe o =>
      obtain rfl := Option.some.inj hq
      obtain rfl := Option.some.inj hid
      have ho : o.isValid = false := hinvalid
      simp [Validate.failures, Request.on, ho]
    | list r => exact nomatch hid
    | find o => exact absurd hfind.symm Bool.false_ne_true
    | findSafely o | dropSafely o r => exact nomatch hq
  | function t =>
    cases t with
    | drop o r =>
      obtain rfl := Option.some.inj hq
      obtain rfl := Option.some.inj hid
      have ho : o.isValid = false := hinvalid
      simp [Validate.failures, Request.on, ho]
    | describe o =>
      obtain rfl := Option.some.inj hq
      obtain rfl := Option.some.inj hid
      have ho : o.isValid = false := hinvalid
      simp [Validate.failures, Request.on, ho]
    | create o r | alter o r => exact r.elim
    | list r => exact nomatch hid
    | find o => exact absurd hfind.symm Bool.false_ne_true
    | findSafely o | dropSafely o r => exact nomatch hq

/-- A look-up names nothing that is checked but the container in which it looks. -/
theorem failures_find (hq : a.request? = some q) (hid : a.subject? = some id)
    (hfind : a.isFind = true) :
    Validate.failures q =
      id.ancestors.head?.toList.flatMap fun p => nested (validate p.place) := by
  cases a with
  | warehouse t | database t | schema t | alert t | function t =>
    cases t with
    | find o =>
      obtain rfl := Option.some.inj hq
      obtain rfl := Option.some.inj hid
      simp [Validate.failures, Request.on, Identifier.ancestors, Ancestor.place, nestedOption,
        ShowDatabases.forId, ShowSchemas.forId, ShowAlerts.forId, ShowFunctions.forId]
    | _ => exact absurd hfind Bool.false_ne_true

theorem kind_of_isFind (hfind : a.isFind = true) : a.kind = .query := by
  cases a with
  | warehouse t | database t | schema t | alert t | function t =>
    cases t with
    | find o => rfl
    | _ => exact absurd hfind Bool.false_ne_true

/-- **An invalid identifier is found**, by the rule about the identifier itself or by the one about
the container. -/
theorem refused (hq : a.request? = some q) (hid : a.subject? = some id)
    (hinvalid : id.isValid = false)
    (hchecked : a.isFind = false ∨ ∃ p ∈ id.ancestors, p.isValid = false) :
    ∃ e, render q = .error e ∧ e.is .invalidIdentifier = true := by
  have hfailures : Error.anyIs .invalidIdentifier (Validate.failures q) = true := by
    cases hfind : a.isFind with
    | false => exact anyIs_failures hq hid hfind hinvalid
    | true =>
      obtain ⟨p, hp, hpinvalid⟩ := hchecked.resolve_left (by simp [hfind])
      rw [failures_find hq hid hfind]
      cases hhead : id.ancestors.head? with
      | none =>
        rw [List.head?_eq_none_iff.mp hhead] at hp
        exact absurd hp (by simp)
      | some b =>
        have hb : b.isValid = false := by
          by_contra hvalid
          have hall := Identifier.isValid_of_head_ancestors hhead (by simpa using hvalid)
          exact absurd ((hall p hp).symm.trans hpinvalid) (by simp)
        rw [Option.toList_some, List.flatMap_singleton]
        exact Ancestor.anyIs_nested_place hb
  obtain ⟨e, he, his⟩ := is_of_validate (by decide) hfailures
  exact ⟨e, by rw [render, he], his⟩

/-- A look-up in containers that have names passes its check, whatever the object is called. -/
theorem render_find (hq : a.request? = some q) (hid : a.subject? = some id)
    (hfind : a.isFind = true) (hvalid : ∀ p ∈ id.ancestors, p.isValid = true) :
    ∃ sql, render q = .ok sql := by
  have hcheck : validate q = .ok () := by
    rw [validate_eq_ok_iff, failures_find hq hid hfind]
    cases hhead : id.ancestors.head? with
    | none => rfl
    | some p =>
      rw [Option.toList_some, List.flatMap_singleton, nested_eq_nil, Ancestor.validate_place_eq_ok]
      exact hvalid p (List.mem_of_head? hhead)
  obtain ⟨sql, hsql⟩ :=
    toSql_isOk_of_isRegular (RegularClause.isRegular q) (allValid_of_validate hcheck)
  exact ⟨sql, render_eq_ok_iff.mpr ⟨hcheck, hsql⟩⟩

end Action

/-- **What comes of an action that names an object by an invalid identifier**, under a context that
is not cancelled; it is one request, since it is not to look containers up. Unless the action is a
look-up, or if a container of the object has no valid identifier either, the action fails with an
error about an invalid identifier, and the session is as it was. But a look-up in containers that
have valid identifiers passes its check and is sent. -/
theorem act_invalid_exact (c : Client) (ctx : Context) {a : Action} {id : Identifier} {s : Session}
    (ha : a.isSafe = false) (hid : a.subject? = some id)
    (hinvalid : id.isValid = false) (hs : s.isCancelled ctx = false) :
    ∃ q, a.request? = some q ∧
      ((a.isFind = false ∨ ∃ p ∈ id.ancestors, p.isValid = false) →
        ∃ e, c.act ctx a s = (.failed e, s) ∧ e.is .invalidIdentifier = true) ∧
      (a.isFind = true → (∀ p ∈ id.ancestors, p.isValid = true) →
        ∃ sql, render q = .ok sql ∧
          (c.act ctx a s).2.dispatches = s.dispatches ++ [⟨s.now, .query, sql⟩]) := by
  obtain ⟨q, hq⟩ := Action.exists_request ha
  have hsends := c.sends_act ctx hq
  refine ⟨q, hq, fun hchecked => ?_, fun hfind hvalid => ?_⟩
  · obtain ⟨e, he, his⟩ := Action.refused hq hid hinvalid hchecked
    rw [he] at hsends
    exact ⟨e, hsends.rejected s, his⟩
  · obtain ⟨sql, hsql⟩ := Action.render_find hq hid hfind hvalid
    rw [hsql] at hsends
    refine ⟨sql, hsql, ?_⟩
    rw [hsends.handsOver s, handedOver, hs, Action.kind_of_isFind hfind]
    rfl

/-! ## A warehouse without a name -/

namespace UnnamedWarehouse

def client : Client := { driver := .scripted [] }

def context : Context := { token := 0 }

/-- A warehouse without a name is not described, but it is looked up: among all warehouses, for an
empty pattern leaves nothing to narrow the listing by. -/
theorem act_invalid_exact_unnamed :
    (∃ e, client.act context (.warehouse (.describe ⟨""⟩)) {} = (.failed e, {}) ∧
        e.is .invalidIdentifier = true) ∧
      (client.act context (.warehouse (.find ⟨""⟩)) {}).2.dispatches =
        [⟨0, .query, "SHOW WAREHOUSES"⟩] := by
  obtain ⟨-, -, hdescribe, -⟩ := act_invalid_exact (a := .warehouse (.describe ⟨""⟩)) (s := {})
    client context rfl rfl (by decide) rfl
  obtain ⟨q, hq, -, hfind⟩ := act_invalid_exact (a := .warehouse (.find ⟨""⟩)) (s := {})
    client context rfl rfl (by decide) rfl
  refine ⟨hdescribe (.inl rfl), ?_⟩
  obtain rfl := Option.some.inj hq
  obtain ⟨sql, hsql, hsent⟩ := hfind rfl (by decide)
  obtain rfl : "SHOW WAREHOUSES" = sql := Except.ok.inj hsql
  exact hsent

end UnnamedWarehouse

end WarehouseAdmin
