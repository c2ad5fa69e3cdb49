import Mathlib.Data.List.Forall2
import WarehouseAdmin.Catalog.Basic
import WarehouseAdmin.Proofs.Error.Flat

/-!
# What the rows of an answer come to

`scanAll` and `findOne` are written for running. Here it is said what they come to without saying
how: all rows are read and none is left out, or the first that cannot be read decides
(`ReadInOrder`); and of the objects that were read, the first that bears the identifier is picked
(`Picks`).
-/

set_option autoImplicit false

namespace WarehouseAdmin

/-- Every row in turn gives one object, or the first that cannot be read gives its error. -/
inductive ReadInOrder (α : Type) [OfRow α] (rows : List Row) : Except Error (List α) → Prop where
  | objects {as : List α} (h : List.Forall₂ (fun r a => OfRow.ofRow r = .ok a) rows as) :
    ReadInOrder α rows (.ok as)
  | fault (before : List Row) (r : Row) (after : List Row) {e : ScanError}
    (hrows : rows = before ++ r :: after)
    (hbefore : ∀ q ∈ before, ∃ a : α, OfRow.ofRow q = .ok a)
    (hr : (OfRow.ofRow r : Except ScanError α) = .error e) :
    ReadInOrder α rows (.error (.scan e))

/-- Of the objects that the rows give, the first that bears the identifier. -/
inductive Picks (α : Type) {Id : Type} [OfRow α] [Identified α Id] (id : Id) (rows : List Row) :
    Except Error α → Prop where
  | fault {e : Error} (h : ReadInOrder α rows (.error e)) : Picks α id rows (.error e)
  | found {before : List α} {a : α} {after : List α}
    (h : ReadInOrder α rows (.ok (before ++ a :: after)))
    (hbefore : ∀ b ∈ before, Identified.id b ≠ id) (ha : Identified.id a = id) :
    Picks α id rows (.ok a)
  | missing {as : List α} (h : ReadInOrder α rows (.ok as))
    (hnone : ∀ a ∈ as, Identified.id a ≠ id) :
    Picks α id rows (.error (.objectNotFound (Identified.qualifiedName α id)))

section
variable {α : Type} [OfRow α]

/-- A row that can be read does not change which of the others cannot. -/
theorem ReadInOrder.cons {r : Row} {rows : List Row} {a : α} {result : Except Error (List α)}
    (hr : OfRow.ofRow r = .ok a) (h : ReadInOrder α rows result) :
    ReadInOrder α (r :: rows) (result.map (a :: ·)) := by
  cases h with
  | objects has => exact .objects (.cons hr has)
  | fault before q after hrows hbefore hq =>
    refine .fault (r :: before) q after (by rw [hrows]; rfl) ?_ hq
    intro p hp
    rcases List.mem_cons.mp hp with rfl | hp
    · exact ⟨a, hr⟩
    · exact hbefore p hp

/-- **Rows are read in order.** -/
theorem readInOrder_scanAll (rows : List Row) :
    ReadInOrder α rows ((scanAll α rows).mapError .scan) := by
  induction rows with
  | nil => exact .objects .nil
  | cons r rest ih =>
    rw [scanAll]
    cases hr : (OfRow.ofRow r : Except ScanError α) with
    | error e => exact .fault [] r rest rfl (fun q hq => absurd hq (by simp)) hr
    | ok a =>
      have hmap : ((scanAll α rest).map (a :: ·)).mapError Error.scan =
          ((scanAll α rest).mapError Error.scan).map (a :: ·) := by
        cases scanAll α rest <;> rfl
      show ReadInOrder α (r :: rest) (((scanAll α rest).map (a :: ·)).mapError Error.scan)
      rw [hmap]
      exact ih.cons hr

variable {Id : Type} [Identified α Id] [DecidableEq Id]

/-- **The object is picked from what was read.** -/
theorem picks_findOne {rows : List Row} {objects : Except Error (List α)}
    (h : ReadInOrder α rows objects) (id : Id) :
    Picks α id rows (objects.bind fun as => findOne as id) := by
  cases objects with
  | error e => exact .fault h
  | ok as =>
    show Picks α id rows (findOne as id)
    unfold findOne
    split
    · rename_i a ha
      obtain ⟨hid, before, after, rfl, hbefore⟩ := List.find?_eq_some_iff_append.mp ha
      exact .found h (by simpa using hbefore) (by simpa using hid)
    · rename_i hnone
      exact .missing h (by simpa using hnone)

end

/-! ## What can be picked -/

section
variable {α : Type} [OfRow α] {rows : List Row} {as : List α}

/-- Whatever keeps an object from being picked is a single error. -/
theorem Picks.isSingle {Id : Type} [Identified α Id] {id : Id} {e : Error}
    (h : Picks α id rows (.error e)) : e.IsSingle := by
  cases h with
  | fault hfault => cases hfault; trivial
  | missing => trivial

/-- What was read from rows is what they give, one object for each. -/
theorem ReadInOrder.mem_iff (h : ReadInOrder α rows (.ok as)) (a : α) :
    a ∈ as ↔ ∃ r ∈ rows, OfRow.ofRow r = .ok a := by
  cases h with
  | objects has =>
    induction has with
    | nil => simp
    | @cons r b rows as hr _ ih =>
      rw [List.mem_cons, ih, List.exists_mem_cons_iff, hr, Except.ok.injEq, eq_comm]

end

end WarehouseAdmin
