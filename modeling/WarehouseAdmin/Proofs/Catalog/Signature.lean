import WarehouseAdmin.Catalog.Signature
import WarehouseAdmin.Proofs.Ident.Balance
import WarehouseAdmin.Proofs.Ident.Reading

/-!
# Signatures are read back

The argument types of a function reach the client in two ways: in the signature that a server shows,
and in the name by which the function is called. The two are read by different rules. In a signature
the list ends at the parenthesis that matches the first one; in a name it ends at the last
character. For types whose own parentheses match, both readers find the list as it was written,
whatever stands behind it in the signature (`Signature.read_written`), and so a function that is
looked up by the types of its signature is the one that bears them.
-/

set_option autoImplicit false

namespace WarehouseAdmin.Signature

open Arguments (depthAfter depthBehind StaysOpen IsBalanced IsMatchedType staysOpen_cons)

/-- A signature as a server shows it. -/
def written (name : String) (types : List String) (returns : String) : String :=
  name ++ "(" ++ String.intercalate ", " types ++ ") RETURN " ++ returns

/-! ## Where the list ends -/

/-- What closes no more than is open is passed over, and changes the depth. -/
theorem cutAtClosing_append {depth : Nat} {as : List Char} (h : StaysOpen depth as)
    (rest : List Char) :
    cutAtClosing depth (as ++ rest) =
      (cutAtClosing (depthBehind depth as) rest).map fun (inside, after) =>
        (as ++ inside, after) := by
  induction as generalizing depth with
  | nil =>
    rw [List.nil_append, Arguments.depthBehind_nil]
    cases cutAtClosing depth rest <;> rfl
  | cons c as ih =>
    obtain ⟨hhead, htail⟩ := staysOpen_cons.mp h
    rw [List.cons_append, cutAtClosing, if_neg hhead, ih htail, Option.map_map,
      Arguments.depthBehind_cons]
    rfl

theorem cutAtClosing_balanced {inside : List Char} (h : IsBalanced inside) (after : List Char) :
    cutAtClosing 0 (inside ++ ')' :: after) = some (inside, after) := by
  rw [cutAtClosing_append h.staysOpen, h.depthBehind_eq, cutAtClosing, if_pos ⟨rfl, rfl⟩]
  simp

theorem group?_append {name : List Char} (hname : '(' ∉ name) (rest : List Char) :
    group? (name ++ '(' :: rest) = cutAtClosing 0 rest := by
  induction name with
  | nil => rfl
  | cons c name ih =>
    rw [List.mem_cons, not_or] at hname
    rw [List.cons_append, group?, if_neg (Ne.symm hname.1), ih hname.2]

/-! ## The return type -/

theorem after?_append (word cs : List Char) : after? word (word ++ cs) = some cs := by
  induction word with
  | nil => rfl
  | cons w word ih => rw [List.cons_append, after?, if_pos rfl, ih]

theorem returns?_written {returns : String} (h : Text.isTidy returns = true) :
    returns? (" RETURN " ++ returns).toList = some returns.toList := by
  have hword : Text.isTidy ("RETURN" ++ " " ++ returns) = true := Text.isTidy_between rfl h
  have hchars : (" RETURN " ++ returns).toList = ' ' :: ("RETURN" ++ " " ++ returns).toList := by
    simp
  -- The blank before the word is trimmed first, and then the one behind it.
  have houter : Text.trimChars (' ' :: ("RETURN" ++ " " ++ returns).toList) =
      "RETURN".toList ++ ' ' :: returns.toList := by
    have hblank : Text.trimChars (' ' :: ("RETURN" ++ " " ++ returns).toList) =
        Text.trimChars ("RETURN" ++ " " ++ returns).toList := rfl
    rw [hblank, Arguments.trimChars_toList hword]
    simp
  have hinner : Text.trimChars (' ' :: returns.toList) = returns.toList := by
    have hblank : Text.trimChars (' ' :: returns.toList) = Text.trimChars returns.toList := rfl
    rw [hblank, Arguments.trimChars_toList h]
  rw [returns?, hchars, houter, after?_append, Option.map_some, hinner]
  simp [Arguments.toList_ne_nil h]

/-- **Signatures and names agree on the types of a function.** Let the types have matching
parentheses, and no comma outside of them; let the name have no parenthesis, and the return type be
trimmed.

* The signature is read as exactly these types and this return type, whatever the return type holds.
* The name of a function of these types, with any valid parts, is read as that function, whose types
  are those of the signature. -/
theorem read_written {name returns : String} {types : List String} (hname : '(' ∉ name.toList)
    (htypes : ∀ t ∈ types, IsMatchedType t) (hne : returns ≠ "")
    (htrim : Text.trim returns = returns) :
    read (written name types returns) = { arguments := types, returns := some returns } ∧
      ∀ object : SchemaObjectId, object.isValid = true →
        FunctionId.read (FunctionId.qualifiedName ⟨object, types⟩) =
          .ok ⟨object, (read (written name types returns)).arguments⟩ := by
  have htidy : Text.isTidy returns = true := by
    rw [← htrim]
    exact Text.isTidy_trim (by rwa [htrim])
  have hsplit := Arguments.split_matched htypes
  have hbalanced : IsBalanced (String.intercalate ", " types).toList :=
    .intercalate (.of_no_parentheses (by simp) (by simp)) fun t ht => (htypes t ht).balanced
  have hchars : (written name types returns).toList =
      name.toList ++ '(' :: ((String.intercalate ", " types).toList ++
        ')' :: (" RETURN " ++ returns).toList) := by
    simp [written]
  have hread : read (written name types returns) =
      { arguments := types, returns := some returns } := by
    rw [read, hchars, group?_append hname, cutAtClosing_balanced hbalanced]
    simp only [String.ofList_toList, hsplit, returns?_written htidy, Option.map_some]
  refine ⟨hread, fun object hobject => ?_⟩
  have hargument : ∀ t ∈ types, Arguments.isArgumentType t = true :=
    fun t ht => (htypes t ht).isArgumentType
  have hvalid : FunctionId.isValid ⟨object, types⟩ = true := by
    rw [FunctionId.isValid, hobject, Bool.true_and, List.all_eq_true]
    exact hargument
  have hregroup := Arguments.split_intercalate hargument
  rw [FunctionId.read_qualifiedName_regroup hvalid, hread, ← hregroup, hsplit]

/-- Types with parentheses of their own, nested and empty, and a return type with a comma and with
the word that stands before return types. -/
theorem read_written_nested :
    let types := ["NUMBER(38, 0)", "MAP(TEXT, ARRAY(F(), G))", "INT"]
    let returns := "TABLE (RETURN INT, N NUMBER(3, 1))"
    '(' ∉ "ADD".toList ∧ (∀ t ∈ types, IsMatchedType t) ∧ returns ≠ "" ∧
      Text.trim returns = returns ∧
      read (written "ADD" types returns) = { arguments := types, returns := some returns } ∧
      FunctionId.read (FunctionId.qualifiedName ⟨⟨"d(", "s", "f"⟩, types⟩) =
        .ok ⟨⟨"d(", "s", "f"⟩, (read (written "ADD" types returns)).arguments⟩ := by
  intro types returns
  have hname : '(' ∉ "ADD".toList := by decide
  have htypes : ∀ t ∈ types, IsMatchedType t := by decide
  have hne : returns ≠ "" := by decide
  have htrim : Text.trim returns = returns := by decide
  obtain ⟨hread, hfunction⟩ := read_written hname htypes hne htrim
  exact ⟨hname, htypes, hne, htrim, hread, hfunction _ (by decide)⟩

end WarehouseAdmin.Signature
