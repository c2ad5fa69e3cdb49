import WarehouseAdmin.Ident.Reader
import WarehouseAdmin.Proofs.Ident.Parts
import WarehouseAdmin.Proofs.Ident.Arguments

/-!
# Identifiers and their qualified names

Qualified names are made to be read back. For the levels whose names are dotted names this is so for
all parts that are not empty, and the number of parts keeps the levels apart
(`read_qualifiedName_dotted`).

A function's name carries a list of types behind it, and the types are judged one by one when the
identifier is checked, but read together. So a valid identifier is not always read back: a type like
`ARRAY(` takes the next one into itself. `read_qualifiedName_function` gives what is read instead,
and when that is the identifier. Such lists never come from reading, where only the last type can be
left open; this is why reading a name and writing it again loses nothing (`read_normalises`).
-/

set_option autoImplicit false

namespace WarehouseAdmin

/-! ## Dotted names -/

theorem AccountObjectId.parts_of_read {input : String} {id : AccountObjectId}
    (h : read input = .ok id) : Parts.read input = .ok id.parts := by
  unfold read at h
  split at h
  · exact absurd h (by simp)
  · rename_i hparts
    obtain rfl := Except.ok.inj h
    exact hparts
  · exact absurd h (by simp)

theorem DatabaseObjectId.parts_of_read {input : String} {id : DatabaseObjectId}
    (h : read input = .ok id) : Parts.read input = .ok id.parts := by
  unfold read at h
  split at h
  · exact absurd h (by simp)
  · rename_i hparts
    obtain rfl := Except.ok.inj h
    exact hparts
  · exact absurd h (by simp)

theorem SchemaObjectId.parts_of_read {input : String} {id : SchemaObjectId}
    (h : read input = .ok id) : Parts.read input = .ok id.parts := by
  unfold read at h
  split at h
  · exact absurd h (by simp)
  · rename_i hparts
    obtain rfl := Except.ok.inj h
    exact hparts
  · exact absurd h (by simp)

/-- The levels whose identifiers are dotted names and nothing else. -/
def Level.isDotted : Level → Bool
  | .account | .database | .schema => true
  | .function => false

/-- The number of parts that the names of a level have. -/
def Level.partCount : Level → Nat
  | .account => 1
  | .database => 2
  | .schema | .function => 3

/-- The number of parts tells the levels with dotted names apart. -/
theorem Level.eq_of_partCount {a b : Level} (ha : a.isDotted = true) (hb : b.isDotted = true)
    (h : a.partCount = b.partCount) : a = b := by
  cases a <;> cases b <;> simp_all [isDotted, partCount]

namespace Identifier

theorem qualifiedName_dotted (id : Identifier) (hlevel : id.level.isDotted = true) :
    id.qualifiedName = qualify id.parts := by
  cases id with
  | function id => exact absurd hlevel (by simp [level, Level.isDotted])
  | _ => rfl

theorem arguments_dotted (id : Identifier) (hlevel : id.level.isDotted = true) :
    id.arguments = [] := by
  cases id with
  | function id => exact absurd hlevel (by simp [level, Level.isDotted])
  | _ => rfl

theorem length_parts (id : Identifier) : id.parts.length = id.level.partCount := by
  cases id <;> rfl

theorem read_of_parts {id : Identifier} (hlevel : id.level.isDotted = true) {input : String}
    (h : Parts.read input = .ok id.parts) : read id.level input = .ok id := by
  cases id with
  | account id =>
    show (AccountObjectId.read input).map account = _
    rw [AccountObjectId.read, h]
    rfl
  | database id =>
    show (DatabaseObjectId.read input).map database = _
    rw [DatabaseObjectId.read, h]
    rfl
  | schema id =>
    show (SchemaObjectId.read input).map schema = _
    rw [SchemaObjectId.read, h]
    rfl
  | function id => exact absurd hlevel (by simp [level, Level.isDotted])

/-- A dotted name is refused at a level whose names have another number of parts. -/
theorem read_of_length_ne {lvl : Level} (hlevel : lvl.isDotted = true) {input : String}
    {parts : List String} (h : Parts.read input = .ok parts) (hlen : parts.length ≠ lvl.partCount) :
    read lvl input = .error (.partCount input lvl.partCount parts.length) := by
  cases lvl with
  | account =>
    rw [read, AccountObjectId.read, h]
    split <;> simp_all [Level.partCount, Except.map]
  | database =>
    rw [read, DatabaseObjectId.read, h]
    split <;> simp_all [Level.partCount, Except.map]
  | schema =>
    rw [read, SchemaObjectId.read, h]
    split <;> simp_all [Level.partCount, Except.map]
  | function => exact absurd hlevel (by simp [Level.isDotted])

theorem isValid_iff_parts (id : Identifier) (hlevel : id.level.isDotted = true) :
    id.isValid = true ↔ ∀ p ∈ id.parts, p ≠ "" := by
  cases id with
  | account id => simp [isValid, AccountObjectId.isValid, parts, AccountObjectId.parts]
  | database id => simp [isValid, DatabaseObjectId.isValid, parts, DatabaseObjectId.parts]
  | schema id => simp [isValid, SchemaObjectId.isValid, parts, SchemaObjectId.parts, and_assoc]
  | function id => exact absurd hlevel (by simp [level, Level.isDotted])

theorem parts_of_read {lvl : Level} (hlevel : lvl.isDotted = true) {input : String}
    {id : Identifier} (h : read lvl input = .ok id) :
    id.level = lvl ∧ Parts.read input = .ok id.parts := by
  cases lvl with
  | account =>
    obtain ⟨found, hfound, rfl⟩ := exists_of_map_eq_ok h
    exact ⟨rfl, AccountObjectId.parts_of_read hfound⟩
  | database =>
    obtain ⟨found, hfound, rfl⟩ := exists_of_map_eq_ok h
    exact ⟨rfl, DatabaseObjectId.parts_of_read hfound⟩
  | schema =>
    obtain ⟨found, hfound, rfl⟩ := exists_of_map_eq_ok h
    exact ⟨rfl, SchemaObjectId.parts_of_read hfound⟩
  | function => exact absurd hlevel (by simp [Level.isDotted])

end Identifier

/-- **Dotted names are read back at their own level, and at no other.** Whatever characters the
parts of an identifier hold, its qualified name is read as the identifier itself; at the other
levels with dotted names it is refused for the number of its parts. -/
theorem read_qualifiedName_dotted {id : Identifier} (hlevel : id.level.isDotted = true)
    (hparts : ∀ p ∈ id.parts, p ≠ "") :
    Identifier.read id.level id.qualifiedName = .ok id ∧
      ∀ level : Level, level.isDotted = true → level ≠ id.level →
        Identifier.read level id.qualifiedName =
          .error (.partCount id.qualifiedName level.partCount id.parts.length) := by
  have hread : Parts.read id.qualifiedName = .ok id.parts := by
    rw [id.qualifiedName_dotted hlevel]
    exact Parts.read_qualify id.parts_ne_nil hparts
  refine ⟨id.read_of_parts hlevel hread, ?_⟩
  intro level hdotted hne
  refine Identifier.read_of_length_ne hdotted hread ?_
  rw [id.length_parts]
  intro hcount
  exact hne (Level.eq_of_partCount hdotted hlevel hcount.symm)

/-- A schema whose two names are made of quote characters and points. -/
theorem read_qualifiedName_dotted_quotes :
    let id : Identifier := .database ⟨"\".\"", "\"\""⟩
    id.level.isDotted = true ∧ (∀ p ∈ id.parts, p ≠ "") ∧
      Identifier.read .database id.qualifiedName = .ok id ∧
      Identifier.read .schema id.qualifiedName = .error (.partCount id.qualifiedName 3 2) := by
  have hparts : ∀ p ∈ (Identifier.database ⟨"\".\"", "\"\""⟩).parts, p ≠ "" := by decide
  obtain ⟨hown, hother⟩ := read_qualifiedName_dotted rfl hparts
  exact ⟨rfl, hparts, hown, hother .schema rfl (by decide)⟩

/-! ## Where the types of a function begin -/

/-- A text that the search for the opening parenthesis passes over, and leaves outside of quotes. -/
def IsPassed (before : List Char) : Prop :=
  ∀ rest, cutAtArguments false (before ++ rest) =
    (cutAtArguments false rest).map fun (front, after) => (before ++ front, after)

theorem isPassed_nil : IsPassed [] := by
  intro rest
  rw [List.nil_append]
  cases cutAtArguments false rest <;> rfl

theorem isPassed_append {as bs : List Char} (ha : IsPassed as) (hb : IsPassed bs) :
    IsPassed (as ++ bs) := by
  intro rest
  rw [List.append_assoc, ha, hb, Option.map_map]
  congr 1
  funext ⟨front, after⟩
  exact congrArg (·, after) (List.append_assoc as bs front).symm

/-- Between quotes no parenthesis counts. A doubled quote leaves them and comes back at once. -/
theorem cutAtArguments_doubleQuotes (body rest : List Char) :
    cutAtArguments true (Text.doubleQuotes '"' body ++ rest) =
      (cutAtArguments true rest).map fun (front, after) =>
        (Text.doubleQuotes '"' body ++ front, after) := by
  induction body with
  | nil =>
    rw [Text.doubleQuotes, List.nil_append]
    cases cutAtArguments true rest <;> rfl
  | cons c body ih =>
    rw [Text.doubleQuotes]
    by_cases hc : c = '"'
    · rw [if_pos hc]
      -- The first quote of the doubled one leaves the quotes, the second enters them again.
      show ((cutAtArguments true (Text.doubleQuotes '"' body ++ rest)).map _).map _ = _
      rw [ih, Option.map_map, Option.map_map]
      rfl
    · rw [if_neg hc, List.cons_append, cutAtArguments, if_neg (by simp), if_neg hc, ih,
        Option.map_map]
      rfl

theorem isPassed_doubleQuoted (s : String) : IsPassed (Text.doubleQuoted s).toList := by
  intro rest
  rw [Text.toList_doubleQuoted, List.cons_append, List.append_assoc]
  show (cutAtArguments true (Text.doubleQuotes '"' s.toList ++ '"' :: rest)).map _ = _
  rw [cutAtArguments_doubleQuotes]
  show (((cutAtArguments false rest).map _).map _).map _ = _
  rw [Option.map_map, Option.map_map]
  congr 1
  funext ⟨front, after⟩
  simp

theorem isPassed_qualify (parts : List String) : IsPassed (qualify parts).toList := by
  induction parts with
  | nil => exact isPassed_nil
  | cons p ps ih =>
    cases ps with
    | nil =>
      rw [qualify_singleton]
      exact isPassed_doubleQuoted p
    | cons q ps =>
      rw [qualify_cons_cons, String.toList_append, String.toList_append]
      exact isPassed_append (isPassed_append (isPassed_doubleQuoted p) fun rest => rfl) ih

theorem withoutClosing_closed (cs : List Char) : withoutClosing (cs ++ [')']) = some cs := by
  rw [withoutClosing, List.getLast?_concat, if_pos rfl, List.dropLast_concat]

namespace FunctionId

open Arguments (isArgumentType isClosed regroup)

theorem isValid_iff {id : FunctionId} :
    id.isValid = true ↔
      (∀ p ∈ id.object.parts, p ≠ "") ∧ ∀ a ∈ id.arguments, isArgumentType a = true := by
  rw [isValid, Bool.and_eq_true, List.all_eq_true]
  exact and_congr_left' ((Identifier.schema id.object).isValid_iff_parts rfl)

/-- Behind a qualified name, the types are what stands between the outermost parentheses. -/
theorem read_of_qualifiedName {object : SchemaObjectId} (hobject : ∀ p ∈ object.parts, p ≠ "")
    (list : String) (hlist : "" ∉ Arguments.split list) :
    read (object.qualifiedName ++ "(" ++ list ++ ")") = .ok ⟨object, Arguments.split list⟩ := by
  have hchars : (object.qualifiedName ++ "(" ++ list ++ ")").toList =
      (qualify object.parts).toList ++ '(' :: (list.toList ++ [')']) := by
    simp only [String.toList_append, List.append_assoc]
    rfl
  have hread : SchemaObjectId.read (qualify object.parts) = .ok object := by
    have hne : object.parts ≠ [] := List.cons_ne_nil _ _
    rw [SchemaObjectId.read, Parts.read_qualify hne hobject]
    rfl
  have hcut : cutAtArguments false ('(' :: (list.toList ++ [')'])) =
      some ([], list.toList ++ [')']) := rfl
  rw [read, hchars, isPassed_qualify, hcut]
  simp only [Option.map_some, List.append_nil, withoutClosing_closed, String.ofList_toList, hread]
  rw [if_neg]
  simpa using hlist

/-- **A valid function's name is read back with its types regrouped.** -/
theorem read_qualifiedName_regroup {id : FunctionId} (h : id.isValid = true) :
    read id.qualifiedName = .ok { id with arguments := regroup id.arguments } := by
  obtain ⟨hobject, hargs⟩ := isValid_iff.mp h
  have hsplit := Arguments.split_intercalate hargs
  have hempty : "" ∉ Arguments.split (String.intercalate ", " id.arguments) := by
    rw [hsplit]
    intro hmem
    exact absurd (Arguments.isArgumentType_of_mem_regroup hargs "" hmem) (by decide)
  rw [qualifiedName, read_of_qualifiedName hobject _ hempty, hsplit]

/-- What is read consists of proper types, and only the last one can be left open. -/
theorem of_read {input : String} {id : FunctionId} (h : read input = .ok id) :
    id.isValid = true ∧ ∀ a ∈ id.arguments.dropLast, isClosed a = true := by
  unfold read at h
  split at h
  · exact absurd h (by simp)
  · split at h
    · exact absurd h (by simp)
    · rename_i list hlist
      split at h
      · exact absurd h (by simp)
      · rename_i object hobject
        simp only at h
        split at h
        · exact absurd h (by simp)
        · rename_i hnone
          obtain rfl := Except.ok.inj h
          -- Empty types were refused by the last test, and all others are proper.
          rw [isValid_iff]
          refine ⟨⟨Parts.ne_empty_of_read (SchemaObjectId.parts_of_read hobject), ?_⟩, ?_⟩
          · intro a ha
            refine Arguments.isArgumentType_of_mem_split ha ?_
            rintro rfl
            exact hnone (List.any_eq_true.mpr ⟨"", ha, rfl⟩)
          · exact fun a ha => Arguments.isClosed_of_mem_split ha

end FunctionId

/-- **A valid function is read back from its name exactly when all its types but the last one are
closed.** In any case its name is read, as a function of the same schema and name; a type that is
left open is read as one type with the next. -/
theorem read_qualifiedName_function {id : FunctionId} (h : id.isValid = true) :
    FunctionId.read id.qualifiedName =
        .ok { id with arguments := Arguments.regroup id.arguments } ∧
      (FunctionId.read id.qualifiedName = .ok id ↔
        ∀ a ∈ id.arguments.dropLast, Arguments.isClosed a = true) := by
  have hread := FunctionId.read_qualifiedName_regroup h
  refine ⟨hread, ?_⟩
  rw [hread, ← Arguments.regroup_eq_self_iff]
  constructor
  · intro heq
    exact congrArg FunctionId.arguments (Except.ok.inj heq)
  · intro heq
    rw [heq]

/-- A function of two types, of which the first one is left open. Each of them is a proper type. -/
def openFunction : FunctionId := ⟨⟨"db", "sc", "f"⟩, ["ARRAY(", "INT"]⟩

/-- The function is valid, and its name is read as that of a function of one type. -/
theorem read_qualifiedName_openFunction :
    openFunction.isValid = true ∧
      FunctionId.read openFunction.qualifiedName = .ok ⟨⟨"db", "sc", "f"⟩, ["ARRAY(, INT"]⟩ ∧
      FunctionId.read openFunction.qualifiedName ≠ .ok openFunction := by
  have hvalid : openFunction.isValid = true := by decide
  have hopen : Arguments.isClosed "ARRAY(" = false := by decide
  have hregroup : Arguments.regroup openFunction.arguments = ["ARRAY(, INT"] := by
    simp [openFunction, Arguments.regroup, hopen]
  obtain ⟨hread, hiff⟩ := read_qualifiedName_function hvalid
  rw [hregroup] at hread
  refine ⟨hvalid, hread, fun hsame => ?_⟩
  have hclosed := hiff.mp hsame "ARRAY(" (by decide)
  exact absurd (hclosed.symm.trans hopen) (by decide)

/-- **Reading normalises.** What is read at any level is a valid identifier, and its qualified name
is read as the same identifier again; and so are its types, from the list in which they are written.
-/
theorem read_normalises {level : Level} {input : String} {id : Identifier}
    (h : Identifier.read level input = .ok id) :
    id.isValid = true ∧ Identifier.read level id.qualifiedName = .ok id ∧
      Arguments.split (String.intercalate ", " id.arguments) = id.arguments := by
  by_cases hlevel : level.isDotted = true
  · obtain ⟨rfl, hparts⟩ := Identifier.parts_of_read hlevel h
    have hne := Parts.ne_empty_of_read hparts
    have hread : Parts.read id.qualifiedName = .ok id.parts := by
      rw [id.qualifiedName_dotted hlevel]
      exact Parts.read_qualify id.parts_ne_nil hne
    refine ⟨(id.isValid_iff_parts hlevel).mpr hne, id.read_of_parts hlevel hread, ?_⟩
    rw [id.arguments_dotted hlevel]
    rfl
  · cases level with
    | function =>
      obtain ⟨found, hfound, rfl⟩ := exists_of_map_eq_ok h
      obtain ⟨hvalid, hclosed⟩ := FunctionId.of_read hfound
      have hsame := Arguments.regroup_eq_self_iff.mpr hclosed
      have hread := FunctionId.read_qualifiedName_regroup hvalid
      rw [hsame] at hread
      refine ⟨hvalid, ?_, ?_⟩
      · show (FunctionId.read found.qualifiedName).map Identifier.function = _
        rw [hread]
        rfl
      · exact (Arguments.split_intercalate (FunctionId.isValid_iff.mp hvalid).2).trans hsame
    | _ => exact absurd rfl hlevel

/-- Blanks around the commas, a parenthesis too many, and a last type that is left open. -/
theorem read_normalises_unbalanced :
    let id : Identifier := .function ⟨⟨"db", "s(c", "f"⟩, ["A(1 , 2)", "B)", "C("]⟩
    Identifier.read .function "\"db\".\"s(c\".\"f\"( A(1 , 2),B) ,C()" = .ok id ∧
      id.isValid = true ∧ Identifier.read .function id.qualifiedName = .ok id := by
  intro id
  have hsplit : Arguments.split " A(1 , 2),B) ,C(" = ["A(1 , 2)", "B)", "C("] := by decide
  have hobject : ∀ p ∈ (⟨"db", "s(c", "f"⟩ : SchemaObjectId).parts, p ≠ "" := by decide
  have hfunction := FunctionId.read_of_qualifiedName hobject " A(1 , 2),B) ,C(" (by decide)
  rw [hsplit] at hfunction
  have hread : Identifier.read .function "\"db\".\"s(c\".\"f\"( A(1 , 2),B) ,C()" = .ok id :=
    congrArg (Except.map Identifier.function) hfunction
  obtain ⟨hvalid, hagain, -⟩ := read_normalises hread
  exact ⟨hread, hvalid, hagain⟩

end WarehouseAdmin
