import WarehouseAdmin.CommandLine.Command
import WarehouseAdmin.Proofs.Ident.Reading

/-!
# Descriptions of identifiers

A command describes the identifier that a text names, and it has to find out from the text of what
level the identifier is. A parenthesis anywhere means a function; otherwise the number of parts
decides, which the reader of dotted names counts right whatever the parts hold. So the text that
names an identifier leads back to it, with one exception: a parenthesis inside of a quoted part
sends the name of an account object, a database object or a schema object to the reader of
functions, which passes over the part and finds no argument list (`describeIdentifier_exact`).
-/

set_option autoImplicit false

namespace WarehouseAdmin

/-! ## What characters a qualified name holds -/

theorem Text.mem_doubleQuotes {q c : Char} {cs : List Char} : c ∈ doubleQuotes q cs ↔ c ∈ cs := by
  induction cs with
  | nil => rfl
  | cons d cs ih =>
    rw [doubleQuotes]
    split
    · rename_i hd
      simp [ih, hd]
    · simp [ih]

theorem Text.mem_doubleQuoted {c : Char} (hc : c ≠ '"') {s : String} :
    c ∈ (doubleQuoted s).toList ↔ c ∈ s.toList := by
  rw [toList_doubleQuoted]
  simp [mem_doubleQuotes, hc]

/-- Quotes and points apart, a qualified name has the characters of its parts. -/
theorem mem_qualify {c : Char} (hquote : c ≠ '"') (hpoint : c ≠ '.') {parts : List String} :
    c ∈ (qualify parts).toList ↔ ∃ p ∈ parts, c ∈ p.toList := by
  induction parts with
  | nil => simp [qualify]
  | cons p ps ih =>
    cases ps with
    | nil => simp [qualify_singleton, Text.mem_doubleQuoted hquote]
    | cons q ps =>
      rw [qualify_cons_cons, String.toList_append, String.toList_append, List.mem_append,
        List.mem_append, ih, Text.mem_doubleQuoted hquote]
      simp [hpoint]

/-- Between its quotes a qualified name may hold parentheses; outside of them it has none. -/
theorem cutAtArguments_qualify (parts : List String) :
    cutAtArguments false (qualify parts).toList = none := by
  have hpassed := isPassed_qualify parts []
  rwa [List.append_nil] at hpassed

namespace CommandLine

/-- The description of an identifier, line by line: what it is, and what it lies in. -/
def description : Identifier → List String
  | .account id => ["account object " ++ qualify [id.name]]
  | .database id =>
    ["database object " ++ qualify [id.database, id.name],
      "  in database " ++ qualify [id.database]]
  | .schema id =>
    ["schema object " ++ qualify [id.database, id.schema, id.name],
      "  in schema " ++ qualify [id.database, id.schema], "  in database " ++ qualify [id.database]]
  | .function id =>
    ["function " ++ id.qualifiedName,
      "  in schema " ++ qualify [id.object.database, id.object.schema],
      "  in database " ++ qualify [id.object.database]]

theorem identifierLines_eq (id : Identifier) : identifierLines id = description id := by
  cases id <;> rfl

/-- A part of the name, and not a list of arguments, brings a parenthesis into the text. -/
def HidesParenthesis (id : Identifier) : Prop :=
  id.level.isDotted = true ∧ ∃ p ∈ id.parts, '(' ∈ p.toList

theorem contains_iff (parts : List String) :
    (qualify parts).toList.contains '(' = true ↔ ∃ p ∈ parts, '(' ∈ p.toList := by
  rw [List.contains_iff_mem]
  exact mem_qualify (by simp) (by simp)

/-- Without a parenthesis in it, a dotted name is read at the level of its number of parts. The
levels that are tried before are refused for that number. -/
theorem readIdentifier_dotted {id : Identifier} (hlevel : id.level.isDotted = true)
    (hvalid : id.isValid = true) (hplain : ∀ p ∈ id.parts, '(' ∉ p.toList) :
    readIdentifier id.qualifiedName = .ok id := by
  have hparts := (id.isValid_iff_parts hlevel).mp hvalid
  have hread : Parts.read id.qualifiedName = .ok id.parts := by
    rw [id.qualifiedName_dotted hlevel]
    exact Parts.read_qualify id.parts_ne_nil hparts
  have hno : ¬ id.qualifiedName.toList.contains '(' = true := by
    rw [id.qualifiedName_dotted hlevel, contains_iff]
    rintro ⟨p, hp, hmem⟩
    exact hplain p hp hmem
  have hown : Identifier.read id.level id.qualifiedName = .ok id := id.read_of_parts hlevel hread
  have hother (lvl : Level) (hdotted : lvl.isDotted = true)
      (hcount : id.level.partCount ≠ lvl.partCount) :
      Identifier.read lvl id.qualifiedName =
        .error (.partCount id.qualifiedName lvl.partCount id.parts.length) :=
    Identifier.read_of_length_ne hdotted hread (id.length_parts ▸ hcount)
  unfold readIdentifier
  rw [if_neg hno]
  cases hlvl : id.level with
  | account =>
    rw [hlvl] at hown hother
    rw [hother .schema rfl nofun, hother .database rfl nofun, hown]
    rfl
  | database =>
    rw [hlvl] at hown hother
    rw [hother .schema rfl nofun, hown]
  | schema =>
    rw [hlvl] at hown
    rw [hown]
  | function => exact absurd hlevel (by simp [hlvl, Level.isDotted])

/-- With one, it is taken for the name of a function, and the list of arguments is missing. -/
theorem readIdentifier_hidden {id : Identifier} (h : HidesParenthesis id) :
    readIdentifier id.qualifiedName =
      .error (.invalidIdentifier (.malformed id.qualifiedName .noArgumentList)) := by
  obtain ⟨hlevel, hmem⟩ := h
  have hfunction : FunctionId.read id.qualifiedName =
      .error (.malformed id.qualifiedName .noArgumentList) := by
    rw [FunctionId.read, id.qualifiedName_dotted hlevel, cutAtArguments_qualify]
  have hyes : id.qualifiedName.toList.contains '(' = true := by
    rw [id.qualifiedName_dotted hlevel, contains_iff]
    exact hmem
  unfold readIdentifier
  rw [if_pos hyes, Identifier.read, hfunction]
  rfl

/-- The name of a function has a parenthesis of its own. -/
theorem readIdentifier_function {id : Identifier} (hlevel : id.level = .function)
    (hread : Identifier.read .function id.qualifiedName = .ok id) :
    readIdentifier id.qualifiedName = .ok id := by
  have hyes : id.qualifiedName.toList.contains '(' = true := by
    cases id with
    | function id =>
      show (FunctionId.qualifiedName id).toList.contains '(' = true
      rw [List.contains_iff_mem]
      simp [FunctionId.qualifiedName]
    | _ => exact absurd hlevel (by simp [Identifier.level])
  unfold readIdentifier
  rw [if_pos hyes, hread]
  rfl

end CommandLine

open CommandLine

/-- **Which identifiers are described from their own names.** Let an identifier be valid, and let it
be read back from its name if it is that of a function.

* If it is of another level and one of its parts holds an opening parenthesis, then its name is
  refused: there is no list of arguments in it.
* Otherwise its name is described, by a line with its kind and its name and by one line for each
  thing that it lies in, the schema before the database. -/
theorem describeIdentifier_exact {id : Identifier} (hvalid : id.isValid = true)
    (hread : id.level = .function → Identifier.read .function id.qualifiedName = .ok id) :
    (HidesParenthesis id →
      describeIdentifier id.qualifiedName =
        .error (.invalidIdentifier (.malformed id.qualifiedName .noArgumentList))) ∧
    (¬ HidesParenthesis id →
      describeIdentifier id.qualifiedName = .ok (description id)) := by
  constructor
  · intro hhidden
    rw [describeIdentifier, readIdentifier_hidden hhidden]
    rfl
  · intro hplain
    have hfound : readIdentifier id.qualifiedName = .ok id := by
      by_cases hlevel : id.level.isDotted = true
      · refine readIdentifier_dotted hlevel hvalid fun p hp hmem => ?_
        exact hplain ⟨hlevel, p, hp, hmem⟩
      · have hfunction : id.level = .function := by
          cases hlvl : id.level with
          | function => rfl
          | _ => exact absurd rfl (hlvl ▸ hlevel)
        exact readIdentifier_function hfunction (hread hfunction)
    rw [describeIdentifier, hfound, ← identifierLines_eq]
    rfl

/-- An alert and a function in a schema whose name holds a parenthesis. -/
theorem describeIdentifier_exact_parenthesis :
    let alert : Identifier := .schema ⟨"db", "sc(1", "late"⟩
    let function : Identifier := .function ⟨⟨"db", "sc(1", "f"⟩, ["NUMBER(38, 0)"]⟩
    alert.isValid = true ∧ HidesParenthesis alert ∧
      describeIdentifier alert.qualifiedName =
        .error (.invalidIdentifier (.malformed alert.qualifiedName .noArgumentList)) ∧
      function.isValid = true ∧ Identifier.read .function function.qualifiedName = .ok function ∧
      ¬ HidesParenthesis function ∧
      describeIdentifier function.qualifiedName = .ok (description function) := by
  intro alert function
  have halert : alert.isValid = true := by decide
  have hhidden : HidesParenthesis alert :=
    ⟨rfl, "sc(1", List.mem_cons_of_mem _ List.mem_cons_self, by simp⟩
  have hvalid : function.isValid = true := by decide
  have hsplit : Arguments.split "NUMBER(38, 0)" = ["NUMBER(38, 0)"] := by decide
  have hparts : ∀ p ∈ (⟨"db", "sc(1", "f"⟩ : SchemaObjectId).parts, p ≠ "" := by decide
  have hobject := FunctionId.read_of_qualifiedName hparts "NUMBER(38, 0)" (by decide)
  rw [hsplit] at hobject
  have hread : Identifier.read .function function.qualifiedName = .ok function :=
    congrArg (Except.map Identifier.function) hobject
  have hopen : ¬ HidesParenthesis function := fun h => nomatch h.1
  exact ⟨halert, hhidden, (describeIdentifier_exact halert nofun).1 hhidden, hvalid, hread, hopen,
    (describeIdentifier_exact hvalid fun _ => hread).2 hopen⟩

end WarehouseAdmin
