import WarehouseAdmin.CommandLine.Reader
import WarehouseAdmin.Proofs.Ident.Reading
import WarehouseAdmin.Proofs.Request.Lookup

/-!
# Properties that go back to their defaults

A change of a warehouse names the properties that go back to their defaults. The names are looked up
in a table of their own, which sets one flag of the request for each; what is written in the end is
decided by the fields of the request. Here the two are compared. The request that a list of names leads
to is the one in which the flags of these names are set (`resetProperty?_ofNames` for one name,
`resetProperties_ofNames` for all), and it depends on nothing but which names are in the list. So the
statement has each name once, in the order of the fields (`reset_exact`).
-/

set_option autoImplicit false

namespace WarehouseAdmin

open FieldValue

/-! ## The flags of a list of names -/

/-- The flag of a property, given if the property is among the names. -/
def flagAmong (names : List String) (property : String) : Option Bool :=
  if property ∈ names then some true else none

/-- The field that holds the flag of its own name. -/
def flagField (names : List String) (spec : FieldSpec) : Field :=
  (spec, toFieldValue (flagAmong names spec.name))

section
variable {names : List String} {spec : FieldSpec}

theorem toFieldValue_flagAmong {property : String} :
    toFieldValue (flagAmong names property) =
      if property ∈ names then .present (.flag true) else .absent := by
  unfold flagAmong
  split <;> rfl

/-- A keyword that holds the flag of its name writes its literal if the name is given. -/
theorem tokens_flagField (hs : spec.isRegular = true) (hk : spec.kind = .keyword)
    (hl : spec.literal.isSome = true) :
    (flagField names spec).tokens = if spec.name ∈ names then spec.literal.toList else [] := by
  have hlead : spec.lead = spec.literal.toList := by
    obtain ⟨l, hl⟩ := Option.isSome_iff_exists.mp hl
    simp [FieldSpec.lead, hl, hk]
  rw [flagField, toFieldValue_flagAmong]
  split
  · show Field.tokens (spec, .flag true) = _
    rw [tokens_flag hs hk hl, if_pos rfl, hlead]
  · have hrequired : spec.modifiers.required = false := by
      rw [← Bool.not_eq_true]
      intro hr
      rw [FieldSpec.kind_of_required (FieldSpec.isRegular_iff.mp hs).1 hr] at hk
      cases hk
    exact congrArg Emission.tokens (FieldSpec.emit_unset hs (by simp [hk]) hrequired)

theorem flatMap_tokens_flagField {specs : List FieldSpec}
    (h : ∀ spec ∈ specs, spec.isRegular = true ∧ spec.kind = .keyword ∧
      spec.literal.isSome = true) :
    (specs.map (flagField names)).flatMap Field.tokens =
      (specs.filter fun spec => names.contains spec.name).filterMap (·.literal) := by
  induction specs with
  | nil => rfl
  | cons spec specs ih =>
    rw [List.forall_mem_cons] at h
    obtain ⟨⟨hs, hk, hl⟩, hrest⟩ := h
    obtain ⟨l, hliteral⟩ := Option.isSome_iff_exists.mp hl
    rw [List.map_cons, List.flatMap_cons, tokens_flagField hs hk hl, ih hrest, List.filter_cons]
    by_cases hmem : spec.name ∈ names <;> simp [hmem, hliteral]

end

namespace WarehouseUnset

/-- The fields of the request, in order. -/
def specs : List FieldSpec := (Clause.fields ({} : WarehouseUnset)).map (·.1)

/-- The names of properties that can be asked for. -/
def resettable : List String :=
  ["warehouse_type", "warehouse_size", "max_cluster_count", "min_cluster_count", "scaling_policy",
    "auto_suspend", "auto_resume", "resource_monitor", "comment"]

/-- The request in which the flags of these properties are set. -/
def ofNames (names : List String) : WarehouseUnset where
  warehouseType := flagAmong names "warehouse_type"
  warehouseSize := flagAmong names "warehouse_size"
  maxClusterCount := flagAmong names "max_cluster_count"
  minClusterCount := flagAmong names "min_cluster_count"
  scalingPolicy := flagAmong names "scaling_policy"
  autoSuspend := flagAmong names "auto_suspend"
  autoResume := flagAmong names "auto_resume"
  resourceMonitor := flagAmong names "resource_monitor"
  comment := flagAmong names "comment"

/-- The words of these properties, each once, in the order of the fields. -/
def words (names : List String) : List String :=
  (specs.filter fun spec => names.contains spec.name).filterMap (·.literal)

variable {names : List String}

theorem mem_specs_of_resettable : ∀ n ∈ resettable, ∃ spec ∈ specs, spec.name = n := by
  decide

theorem fields_ofNames (h : ∀ n ∈ names, n ∈ resettable) :
    Clause.fields (ofNames names) = specs.map (flagField names) := by
  have hnone (property : String) (hproperty : property ∉ resettable) :
      flagAmong names property = none := if_neg fun hmem => hproperty (h property hmem)
  simp (disch := decide) [specs, Clause.fields, flagField, Field.keyword, ofNames, hnone]

theorem tokens_ofNames (h : ∀ n ∈ names, n ∈ resettable) :
    (Clause.fields (ofNames names)).flatMap Field.tokens = words names := by
  rw [fields_ofNames h, flatMap_tokens_flagField (by decide)]
  rfl

theorem isSet_ofNames (h : ∀ n ∈ names, n ∈ resettable) (hne : names ≠ []) :
    isSet (.clause (Clause.fields (ofNames names))) = true := by
  obtain ⟨n, rest, rfl⟩ := List.exists_cons_of_ne_nil hne
  obtain ⟨spec, hspec, hname⟩ := mem_specs_of_resettable n (h n List.mem_cons_self)
  have hkeyword : ∀ spec ∈ specs, (spec.kind != .static) = true := by decide
  rw [isSet, Bool.or_eq_true, fields_ofNames h, anySet_iff, List.any_eq_true]
  refine .inr ⟨flagField (n :: rest) spec, List.mem_map_of_mem hspec, ?_⟩
  rw [flagField, toFieldValue_flagAmong, if_pos (hname ▸ List.mem_cons_self), hkeyword spec hspec]
  rfl

theorem words_ne_nil (h : ∀ n ∈ names, n ∈ resettable) (hne : names ≠ []) : words names ≠ [] := by
  obtain ⟨n, rest, rfl⟩ := List.exists_cons_of_ne_nil hne
  obtain ⟨spec, hspec, hname⟩ := mem_specs_of_resettable n (h n List.mem_cons_self)
  have hliteral : ∀ spec ∈ specs, spec.literal.isSome = true := by decide
  obtain ⟨l, hl⟩ := Option.isSome_iff_exists.mp (hliteral spec hspec)
  refine List.ne_nil_of_mem (List.mem_filterMap.mpr ⟨spec, List.mem_filter.mpr ⟨hspec, ?_⟩, hl⟩)
  simp [hname]

/-- Which words there are depends on which names are given, and on nothing else. -/
theorem words_congr {others : List String} (h : ∀ n, n ∈ others ↔ n ∈ names) :
    words others = words names := by
  have hcontains (n : String) : others.contains n = names.contains n := by
    rw [Bool.eq_iff_iff, List.contains_iff_mem, List.contains_iff_mem, h]
  simp only [words, hcontains]

end WarehouseUnset

/-! ## A change that resets properties, and nothing else -/

/-- The change of a warehouse that resets these properties. -/
def AlterWarehouse.resetting (id : AccountObjectId) (names : List String) : AlterWarehouse :=
  { name := id, unset := some (.ofNames names) }

section
open WarehouseUnset AlterWarehouse
variable {id : AccountObjectId} {names : List String}

theorem validate_resetting (hid : id.isValid = true) (h : ∀ n ∈ names, n ∈ resettable)
    (hne : names ≠ []) : validate (Request.alterWarehouse (resetting id names)) = .ok () := by
  have hone : (fieldsNamed actions (Clause.fields (resetting id names))).countP (·.2.isSet) = 1 := by
    rfl
  have hgiven : isGiven (ofNames names) = true := isSet_ofNames h hne
  rw [validate_eq_ok_iff]
  show Validate.failures (resetting id names) = []
  simp only [Validate.failures, List.append_eq_nil_iff, exactlyOneOf_eq_nil, hone]
  simp [resetting, hid, hgiven]

theorem tokens_resetting (hid : id.isValid = true) (h : ∀ n ∈ names, n ∈ resettable)
    (hne : names ≠ []) :
    (Clause.fields (resetting id names)).flatMap Field.tokens =
      ["ALTER WAREHOUSE", id.qualifiedName, "UNSET", String.intercalate " " (words names)] := by
  have hids : AllValid (fieldIdentifiers (Clause.fields (ofNames names))) := by
    simp [Clause.fields, Field.keyword, fieldIdentifiers]
  have hname : (Field.required "name" none id).tokens = [id.qualifiedName] := by
    show Field.tokens (⟨"name", .identifier, none, { required := true }⟩,
      .present (.identifier (.account id))) = _
    have hvalid : (Identifier.account id).isValid = true := hid
    rw [tokens_name (by decide) rfl hvalid]
    rfl
  have hunset : (Field.keyword "unset" "UNSET" (some (ofNames names))).tokens =
      ["UNSET", String.intercalate " " (words names)] := by
    show Field.tokens (⟨"unset", .keyword, some "UNSET", {}⟩,
      toFieldValue (some (ofNames names))) = _
    rw [tokens_part (by decide) rfl rfl (isSet_ofNames h hne) hids (tokens_ofNames h)
      (words_ne_nil h hne)]
    rfl
  have hnewName : (Field.identifier "new_name" "RENAME TO" (none : Option AccountObjectId)).tokens =
      [] := rfl
  have hsetTag : (Field.keyword "set_tag" "SET TAG" ([] : List Tag) .bare).tokens = [] := rfl
  have hunsetTag : (Field.keyword "unset_tag" "UNSET TAG" ([] : List SchemaObjectId) .bare).tokens =
      [] := rfl
  simp (disch := decide) [resetting, Clause.fields, tokens_fixed, hname, hunset, hnewName, hsetTag,
    hunsetTag]

theorem render_resetting (hid : id.isValid = true) (h : ∀ n ∈ names, n ∈ resettable)
    (hne : names ≠ []) :
    render (resetting id names) =
      .ok ("ALTER WAREHOUSE " ++ id.qualifiedName ++ " UNSET " ++
        String.intercalate " " (words names)) := by
  have hvalid := validate_resetting hid h hne
  obtain ⟨sql, hsql⟩ :=
    toSql_isOk_of_isRegular (RegularClause.isRegular _) (allValid_of_validate hvalid)
  obtain ⟨-, hstatement⟩ := toSql_eq_ok_iff.mp hsql
  have htokens : (Clause.fields (Request.alterWarehouse (resetting id names))).flatMap Field.tokens =
      _ := tokens_resetting hid h hne
  have hrender : render (resetting id names) = render (Request.alterWarehouse (resetting id names)) :=
    render_congr rfl rfl
  rw [hrender, render_eq_ok_iff.mpr ⟨hvalid, hsql⟩, hstatement, htokens, statement,
    Except.ok.injEq, ← String.toList_inj]
  simp [String.intercalate_cons_cons]

end

/-! ## The request that a list of names leads to -/

namespace CommandLine

open WarehouseUnset

/-- One name sets the flag of the property of that name. -/
theorem resetProperty?_ofNames (seen : List String) (name : String) :
    resetProperty? name (ofNames seen) =
      if name ∈ resettable then some (ofNames (seen ++ [name])) else none := by
  unfold resetProperty?
  split
  case h_10 =>
    have hunknown : name ∉ resettable := by simp_all [resettable]
    rw [if_neg hunknown]
  all_goals simp [resettable, ofNames, flagAmong]

/-- The first name that is not, in small letters, that of a property. -/
def firstUnknown? (names : List String) : Option String :=
  names.find? fun n => !resettable.contains (Text.lower n)

theorem firstUnknown?_eq_none {names : List String} :
    firstUnknown? names = none ↔ ∀ n ∈ names.map Text.lower, n ∈ resettable := by
  simp [firstUnknown?]

/-- The names are taken one after another, up to the first that is unknown. -/
theorem resetProperties_ofNames (seen names : List String) :
    resetProperties (ofNames seen) names =
      match firstUnknown? names with
      | some unknown => .error (.validation (.unknownProperty (Text.lower unknown)))
      | none => .ok (ofNames (seen ++ names.map Text.lower)) := by
  induction names generalizing seen with
  | nil => simp [resetProperties, firstUnknown?]
  | cons name rest ih =>
    rw [resetProperties, resetProperty?_ofNames, firstUnknown?, List.find?_cons]
    by_cases hname : Text.lower name ∈ resettable
    · simp [hname, ih, firstUnknown?]
    · simp [hname]

/-- Asks for these properties to be reset, and for nothing else. -/
def resetCommand (id : AccountObjectId) (names : List String) : Command :=
  .alterWarehouse { name := id, unset := names }

section
variable {id : AccountObjectId} {names : List String}

theorem statement?_of_unknown (id : AccountObjectId) {unknown : String}
    (h : firstUnknown? names = some unknown) :
    (resetCommand id names).statement? =
      .error (.validation (.unknownProperty (Text.lower unknown))) := by
  have hreset : resetProperties {} names = _ := resetProperties_ofNames [] names
  rw [h] at hreset
  have hne : names ≠ [] := by
    rintro rfl
    exact nomatch h
  simp [resetCommand, Command.statement?, WarehouseChange.request, unsetOf, hne, hreset, Except.map]

theorem statement?_of_known (hid : id.isValid = true) (hne : names ≠ [])
    (h : firstUnknown? names = none) :
    (resetCommand id names).statement? =
      .ok (some
        { sql := "ALTER WAREHOUSE " ++ Text.doubleQuoted id.name ++ " UNSET " ++
            String.intercalate " " (words (names.map Text.lower))
          returnsRows := false }) := by
  have hreset : resetProperties {} names = _ := resetProperties_ofNames [] names
  rw [h] at hreset
  have hunset : unsetOf names = .ok (some (ofNames (names.map Text.lower))) := by
    simp [unsetOf, hne, hreset, Except.map]
  have hrender := render_resetting hid (firstUnknown?_eq_none.mp h) (by simpa using hne)
  have hname : id.qualifiedName = Text.doubleQuoted id.name := qualify_singleton id.name
  rw [resetCommand, Command.statement?, WarehouseChange.request]
  simp only [hunset]
  show (changing (AlterWarehouse.resetting id (names.map Text.lower))).map some = _
  rw [changing, hrender, hname]
  rfl

end

/-! ## The arguments that ask for it -/

/-- What a change of a warehouse takes. -/
def alterUsage : Usage :=
  ⟨[("suspend", .nothing), ("resume", .nothing), ("if-suspended", .nothing),
    ("abort-all-queries", .nothing), ("rename", .value), ("set-size", .value),
    ("set-auto-suspend", .value), ("set-auto-resume", .value), ("set-comment", .value),
    ("unset", .values)], 1⟩

/-- What is read from arguments that name properties to be reset, and the warehouse. -/
def resetArguments (input : String) (names : List String) : Arguments :=
  { values := names.map ("unset", ·), positionals := [input] }

theorem longOption?_unset (name : String) :
    longOption? ("--unset=" ++ name) = some ("unset", some name) := by
  simp [longOption?]

theorem readFrom_unset (a : Arguments) (names : List String) (rest : List String) :
    alterUsage.readFrom a none (names.map ("--unset=" ++ ·) ++ rest) =
      alterUsage.readFrom { a with values := a.values ++ names.map ("unset", ·) } none rest := by
  induction names generalizing a with
  | nil => simp
  | cons name names ih =>
    have hdash : "--unset=" ++ name ≠ "--" := by
      intro h
      exact absurd (congrArg String.toList h) (by simp)
    have htakes : alterUsage.takes? a "unset" = some .values := rfl
    rw [List.map_cons, List.cons_append, Usage.readFrom, if_neg hdash, longOption?_unset]
    simp only [htakes]
    rw [ih]
    simp [Arguments.addValue]

theorem read_unset (input : String) (names : List String) :
    alterUsage.read (names.map ("--unset=" ++ ·) ++ ["--", input]) =
      some (resetArguments input names) := by
  rw [Usage.read, readFrom_unset]
  simp [Usage.readFrom, Arguments.addPositionals, alterUsage, resetArguments]

section
variable {input name : String} {names : List String}

theorem has_resetArguments (h : name ≠ "unset") : (resetArguments input names).has name = false := by
  simp [Arguments.has, resetArguments, h.symm]

theorem flag_resetArguments (h : name ≠ "unset") : (resetArguments input names).flag name = none := by
  simp [Arguments.flag, has_resetArguments h]

theorem optional_resetArguments {α : Type} (h : name ≠ "unset") (read : String → Option α) :
    (resetArguments input names).optional name read = some none := by
  have hlookup : (names.map fun n => ("unset", n)).lookup name = none := by
    simp [List.lookup_eq_none_iff, h]
  rw [Arguments.optional, resetArguments, hlookup]

theorem all_resetArguments : (resetArguments input names).all "unset" = names := by
  simp [Arguments.all, resetArguments, List.filter_map, Function.comp_def]

end

theorem read_alter (args : List String) :
    Command.read ("warehouse" :: "alter" :: args) = alterWarehouse args := by
  rfl

/-- Any properties of any warehouse can be asked for. -/
theorem alterWarehouse_unset {input : String} {id : AccountObjectId} (names : List String)
    (h : AccountObjectId.read input = .ok id) :
    alterWarehouse (names.map ("--unset=" ++ ·) ++ ["--", input]) = some (resetCommand id names) := by
  have hid : (resetArguments input names).positional 0 accountId = some id := by
    simp [Arguments.positional, resetArguments, accountId, h, Except.toOption]
  have hguard : (guard (!(resetArguments input names).has "if-suspended" ||
      (resetArguments input names).has "resume") : Option Unit) = some () := by
    rw [has_resetArguments (by decide)]
    rfl
  show (alterUsage.read _).bind _ = _
  rw [read_unset, Option.bind_some, hguard]
  simp (disch := decide) [flag_resetArguments, optional_resetArguments, all_resetArguments, hid]
  rfl

/-- A warehouse that is named by arguments has a name. -/
theorem isValid_of_alterWarehouse {args : List String} {c : WarehouseChange}
    (h : alterWarehouse args = some (.alterWarehouse c)) : c.name.isValid = true := by
  unfold alterWarehouse at h
  obtain ⟨a, -, h⟩ := Option.bind_eq_some_iff.mp h
  obtain ⟨-, -, h⟩ := Option.bind_eq_some_iff.mp h
  simp only [Option.bind_eq_bind, Option.bind_eq_some_iff] at h
  obtain ⟨id, hid, _, -, _, -, _, -, _, -, _, -, hc⟩ := h
  obtain rfl := Command.alterWarehouse.inj (Option.some.inj hc)
  obtain ⟨input, -, hread⟩ := Option.bind_eq_some_iff.mp hid
  have hparts : Parts.read input = .ok id.parts := by
    cases hinput : AccountObjectId.read input with
    | error e =>
      rw [accountId, hinput] at hread
      cases hread
    | ok found =>
      rw [accountId, hinput] at hread
      obtain rfl := Option.some.inj hread
      exact AccountObjectId.parts_of_read hinput
  have hne := Parts.ne_empty_of_read hparts id.name List.mem_cons_self
  simpa [AccountObjectId.isValid] using hne

/-- **Resetting properties of a warehouse**, by any names and any number of them, and nothing else.

* There are arguments that ask for it.
* Whatever arguments ask for it, the first name that is unknown is reported, in small letters, and there
  is no statement. If there is none, the statement has the word of each property once, in the order of
  the request's fields.
* Names that are the same but for their order, their case and how often they are given lead to the same
  statement. -/
theorem reset_exact {id : AccountObjectId} {names : List String} (hne : names ≠ []) :
    (∀ input, AccountObjectId.read input = .ok id →
      Command.read ("warehouse" :: "alter" :: (names.map ("--unset=" ++ ·) ++ ["--", input])) =
        some (resetCommand id names)) ∧
    ∀ args, Command.read ("warehouse" :: "alter" :: args) = some (resetCommand id names) →
      ((resetCommand id names).statement? =
        match firstUnknown? names with
        | some unknown => .error (.validation (.unknownProperty (Text.lower unknown)))
        | none =>
          .ok (some
            { sql := "ALTER WAREHOUSE " ++ Text.doubleQuoted id.name ++ " UNSET " ++
                String.intercalate " " (words (names.map Text.lower))
              returnsRows := false })) ∧
      ∀ others, (∀ n, n ∈ others.map Text.lower ↔ n ∈ names.map Text.lower) →
        firstUnknown? names = none →
          (resetCommand id others).statement? = (resetCommand id names).statement? := by
  simp only [read_alter]
  refine ⟨fun input hinput => alterWarehouse_unset names hinput, fun args hargs => ?_⟩
  have hid : id.isValid = true := isValid_of_alterWarehouse hargs
  refine ⟨?_, fun others hsame hknown => ?_⟩
  · cases hfirst : firstUnknown? names with
    | some unknown => exact statement?_of_unknown id hfirst
    | none => exact statement?_of_known hid hne hfirst
  · have hothers : firstUnknown? others = none :=
      firstUnknown?_eq_none.mpr fun n hn => firstUnknown?_eq_none.mp hknown n ((hsame n).mp hn)
    have hothersne : others ≠ [] := by
      rintro rfl
      obtain ⟨n, rest, rfl⟩ := List.exists_cons_of_ne_nil hne
      simpa using (hsame (Text.lower n)).mpr (by simp)
    rw [statement?_of_known hid hothersne hothers, statement?_of_known hid hne hknown,
      words_congr hsame]

/-- Two properties, one of them twice and in two spellings, and the two again in the other order; and
a property that a request could reset, but for which there is no name, behind one that has a name. -/
theorem reset_exact_repeatedNames :
    let id : AccountObjectId := ⟨"w"⟩
    let names := ["COMMENT", "auto_suspend", "Comment"]
    let others := ["Auto_Suspend", "comment"]
    let unnamed := ["comment", "Wait_For_Completion", "size"]
    names ≠ [] ∧ unnamed ≠ [] ∧ AccountObjectId.read "w" = .ok id ∧
      Command.read ["warehouse", "alter", "--unset", "COMMENT", "w", "--unset=auto_suspend",
        "--unset", "Comment"] = some (resetCommand id names) ∧
      (∀ n, n ∈ others.map Text.lower ↔ n ∈ names.map Text.lower) ∧ firstUnknown? names = none ∧
      (resetCommand id names).statement? =
        .ok (some ⟨"ALTER WAREHOUSE \"w\" UNSET AUTO_SUSPEND COMMENT", false⟩) ∧
      (resetCommand id others).statement? = (resetCommand id names).statement? ∧
      Command.read ["warehouse", "alter", "--unset=comment", "--unset=Wait_For_Completion",
        "--unset=size", "--", "w"] = some (resetCommand id unnamed) ∧
      (resetCommand id unnamed).statement? =
        .error (.validation (.unknownProperty "wait_for_completion")) := by
  intro id names others unnamed
  have hnames : names ≠ [] := by decide
  have hunnamed : unnamed ≠ [] := by decide
  have hid : AccountObjectId.read "w" = .ok id := by cbv
  have hargs : Command.read ["warehouse", "alter", "--unset", "COMMENT", "w", "--unset=auto_suspend",
      "--unset", "Comment"] = some (resetCommand id names) := by decide +kernel
  have hsame : ∀ n, n ∈ others.map Text.lower ↔ n ∈ names.map Text.lower := by
    have hothers : others.map Text.lower = ["auto_suspend", "comment"] := by decide
    have hlower : names.map Text.lower = ["comment", "auto_suspend", "comment"] := by decide
    intro n
    rw [hothers, hlower]
    grind
  have hknown : firstUnknown? names = none := by decide
  have hsql : "ALTER WAREHOUSE " ++ Text.doubleQuoted id.name ++ " UNSET " ++
      String.intercalate " " (words (names.map Text.lower)) =
        "ALTER WAREHOUSE \"w\" UNSET AUTO_SUSPEND COMMENT" := by decide +kernel
  have hfirst : firstUnknown? unnamed = some "Wait_For_Completion" := by decide
  have hlower : Text.lower "Wait_For_Completion" = "wait_for_completion" := by decide
  obtain ⟨-, hexact⟩ := @reset_exact id names hnames
  obtain ⟨hstatement, hagain⟩ := hexact _ hargs
  rw [hknown] at hstatement
  simp only [hsql] at hstatement
  obtain ⟨hgiven, hunknown⟩ := @reset_exact id unnamed hunnamed
  have hread := hgiven "w" hid
  have herror := (hunknown _ hread).1
  rw [hfirst] at herror
  simp only [hlower] at herror
  exact ⟨hnames, hunnamed, hid, hargs, hsame, hknown, hstatement, hagain others hsame hknown, hread,
    herror⟩

end CommandLine

end WarehouseAdmin
