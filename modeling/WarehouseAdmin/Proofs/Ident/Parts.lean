import WarehouseAdmin.Ident.Basic

/-!
# Qualified names are read back

A qualified name quotes every part and puts points between them. The reader of dotted names has to
find its way through that: a part may hold points, and it may hold quote characters at its ends, so
that in `"a"""` the name's own quote is doubled while the one behind it closes the part. What
decides is the character behind a quote. Behind a closing one the text ends or goes on with a point,
and so no closing quote is ever taken for the first half of a doubled one
(`readQuoted_doubleQuotes`). From there on it is a walk over the parts: `read_qualify` is the fact
that everything else consumes.

In the other direction only one thing is needed, that no reading gives an empty part.
-/

set_option autoImplicit false

namespace WarehouseAdmin

theorem exists_of_map_eq_ok {ε α β : Type} {f : α → β} {result : Except ε α} {b : β}
    (h : result.map f = .ok b) : ∃ a, result = .ok a ∧ f a = b := by
  cases result with
  | error e => exact absurd h (by simp [Except.map])
  | ok a => exact ⟨a, rfl, Except.ok.inj h⟩

/-! ## How qualified names are spelled -/

theorem Text.toList_doubleQuoted (s : String) :
    (doubleQuoted s).toList = '"' :: (doubleQuotes '"' s.toList ++ ['"']) := by
  rw [doubleQuoted, enclose, String.toList_ofList]
  rfl

theorem qualify_singleton (p : String) : qualify [p] = Text.doubleQuoted p := by
  rw [qualify, List.map_singleton, String.intercalate_singleton]

theorem qualify_cons_cons (p q : String) (ps : List String) :
    qualify (p :: q :: ps) = Text.doubleQuoted p ++ "." ++ qualify (q :: ps) := by
  rw [qualify, List.map_cons, List.map_cons, String.intercalate_cons_cons]
  rfl

theorem toList_qualify_cons_cons (p q : String) (ps : List String) :
    (qualify (p :: q :: ps)).toList =
      '"' :: (Text.doubleQuotes '"' p.toList ++ '"' :: '.' :: (qualify (q :: ps)).toList) := by
  rw [qualify_cons_cons, String.toList_append, String.toList_append, Text.toList_doubleQuoted]
  simp

theorem Identifier.parts_ne_nil (id : Identifier) : id.parts ≠ [] := by
  cases id <;> exact List.cons_ne_nil _ _

namespace Parts

/-! ## Reading one part -/

theorem readQuoted_doubled (rest : List Char) :
    readQuoted ('"' :: '"' :: rest) =
      (readQuoted rest).map fun (part, after) => ('"' :: part, after) :=
  rfl

theorem readQuoted_other {c : Char} (hc : c ≠ '"') (rest : List Char) :
    readQuoted (c :: rest) = (readQuoted rest).map fun (part, after) => (c :: part, after) := by
  rw [readQuoted]
  · intro others h
    exact absurd h hc
  · exact hc

/-- A quote character closes a part where a part may end. -/
theorem readQuoted_closing {rest : List Char} (hrest : endsPart rest = true) :
    readQuoted ('"' :: rest) = some ([], rest) := by
  cases rest with
  | nil => rfl
  | cons c rest =>
    have hc : c = '.' := by simpa [endsPart] using hrest
    rw [hc]
    rfl

theorem readQuoted_doubleQuotes {rest : List Char} (hrest : endsPart rest = true)
    (body : List Char) :
    readQuoted (Text.doubleQuotes '"' body ++ '"' :: rest) = some (body, rest) := by
  induction body with
  -- Here the quote of the name itself is read, with the end or a point behind it.
  | nil => exact readQuoted_closing hrest
  | cons c body ih =>
    rw [Text.doubleQuotes]
    by_cases hc : c = '"'
    · rw [if_pos hc, List.cons_append, List.cons_append, readQuoted_doubled, ih, hc]
      rfl
    · rw [if_neg hc, List.cons_append, readQuoted_other hc, ih]
      rfl

theorem readPart_quoted {rest : List Char} (hrest : endsPart rest = true) (body : List Char) :
    readPart ('"' :: (Text.doubleQuotes '"' body ++ '"' :: rest)) = .ok (body, rest) := by
  rw [readPart, readQuoted_doubleQuotes hrest]
  exact if_pos hrest

/-! ## Reading all parts -/

theorem readFrom_last {index : Nat} {cs part : List Char} (hpart : part ≠ [])
    (h : readPart cs = .ok (part, [])) : readFrom index cs = .ok [part] := by
  rw [readFrom.eq_def]
  split <;> simp_all

theorem readFrom_next {index : Nat} {cs part rest : List Char} {c : Char} (hpart : part ≠ [])
    (h : readPart cs = .ok (part, c :: rest)) :
    readFrom index cs = (readFrom (index + 1) rest).map (part :: ·) := by
  rw [readFrom.eq_def]
  split <;> simp_all

theorem readFrom_qualify {parts : List String} (hne : parts ≠ []) (hparts : ∀ p ∈ parts, p ≠ "")
    (index : Nat) : readFrom index (qualify parts).toList = .ok (parts.map String.toList) := by
  induction parts generalizing index with
  | nil => exact absurd rfl hne
  | cons p ps ih =>
    rw [List.forall_mem_cons] at hparts
    have hp : p.toList ≠ [] := fun h => hparts.1 (String.toList_eq_nil_iff.mp h)
    cases ps with
    | nil =>
      rw [qualify_singleton, Text.toList_doubleQuoted]
      exact readFrom_last hp (readPart_quoted rfl p.toList)
    | cons q ps =>
      rw [toList_qualify_cons_cons, readFrom_next hp (readPart_quoted rfl p.toList),
        ih (List.cons_ne_nil q ps) hparts.2]
      rfl

theorem readChars_of_ne_nil {cs : List Char} (h : cs ≠ []) : readChars cs = readFrom 0 cs := by
  cases cs with
  | nil => exact absurd rfl h
  | cons c cs => rfl

theorem map_ofList_toList (parts : List String) :
    (parts.map String.toList).map String.ofList = parts := by
  rw [List.map_map]
  exact (List.map_congr_left fun p _ => String.ofList_toList).trans parts.map_id

/-- **A qualified name is read back as its parts**, whatever characters they hold. -/
theorem read_qualify {parts : List String} (hne : parts ≠ []) (hparts : ∀ p ∈ parts, p ≠ "") :
    read (qualify parts) = .ok parts := by
  have hchars : (qualify parts).toList ≠ [] := by
    cases parts with
    | nil => exact absurd rfl hne
    | cons p ps =>
      cases ps with
      | nil => simp [qualify_singleton, Text.toList_doubleQuoted]
      | cons q ps => simp [toList_qualify_cons_cons]
  rw [read, readChars_of_ne_nil hchars, readFrom_qualify hne hparts]
  exact congrArg Except.ok (map_ofList_toList parts)

/-! ## What is read has no empty part -/

theorem ne_nil_of_readFrom {index : Nat} {cs : List Char} {parts : List (List Char)}
    (h : readFrom index cs = .ok parts) : ∀ p ∈ parts, p ≠ [] := by
  fun_induction readFrom index cs generalizing parts with
  | case1 => exact absurd h (by simp)
  | case2 => exact absurd h (by simp)
  | case3 index cs part hpart hread =>
    intro p hp
    obtain rfl := Except.ok.inj h
    rw [List.mem_singleton.mp hp]
    exact hpart
  | case4 index cs part c rest hpart hread ih =>
    obtain ⟨more, hmore, rfl⟩ := exists_of_map_eq_ok h
    exact List.forall_mem_cons.mpr ⟨hpart, ih hmore⟩

theorem ne_empty_of_read {input : String} {parts : List String} (h : read input = .ok parts) :
    ∀ p ∈ parts, p ≠ "" := by
  rw [read] at h
  cases hchars : readChars input.toList with
  | error fault => exact absurd h (by simp [hchars])
  | ok found =>
    rw [hchars] at h
    obtain rfl := Except.ok.inj h
    have hinput : input.toList ≠ [] := by
      intro hnil
      rw [hnil] at hchars
      exact absurd hchars (by simp [readChars])
    rw [readChars_of_ne_nil hinput] at hchars
    intro p hp
    obtain ⟨cs, hcs, rfl⟩ := List.mem_map.mp hp
    intro hempty
    refine ne_nil_of_readFrom hchars cs hcs ?_
    rw [← String.toList_ofList (l := cs), hempty]
    rfl

end Parts

end WarehouseAdmin
