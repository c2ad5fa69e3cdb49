import WarehouseAdmin.Proofs.Catalog.Signature

/-!
# The group of parentheses in a signature

The column comes from a server and may hold anything. The reader looks for the parenthesis that closes
the first one, and it goes by the number of groups that are open inside of it. Here this is compared
with what the group is without any reader: the shortest balanced text at that place (`IsGroup`).

The search can also be done with a counter that is taken down by one for each closing parenthesis. A
counter must not be taken below zero, and nothing in the text keeps a parenthesis from being closed
that was never opened. But the search starts at an opening one, and it is over when that is closed:
as long as it goes on, at least one is open (`count?_succ`). So `readCounting` never gets stuck, and
reads what the reader does.
-/

set_option autoImplicit false

namespace WarehouseAdmin.Signature

open Arguments (depthAfter depthBehind StaysOpen IsBalanced staysOpen_cons)

variable {cs inside after rest : List Char} {depth : Nat}

/-! ## Where the group ends -/

theorem cutAtClosing_eq_none_iff : cutAtClosing depth cs = none ↔ StaysOpen depth cs := by
  induction cs generalizing depth with
  | nil =>
    refine iff_of_true rfl fun p hp => ?_
    rw [List.prefix_nil.mp hp]
    exact Nat.zero_le _
  | cons c cs ih =>
    rw [cutAtClosing, staysOpen_cons]
    by_cases hc : c = ')' ∧ depth = 0
    · simp [hc]
    · rw [if_neg hc, Option.map_eq_none_iff, ih]
      exact ⟨fun h => ⟨hc, h⟩, fun h => h.2⟩

theorem of_cutAtClosing (h : cutAtClosing depth cs = some (inside, after)) :
    cs = inside ++ ')' :: after ∧ StaysOpen depth inside ∧ depthBehind depth inside = 0 := by
  induction cs generalizing depth inside with
  | nil => exact nomatch h
  | cons c cs ih =>
    rw [cutAtClosing] at h
    by_cases hc : c = ')' ∧ depth = 0
    · obtain ⟨rfl, rfl⟩ := hc
      rw [if_pos ⟨rfl, rfl⟩] at h
      obtain ⟨rfl, rfl⟩ := Prod.mk.inj (Option.some.inj h)
      exact ⟨rfl, cutAtClosing_eq_none_iff.mp rfl, rfl⟩
    · rw [if_neg hc] at h
      obtain ⟨⟨within, behind⟩, hcut, hpair⟩ := Option.map_eq_some_iff.mp h
      obtain ⟨rfl, rfl⟩ := Prod.mk.inj hpair
      obtain ⟨rfl, hopen, hdepth⟩ := ih hcut
      exact ⟨rfl, staysOpen_cons.mpr ⟨hc, hopen⟩, hdepth⟩

/-- The search finds a parenthesis with a balanced text before it, or there is none. -/
theorem cutAtClosing_eq_some_iff :
    cutAtClosing 0 cs = some (inside, after) ↔ cs = inside ++ ')' :: after ∧ IsBalanced inside := by
  constructor
  · intro h
    obtain ⟨hcs, hopen, hdepth⟩ := of_cutAtClosing h
    exact ⟨hcs, .of_staysOpen hopen hdepth⟩
  · rintro ⟨rfl, h⟩
    exact cutAtClosing_balanced h after

/-! ## The shortest balanced text -/

/-- The shortest balanced text, not empty, with which the text begins. -/
structure IsGroup (cs group : List Char) : Prop where
  isPrefix : group <+: cs
  ne_nil : group ≠ []
  balanced : IsBalanced group
  shortest : ∀ g, g <+: cs → g ≠ [] → IsBalanced g → group.length ≤ g.length

/-- Holds of a text that begins with a parenthesis which is never closed. -/
def IsUnclosed (cs : List Char) : Prop := ∀ g, g <+: cs → g ≠ [] → ¬ IsBalanced g

/-- Behind the first parenthesis of a balanced text, one more is closed than opened. -/
theorem exists_of_isBalanced {g : List Char} (hg : g <+: '(' :: rest) (hne : g ≠ [])
    (h : IsBalanced g) : ∃ q, g = '(' :: q ∧ q <+: rest ∧ q.count ')' = q.count '(' + 1 := by
  rcases List.prefix_cons_iff.mp hg with rfl | ⟨q, rfl, hq⟩
  · exact absurd rfl hne
  · exact ⟨q, rfl, hq, by simpa using h.2⟩

theorem isUnclosed_of_staysOpen (h : StaysOpen 0 rest) : IsUnclosed ('(' :: rest) := by
  intro g hg hne hbalanced
  obtain ⟨q, -, hq, hcount⟩ := exists_of_isBalanced hg hne hbalanced
  have hopen := h q hq
  omega

theorem isBalanced_enclosed (h : IsBalanced inside) : IsBalanced ('(' :: inside ++ [')']) := by
  have hsame := h.2
  refine ⟨fun p hp => ?_, by simp; omega⟩
  rw [List.cons_append] at hp
  rcases List.prefix_cons_iff.mp hp with rfl | ⟨q, rfl, hq⟩
  · simp
  · rcases List.prefix_concat_iff.mp hq with rfl | hinside
    · simp
      omega
    · have hopen := h.1 q hinside
      simp
      omega

theorem isGroup_enclosed (h : IsBalanced inside) (after : List Char) :
    IsGroup ('(' :: (inside ++ ')' :: after)) ('(' :: inside ++ [')']) := by
  refine ⟨⟨after, by simp⟩, List.cons_ne_nil _ _, isBalanced_enclosed h, fun g hg hne hbalanced => ?_⟩
  obtain ⟨q, rfl, hq, hcount⟩ := exists_of_isBalanced hg hne hbalanced
  refine Nat.le_of_not_lt fun hshort => ?_
  -- A shorter one would end inside, where nothing is closed that was not opened there.
  have hinside : q <+: inside := by
    refine List.prefix_of_prefix_length_le hq (List.prefix_append inside _) ?_
    simp only [List.length_cons, List.length_append, List.length_nil] at hshort
    omega
  have hopen := h.1 q hinside
  omega

/-! ## The return type -/

theorem after?_eq_some_iff {word : List Char} :
    after? word cs = some rest ↔ cs = word ++ rest := by
  constructor
  · intro h
    induction word generalizing cs with
    | nil => exact Option.some.inj h
    | cons w word ih =>
      cases cs with
      | nil => cases h
      | cons c cs =>
        rw [after?] at h
        split at h
        · next hw => rw [hw, ih h, List.cons_append]
        · cases h
  · rintro rfl
    exact after?_append word rest

theorem returns?_eq_some_iff {r : List Char} :
    returns? cs = some r ↔
      ∃ more, Text.trimChars cs = "RETURN".toList ++ more ∧ more.all Text.isBlank = false ∧
        r = Text.trimChars more := by
  rw [returns?, Option.filter_eq_some_iff, Option.map_eq_some_iff]
  simp only [after?_eq_some_iff, decide_eq_true_eq, ne_eq]
  constructor
  · rintro ⟨⟨more, hcs, rfl⟩, hne⟩
    rw [Text.trimChars_eq_nil_iff, Bool.not_eq_true] at hne
    exact ⟨more, hcs, hne, rfl⟩
  · rintro ⟨more, hcs, hblank, rfl⟩
    refine ⟨⟨more, hcs, rfl⟩, ?_⟩
    rw [Text.trimChars_eq_nil_iff, hblank]
    exact Bool.false_ne_true

/-! ## Counting -/

/-- The number of open parentheses after the character `c`, if it is a number: from zero, nothing can
be taken away. -/
def count? (opened : Nat) (c : Char) : Option Nat :=
  if c = '(' then some (opened + 1)
  else if c = ')' then if opened = 0 then none else some (opened - 1)
  else some opened

/-- What comes of the search for the end of a group. -/
inductive Search where
  /-- The counter would have gone below zero. -/
  | stuck
  | unclosed
  | closed (group after : List Char)

/-- Searches for the character after which the counter is back at zero. -/
def search (opened : Nat) : List Char → Search
  | [] => .unclosed
  | c :: rest =>
    match count? opened c with
    | none => .stuck
    | some now =>
      if c = ')' ∧ now = 0 then .closed [c] rest
      else
        match search now rest with
        | .closed group after => .closed (c :: group) after
        | other => other

/-- Reads a signature by counting, if the counter never goes below zero. -/
def readCounting (s : String) : Option Signature :=
  match s.toList.dropWhile (· != '(') with
  | [] => some {}
  | cs =>
    match search 0 cs with
    | .stuck => none
    | .unclosed => some {}
    | .closed group after =>
      some {
        arguments := Arguments.split (String.ofList group.tail.dropLast)
        returns := (returns? after).map String.ofList }

/-- While a parenthesis is open, the counter stays a number. It counts the first parenthesis, too, and
so it is one ahead of the depth inside of the group, until the group is closed. -/
theorem count?_succ (depth : Nat) (c : Char) :
    count? (depth + 1) c = some (if c = ')' ∧ depth = 0 then 0 else depthAfter depth c + 1) := by
  unfold count? depthAfter
  by_cases hopen : c = '('
  · simp [hopen]
  · by_cases hclose : c = ')'
    · cases depth <;> simp [hclose]
    · simp [hopen, hclose]

theorem search_eq (depth : Nat) (cs : List Char) :
    search (depth + 1) cs =
      match cutAtClosing depth cs with
      | none => .unclosed
      | some (inside, after) => .closed (inside ++ [')']) after := by
  induction cs generalizing depth with
  | nil => rfl
  | cons c cs ih =>
    rw [search, count?_succ, cutAtClosing]
    by_cases hc : c = ')' ∧ depth = 0
    · simp [hc]
    · simp only [if_neg hc, Nat.add_eq_zero_iff, Nat.one_ne_zero, and_false, if_false, ih]
      cases cutAtClosing (depthAfter depth c) cs <;> rfl

/-! ## Reading -/

variable {s : String} {before : List Char}

theorem group?_of_not_mem (h : '(' ∉ cs) : group? cs = none := by
  induction cs with
  | nil => rfl
  | cons c cs ih =>
    rw [List.mem_cons, not_or] at h
    rw [group?, if_neg (Ne.symm h.1), ih h.2]

theorem read_of_not_mem (h : '(' ∉ s.toList) : read s = {} := by
  rw [read, group?_of_not_mem h]

theorem read_of_mem (hs : s.toList = before ++ '(' :: rest) (hbefore : '(' ∉ before) :
    read s =
      match cutAtClosing 0 rest with
      | none => {}
      | some (inside, after) =>
        { arguments := Arguments.split (String.ofList inside)
          returns := (returns? after).map String.ofList } := by
  rewrite [read, hs, group?_append hbefore]
  rfl

theorem dropWhile_append (hbefore : '(' ∉ before) (cs : List Char) :
    (before ++ cs).dropWhile (· != '(') = cs.dropWhile (· != '(') := by
  refine List.dropWhile_append_of_pos fun c hc => ?_
  have hne : c ≠ '(' := fun heq => hbefore (heq ▸ hc)
  simpa using hne

/-- The counter never goes below zero, and counting leads to the same signature. -/
theorem readCounting_eq (s : String) : readCounting s = some (read s) := by
  by_cases hmem : '(' ∈ s.toList
  · obtain ⟨before, rest, hs, hbefore⟩ := List.eq_append_cons_of_mem hmem
    have hfirst : search 0 ('(' :: rest) =
        match search 1 rest with
        | .closed group after => .closed ('(' :: group) after
        | other => other := rfl
    unfold readCounting
    rw [read_of_mem hs hbefore, hs, dropWhile_append hbefore, List.dropWhile_cons_of_neg (by simp)]
    simp only [hfirst, search_eq 0 rest]
    cases cutAtClosing 0 rest <;> simp
  · have hnil : s.toList.dropWhile (· != '(') = [] := by
      simpa using dropWhile_append hmem []
    unfold readCounting
    rw [read_of_not_mem hmem, hnil]

/-- The return type is what stands behind the word, if there is anything. -/
theorem returns_iff {r : String} :
    (returns? after).map String.ofList = some r ↔
      ∃ more, Text.trim (String.ofList after) = "RETURN" ++ more ∧ Text.isBlankText more = false ∧
        r = Text.trim more := by
  rw [Option.map_eq_some_iff]
  simp only [returns?_eq_some_iff, Text.trim, String.toList_ofList]
  constructor
  · rintro ⟨_, ⟨more, hafter, hblank, rfl⟩, rfl⟩
    refine ⟨String.ofList more, ?_, ?_, ?_⟩
    · rw [hafter, String.ofList_append, String.ofList_toList]
    · rwa [Text.isBlankText, String.toList_ofList]
    · rw [String.toList_ofList]
  · rintro ⟨more, hafter, hblank, rfl⟩
    refine ⟨_, ⟨more.toList, ?_, hblank, rfl⟩, rfl⟩
    have hchars := congrArg String.toList hafter
    rwa [String.toList_ofList, String.toList_append] at hchars

/-- **A signature is read from its first group of parentheses.** Counting parentheses never has to go
below zero, and leads to what is read. Nothing is read from a text without an opening parenthesis, and
nothing if its first one is never closed. Otherwise the arguments are those inside of the shortest
balanced text that begins there. A return type is read if what follows, trimmed, begins with its word
and has something behind the word that is not blank: that, trimmed, is the return type. -/
theorem read_finds_group (s : String) :
    readCounting s = some (read s) ∧
    ('(' ∉ s.toList → read s = {}) ∧
    ∀ before rest, s.toList = before ++ '(' :: rest → '(' ∉ before →
      IsUnclosed ('(' :: rest) ∧ read s = {} ∨
      ∃ inside after, rest = inside ++ ')' :: after ∧
        IsGroup ('(' :: rest) ('(' :: inside ++ [')']) ∧
        (read s).arguments = Arguments.split (String.ofList inside) ∧
        ∀ r, (read s).returns = some r ↔
          ∃ more, Text.trim (String.ofList after) = "RETURN" ++ more ∧
            Text.isBlankText more = false ∧ r = Text.trim more := by
  refine ⟨readCounting_eq s, read_of_not_mem, fun before rest hs hbefore => ?_⟩
  rw [read_of_mem hs hbefore]
  cases hcut : cutAtClosing 0 rest with
  | none => exact .inl ⟨isUnclosed_of_staysOpen (cutAtClosing_eq_none_iff.mp hcut), rfl⟩
  | some found =>
    obtain ⟨inside, after⟩ := found
    obtain ⟨rfl, hbalanced⟩ := cutAtClosing_eq_some_iff.mp hcut
    exact .inr ⟨inside, after, rfl, isGroup_enclosed hbalanced after, rfl, fun r => returns_iff⟩

/-- A column without an opening parenthesis; and one that closes too much before the first group and
behind it, with letters of several bytes, and with a second group. -/
theorem read_finds_group_malformed :
    '(' ∉ "ADD) RETURN INT".toList ∧ read "ADD) RETURN INT" = {} ∧
      let s := ")é(N(1, 2), ü) RETURN TABLE (X))"
      let rest := "N(1, 2), ü) RETURN TABLE (X))".toList
      s.toList = ")é".toList ++ '(' :: rest ∧ '(' ∉ ")é".toList ∧ readCounting s = some (read s) ∧
        read s = ⟨["N(1, 2)", "ü"], some "TABLE (X))"⟩ ∧
        ∃ inside after, rest = inside ++ ')' :: after ∧
          IsGroup ('(' :: rest) ('(' :: inside ++ [')']) ∧
          (read s).arguments = Arguments.split (String.ofList inside) := by
  have hnone : '(' ∉ "ADD) RETURN INT".toList := by decide
  obtain ⟨-, hempty, -⟩ := read_finds_group "ADD) RETURN INT"
  refine ⟨hnone, hempty hnone, ?_⟩
  intro s rest
  have hs : s.toList = ")é".toList ++ '(' :: rest := by decide
  have hbefore : '(' ∉ ")é".toList := by decide
  obtain ⟨hcount, -, hfirst⟩ := read_finds_group s
  refine ⟨hs, hbefore, hcount, by decide +kernel, ?_⟩
  rcases hfirst _ rest hs hbefore with ⟨hunclosed, -⟩ | ⟨inside, after, hrest, hgroup, harguments, -⟩
  · have hbalanced : IsBalanced "(N(1, 2), ü)".toList := by decide
    exact absurd hbalanced (hunclosed _ (by decide) (by decide))
  · exact ⟨inside, after, hrest, hgroup, harguments⟩

end WarehouseAdmin.Signature
