import WarehouseAdmin.Ident.Arguments
import WarehouseAdmin.Proofs.Text.Trim

/-!
# Lists of argument types: writing and reading

Argument types are written with a comma and a blank between them, and read by cutting at the commas
at depth zero. Whether a comma is at depth zero depends on all that stands before it, and so on the
types to its left. A type that closes every parenthesis which it opens leaves the depth at zero, and
the comma behind it cuts. A type that does not takes the comma, and the type behind it, into itself.

`regroup` says what comes of this: `split_intercalate` is the exact result of reading a list of
types that was written, for all types that are proper ones each on its own, and
`regroup_eq_self_iff` tells when it is the list itself. In the other direction,
`isArgumentType_of_mem_split` and `isClosed_of_mem_split` say that whatever was read consists of
proper types, all closed but perhaps the last.
-/

set_option autoImplicit false

namespace WarehouseAdmin.Arguments

open Text (isBlank isTidy trimChars)

/-! ## Depth -/

/-- The nesting depth behind a text that begins at the given depth. -/
def depthBehind (depth : Nat) (cs : List Char) : Nat := cs.foldl depthAfter depth

@[simp] theorem depthBehind_nil (depth : Nat) : depthBehind depth [] = depth := rfl

@[simp] theorem depthBehind_cons (depth : Nat) (c : Char) (cs : List Char) :
    depthBehind depth (c :: cs) = depthBehind (depthAfter depth c) cs := rfl

@[simp] theorem depthBehind_append (depth : Nat) (as bs : List Char) :
    depthBehind depth (as ++ bs) = depthBehind (depthBehind depth as) bs := List.foldl_append

theorem depthAfter_blank {c : Char} (hc : isBlank c = true) (depth : Nat) :
    depthAfter depth c = depth := by
  have hopen : c ≠ '(' := by
    rintro rfl
    exact absurd hc (by decide)
  have hclose : c ≠ ')' := by
    rintro rfl
    exact absurd hc (by decide)
  rw [depthAfter, if_neg hopen, if_neg hclose]

theorem depthAfter_mono {d e : Nat} (h : d ≤ e) (c : Char) : depthAfter d c ≤ depthAfter e c := by
  unfold depthAfter
  split
  · omega
  · split <;> omega

theorem depthBehind_blank {cs : List Char} (h : cs.all isBlank = true) (depth : Nat) :
    depthBehind depth cs = depth := by
  induction cs with
  | nil => rfl
  | cons c cs ih =>
    rw [List.all_cons, Bool.and_eq_true] at h
    rw [depthBehind_cons, depthAfter_blank h.1, ih h.2]

/-- Says whether a text has no comma at depth zero, when it begins at the given depth. -/
def isUncut (depth : Nat) : List Char → Bool
  | [] => true
  | c :: rest => !decide (c = ',' ∧ depth = 0) && isUncut (depthAfter depth c) rest

theorem isUncut_cons {depth : Nat} {c : Char} {cs : List Char} :
    isUncut depth (c :: cs) = true ↔
      ¬ (c = ',' ∧ depth = 0) ∧ isUncut (depthAfter depth c) cs = true := by
  rw [isUncut, Bool.and_eq_true, Bool.not_eq_true', decide_eq_false_iff_not]

theorem isUncut_append {depth : Nat} {as bs : List Char} :
    isUncut depth (as ++ bs) = true ↔
      isUncut depth as = true ∧ isUncut (depthBehind depth as) bs = true := by
  induction as generalizing depth with
  | nil => simp [isUncut]
  | cons c as ih =>
    rw [List.cons_append, isUncut_cons, isUncut_cons, ih, depthBehind_cons, and_assoc]

theorem isUncut_blank {cs : List Char} (h : cs.all isBlank = true) (depth : Nat) :
    isUncut depth cs = true := by
  induction cs with
  | nil => rfl
  | cons c cs ih =>
    rw [List.all_cons, Bool.and_eq_true] at h
    rw [isUncut_cons, depthAfter_blank h.1]
    refine ⟨?_, ih h.2⟩
    rintro ⟨rfl, -⟩
    exact absurd h.1 (by decide)

/-- What has no comma at depth zero has none further inside either. -/
theorem isUncut_mono {d e : Nat} (h : d ≤ e) {cs : List Char} (hcs : isUncut d cs = true) :
    isUncut e cs = true := by
  induction cs generalizing d e with
  | nil => rfl
  | cons c cs ih =>
    rw [isUncut_cons] at hcs ⊢
    refine ⟨?_, ih (depthAfter_mono h c) hcs.2⟩
    rintro ⟨hc, he⟩
    exact hcs.1 ⟨hc, by omega⟩

/-! ## Trimming keeps depth and cuts -/

theorem depthBehind_trimChars (cs : List Char) :
    depthBehind 0 (trimChars cs) = depthBehind 0 cs := by
  obtain ⟨l, r, hcs, hl, hr⟩ := Text.exists_blank_ends cs
  have hwhole : depthBehind 0 cs = depthBehind 0 (l ++ trimChars cs ++ r) := congrArg _ hcs
  rw [hwhole, depthBehind_append, depthBehind_append, depthBehind_blank hl, depthBehind_blank hr]

theorem isUncut_trimChars {cs : List Char} (h : isUncut 0 cs = true) :
    isUncut 0 (trimChars cs) = true := by
  obtain ⟨l, r, hcs, hl, hr⟩ := Text.exists_blank_ends cs
  rw [hcs, isUncut_append, isUncut_append, depthBehind_blank hl] at h
  exact h.1.2

/-! ## Pieces -/

theorem pieces_of_isUncut {depth : Nat} {cs : List Char} (h : isUncut depth cs = true) :
    pieces depth cs = [cs] := by
  induction cs generalizing depth with
  | nil => rfl
  | cons c cs ih =>
    rw [isUncut_cons] at h
    rw [pieces, if_neg h.1, ih h.2]

/-- A comma at depth zero ends the first piece. -/
theorem pieces_cut {depth : Nat} {a : List Char} (ha : isUncut depth a = true)
    (hdepth : depthBehind depth a = 0) (rest : List Char) :
    pieces depth (a ++ ',' :: rest) = a :: pieces 0 rest := by
  induction a generalizing depth with
  | nil =>
    rw [depthBehind_nil] at hdepth
    rw [List.nil_append, pieces, if_pos ⟨rfl, hdepth⟩]
  | cons c a ih =>
    rw [isUncut_cons] at ha
    rw [List.cons_append, pieces, if_neg ha.1, ih ha.2 hdepth]

theorem isUncut_or_cut (depth : Nat) (cs : List Char) :
    isUncut depth cs = true ∨
      ∃ a rest, cs = a ++ ',' :: rest ∧ isUncut depth a = true ∧ depthBehind depth a = 0 := by
  induction cs generalizing depth with
  | nil => exact .inl rfl
  | cons c cs ih =>
    by_cases hc : c = ',' ∧ depth = 0
    · obtain ⟨rfl, rfl⟩ := hc
      exact .inr ⟨[], cs, rfl, rfl, rfl⟩
    · rcases ih (depthAfter depth c) with huncut | ⟨a, rest, hcs, ha, hdepth⟩
      · exact .inl (isUncut_cons.mpr ⟨hc, huncut⟩)
      · exact .inr ⟨c :: a, rest, congrArg (c :: ·) hcs, isUncut_cons.mpr ⟨hc, ha⟩, hdepth⟩

/-- A text is one piece, or it is cut at its first comma at depth zero. This is the induction that
the pieces of a text follow. -/
theorem pieces_induction {motive : List Char → List (List Char) → Prop}
    (uncut : ∀ cs, isUncut 0 cs = true → motive cs [cs])
    (cut : ∀ a rest, isUncut 0 a = true → depthBehind 0 a = 0 → motive rest (pieces 0 rest) →
      motive (a ++ ',' :: rest) (a :: pieces 0 rest)) (cs : List Char) :
    motive cs (pieces 0 cs) := by
  -- `pieces` goes character by character and at all depths; from one cut at depth zero to the next,
  -- only the length is left to go by.
  induction hlen : cs.length using Nat.strongRecOn generalizing cs with
  | ind n ih =>
    rcases isUncut_or_cut 0 cs with huncut | ⟨a, rest, rfl, ha, hdepth⟩
    · rw [pieces_of_isUncut huncut]
      exact uncut cs huncut
    · rw [pieces_cut ha hdepth]
      refine cut a rest ha hdepth (ih rest.length ?_ rest rfl)
      rw [← hlen, List.length_append, List.length_cons]
      omega

theorem pieces_ne_nil (cs : List Char) : pieces 0 cs ≠ [] :=
  pieces_induction (motive := fun _ ps => ps ≠ []) (fun cs _ => List.cons_ne_nil cs [])
    (fun a rest _ _ _ => List.cons_ne_nil a (pieces 0 rest)) cs

theorem isUncut_of_mem_pieces {cs p : List Char} (hp : p ∈ pieces 0 cs) : isUncut 0 p = true := by
  refine pieces_induction (motive := fun _ ps => ∀ p ∈ ps, isUncut 0 p = true) ?_ ?_ cs p hp
  · intro cs hcs p hp
    rwa [List.mem_singleton.mp hp]
  · intro a rest ha _ ih
    exact List.forall_mem_cons.mpr ⟨ha, ih⟩

/-- Behind every piece but the last one the depth is zero. -/
theorem depthBehind_of_mem_pieces {cs p : List Char} (hp : p ∈ (pieces 0 cs).dropLast) :
    depthBehind 0 p = 0 := by
  refine pieces_induction (motive := fun _ ps => ∀ p ∈ ps.dropLast, depthBehind 0 p = 0)
    ?_ ?_ cs p hp
  · intro cs _ p hp
    exact absurd hp (by simp)
  · intro a rest _ hdepth ih
    rw [List.dropLast_cons_of_ne_nil (pieces_ne_nil rest)]
    exact List.forall_mem_cons.mpr ⟨hdepth, ih⟩

/-! ## Trimmed pieces -/

/-- Only a blank text has no trimmed piece. -/
theorem splitChars_eq {cs : List Char} (h : trimChars cs ≠ []) :
    splitChars cs = (pieces 0 cs).map trimChars := by
  unfold splitChars
  split
  · rename_i hitems
    rcases isUncut_or_cut 0 cs with huncut | ⟨a, rest, rfl, ha, hdepth⟩
    · rw [pieces_of_isUncut huncut] at hitems
      exact absurd (List.cons.inj hitems).1 h
    · rw [pieces_cut ha hdepth, List.map_cons] at hitems
      have hnil := (List.cons.inj hitems).2
      exact absurd (List.map_eq_nil_iff.mp hnil) (pieces_ne_nil rest)
  · rfl

/-- Blank characters in front of a text belong to its first piece, and are trimmed. -/
theorem map_trimChars_pieces_blank {c : Char} (hc : isBlank c = true) (cs : List Char) :
    (pieces 0 (c :: cs)).map trimChars = (pieces 0 cs).map trimChars := by
  have hcomma : ¬ (c = ',' ∧ (0 : Nat) = 0) := by
    rintro ⟨rfl, -⟩
    exact absurd hc (by decide)
  rw [pieces, if_neg hcomma, depthAfter_blank hc]
  cases hp : pieces 0 cs with
  | nil => exact absurd hp (pieces_ne_nil cs)
  | cons p ps =>
    have htrim : trimChars (c :: p) = trimChars p := by
      rw [trimChars, trimChars, Text.trimLeft_cons, if_pos hc]
    rw [List.map_cons, List.map_cons, htrim]

/-! ## Argument types -/

/-- Says whether a type closes every parenthesis that it opens. -/
def isClosed (s : String) : Bool := depthBehind 0 s.toList == 0

theorem isClosed_iff {s : String} : isClosed s = true ↔ depthBehind 0 s.toList = 0 := by
  rw [isClosed, beq_iff_eq]

/-- Trimming does nothing to the characters of a tidy text. -/
theorem trimChars_toList {s : String} (h : isTidy s = true) : trimChars s.toList = s.toList := by
  rw [← String.toList_ofList (l := trimChars s.toList)]
  exact congrArg String.toList (Text.trim_eq_self h)

theorem toList_ne_nil {s : String} (h : isTidy s = true) : s.toList ≠ [] := fun hnil =>
  Text.ne_empty_of_isTidy h (String.toList_eq_nil_iff.mp hnil)

/-- The types that a tidy text lists, by its pieces. -/
theorem split_eq {s : String} (h : isTidy s = true) :
    split s = (pieces 0 s.toList).map fun p => String.ofList (trimChars p) := by
  have hne : trimChars s.toList ≠ [] := by
    rw [trimChars_toList h]
    exact toList_ne_nil h
  rw [split, splitChars_eq hne, List.map_map]
  rfl

theorem split_of_isUncut {s : String} (h : isTidy s = true) (hs : isUncut 0 s.toList = true) :
    split s = [s] := by
  rw [split_eq h, pieces_of_isUncut hs, List.map_singleton, trimChars_toList h,
    String.ofList_toList]

theorem isArgumentType_iff {s : String} :
    isArgumentType s = true ↔ isTidy s = true ∧ isUncut 0 s.toList = true := by
  constructor
  · intro h
    simp only [isArgumentType, Bool.and_eq_true, bne_iff_ne, beq_iff_eq] at h
    obtain ⟨⟨hne, htrim⟩, hlen⟩ := h
    have htidy : isTidy s = true := by
      rw [← htrim]
      exact Text.isTidy_trim (by rwa [htrim])
    refine ⟨htidy, ?_⟩
    rcases isUncut_or_cut 0 s.toList with huncut | ⟨a, rest, hs, ha, hdepth⟩
    · exact huncut
    -- A text that is cut has a second piece.
    · rw [split_eq htidy, hs, pieces_cut ha hdepth, List.length_map, List.length_cons] at hlen
      exact absurd (List.length_eq_zero_iff.mp (Nat.succ.inj hlen)) (pieces_ne_nil rest)
  · rintro ⟨htidy, huncut⟩
    simp only [isArgumentType, Bool.and_eq_true, bne_iff_ne, beq_iff_eq]
    refine ⟨⟨Text.ne_empty_of_isTidy htidy, Text.trim_eq_self htidy⟩, ?_⟩
    rw [split_of_isUncut htidy huncut]
    rfl

/-! ## What is written and read again -/

/-- Lets every type that is not closed take in the one behind it, with the comma between them. -/
def regroup : List String → List String
  | [] => []
  | [a] => [a]
  | a :: b :: rest =>
    if isClosed a then a :: regroup (b :: rest) else regroup ((a ++ ", " ++ b) :: rest)
termination_by args => args.length

theorem intercalate_cons_cons (a b : String) (rest : List String) :
    String.intercalate ", " (a :: b :: rest) =
      String.intercalate ", " ((a ++ ", " ++ b) :: rest) := by
  cases rest with
  | nil =>
    rw [String.intercalate_cons_cons, String.intercalate_singleton, String.intercalate_singleton]
  | cons c rest =>
    rw [String.intercalate_cons_cons, String.intercalate_cons_cons, String.intercalate_cons_cons]
    simp only [String.append_assoc]

/-- A type that is not closed makes one type with whatever type stands behind the comma: at its end
the depth is not zero, and it can only be greater in what follows than it would be there alone. -/
theorem isArgumentType_merge {a b : String} (ha : isArgumentType a = true)
    (hopen : isClosed a = false) (hb : isArgumentType b = true) :
    isArgumentType (a ++ ", " ++ b) = true := by
  rw [isArgumentType_iff] at ha hb ⊢
  have hdepth : depthBehind 0 a.toList ≠ 0 := by
    intro hzero
    rw [isClosed_iff.mpr hzero] at hopen
    exact absurd hopen (by simp)
  refine ⟨Text.isTidy_between ha.1 hb.1, ?_⟩
  have hsep : isUncut (depthBehind 0 a.toList) ", ".toList = true := by
    refine isUncut_cons.mpr ⟨fun h => hdepth h.2, ?_⟩
    exact isUncut_blank (by decide) _
  rw [String.toList_append, String.toList_append, isUncut_append, isUncut_append]
  exact ⟨⟨ha.2, hsep⟩, isUncut_mono (Nat.zero_le _) hb.2⟩

/-- The comma behind a closed type cuts. -/
theorem split_closed {a s : String} (ha : isArgumentType a = true) (hclosed : isClosed a = true)
    (hs : isTidy s = true) : split (a ++ ", " ++ s) = a :: split s := by
  obtain ⟨htidy, huncut⟩ := isArgumentType_iff.mp ha
  have hwhole : isTidy (a ++ ", " ++ s) = true := Text.isTidy_between htidy hs
  have hchars : (a ++ ", " ++ s).toList = a.toList ++ ',' :: ' ' :: s.toList := by
    rw [String.toList_append, String.toList_append, List.append_assoc]
    rfl
  have hblank := map_trimChars_pieces_blank (c := ' ') (by decide) s.toList
  rw [split_eq hwhole, split_eq hs, hchars, pieces_cut huncut (isClosed_iff.mp hclosed),
    List.map_cons, trimChars_toList htidy, String.ofList_toList]
  have hofList := congrArg (List.map String.ofList) hblank
  rw [List.map_map, List.map_map] at hofList
  exact congrArg (a :: ·) hofList

/-- **A list of types that is written with commas is read back regrouped.** -/
theorem split_intercalate {args : List String} (hargs : ∀ a ∈ args, isArgumentType a = true) :
    split (String.intercalate ", " args) = regroup args := by
  fun_induction regroup args with
  | case1 => rfl
  | case2 a =>
    obtain ⟨htidy, huncut⟩ := isArgumentType_iff.mp (hargs a List.mem_cons_self)
    rw [String.intercalate_singleton]
    exact split_of_isUncut htidy huncut
  | case3 a b rest hclosed ih =>
    rw [List.forall_mem_cons] at hargs
    have htidy : isTidy (String.intercalate ", " (b :: rest)) = true :=
      Text.isTidy_intercalate (List.cons_ne_nil b rest) fun t ht =>
        (isArgumentType_iff.mp (hargs.2 t ht)).1
    rw [String.intercalate_cons_cons, split_closed hargs.1 hclosed htidy, ih hargs.2]
  | case4 a b rest hopen ih =>
    rw [List.forall_mem_cons, List.forall_mem_cons] at hargs
    have hmerged := isArgumentType_merge hargs.1 (by simpa using hopen) hargs.2.1
    -- The same text, written of the shorter list in which the two types are one.
    rw [intercalate_cons_cons]
    exact ih (List.forall_mem_cons.mpr ⟨hmerged, hargs.2.2⟩)

theorem isArgumentType_of_mem_regroup {args : List String}
    (hargs : ∀ a ∈ args, isArgumentType a = true) :
    ∀ a ∈ regroup args, isArgumentType a = true := by
  fun_induction regroup args with
  | case1 => exact hargs
  | case2 a => exact hargs
  | case3 a b rest hclosed ih =>
    rw [List.forall_mem_cons] at hargs
    exact List.forall_mem_cons.mpr ⟨hargs.1, ih hargs.2⟩
  | case4 a b rest hopen ih =>
    rw [List.forall_mem_cons, List.forall_mem_cons] at hargs
    have hmerged := isArgumentType_merge hargs.1 (by simpa using hopen) hargs.2.1
    exact ih (List.forall_mem_cons.mpr ⟨hmerged, hargs.2.2⟩)

theorem length_regroup_le (args : List String) : (regroup args).length ≤ args.length := by
  fun_induction regroup args with
  | case1 => exact Nat.le_refl _
  | case2 a => exact Nat.le_refl _
  | case3 a b rest hclosed ih => exact Nat.succ_le_succ ih
  | case4 a b rest hopen ih => exact Nat.le_succ_of_le ih

/-- Nothing is regrouped exactly when every type but the last one is closed. -/
theorem regroup_eq_self_iff {args : List String} :
    regroup args = args ↔ ∀ a ∈ args.dropLast, isClosed a = true := by
  fun_induction regroup args with
  | case1 => simp
  | case2 a => simp
  | case3 a b rest hclosed ih =>
    rw [List.dropLast_cons_of_ne_nil (List.cons_ne_nil b rest), List.forall_mem_cons,
      List.cons_inj_right, ih]
    exact ⟨fun h => ⟨hclosed, h⟩, fun h => h.2⟩
  | case4 a b rest hopen ih =>
    constructor
    -- A type that was taken in is missing in the number of types.
    · intro h
      have hlen := length_regroup_le ((a ++ ", " ++ b) :: rest)
      rw [h] at hlen
      exact absurd hlen (by simp)
    · intro h
      rw [List.dropLast_cons_of_ne_nil (List.cons_ne_nil b rest), List.forall_mem_cons] at h
      exact absurd h.1 hopen

/-! ## What is read -/

theorem split_eq_nil_or (s : String) :
    split s = [] ∨ split s = (pieces 0 s.toList).map fun p => String.ofList (trimChars p) := by
  rw [split]
  unfold splitChars
  split
  · exact .inl rfl
  · rw [List.map_map]
    exact .inr rfl

theorem isArgumentType_of_mem_split {s t : String} (ht : t ∈ split s) (hne : t ≠ "") :
    isArgumentType t = true := by
  rcases split_eq_nil_or s with hs | hs
  · rw [hs] at ht
    exact absurd ht List.not_mem_nil
  · rw [hs] at ht
    obtain ⟨p, hp, rfl⟩ := List.mem_map.mp ht
    have htrim : Text.trim (String.ofList p) = String.ofList (trimChars p) := by
      rw [Text.trim, String.toList_ofList]
    rw [isArgumentType_iff, String.toList_ofList, ← htrim]
    exact ⟨Text.isTidy_trim (by rwa [htrim]), isUncut_trimChars (isUncut_of_mem_pieces hp)⟩

theorem isClosed_of_mem_split {s t : String} (ht : t ∈ (split s).dropLast) : isClosed t = true := by
  rcases split_eq_nil_or s with hs | hs
  · rw [hs] at ht
    exact absurd ht List.not_mem_nil
  · rw [hs, ← List.map_dropLast] at ht
    obtain ⟨p, hp, rfl⟩ := List.mem_map.mp ht
    rw [isClosed_iff, String.toList_ofList, depthBehind_trimChars]
    exact depthBehind_of_mem_pieces hp

end WarehouseAdmin.Arguments
