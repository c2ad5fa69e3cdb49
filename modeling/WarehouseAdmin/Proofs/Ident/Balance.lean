import WarehouseAdmin.Proofs.Ident.Arguments

/-!
# Balanced parentheses

A type is balanced when its parentheses match, which is a matter of counting them: no prefix closes
more than it opens, and the whole closes as many. The readers of lists go by the nesting depth
instead, character by character. As long as nothing is closed that is not open the two say the same
(`depthBehind_add_count`), and so a type whose parentheses match, and whose commas stand inside of
them, is one that is closed and not cut.
-/

set_option autoImplicit false

namespace WarehouseAdmin.Arguments

/-- With `depth` parentheses open before it, no prefix of the text closes more than are open. -/
def StaysOpen (depth : Nat) (cs : List Char) : Prop :=
  ∀ p, p <+: cs → p.count ')' ≤ depth + p.count '('

/-- No prefix closes more parentheses than it opens, and the whole text closes as many. -/
def IsBalanced (cs : List Char) : Prop :=
  (∀ p, p <+: cs → p.count ')' ≤ p.count '(') ∧ cs.count ')' = cs.count '('

/-- Before every comma there is a parenthesis that is still open. -/
def CommasInside (cs : List Char) : Prop :=
  ∀ p, p ++ [','] <+: cs → p.count ')' < p.count '('

/-- A type of an argument whose parentheses match. -/
structure IsMatchedType (t : String) : Prop where
  ne_empty : t ≠ ""
  trimmed : Text.trim t = t
  balanced : IsBalanced t.toList
  commasInside : CommasInside t.toList

/-! The prefixes of a text are what its first characters are, so all of this can be decided. -/

instance (cs : List Char) : Decidable (IsBalanced cs) :=
  decidable_of_iff ((∀ n ≤ cs.length, (cs.take n).count ')' ≤ (cs.take n).count '(') ∧
      cs.count ')' = cs.count '(') <| and_congr_left' <| by
    constructor
    · intro h p hp
      rw [List.prefix_iff_eq_take.mp hp]
      exact h p.length hp.length_le
    · exact fun h n _ => h _ (List.take_prefix n cs)

instance (cs : List Char) : Decidable (CommasInside cs) :=
  decidable_of_iff (∀ n ≤ cs.length, cs.take n ++ [','] <+: cs →
      (cs.take n).count ')' < (cs.take n).count '(') <| by
    constructor
    · intro h p hp
      have hprefix : p <+: cs := (List.prefix_append p [',']).trans hp
      have htake := List.prefix_iff_eq_take.mp hprefix
      rw [htake]
      exact h p.length hprefix.length_le (htake ▸ hp)
    · exact fun h n _ hn => h _ hn

instance (t : String) : Decidable (IsMatchedType t) :=
  decidable_of_iff (t ≠ "" ∧ Text.trim t = t ∧ IsBalanced t.toList ∧ CommasInside t.toList)
    ⟨fun h => ⟨h.1, h.2.1, h.2.2.1, h.2.2.2⟩, fun h => ⟨h.1, h.2, h.3, h.4⟩⟩

variable {depth : Nat} {c : Char} {as bs cs : List Char}

/-! ## Depth by counting -/

/-- One character more is open behind `c`, or one less, or as many. -/
theorem depthAfter_add_count (h : ¬ (c = ')' ∧ depth = 0)) :
    depthAfter depth c + [c].count ')' = depth + [c].count '(' := by
  unfold depthAfter
  by_cases hopen : c = '('
  · simp [hopen]
  · by_cases hclose : c = ')'
    · have hpos : depth ≠ 0 := fun hzero => h ⟨hclose, hzero⟩
      simp [hclose]
      omega
    · simp [hopen, hclose]

theorem staysOpen_cons :
    StaysOpen depth (c :: cs) ↔ ¬ (c = ')' ∧ depth = 0) ∧ StaysOpen (depthAfter depth c) cs := by
  constructor
  · intro h
    have hhead : ¬ (c = ')' ∧ depth = 0) := by
      rintro ⟨rfl, rfl⟩
      have hfirst := h [')'] ⟨cs, rfl⟩
      simp at hfirst
    refine ⟨hhead, fun p hp => ?_⟩
    have hstep := depthAfter_add_count hhead
    have hlong := h ([c] ++ p) (List.prefix_append_right_inj [c] |>.mpr hp)
    rw [List.count_append, List.count_append] at hlong
    omega
  · rintro ⟨hhead, htail⟩ p hp
    rcases List.prefix_cons_iff.mp hp with rfl | ⟨t, rfl, ht⟩
    · simp
    · have hstep := depthAfter_add_count hhead
      have hrest := htail t ht
      rw [← List.singleton_append, List.count_append, List.count_append]
      omega

theorem depthBehind_add_count (h : StaysOpen depth cs) :
    depthBehind depth cs + cs.count ')' = depth + cs.count '(' := by
  induction cs generalizing depth with
  | nil => simp
  | cons c cs ih =>
    obtain ⟨hhead, htail⟩ := staysOpen_cons.mp h
    have hstep := depthAfter_add_count hhead
    have hrest := ih htail
    rw [depthBehind_cons, ← List.singleton_append, List.count_append, List.count_append]
    omega

theorem staysOpen_append (has : StaysOpen depth as) (hbs : StaysOpen (depthBehind depth as) bs) :
    StaysOpen depth (as ++ bs) := by
  induction as generalizing depth with
  | nil => exact hbs
  | cons c as ih =>
    obtain ⟨hhead, htail⟩ := staysOpen_cons.mp has
    exact staysOpen_cons.mpr ⟨hhead, ih htail hbs⟩

/-- A text whose commas stand inside is not cut, if what is open before it counts. -/
theorem isUncut_of_commas (hopen : StaysOpen depth cs)
    (h : ∀ p, p ++ [','] <+: cs → p.count ')' < depth + p.count '(') : isUncut depth cs = true := by
  induction cs generalizing depth with
  | nil => rfl
  | cons c cs ih =>
    obtain ⟨hhead, htail⟩ := staysOpen_cons.mp hopen
    refine isUncut_cons.mpr ⟨?_, ih htail fun p hp => ?_⟩
    · rintro ⟨rfl, rfl⟩
      have hfirst := h [] ⟨cs, rfl⟩
      simp at hfirst
    · have hstep := depthAfter_add_count hhead
      have hlong := h ([c] ++ p) (by
        rw [List.append_assoc]
        exact (List.prefix_append_right_inj [c]).mpr hp)
      rw [List.count_append, List.count_append] at hlong
      omega

/-! ## Balanced texts -/

namespace IsBalanced

theorem staysOpen (h : IsBalanced cs) : StaysOpen 0 cs := fun p hp => by
  rw [Nat.zero_add]
  exact h.1 p hp

theorem depthBehind_eq (h : IsBalanced cs) : depthBehind 0 cs = 0 := by
  have hcount := depthBehind_add_count h.staysOpen
  have hsame := h.2
  omega

/-- Balance by depth: nothing is closed that is not open, and nothing is open in the end. -/
theorem of_staysOpen (hopen : StaysOpen 0 cs) (hdepth : depthBehind 0 cs = 0) : IsBalanced cs := by
  refine ⟨fun p hp => ?_, ?_⟩
  · have hprefix := hopen p hp
    omega
  · have hcount := depthBehind_add_count hopen
    omega

theorem append (has : IsBalanced as) (hbs : IsBalanced bs) : IsBalanced (as ++ bs) := by
  have hzero := has.depthBehind_eq
  refine of_staysOpen (staysOpen_append has.staysOpen ?_) ?_
  · rw [hzero]
    exact hbs.staysOpen
  · rw [depthBehind_append, hzero, hbs.depthBehind_eq]

theorem of_no_parentheses (hopen : '(' ∉ cs) (hclose : ')' ∉ cs) : IsBalanced cs := by
  refine ⟨fun p hp => ?_, ?_⟩
  · rw [List.count_eq_zero.mpr fun hmem => hclose (hp.subset hmem)]
    exact Nat.zero_le _
  · rw [List.count_eq_zero.mpr hclose, List.count_eq_zero.mpr hopen]

theorem intercalate {sep : String} (hsep : IsBalanced sep.toList) {ts : List String}
    (hts : ∀ t ∈ ts, IsBalanced t.toList) : IsBalanced (String.intercalate sep ts).toList := by
  induction ts with
  | nil => exact of_no_parentheses (by simp) (by simp)
  | cons t rest ih =>
    rw [List.forall_mem_cons] at hts
    cases rest with
    | nil =>
      rw [String.intercalate_singleton]
      exact hts.1
    | cons u rest =>
      rw [String.intercalate_cons_cons, String.toList_append, String.toList_append]
      exact (hts.1.append hsep).append (ih hts.2)

end IsBalanced

namespace IsMatchedType

variable {t : String}

theorem isArgumentType (h : IsMatchedType t) : isArgumentType t = true := by
  have htidy : Text.isTidy t = true := by
    have htrim := h.trimmed
    rw [← htrim]
    exact Text.isTidy_trim (by rw [htrim]; exact h.ne_empty)
  refine isArgumentType_iff.mpr ⟨htidy, isUncut_of_commas h.balanced.staysOpen fun p hp => ?_⟩
  rw [Nat.zero_add]
  exact h.commasInside p hp

theorem isClosed (h : IsMatchedType t) : isClosed t = true :=
  isClosed_iff.mpr h.balanced.depthBehind_eq

end IsMatchedType

/-- **A list of matched types is read back as it was written.** -/
theorem split_matched {types : List String} (h : ∀ t ∈ types, IsMatchedType t) :
    split (String.intercalate ", " types) = types := by
  rw [split_intercalate fun t ht => (h t ht).isArgumentType, regroup_eq_self_iff]
  exact fun t ht => (h t (List.dropLast_subset types ht)).isClosed

end WarehouseAdmin.Arguments
