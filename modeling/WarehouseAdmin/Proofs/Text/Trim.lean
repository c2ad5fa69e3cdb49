import WarehouseAdmin.Text.Blank
import WarehouseAdmin.Text.Quoted

/-!
# Texts that trimming leaves alone

Every token is trimmed on its way into a statement, and blank ones are dropped. Both would be fatal
inside a quote, so it has to be known which texts pass unchanged: the *tidy* ones, which neither
begin nor end with a blank character. Trimming does nothing to them (`trim_eq_self`), and whatever
it leaves of another text is tidy (`isTidy_trim`). Tidiness looks at both ends only, which is why it
survives joining whatever stands in between.
-/

set_option autoImplicit false

namespace WarehouseAdmin.Text

/-- Says whether the characters begin with one that is not blank. -/
def opensTidy : List Char → Bool
  | [] => false
  | c :: _ => !isBlank c

/-- Says whether the text neither begins nor ends with a blank character, nor is empty. -/
def isTidy (s : String) : Bool := opensTidy s.toList && opensTidy s.toList.reverse

theorem opensTidy_cons {c : Char} {cs : List Char} :
    opensTidy (c :: cs) = !isBlank c := rfl

theorem opensTidy_append {xs ys : List Char} (h : opensTidy xs = true) :
    opensTidy (xs ++ ys) = true := by
  cases xs with
  | nil => exact absurd h (by simp [opensTidy])
  | cons c cs => exact h

/-! ## Dropping blank characters on one side -/

theorem trimLeft_cons {c : Char} {cs : List Char} :
    trimLeft (c :: cs) = if isBlank c then trimLeft cs else c :: cs :=
  List.dropWhile_cons

theorem trimLeft_eq_self {cs : List Char} (h : opensTidy cs = true) : trimLeft cs = cs := by
  cases cs with
  | nil => rfl
  | cons c cs =>
    have hc : ¬ isBlank c = true := by simpa [opensTidy_cons] using h
    rw [trimLeft_cons, if_neg hc]

theorem opensTidy_trimLeft {cs : List Char} (h : trimLeft cs ≠ []) :
    opensTidy (trimLeft cs) = true := by
  induction cs with
  | nil => exact absurd rfl h
  | cons c cs ih =>
    rw [trimLeft_cons] at h ⊢
    by_cases hc : isBlank c = true
    · rw [if_pos hc] at h ⊢
      exact ih h
    · rw [if_neg hc]
      simpa [opensTidy_cons] using hc

theorem trimLeft_eq_nil_iff {cs : List Char} : trimLeft cs = [] ↔ cs.all isBlank = true := by
  induction cs with
  | nil => simp [trimLeft]
  | cons c cs ih =>
    rw [trimLeft_cons, List.all_cons, Bool.and_eq_true]
    by_cases hc : isBlank c = true
    · rw [if_pos hc, ih]
      exact ⟨fun h => ⟨hc, h⟩, fun h => h.2⟩
    · rw [if_neg hc]
      exact ⟨fun h => absurd h (by simp), fun h => absurd h.1 hc⟩

/-- Dropping blank characters at the end does not touch a first character that is not blank. -/
theorem opensTidy_trimRight {cs : List Char} (h : opensTidy cs = true) :
    opensTidy (trimRight cs) = true := by
  cases cs with
  | nil => exact absurd h (by simp [opensTidy])
  | cons c cs =>
    have hc : isBlank c = false := by simpa [opensTidy_cons] using h
    have hsplit : ∃ rest, trimLeft (c :: cs).reverse = rest ++ [c] := by
      rw [List.reverse_cons, trimLeft, List.dropWhile_append]
      by_cases hr : (List.dropWhile isBlank cs.reverse).isEmpty = true
      · rw [if_pos hr]
        exact ⟨[], by simp [List.dropWhile, hc]⟩
      · rw [if_neg hr]
        exact ⟨_, rfl⟩
    obtain ⟨rest, hrest⟩ := hsplit
    rw [trimRight, hrest, List.reverse_append]
    exact h

/-! ## Trimming both sides -/

theorem trim_eq_self {s : String} (h : isTidy s = true) : trim s = s := by
  obtain ⟨hopen, hclose⟩ := Bool.and_eq_true _ _ |>.mp h
  rw [trim, trimChars, trimLeft_eq_self hopen, trimRight, trimLeft_eq_self hclose,
    List.reverse_reverse, String.ofList_toList]

theorem trimChars_eq_nil_iff {cs : List Char} : trimChars cs = [] ↔ cs.all isBlank = true := by
  constructor
  · intro h
    by_cases hl : trimLeft cs = []
    · exact trimLeft_eq_nil_iff.mp hl
    · have ho := opensTidy_trimRight (opensTidy_trimLeft hl)
      rw [show trimRight (trimLeft cs) = [] from h] at ho
      exact absurd ho (by simp [opensTidy])
  · intro h
    rw [trimChars, trimLeft_eq_nil_iff.mpr h]
    rfl

/-- Only a blank text is trimmed to nothing. -/
theorem trim_eq_empty_iff {s : String} : trim s = "" ↔ isBlankText s = true := by
  rw [isBlankText, ← trimChars_eq_nil_iff, trim, ← String.toList_eq_nil_iff, String.toList_ofList]

/-- What trimming leaves is tidy. -/
theorem isTidy_trim {s : String} (h : trim s ≠ "") : isTidy (trim s) = true := by
  have hblank : ¬ isBlankText s = true := fun hb => h (trim_eq_empty_iff.mpr hb)
  have hl : trimLeft s.toList ≠ [] := fun hn => hblank (trimLeft_eq_nil_iff.mp hn)
  have ho := opensTidy_trimRight (opensTidy_trimLeft hl)
  have hr : trimLeft (trimLeft s.toList).reverse ≠ [] := by
    intro hn
    rw [trimRight, hn] at ho
    exact absurd ho (by simp [opensTidy])
  rw [isTidy, trim, String.toList_ofList, Bool.and_eq_true]
  refine ⟨ho, ?_⟩
  rw [trimChars, trimRight, List.reverse_reverse]
  exact opensTidy_trimLeft hr

/-- Trimming takes blank characters away, and only at the two ends. -/
theorem exists_blank_ends (cs : List Char) :
    ∃ l r, cs = l ++ trimChars cs ++ r ∧ l.all isBlank = true ∧ r.all isBlank = true := by
  have hend : ∀ xs : List Char, ∃ r, xs = trimRight xs ++ r ∧ r.all isBlank = true := by
    intro xs
    refine ⟨(xs.reverse.takeWhile isBlank).reverse, ?_, ?_⟩
    · rw [trimRight, trimLeft, ← List.reverse_append, List.takeWhile_append_dropWhile,
        List.reverse_reverse]
    · rw [List.all_reverse]
      exact List.all_takeWhile
  obtain ⟨r, hr, hblank⟩ := hend (trimLeft cs)
  refine ⟨cs.takeWhile isBlank, r, ?_, List.all_takeWhile, hblank⟩
  rw [List.append_assoc, trimChars, ← hr]
  exact List.takeWhile_append_dropWhile.symm

/-- What stands between blank characters is what trimming finds. -/
theorem trimChars_between {l m r : List Char} (hl : l.all isBlank = true)
    (hr : r.all isBlank = true) (hopen : opensTidy m = true)
    (hclose : opensTidy m.reverse = true) : trimChars (l ++ m ++ r) = m := by
  have hleft : trimLeft (l ++ m ++ r) = m ++ r := by
    rw [List.append_assoc, trimLeft, List.dropWhile_append_of_pos (List.all_eq_true.mp hl)]
    exact trimLeft_eq_self (opensTidy_append hopen)
  have hblank : ∀ c ∈ r.reverse, isBlank c = true :=
    fun c hc => List.all_eq_true.mp hr c (List.mem_reverse.mp hc)
  rw [trimChars, hleft, trimRight, List.reverse_append, trimLeft,
    List.dropWhile_append_of_pos hblank]
  rw [← trimLeft, trimLeft_eq_self hclose, List.reverse_reverse]

theorem trimChars_surrounded {before s after : String} (hbefore : isBlankText before = true)
    (hafter : isBlankText after = true) (h : isTidy s = true) :
    trimChars (before ++ s ++ after).toList = s.toList := by
  obtain ⟨hopen, hclose⟩ := Bool.and_eq_true _ _ |>.mp h
  rw [String.toList_append, String.toList_append]
  exact trimChars_between hbefore hafter hopen hclose

theorem trim_surrounded {before s after : String} (hbefore : isBlankText before = true)
    (hafter : isBlankText after = true) (h : isTidy s = true) :
    trim (before ++ s ++ after) = s := by
  rw [trim, trimChars_surrounded hbefore hafter h, String.ofList_toList]

/-! ## Which texts are blank -/

theorem not_isBlankText_of_mem {s : String} {c : Char} (h : c ∈ s.toList) (hc : isBlank c = false) :
    isBlankText s = false := by
  rw [isBlankText, List.all_eq_false]
  exact ⟨c, h, by simp [hc]⟩

theorem isBlankText_append {a b : String} :
    isBlankText (a ++ b) = (isBlankText a && isBlankText b) := by
  rw [isBlankText, String.toList_append, List.all_append]
  rfl

/-- What joins texts shows itself between two of them. -/
theorem isBlankText_intercalate {sep : String} {ts : List String} :
    isBlankText (String.intercalate sep ts) =
      (ts.all isBlankText && (isBlankText sep || decide (ts.length ≤ 1))) := by
  induction ts with
  | nil => simp [isBlankText]
  | cons t rest ih =>
    cases rest with
    | nil => simp
    | cons u rest =>
      have hlong : decide ((t :: u :: rest).length ≤ 1) = false := by simp
      rw [String.intercalate_cons_cons, isBlankText_append, isBlankText_append, ih, hlong,
        List.all_cons (a := t)]
      cases isBlankText sep <;> simp

/-! ## Which texts are tidy -/

/-- How a text ends is decided by its last part. -/
theorem closesTidy_append {a b : String} (hb : opensTidy b.toList.reverse = true) :
    opensTidy (a ++ b).toList.reverse = true := by
  rw [String.toList_append, List.reverse_append]
  exact opensTidy_append hb

theorem isTidy_append {a b : String} (ha : opensTidy a.toList = true)
    (hb : opensTidy b.toList.reverse = true) : isTidy (a ++ b) = true := by
  rw [isTidy, closesTidy_append hb, String.toList_append, opensTidy_append ha]
  rfl

theorem isTidy_between {a sep b : String} (ha : isTidy a = true) (hb : isTidy b = true) :
    isTidy (a ++ sep ++ b) = true := by
  obtain ⟨hopen, -⟩ := Bool.and_eq_true _ _ |>.mp ha
  obtain ⟨-, hclose⟩ := Bool.and_eq_true _ _ |>.mp hb
  rw [String.append_assoc]
  exact isTidy_append hopen (closesTidy_append hclose)

theorem isTidy_enclosed {l r : Char} {cs : List Char} (hl : isBlank l = false)
    (hr : isBlank r = false) : isTidy (String.ofList (l :: cs ++ [r])) = true := by
  simp [isTidy, opensTidy, hl, hr]

theorem isTidy_singleQuoted {s : String} : isTidy (singleQuoted s) = true :=
  isTidy_enclosed (by decide) (by decide)

theorem isTidy_doubleQuoted {s : String} : isTidy (doubleQuoted s) = true :=
  isTidy_enclosed (by decide) (by decide)

/-- Tidy texts with anything between them make a tidy text. -/
theorem isTidy_intercalate {sep : String} {ts : List String} (hne : ts ≠ [])
    (h : ∀ t ∈ ts, isTidy t = true) : isTidy (String.intercalate sep ts) = true := by
  induction ts with
  | nil => exact absurd rfl hne
  | cons t rest ih =>
    rw [List.forall_mem_cons] at h
    cases rest with
    | nil =>
      rw [String.intercalate_singleton]
      exact h.1
    | cons u rest =>
      rw [String.intercalate_cons_cons]
      exact isTidy_between h.1 (ih (by simp) h.2)

theorem ne_empty_of_isTidy {s : String} (h : isTidy s = true) : s ≠ "" := by
  rintro rfl
  exact absurd h (by simp [isTidy, opensTidy])

end WarehouseAdmin.Text
