import WarehouseAdmin.Proofs.Text.Trim
import WarehouseAdmin.Proofs.Text.Scan

/-!
# Plain texts

A text is plain when it is tidy and has no quote character: trimming keeps it, and a reader of
quotes passes over it. The literals of fields are plain, and so are the two flags and the decimal
form of every integer, which are all that a statement holds besides quoted texts.
-/

set_option autoImplicit false

namespace WarehouseAdmin.Text

/-- Says whether a text has no quote character. -/
def isUnquoted (s : String) : Bool := s.toList.all fun c => !isQuote c

theorem isUnquoted_iff {s : String} : isUnquoted s = true ↔ ∀ c ∈ s.toList, isQuote c = false := by
  simp [isUnquoted]

/-- Says whether a text is tidy and has no quote character. -/
def isPlain (s : String) : Bool := isTidy s && isUnquoted s

theorem isTidy_of_isPlain {s : String} (h : isPlain s = true) : isTidy s = true :=
  (Bool.and_eq_true _ _ |>.mp h).1

theorem isUnquoted_of_isPlain {s : String} (h : isPlain s = true) : isUnquoted s = true :=
  (Bool.and_eq_true _ _ |>.mp h).2

/-! ## Integers -/

theorem isDigit_cases {c : Char} (h : c.isDigit = true) : ∃ d, d < 10 ∧ c = Char.ofNat (48 + d) := by
  obtain ⟨hlow, hhigh⟩ := Char.isDigit_iff_toNat.mp h
  have h0 : '0'.toNat = 48 := rfl
  have h9 : '9'.toNat = 57 := rfl
  rw [h0] at hlow
  rw [h9] at hhigh
  refine ⟨c.toNat - 48, by omega, ?_⟩
  rw [Nat.add_sub_cancel' hlow, Char.ofNat_toNat]

/-- A digit is neither blank nor a quote character. -/
theorem digit_plain {c : Char} (h : c.isDigit = true) : isBlank c = false ∧ isQuote c = false := by
  obtain ⟨d, hd, rfl⟩ := isDigit_cases h
  have hall : ∀ d ∈ List.range 10,
      isBlank (Char.ofNat (48 + d)) = false ∧ isQuote (Char.ofNat (48 + d)) = false := by
    decide
  exact hall d (List.mem_range.mpr hd)

theorem opensTidy_digits {cs : List Char} (hne : cs ≠ []) (h : ∀ c ∈ cs, c.isDigit = true) :
    opensTidy cs = true := by
  cases cs with
  | nil => exact absurd rfl hne
  | cons c cs => rw [opensTidy_cons, (digit_plain (h c List.mem_cons_self)).1]; rfl

theorem closesTidy_digits {cs : List Char} (hne : cs ≠ []) (h : ∀ c ∈ cs, c.isDigit = true) :
    opensTidy cs.reverse = true :=
  opensTidy_digits (List.reverse_ne_nil_iff.mpr hne) fun c hc => h c (List.mem_reverse.mp hc)

theorem isPlain_digits {cs : List Char} (hne : cs ≠ []) (h : ∀ c ∈ cs, c.isDigit = true) :
    isPlain (String.ofList cs) = true := by
  rw [isPlain, isTidy, String.toList_ofList, opensTidy_digits hne h, closesTidy_digits hne h]
  refine isUnquoted_iff.mpr fun c hc => ?_
  rw [String.toList_ofList] at hc
  exact (digit_plain (h c hc)).2

theorem isDigit_of_mem_toDigits {n : Nat} : ∀ c ∈ Nat.toDigits 10 n, c.isDigit = true :=
  fun _ hc => Nat.isDigit_of_mem_toDigits (by decide) (by decide) hc

theorem isPlain_nat {n : Nat} : isPlain n.repr = true :=
  isPlain_digits Nat.toDigits_ne_nil isDigit_of_mem_toDigits

theorem isPlain_append {a b : String} (ha : isPlain a = true) (hb : isPlain b = true) :
    isPlain (a ++ b) = true := by
  have hta := Bool.and_eq_true _ _ |>.mp (isTidy_of_isPlain ha)
  have htb := Bool.and_eq_true _ _ |>.mp (isTidy_of_isPlain hb)
  have hua := isUnquoted_of_isPlain ha
  have hub := isUnquoted_of_isPlain hb
  rw [isUnquoted] at hua hub
  rw [isPlain, isTidy_append hta.1 htb.2, isUnquoted, String.toList_append, List.all_append, hua, hub]
  rfl

theorem isPlain_int {n : Int} : isPlain (toString n) = true := by
  cases n with
  | ofNat m => exact isPlain_nat
  | negSucc m => exact isPlain_append (by decide) isPlain_nat

end WarehouseAdmin.Text
