import WarehouseAdmin.Text.Number
import WarehouseAdmin.Decimal.Power
import WarehouseAdmin.Proofs.Text.Plain

/-!
# Numbers that are read as they were written

A number gets its value from the left, digit by digit, and the digits of a number give the number
again. Zeros in front add nothing; so a text that was filled up with them to a fixed width has the
same value, and has that width if the number needs no more.
-/

set_option autoImplicit false

namespace WarehouseAdmin.Text

theorem readDigits_eq {ds : List Char} (h : ∀ c ∈ ds, c.isDigit = true) (acc : Nat) :
    readDigits acc ds = some (Nat.ofDigitChars 10 ds acc) := by
  induction ds generalizing acc with
  | nil => rfl
  | cons c ds ih =>
    rw [List.forall_mem_cons] at h
    rw [readDigits, digitValue?, if_pos h.1, Nat.ofDigitChars_cons]
    exact ih h.2 _

theorem readNat_toDigits (n : Nat) : readNat (Nat.toDigits 10 n) = some n := by
  have hvalue := readDigits_eq (isDigit_of_mem_toDigits (n := n)) 0
  rw [Nat.ofDigitChars_ten_toDigits] at hvalue
  cases hdigits : Nat.toDigits 10 n with
  | nil => exact absurd hdigits Nat.toDigits_ne_nil
  | cons c ds => rwa [hdigits] at hvalue

/-! ## Signed numbers -/

theorem toList_toString_ofNat (m : Nat) :
    (toString (Int.ofNat m)).toList = Nat.toDigits 10 m :=
  String.toList_ofList

theorem toList_toString_negSucc (m : Nat) :
    (toString (Int.negSucc m)).toList = '-' :: Nat.toDigits 10 (m + 1) := by
  have hsign : toString (Int.negSucc m) = "-" ++ String.ofList (Nat.toDigits 10 (m + 1)) := rfl
  rw [hsign, String.toList_append, String.toList_ofList (l := Nat.toDigits 10 (m + 1))]
  rfl

/-- **A number within the range is read as it was written**, the lower end of the range included:
the sign is put before the number only after its digits were read. -/
theorem readSigned_toString {min max n : Int} (hmin : min ≤ n) (hmax : n ≤ max) :
    readSigned min max (toString n) = some n := by
  have hrange : decide (min ≤ n ∧ n ≤ max) = true := decide_eq_true ⟨hmin, hmax⟩
  cases n with
  | ofNat m =>
    rw [readSigned, toList_toString_ofNat]
    have hread := readNat_toDigits m
    have hdigits := isDigit_of_mem_toDigits (n := m)
    -- A reader of numbers looks for a sign first, and finds a digit.
    split
    case h_1 rest heq =>
      rw [heq] at hdigits
      exact absurd (hdigits '+' List.mem_cons_self) (by decide)
    case h_2 rest heq =>
      rw [heq] at hdigits
      exact absurd (hdigits '-' List.mem_cons_self) (by decide)
    case h_3 =>
      rw [hread]
      exact Option.filter_some_pos hrange
  | negSucc m =>
    have hvalue : -Int.ofNat (m + 1) = Int.negSucc m := rfl
    simp only [readSigned, toList_toString_negSucc, readNat_toDigits, Option.map_some, hvalue]
    exact Option.filter_some_pos hrange

/-! ## Numbers of a fixed width -/

theorem toList_padded (width n : Nat) :
    (padded width n).toList =
      List.replicate (width - (Nat.toDigits 10 n).length) '0' ++ Nat.toDigits 10 n :=
  String.toList_ofList

theorem padded_ne_nil (width n : Nat) : (padded width n).toList ≠ [] := by
  rw [toList_padded]
  exact List.append_ne_nil_of_right_ne_nil _ Nat.toDigits_ne_nil

theorem isDigit_of_mem_padded {width n : Nat} :
    ∀ c ∈ (padded width n).toList, c.isDigit = true := by
  intro c hc
  rw [toList_padded, List.mem_append] at hc
  rcases hc with hzero | hdigit
  · rw [List.eq_of_mem_replicate hzero]
    decide
  · exact isDigit_of_mem_toDigits c hdigit

theorem opensTidy_padded {width n : Nat} : opensTidy (padded width n).toList = true :=
  opensTidy_digits (padded_ne_nil width n) isDigit_of_mem_padded

theorem closesTidy_padded {width n : Nat} : opensTidy (padded width n).toList.reverse = true :=
  closesTidy_digits (padded_ne_nil width n) isDigit_of_mem_padded

theorem ofDigitChars_padded (width n : Nat) :
    Nat.ofDigitChars 10 (padded width n).toList 0 = n := by
  rw [toList_padded, Nat.ofDigitChars_append, Nat.ofDigitChars_replicate_zero, Nat.mul_zero,
    Nat.ofDigitChars_ten_toDigits]

theorem length_padded {width n : Nat} (hw : 0 < width) (hn : n < Decimal.tenTo width) :
    (padded width n).toList.length = width := by
  have hle : (Nat.toDigits 10 n).length ≤ width :=
    (Nat.length_toDigits_le_iff (by decide) hw).mpr hn
  rw [toList_padded, List.length_append, List.length_replicate]
  omega

end WarehouseAdmin.Text
