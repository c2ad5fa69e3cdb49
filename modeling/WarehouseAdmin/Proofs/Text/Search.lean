import Mathlib
import WarehouseAdmin.Text.Letters

/-!
# Phrases in a text

A phrase in small ASCII letters is searched for under `foldCase`, which is not the whole of simple
case folding: it only follows the characters that lead to ASCII. This file says why that is enough.
Whatever a simple case folding does with the rest of the characters (`IsSimpleFold`), none of them
becomes an ASCII character, and so none can stand for a character of the phrase; the search finds
the phrase exactly where it stands letter by letter up to that folding (`containsFolded_iff`).

What is found stays found in a longer text, and in a text whose ASCII letters have another case.
-/

set_option autoImplicit false

namespace WarehouseAdmin.Text

/-! ## Neighbouring characters -/

/-- The search tries every place, so an attempt that fails late does not hide one that begins
inside of it. -/
theorem occursIn_iff_infix {needle cs : List Char} :
    occursIn needle cs = true ↔ needle <:+: cs := by
  induction cs with
  | nil => simp [occursIn]
  | cons c rest ih =>
    rw [occursIn, Bool.or_eq_true, List.isPrefixOf_iff_prefix, ih, List.infix_cons_iff]

/-! ## Simple case folding -/

/-- What a simple case folding does with ASCII: it takes the ASCII characters to their small forms,
and of the others no more than the long s and the Kelvin sign to an ASCII character. -/
structure IsSimpleFold (fold : Char → Char) : Prop where
  ascii : ∀ c : Char, c.toNat < 128 → fold c = c.toLower
  long_s : fold '\u017f' = 's'
  kelvin : fold '\u212a' = 'k'
  other : ∀ c : Char, 128 ≤ c.toNat → c ≠ '\u017f' → c ≠ '\u212a' → 128 ≤ (fold c).toNat

theorem isUpper_iff {c : Char} : c.isUpper = true ↔ 65 ≤ c.toNat ∧ c.toNat ≤ 90 := by
  simp [Char.isUpper, UInt32.le_iff_toNat_le]

theorem foldCase_of_lt {c : Char} (h : c.toNat < 128) : foldCase c = c.toLower := by
  have hs : c ≠ '\u017f' := by
    rintro rfl
    exact absurd h (by decide)
  have hk : c ≠ '\u212a' := by
    rintro rfl
    exact absurd h (by decide)
  rw [foldCase, if_neg hs, if_neg hk]

theorem isSimpleFold_foldCase : IsSimpleFold foldCase where
  ascii _ h := foldCase_of_lt h
  long_s := rfl
  kelvin := rfl
  other c h hs hk := by
    have hupper : ¬ c.isUpper = true := by
      rw [isUpper_iff]
      omega
    rw [foldCase, if_neg hs, if_neg hk, Char.toLower_eq_of_not_isUpper hupper]
    exact h

/-- The case of an ASCII letter is nothing to the folding. -/
theorem foldCase_toLower (c : Char) : foldCase c.toLower = foldCase c := by
  by_cases hupper : c.isUpper = true
  · have hrange := isUpper_iff.mp hupper
    have hsmall : c.toLower.toNat < 128 := by
      rw [Char.toLower_eq_of_isUpper hupper, Char.toNat_ofNat, if_pos (.inl (by omega))]
      omega
    have hlarge : c.toNat < 128 := by omega
    rw [foldCase_of_lt hsmall, foldCase_of_lt hlarge, Char.toLower_toLower_eq_toLower]
  · rw [Char.toLower_eq_of_not_isUpper hupper]

/-! ## Phrases -/

/-- Says whether a text is in small ASCII letters, and in ASCII characters that are no letters. -/
def isSmall (s : String) : Bool := s.toList.all fun c => decide (c.toNat < 128) && c.toLower == c

theorem isSmall_iff {s : String} :
    isSmall s = true ↔ ∀ c ∈ s.toList, c.toNat < 128 ∧ c.toLower = c := by
  simp [isSmall]

/-- The phrase stands somewhere in the text, character by character up to folding. -/
def HoldsFolded (fold : Char → Char) (text phrase : String) : Prop :=
  ∃ before found after : String,
    text = before ++ found ++ after ∧ found.toList.map fold = phrase.toList.map fold

variable {fold : Char → Char}

/-- A character stands for one of a phrase under any folding if it does under `foldCase`. -/
theorem IsSimpleFold.fold_eq_iff (hfold : IsSimpleFold fold) {c p : Char} (hp : p.toNat < 128)
    (hsmall : p.toLower = p) : fold c = fold p ↔ foldCase c = p := by
  rw [hfold.ascii p hp, hsmall]
  by_cases hc : c.toNat < 128
  · rw [hfold.ascii c hc, foldCase_of_lt hc]
  · by_cases hs : c = '\u017f'
    · rw [hs, hfold.long_s]
      rfl
    · by_cases hk : c = '\u212a'
      · rw [hk, hfold.kelvin]
        rfl
      · -- Neither folding leads to ASCII, where the phrase is.
        have hout := hfold.other c (Nat.le_of_not_lt hc) hs hk
        have hout' := isSimpleFold_foldCase.other c (Nat.le_of_not_lt hc) hs hk
        constructor
        · rintro rfl
          exact absurd hp (Nat.not_lt_of_le hout)
        · rintro rfl
          exact absurd hp (Nat.not_lt_of_le hout')

theorem IsSimpleFold.map_eq_iff (hfold : IsSimpleFold fold) {cs ps : List Char}
    (hps : ∀ p ∈ ps, p.toNat < 128 ∧ p.toLower = p) :
    cs.map fold = ps.map fold ↔ cs.map foldCase = ps := by
  induction cs generalizing ps with
  | nil => simp [eq_comm]
  | cons c cs ih =>
    cases ps with
    | nil => simp
    | cons p ps =>
      rw [List.forall_mem_cons] at hps
      obtain ⟨⟨hp, hsmall⟩, hrest⟩ := hps
      simp only [List.map_cons, List.cons.injEq, hfold.fold_eq_iff hp hsmall, ih hrest]

/-- **A phrase is found exactly where it stands up to simple case folding.** -/
theorem containsFolded_iff (hfold : IsSimpleFold fold) {text phrase : String}
    (hphrase : isSmall phrase = true) :
    containsFolded text phrase = true ↔ HoldsFolded fold text phrase := by
  have hps := isSmall_iff.mp hphrase
  rw [containsFolded, occursIn_iff_infix]
  constructor
  · rintro ⟨l, r, h⟩
    obtain ⟨front, after, htext, hfront, -⟩ := List.map_eq_append_iff.mp h.symm
    obtain ⟨before, found, hsplit, -, hfound⟩ := List.map_eq_append_iff.mp hfront
    refine ⟨String.ofList before, String.ofList found, String.ofList after, ?_, ?_⟩
    · rw [← String.ofList_append, ← String.ofList_append, ← hsplit, ← htext, String.ofList_toList]
    · rw [String.toList_ofList, hfold.map_eq_iff hps]
      exact hfound
  · rintro ⟨before, found, after, rfl, h⟩
    rw [hfold.map_eq_iff hps] at h
    refine ⟨before.toList.map foldCase, after.toList.map foldCase, ?_⟩
    rw [String.toList_append, String.toList_append, List.map_append, List.map_append, h]

/-- What a text holds, a longer text holds. -/
theorem containsFolded_append {text phrase : String} (h : containsFolded text phrase = true)
    (before after : String) : containsFolded (before ++ text ++ after) phrase = true := by
  rw [containsFolded, occursIn_iff_infix] at h ⊢
  apply h.trans
  refine ⟨before.toList.map foldCase, after.toList.map foldCase, ?_⟩
  rw [String.toList_append, String.toList_append, List.map_append, List.map_append]

/-- Texts that differ in the case of ASCII letters hold the same phrases. -/
theorem containsFolded_congr {text text' : String} (h : sameLetters text text' = true)
    (phrase : String) : containsFolded text phrase = containsFolded text' phrase := by
  have hlower : text.toList.map Char.toLower = text'.toList.map Char.toLower :=
    String.ofList_injective (beq_iff_eq.mp h)
  have hfolded : ∀ s : String, s.toList.map foldCase = (s.toList.map Char.toLower).map foldCase := by
    intro s
    rw [List.map_map]
    exact List.map_congr_left fun c _ => (foldCase_toLower c).symm
  rw [containsFolded, containsFolded, hfolded text, hfolded text', hlower]

end WarehouseAdmin.Text
