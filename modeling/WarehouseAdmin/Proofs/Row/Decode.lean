import WarehouseAdmin.Row.Decode
import WarehouseAdmin.Proofs.Time.Timestamp

/-!
# Cells that come as text

One server sends a flag, a number or an instant as what it is, another sends its text. Both must
come out of a row alike: `Cell.SameAsText` says that a cell denotes something, and that the text of
the cell denotes it again, in whatever row and column it stands and with any blank characters around
it. It holds of all flags, of all integers that a cell can hold, and of those instants of the years 0
to 9999 that are proper (`sameAsText_bool`, `sameAsText_int`, `sameAsText_timestamp_iff`). An instant
need not be: its nanoseconds may be a second or more in any second, but a text has a leap second only
at the end of a minute, and shows the second after anywhere else.
-/

set_option autoImplicit false

namespace WarehouseAdmin

open Time

variable {α : Type} [CellDecode α]

namespace Cell

/-- Wherever the cell stands in a row, it is decoded to `a`. -/
def Denotes (cell : Cell) (a : α) : Prop :=
  ∀ (r : Row) (column : String), r.get? column = some cell → r.decode α column = .ok a

/-- The cell denotes `a`, and so does its text, with any blank characters around it. -/
def SameAsText (cell : Cell) (a : α) : Prop :=
  cell.Denotes a ∧ ∃ s : String, cell.Denotes s ∧
    ∀ before after : String, Text.isBlankText before = true → Text.isBlankText after = true →
      (Cell.text (before ++ s ++ after)).Denotes a

theorem denotes_of {cell : Cell} {a : α} (hne : cell ≠ .null)
    (h : CellDecode.ofCell? cell = some a) : cell.Denotes a := by
  intro r column hcell
  simp only [Row.decode, hcell, h]

/-- A cell denotes one thing at most, since it can stand in a row of its own. -/
theorem Denotes.ofCell? {cell : Cell} {a : α} (hne : cell ≠ .null) (h : cell.Denotes a) :
    CellDecode.ofCell? cell = some a := by
  have hcell : (Row.mk [("c", cell)]).get? "c" = some cell := by
    simp [Row.get?, Text.sameLetters]
  have hdecode := h _ _ hcell
  simp only [Row.decode, hcell] at hdecode
  cases hread : (CellDecode.ofCell? cell : Option α) with
  | some b =>
    rw [hread] at hdecode
    exact congrArg some (Except.ok.inj hdecode)
  | none =>
    rw [hread] at hdecode
    exact absurd hdecode nofun

/-- The text that counts is the one that the cell is decoded to. -/
theorem sameAsText_iff {cell : Cell} {a : α} {s : String} (hne : cell ≠ .null)
    (hs : textOfCell? cell = some s) :
    cell.SameAsText a ↔ cell.Denotes a ∧
      ∀ before after : String, Text.isBlankText before = true → Text.isBlankText after = true →
        CellDecode.ofCell? (.text (before ++ s ++ after)) = some a := by
  constructor
  · rintro ⟨ha, s', hs', htext⟩
    obtain rfl : s' = s := Option.some.inj ((hs'.ofCell? hne).symm.trans hs)
    exact ⟨ha, fun before after hb hc => (htext before after hb hc).ofCell? nofun⟩
  · rintro ⟨ha, htext⟩
    refine ⟨ha, s, denotes_of hne hs, fun before after hb hc => ?_⟩
    exact denotes_of nofun (htext before after hb hc)

/-! ## The three types -/

theorem ofCell?_bool (cell : Cell) : CellDecode.ofCell? cell = flagOfCell? cell := rfl

theorem ofCell?_int (cell : Cell) : CellDecode.ofCell? cell = intOfCell? cell := rfl

theorem ofCell?_instant (cell : Cell) : CellDecode.ofCell? cell = instantOfCell? cell := rfl

theorem sameAsText_bool (b : Bool) : (Cell.bool b).SameAsText b := by
  have hne : Cell.bool b ≠ .null := nofun
  have hs : textOfCell? (.bool b) = some (if b then "true" else "false") := rfl
  refine (sameAsText_iff hne hs).mpr ⟨denotes_of hne rfl, fun before after hbefore hafter => ?_⟩
  have htidy : Text.isTidy (if b then "true" else "false") = true := by
    cases b <;> decide
  rw [ofCell?_bool, flagOfCell?, flagOfText?, Text.trim_surrounded hbefore hafter htidy]
  cases b <;> decide

theorem sameAsText_int {n : Int} (hmin : -9223372036854775808 ≤ n)
    (hmax : n ≤ 9223372036854775807) : (Cell.int n).SameAsText n := by
  have hne : Cell.int n ≠ .null := nofun
  have hs : textOfCell? (.int n) = some (toString n) := rfl
  refine (sameAsText_iff hne hs).mpr ⟨denotes_of hne rfl, fun before after hbefore hafter => ?_⟩
  have htidy : Text.isTidy (toString n) = true := Text.isTidy_of_isPlain Text.isPlain_int
  rw [ofCell?_int, intOfCell?, Text.trim_surrounded hbefore hafter htidy]
  exact Text.readSigned_toString hmin hmax

/-- An instant comes out of its text as the one that the text shows, which is the instant itself if
it is proper. -/
theorem sameAsText_timestamp_iff {i : Instant} (hyear : 0 ≤ i.date.year ∧ i.date.year ≤ 9999)
    (hnanos : i.nanos < 2000000000) :
    (Cell.timestamp i).SameAsText i ↔ i.isProper = true := by
  have hne : Cell.timestamp i ≠ .null := nofun
  have hread {before after : String} (hbefore : Text.isBlankText before = true)
      (hafter : Text.isBlankText after = true) :
      (CellDecode.ofCell? (.text (before ++ i.text ++ after)) : Option Instant) = some i.shown := by
    rw [ofCell?_instant, instantOfCell?]
    exact Instant.read_text hyear hnanos hbefore hafter
  have hs : textOfCell? (.timestamp i) = some i.text := rfl
  rw [sameAsText_iff hne hs, ← Instant.shown_eq_self_iff]
  constructor
  · rintro ⟨-, htext⟩
    have hblank : Text.isBlankText "" = true := by decide
    exact Option.some.inj ((hread hblank hblank).symm.trans (htext "" "" hblank hblank))
  · intro hshown
    refine ⟨denotes_of hne rfl, fun before after hbefore hafter => ?_⟩
    rw [hread hbefore hafter, hshown]

end Cell

/-- **Decoding does not depend on whether a server sends values or texts.** A flag, an integer of 64
bits with its sign, and a proper instant of the years 0 to 9999, fractions and leap seconds included,
are decoded to the same thing from a typed cell and from its text. -/
theorem decode_same_as_text :
    (∀ b : Bool, (Cell.bool b).SameAsText b) ∧
    (∀ n : Int, -9223372036854775808 ≤ n → n ≤ 9223372036854775807 →
      (Cell.int n).SameAsText n) ∧
    ∀ i : Instant, 0 ≤ i.date.year → i.date.year ≤ 9999 → i.isProper = true →
      (Cell.timestamp i).SameAsText i := by
  refine ⟨Cell.sameAsText_bool, fun _ => Cell.sameAsText_int, fun i hlow hhigh hproper => ?_⟩
  have hnanos : i.nanos < 2000000000 := by
    rcases Instant.isProper_iff.mp hproper with h | ⟨h, -⟩ <;> omega
  exact (Cell.sameAsText_timestamp_iff ⟨hlow, hhigh⟩ hnanos).mpr hproper

/-- The ends of the ranges: the least and the greatest integer, the first instant of year 0, and the
last of a leap second at the end of year 9999. -/
theorem decode_same_as_text_at_ends :
    (Cell.int (-9223372036854775808)).SameAsText (-9223372036854775808 : Int) ∧
    (Cell.int 9223372036854775807).SameAsText (9223372036854775807 : Int) ∧
    (Cell.timestamp ⟨-62167219200, 0⟩).SameAsText (Instant.mk (-62167219200) 0) ∧
    (Cell.timestamp ⟨253402300799, 1999999999⟩).SameAsText
      (Instant.mk 253402300799 1999999999) := by
  obtain ⟨-, hint, htimestamp⟩ := decode_same_as_text
  exact ⟨hint _ (by decide) (by decide), hint _ (by decide) (by decide),
    htimestamp _ (by decide) (by decide) (by decide),
    htimestamp _ (by decide) (by decide) (by decide)⟩

/-- A leap second in the first second of a minute is not proper. Its text is that of the second after,
which is what comes out of a cell with this text. -/
theorem leap_second_shown_as_next :
    let i := Instant.mk 0 1000000000
    (0 ≤ i.date.year ∧ i.date.year ≤ 9999 ∧ i.nanos < 2000000000) ∧
      (Cell.timestamp i).Denotes i ∧ (Cell.timestamp i).Denotes "1970-01-01T00:00:01+00:00" ∧
      (Cell.text "1970-01-01T00:00:01+00:00").Denotes (Instant.mk 1 0) ∧
      ¬ (Cell.timestamp i).SameAsText i := by
  intro i
  have hyear : 0 ≤ i.date.year ∧ i.date.year ≤ 9999 := by decide
  have hnanos : i.nanos < 2000000000 := by decide
  refine ⟨⟨hyear.1, hyear.2, hnanos⟩, Cell.denotes_of nofun rfl, Cell.denotes_of nofun ?_,
    Cell.denotes_of nofun ?_, fun h => ?_⟩
  · decide +kernel
  · decide +kernel
  · exact absurd ((Cell.sameAsText_timestamp_iff hyear hnanos).mp h) (by decide)

end WarehouseAdmin
