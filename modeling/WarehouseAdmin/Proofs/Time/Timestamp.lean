import WarehouseAdmin.Time.Timestamp
import WarehouseAdmin.Proofs.Text.Digits
import WarehouseAdmin.Proofs.Time.Calendar

/-!
# Instants that are read from their own text

The text of an instant shows a date and a time of day in UTC. Each number in it has a fixed width,
so a reader needs no mark to know where it ends; only the fraction of a second has no width of its
own, and ends where no digit follows. So both forms read date and time as they were written, and
leave the offset (`readStrict_append`, `readLoose_append`). In the text of an instant the offset is
zero, and the instant is read from it, whatever blank characters stand around it
(`Instant.read_text`).

Not every instant is the one that its text shows. A thousand million nanoseconds or more are shown
as second 60, which is right in the last second of a minute; in any other second they are shown as
the second after (`Instant.shown`).
-/

set_option autoImplicit false

namespace WarehouseAdmin.Time

/-! ## Digits at the head of a text -/

theorem digitsValue_eq (ds : List Char) : digitsValue ds = Nat.ofDigitChars 10 ds 0 := rfl

/-- A run of digits ends where it has as many as the reader takes, whatever stands behind it. -/
theorem readDigitRun_append {least most : Nat} {ds rest : List Char}
    (h : ∀ c ∈ ds, c.isDigit = true) (hlength : ds.length = most) (hle : least ≤ most) :
    readDigitRun least most (ds ++ rest) = some (digitsValue ds, rest) := by
  have htake : (ds ++ rest).take most = ds := by rw [← hlength, List.take_left]
  have hall : ds.takeWhile Char.isDigit = ds := by
    have happend : (ds ++ []).takeWhile Char.isDigit = ds ++ [].takeWhile Char.isDigit :=
      List.takeWhile_append_of_pos h
    rwa [List.append_nil, List.takeWhile_nil, List.append_nil] at happend
  have hlong : ¬ ds.length < least := by omega
  rw [readDigitRun, htake]
  simp only [hall, if_neg hlong, List.drop_left]

theorem readDigitRun_padded {least width n : Nat} {rest : List Char} (hw : 0 < width)
    (hle : least ≤ width) (hn : n < Decimal.tenTo width) :
    readDigitRun least width ((Text.padded width n).toList ++ rest) = some (n, rest) := by
  rw [readDigitRun_append Text.isDigit_of_mem_padded (Text.length_padded hw hn) hle,
    digitsValue_eq, Text.ofDigitChars_padded]

theorem readFixed_year {year : Int} {rest : List Char} (h : 0 ≤ year ∧ year ≤ 9999) :
    readFixed 4 ((Text.padded 4 year.toNat).toList ++ rest) = some (year.toNat, rest) := by
  have hlt : year.toNat < 10000 := by omega
  exact readDigitRun_padded (by decide) (Nat.le_refl 4) hlt

theorem readFixed_pair {n : Nat} {rest : List Char} (hn : n ≤ 99) :
    readFixed 2 ((Text.padded 2 n).toList ++ rest) = some (n, rest) :=
  readDigitRun_padded (by decide) (Nat.le_refl 2) (Nat.lt_succ_of_le hn)

/-- No blanks have to be skipped before a digit. -/
theorem trimLeft_padded_append {width n : Nat} {rest : List Char} :
    Text.trimLeft ((Text.padded width n).toList ++ rest) =
      (Text.padded width n).toList ++ rest :=
  Text.trimLeft_eq_self (Text.opensTidy_append Text.opensTidy_padded)

theorem readShort_pair {n : Nat} {rest : List Char} (hn : n ≤ 99) :
    readShort ((Text.padded 2 n).toList ++ rest) = some (n, rest) := by
  rw [readShort, trimLeft_padded_append]
  exact readDigitRun_padded (by decide) (by decide) (Nat.lt_succ_of_le hn)

/-- A year without a sign is read from its four digits. -/
theorem readYear_padded {year : Int} {rest : List Char} (h : 0 ≤ year ∧ year ≤ 9999) :
    readYear ((Text.padded 4 year.toNat).toList ++ rest) = some (year, rest) := by
  have hlt : year.toNat < 10000 := by omega
  have hback : ((year.toNat : Nat) : Int) = year := Int.toNat_of_nonneg h.1
  have hread : readDigitRun 1 4 ((Text.padded 4 year.toNat).toList ++ rest) =
      some (year.toNat, rest) := readDigitRun_padded (by decide) (by decide) hlt
  have hdigits : ∀ c ∈ (Text.padded 4 year.toNat).toList, c.isDigit = true :=
    Text.isDigit_of_mem_padded
  have hne := Text.padded_ne_nil 4 year.toNat
  rw [readYear, trimLeft_padded_append]
  generalize (Text.padded 4 year.toNat).toList = ds at hread hdigits hne ⊢
  cases ds with
  | nil => exact absurd rfl hne
  | cons c ds =>
    have hc : c.isDigit = true := hdigits c List.mem_cons_self
    -- The reader of a year looks for a sign first, and finds a digit.
    split
    case h_1 heq =>
      rw [(List.cons.inj heq).1] at hc
      exact absurd hc (by decide)
    case h_2 heq =>
      rw [(List.cons.inj heq).1] at hc
      exact absurd hc (by decide)
    case h_3 =>
      simp only [hread, Option.map_some, hback]

theorem expect_cons {c : Char} {rest : List Char} : expect c (c :: rest) = some rest := if_pos rfl

/-! ## The fraction of a second -/

/-- Says whether a text can follow a second that is read to its end: whether it does not go on with
a point or a digit. -/
def endsSecond : List Char → Bool
  | [] => true
  | c :: _ => !c.isDigit && c != '.'

theorem readFraction_absent {rest : List Char} (hrest : endsSecond rest = true) :
    readFraction rest = some (0, rest) := by
  rw [readFraction]
  rintro cs rfl
  exact absurd hrest (by simp [endsSecond])

/-- A run of digits with its end behind it. -/
theorem span_digits {ds rest : List Char} (h : ∀ c ∈ ds, c.isDigit = true)
    (hrest : endsSecond rest = true) :
    (ds ++ rest).takeWhile Char.isDigit = ds ∧ (ds ++ rest).dropWhile Char.isDigit = rest := by
  rw [List.takeWhile_append_of_pos h, List.dropWhile_append_of_pos h]
  cases rest with
  | nil => exact ⟨List.append_nil ds, rfl⟩
  | cons c rest =>
    have hc : c.isDigit = false := by
      simp only [endsSecond, Bool.and_eq_true, Bool.not_eq_true'] at hrest
      exact hrest.1
    simp [hc]

/-- Up to nine digits of a fraction count, the first as tenths. -/
theorem readFraction_digits {ds rest : List Char} (hne : ds ≠ [])
    (hdigits : ∀ c ∈ ds, c.isDigit = true) (hnine : ds.length ≤ 9)
    (hrest : endsSecond rest = true) :
    readFraction ('.' :: (ds ++ rest)) =
      some (Nat.ofDigitChars 10 ds 0 * Decimal.tenTo (9 - ds.length), rest) := by
  obtain ⟨htake, hdrop⟩ := span_digits hdigits hrest
  have hall : ds.take 9 = ds := List.take_of_length_le hnine
  simp only [readFraction, htake, hdrop, List.isEmpty_eq_false_iff.mpr hne, hall, digitsValue_eq,
    Bool.false_eq_true, if_false]

theorem readFraction_point {width n nanos : Nat} {rest : List Char} (hw : 0 < width)
    (hnine : width ≤ 9) (hn : n < Decimal.tenTo width)
    (hscale : n * Decimal.tenTo (9 - width) = nanos) (hrest : endsSecond rest = true) :
    readFraction (("." ++ Text.padded width n).toList ++ rest) = some (nanos, rest) := by
  have hlength := Text.length_padded hw hn
  have hchars : ("." ++ Text.padded width n).toList ++ rest =
      '.' :: ((Text.padded width n).toList ++ rest) := by
    rw [String.toList_append]
    rfl
  rw [hchars, readFraction_digits (Text.padded_ne_nil width n) Text.isDigit_of_mem_padded
    (hlength.trans_le hnine) hrest, hlength, Text.ofDigitChars_padded, hscale]

/-- However many groups of three digits a fraction is written with, it is read in full. -/
theorem readFraction_secondFraction {nanos : Nat} {rest : List Char} (h : nanos < 1000000000)
    (hrest : endsSecond rest = true) :
    readFraction ((secondFraction nanos).toList ++ rest) = some (nanos, rest) := by
  unfold secondFraction
  split
  case isTrue hzero =>
    rw [hzero, String.toList_empty, List.nil_append]
    exact readFraction_absent hrest
  case isFalse =>
    split
    case isTrue hmillis =>
      have hscale : nanos / 1000000 * Decimal.tenTo (9 - 3) = nanos :=
        Nat.div_mul_cancel (Nat.dvd_of_mod_eq_zero hmillis)
      have hlt : nanos / 1000000 < 1000 := by omega
      exact readFraction_point (by decide) (by decide) hlt hscale hrest
    case isFalse =>
      split
      case isTrue hmicros =>
        have hscale : nanos / 1000 * Decimal.tenTo (9 - 6) = nanos :=
          Nat.div_mul_cancel (Nat.dvd_of_mod_eq_zero hmicros)
        have hlt : nanos / 1000 < 1000000 := by omega
        exact readFraction_point (by decide) (by decide) hlt hscale hrest
      case isFalse =>
        exact readFraction_point (by decide) (by decide) h (Nat.mul_one nanos) hrest

/-! ## Date and time of day -/

theorem bind_of_eq_some {α β : Type} {o : Option α} {a : α} {k : α → Option β} (h : o = some a) :
    o >>= k = k a := by
  rw [h]
  rfl

/-- A date as it is written. -/
def Date.text (d : Date) : String :=
  yearText d.year ++ "-" ++ Text.padded 2 d.month ++ "-" ++ Text.padded 2 d.day

/-- A time of day as it is written, up to the fraction of its second. -/
def ClockTime.wholeText (t : ClockTime) : String :=
  Text.padded 2 t.hour ++ ":" ++ Text.padded 2 t.minute ++ ":" ++ Text.padded 2 t.second

/-- A time of day as it is written. -/
def ClockTime.text (t : ClockTime) : String := t.wholeText ++ secondFraction t.nanos

theorem Date.toList_text_append {d : Date} {rest : List Char}
    (hyear : 0 ≤ d.year ∧ d.year ≤ 9999) :
    d.text.toList ++ rest = (Text.padded 4 d.year.toNat).toList ++ '-' ::
      ((Text.padded 2 d.month).toList ++ '-' :: ((Text.padded 2 d.day).toList ++ rest)) := by
  simp [Date.text, yearText, hyear]

theorem Date.opensTidy_text {d : Date} (hyear : 0 ≤ d.year ∧ d.year ≤ 9999) :
    Text.opensTidy d.text.toList = true := by
  rw [← List.append_nil d.text.toList, Date.toList_text_append hyear]
  exact Text.opensTidy_append Text.opensTidy_padded

theorem ClockTime.toList_wholeText_append {t : ClockTime} {rest : List Char} :
    t.wholeText.toList ++ rest = (Text.padded 2 t.hour).toList ++ ':' ::
      ((Text.padded 2 t.minute).toList ++ ':' :: ((Text.padded 2 t.second).toList ++ rest)) := by
  simp [ClockTime.wholeText]

theorem Date.month_le_of_isValid {d : Date} (h : d.isValid = true) : d.month ≤ 12 := by
  simp only [Date.isValid, Bool.and_eq_true, decide_eq_true_eq] at h
  obtain ⟨⟨-, hlow⟩, hhigh⟩ := h
  unfold daysInMonth at hhigh
  split at hhigh <;> omega

theorem Date.day_le_of_isValid {d : Date} (h : d.isValid = true) : d.day ≤ 31 := by
  simp only [Date.isValid, Bool.and_eq_true, decide_eq_true_eq] at h
  obtain ⟨-, hhigh⟩ := h
  unfold daysInMonth at hhigh
  repeat' split at hhigh
  all_goals omega

theorem ClockTime.isValid_iff {t : ClockTime} :
    t.isValid = true ↔ (t.hour ≤ 23 ∧ t.minute ≤ 59) ∧ t.second ≤ 60 := by
  simp only [ClockTime.isValid, Bool.and_eq_true, decide_eq_true_eq]

section Forms

variable {d : Date} {t : ClockTime} {cs rest : List Char}

/-- **The strict form reads date and time as they were written**, and leaves the offset. -/
theorem readStrict_append {mark : Char} (hd : d.isValid = true)
    (hyear : 0 ≤ d.year ∧ d.year ≤ 9999) (ht : t.isValid = true)
    (hmark : isDateTimeMark mark = true) (hfraction : readFraction cs = some (t.nanos, rest)) :
    readStrict (d.text.toList ++ mark :: (t.wholeText.toList ++ cs)) =
      (readStrictOffset rest).map (Written.mk d t) := by
  have hmonth := Date.month_le_of_isValid hd
  have hday := Date.day_le_of_isValid hd
  obtain ⟨⟨hhour, hminute⟩, hsecond⟩ := ClockTime.isValid_iff.mp ht
  have hback : ((d.year.toNat : Nat) : Int) = d.year := Int.toNat_of_nonneg hyear.1
  rw [Date.toList_text_append hyear, ClockTime.toList_wholeText_append, readStrict]
  -- One step for each number and each mark, in the order of the text.
  refine (bind_of_eq_some (readFixed_year hyear)).trans ?_
  refine (bind_of_eq_some expect_cons).trans ?_
  refine (bind_of_eq_some (readFixed_pair (by omega))).trans ?_
  refine (bind_of_eq_some expect_cons).trans ?_
  refine (bind_of_eq_some (readFixed_pair (by omega))).trans ?_
  refine (if_pos hmark).trans ((bind_of_eq_some rfl).trans ?_)
  refine (bind_of_eq_some (readFixed_pair (by omega))).trans ?_
  refine (bind_of_eq_some expect_cons).trans ?_
  refine (bind_of_eq_some (readFixed_pair (by omega))).trans ?_
  refine (bind_of_eq_some expect_cons).trans ?_
  refine (bind_of_eq_some (readFixed_pair (by omega))).trans ?_
  refine (bind_of_eq_some hfraction).trans ?_
  simp only [hback]
  cases readStrictOffset rest <;> rfl

/-- **The loose form reads date and time as they were written**, and leaves the offset. -/
theorem readLoose_append (hd : d.isValid = true) (hyear : 0 ≤ d.year ∧ d.year ≤ 9999)
    (ht : t.isValid = true) (hfraction : readFraction cs = some (t.nanos, rest)) :
    readLoose (d.text.toList ++ ' ' :: (t.wholeText.toList ++ cs)) =
      (readLooseOffset rest).map (Written.mk d t) := by
  have hmonth := Date.month_le_of_isValid hd
  have hday := Date.day_le_of_isValid hd
  obtain ⟨⟨hhour, hminute⟩, hsecond⟩ := ClockTime.isValid_iff.mp ht
  have hblank : ∀ cs : List Char, readShort (' ' :: cs) = readShort cs := fun _ => rfl
  rw [Date.toList_text_append hyear, ClockTime.toList_wholeText_append, readLoose]
  refine (bind_of_eq_some (readYear_padded hyear)).trans ?_
  refine (bind_of_eq_some expect_cons).trans ?_
  refine (bind_of_eq_some (readShort_pair (by omega))).trans ?_
  refine (bind_of_eq_some expect_cons).trans ?_
  refine (bind_of_eq_some (readShort_pair (by omega))).trans ?_
  refine (bind_of_eq_some ((hblank _).trans (readShort_pair (by omega)))).trans ?_
  refine (bind_of_eq_some expect_cons).trans ?_
  refine (bind_of_eq_some (readShort_pair (by omega))).trans ?_
  refine (bind_of_eq_some expect_cons).trans ?_
  refine (bind_of_eq_some (readShort_pair (by omega))).trans ?_
  refine (bind_of_eq_some hfraction).trans ?_
  dsimp only
  cases readLooseOffset rest <;> rfl

/-- **Date and time are read as they were written**, in UTC. -/
theorem readStrict_written (hd : d.isValid = true) (hyear : 0 ≤ d.year ∧ d.year ≤ 9999)
    (ht : t.isValid = true) (hnanos : t.nanos < 1000000000) :
    readStrict (d.text ++ "T" ++ t.text ++ "+00:00").toList = some ⟨d, t, 0⟩ := by
  have hoffset : readStrictOffset "+00:00".toList = some 0 := by decide
  have hchars : (d.text ++ "T" ++ t.text ++ "+00:00").toList = d.text.toList ++
      'T' :: (t.wholeText.toList ++ ((secondFraction t.nanos).toList ++ "+00:00".toList)) := by
    simp [ClockTime.text]
  rw [hchars, readStrict_append hd hyear ht rfl (readFraction_secondFraction hnanos rfl), hoffset]
  rfl

end Forms

/-! ## The instant behind the text -/

namespace Instant

/-- The time of day that the text of an instant shows. -/
def clock (i : Instant) : ClockTime :=
  let rest := (i.seconds % 86400).toNat
  let leap := 1000000000 ≤ i.nanos
  { hour := rest / 3600
    minute := rest / 60 % 60
    second := rest % 60 + if leap then 1 else 0
    nanos := if leap then i.nanos - 1000000000 else i.nanos }

theorem text_eq (i : Instant) : i.text = i.date.text ++ "T" ++ i.clock.text ++ "+00:00" := by
  simp only [text, clock, Date.text, ClockTime.text, ClockTime.wholeText, String.append_assoc]

theorem isTidy_text {i : Instant} (hyear : 0 ≤ i.date.year ∧ i.date.year ≤ 9999) :
    Text.isTidy i.text = true := by
  have hlast : Text.opensTidy "+00:00".toList.reverse = true := by decide
  rw [text_eq, String.append_assoc, String.append_assoc]
  refine Text.isTidy_append (Date.opensTidy_text hyear) ?_
  exact Text.closesTidy_append (Text.closesTidy_append hlast)

/-- Holds if the nanoseconds of an instant stay within its second, or within the leap second that
follows the last second of a minute. -/
def isProper (i : Instant) : Bool :=
  i.nanos < 1000000000 || (i.nanos < 2000000000 && i.seconds % 60 == 59)

theorem isProper_iff {i : Instant} : i.isProper = true ↔
    i.nanos < 1000000000 ∨ (i.nanos < 2000000000 ∧ i.seconds % 60 = 59) := by
  simp only [isProper, Bool.or_eq_true, Bool.and_eq_true, decide_eq_true_eq, beq_iff_eq]

/-- The instant that the text of an instant shows. -/
def shown (i : Instant) : Instant :=
  if i.isProper then i else ⟨i.seconds + 1, i.nanos - 1000000000⟩

theorem shown_eq_self_iff {i : Instant} : i.shown = i ↔ i.isProper = true := by
  rw [shown]
  split
  case isTrue h => exact ⟨fun _ => h, fun _ => rfl⟩
  case isFalse h =>
    refine ⟨fun heq => ?_, fun hproper => absurd hproper h⟩
    have hseconds : i.seconds + 1 = i.seconds := congrArg seconds heq
    omega

theorem clock_isValid (i : Instant) : i.clock.isValid = true := by
  have hrest : (i.seconds % 86400).toNat < 86400 := by omega
  have hsecond : i.clock.second ≤ (i.seconds % 86400).toNat % 60 + 1 := by
    simp only [clock]
    split <;> omega
  simp only [ClockTime.isValid, Bool.and_eq_true, decide_eq_true_eq]
  simp only [clock] at hsecond ⊢
  omega

theorem clock_nanos_lt {i : Instant} (h : i.nanos < 2000000000) : i.clock.nanos < 1000000000 := by
  simp only [clock]
  split <;> omega

/-- The date and the time of day together make up the instant that they show. -/
theorem ofLocal_clock {i : Instant} (h : i.nanos < 2000000000) :
    ofLocal i.date i.clock 0 = i.shown := by
  have hday : i.date.dayNumber = i.seconds / 86400 := dayNumber_ofDayNumber _
  obtain ⟨seconds, nanos⟩ := i
  simp only at h hday
  by_cases hleap : 1000000000 ≤ nanos
  · by_cases hlast : seconds % 60 = 59
    · have hproper : isProper ⟨seconds, nanos⟩ = true := isProper_iff.mpr (Or.inr ⟨h, hlast⟩)
      have hsixty : (seconds % 86400).toNat % 60 + 1 = 60 := by omega
      rw [shown, if_pos hproper]
      simp only [ofLocal, hday, clock, if_pos hleap, hsixty, Instant.mk.injEq, if_true]
      omega
    · have hproper : ¬ isProper ⟨seconds, nanos⟩ = true := fun hp =>
        (isProper_iff.mp hp).elim (Nat.not_lt_of_le hleap) fun hsecond => hlast hsecond.2
      have hsixty : ¬ (seconds % 86400).toNat % 60 + 1 = 60 := by omega
      rw [shown, if_neg hproper]
      simp only [ofLocal, hday, clock, if_pos hleap, if_neg hsixty, Instant.mk.injEq, and_true]
      omega
  · have hproper : isProper ⟨seconds, nanos⟩ = true :=
      isProper_iff.mpr (Or.inl (Nat.lt_of_not_le hleap))
    have hsixty : ¬ (seconds % 86400).toNat % 60 + 0 = 60 := by omega
    rw [shown, if_pos hproper]
    simp only [ofLocal, hday, clock, if_neg hleap, if_neg hsixty, Instant.mk.injEq, and_true]
    omega

theorem date_isValid {i : Instant} (hyear : 0 ≤ i.date.year ∧ i.date.year ≤ 9999) :
    i.date.isValid = true := by
  refine isValid_ofDayNumber ?_
  simp only [yearInRange, Bool.and_eq_true, decide_eq_true_eq]
  rw [← date]
  omega

/-- The second after an instant that is not proper is on the same day. -/
theorem date_shown {i : Instant} (h : i.nanos < 2000000000) : i.shown.date = i.date := by
  have hsame : i.shown.seconds / 86400 = i.seconds / 86400 := by
    rw [shown]
    split
    case isTrue => rfl
    case isFalse hproper =>
      have hlast : ¬ i.seconds % 60 = 59 := fun hlast =>
        hproper (isProper_iff.mpr (Or.inr ⟨h, hlast⟩))
      simp only
      omega
  rw [date, hsame, date]

theorem instant?_written {i : Instant} (hyear : 0 ≤ i.date.year ∧ i.date.year ≤ 9999)
    (hnanos : i.nanos < 2000000000) :
    Written.instant? ⟨i.date, i.clock, 0⟩ = some i.shown := by
  have hrange : yearInRange i.shown.date.year = true := by
    rw [date_shown hnanos]
    simp only [yearInRange, Bool.and_eq_true, decide_eq_true_eq]
    omega
  simp only [Written.instant?, date_isValid hyear, clock_isValid, ofLocal_clock hnanos, hrange,
    Bool.and_self, if_true]

/-- **An instant is read from its own text**, with any blank characters around it. -/
theorem read_text {i : Instant} {before after : String}
    (hyear : 0 ≤ i.date.year ∧ i.date.year ≤ 9999) (hnanos : i.nanos < 2000000000)
    (hbefore : Text.isBlankText before = true) (hafter : Text.isBlankText after = true) :
    read (before ++ i.text ++ after) = some i.shown := by
  have hchars := Text.trimChars_surrounded hbefore hafter (isTidy_text hyear)
  have hstrict : readStrict i.text.toList = some ⟨i.date, i.clock, 0⟩ := by
    rw [text_eq]
    exact readStrict_written (date_isValid hyear) hyear (clock_isValid i) (clock_nanos_lt hnanos)
  rw [read, hchars, hstrict, Option.bind_some, instant?_written hyear hnanos, Option.some_or]

end Instant

end WarehouseAdmin.Time
