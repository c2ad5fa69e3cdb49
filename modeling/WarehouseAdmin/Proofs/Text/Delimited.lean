import WarehouseAdmin.Proofs.Text.Plain
import WarehouseAdmin.Proofs.Ident.Parts

/-!
# Writings that tell where they end

A value is written into the middle of a statement, and more follows. To get it back from there, the
characters that it is written with have to tell where they end. `Delimited` says so of a way to write
values: if two values are written, and each is followed by something that can stand behind a value
(`isTail`), then the two texts differ unless the values are the same. It is a strong form of being
injective, and unlike that it is kept when one thing is written behind another.

A quoted text tells where it ends because the quotes inside of it are doubled, so it does not matter
what it holds: no text can pass for the end of its literal. A word tells it because it has none of the
characters that can stand behind it.
-/

set_option autoImplicit false

namespace WarehouseAdmin.Text

/-- Says whether a value can end before these characters: they are a blank, a comma or a closing
parenthesis with anything behind it, or there are none. -/
def isTail : List Char → Bool
  | [] => true
  | c :: _ => c == ' ' || c == ',' || c == ')'

/-- Values that are written in this way can be told apart whatever stands behind them. -/
def Delimited {α : Type} (write : α → String) : Prop :=
  ∀ (a b : α) (r r' : List Char), isTail r = true → isTail r' = true →
    (write a).toList ++ r = (write b).toList ++ r' → a = b

theorem isTail_append {s : String} (hs : isTail s.toList = true) (hne : s ≠ "") (r : List Char) :
    isTail (s.toList ++ r) = true := by
  cases hcs : s.toList with
  | nil => exact absurd (String.toList_eq_nil_iff.mp hcs) hne
  | cons c cs =>
    rw [hcs] at hs
    exact hs

/-! ## Putting writings together -/

namespace Delimited

variable {α β : Type} {write : α → String} {write' : β → String}

theorem injective (h : Delimited write) : Function.Injective write := by
  intro a b hab
  exact h a b [] [] rfl rfl (by rw [hab])

/-- Equal values leave equal tails. -/
theorem tails (h : Delimited write) {a b : α} {r r' : List Char} (hr : isTail r = true)
    (hr' : isTail r' = true) (heq : (write a).toList ++ r = (write b).toList ++ r') :
    a = b ∧ r = r' := by
  obtain rfl := h a b r r' hr hr' heq
  exact ⟨rfl, List.append_cancel_left heq⟩

theorem comp (h : Delimited write) {f : β → α} (hf : Function.Injective f) :
    Delimited fun b => write (f b) := by
  intro a b r r' hr hr' heq
  exact hf (h (f a) (f b) r r' hr hr' heq)

/-- The same characters in front change nothing. -/
theorem after (h : Delimited write) (s : String) : Delimited fun a => s ++ write a := by
  intro a b r r' hr hr' heq
  simp only [String.toList_append, List.append_assoc] at heq
  exact h a b r r' hr hr' (List.append_cancel_left heq)

/-- One value is written behind another, with a separator that can stand behind a value. -/
theorem pair (h : Delimited write) (h' : Delimited write') {sep : String}
    (hsep : isTail sep.toList = true) (hne : sep ≠ "") :
    Delimited fun p : α × β => write p.1 ++ sep ++ write' p.2 := by
  rintro ⟨a, a'⟩ ⟨b, b'⟩ r r' hr hr' heq
  simp only [String.toList_append, List.append_assoc] at heq
  obtain ⟨rfl, hrest⟩ := h.tails (isTail_append hsep hne _) (isTail_append hsep hne _) heq
  rw [h' a' b' r r' hr hr' (List.append_cancel_left hrest)]

/-- **Values in a list** can be told apart if commas are between them and a parenthesis is closed
behind the last. -/
theorem intercalate (h : Delimited write) {as bs : List α} (has : as ≠ []) (hbs : bs ≠ [])
    {r r' : List Char}
    (heq : (String.intercalate ", " (as.map write)).toList ++ ')' :: r =
      (String.intercalate ", " (bs.map write)).toList ++ ')' :: r') : as = bs := by
  induction as generalizing bs with
  | nil => exact absurd rfl has
  | cons a as ih =>
    cases bs with
    | nil => exact absurd rfl hbs
    | cons b bs =>
      -- Behind each first element there is a comma or the parenthesis.
      cases as with
      | nil =>
        cases bs with
        | nil =>
          simp only [List.map_cons, List.map_nil, String.intercalate_singleton] at heq
          rw [h a b _ _ rfl rfl heq]
        | cons b' bs =>
          simp only [List.map_cons, List.map_nil, String.intercalate_singleton,
            String.intercalate_cons_cons, String.toList_append, List.append_assoc] at heq
          exact nomatch (h.tails rfl rfl heq).2
      | cons a' as =>
        cases bs with
        | nil =>
          simp only [List.map_cons, List.map_nil, String.intercalate_singleton,
            String.intercalate_cons_cons, String.toList_append, List.append_assoc] at heq
          exact nomatch (h.tails rfl rfl heq).2
        | cons b' bs =>
          simp only [List.map_cons, String.intercalate_cons_cons, String.toList_append,
            List.append_assoc] at heq
          obtain ⟨rfl, hrest⟩ := h.tails rfl rfl heq
          have hbehind := List.append_cancel_left hrest
          simp only [← List.map_cons] at hbehind
          rw [ih (List.cons_ne_nil _ _) (List.cons_ne_nil _ _) hbehind]

end Delimited

/-! ## Words -/

/-- Says whether the text has none of the characters that can stand behind a value. -/
def isWord (s : String) : Bool := s.toList.all fun c => !isTail [c]

/-- Before the first character that ends it, a word is all that there is. -/
theorem eq_of_word_append {cs cs' r r' : List Char} (hcs : ∀ c ∈ cs, isTail [c] = false)
    (hcs' : ∀ c ∈ cs', isTail [c] = false) (hr : isTail r = true) (hr' : isTail r' = true)
    (heq : cs ++ r = cs' ++ r') : cs = cs' := by
  induction cs generalizing cs' with
  | nil =>
    cases cs' with
    | nil => rfl
    | cons c' cs' =>
      rw [List.nil_append] at heq
      rw [heq] at hr
      exact absurd (hr.symm.trans (hcs' c' List.mem_cons_self)) (by simp)
  | cons c cs ih =>
    cases cs' with
    | nil =>
      rw [List.nil_append] at heq
      rw [← heq] at hr'
      exact absurd (hr'.symm.trans (hcs c List.mem_cons_self)) (by simp)
    | cons c' cs' =>
      obtain ⟨rfl, hrest⟩ := List.cons.inj heq
      rw [List.forall_mem_cons] at hcs hcs'
      rw [ih hcs.2 hcs'.2 hrest]

theorem delimited_word {α : Type} {write : α → String} (hword : ∀ a, isWord (write a) = true)
    (hinj : Function.Injective write) : Delimited write := by
  have hmem : ∀ a, ∀ c ∈ (write a).toList, isTail [c] = false := by
    intro a c hc
    simpa using List.all_eq_true.mp (hword a) c hc
  intro a b r r' hr hr' heq
  exact hinj (String.toList_inj.mp (eq_of_word_append (hmem a) (hmem b) hr hr' heq))

theorem not_isTail_digit {c : Char} (h : c.isDigit = true) : isTail [c] = false := by
  obtain ⟨d, hd, rfl⟩ := isDigit_cases h
  have hall : ∀ d ∈ List.range 10, isTail [Char.ofNat (48 + d)] = false := by decide
  exact hall d (List.mem_range.mpr hd)

theorem isDigit_of_mem_repr {n : Nat} {c : Char} (hc : c ∈ n.repr.toList) : c.isDigit = true := by
  have hmem : c ∈ Nat.toDigits 10 n := by simpa [Nat.repr] using hc
  exact Nat.isDigit_of_mem_toDigits (by decide) (by decide) hmem

theorem isWord_nat (n : Nat) : isWord n.repr = true := by
  refine List.all_eq_true.mpr fun c hc => ?_
  rw [not_isTail_digit (isDigit_of_mem_repr hc)]
  rfl

theorem isWord_int (n : Int) : isWord (toString n) = true := by
  cases n with
  | ofNat n => exact isWord_nat n
  | negSucc n =>
    show isWord ("-" ++ (n + 1).repr) = true
    rw [isWord, String.toList_append, List.all_append, Bool.and_eq_true]
    exact ⟨by decide, isWord_nat (n + 1)⟩

theorem repr_injective : Function.Injective Nat.repr := by
  intro m n h
  have hdigits : Nat.toDigits 10 m = Nat.toDigits 10 n := by
    have hlists := congrArg String.toList h
    rwa [Nat.repr, Nat.repr, String.toList_ofList, String.toList_ofList] at hlists
  rw [← Nat.ofDigitChars_ten_toDigits (n := m), hdigits, Nat.ofDigitChars_ten_toDigits]

/-- No digits spell a negative number. -/
theorem repr_ne_negative {m n : Nat} : m.repr ≠ "-" ++ n.repr := by
  intro h
  have hmem : '-' ∈ m.repr.toList := by
    rw [h, String.toList_append]
    exact List.mem_append_left _ List.mem_cons_self
  exact absurd (isDigit_of_mem_repr hmem) (by decide)

theorem toString_injective : Function.Injective fun n : Int => toString n := by
  intro a b h
  cases a with
  | ofNat m =>
    cases b with
    | ofNat n => exact congrArg Int.ofNat (repr_injective h)
    | negSucc n => exact absurd h repr_ne_negative
  | negSucc m =>
    cases b with
    | ofNat n => exact absurd h.symm repr_ne_negative
    | negSucc n =>
      have hrepr : "-" ++ (m + 1).repr = "-" ++ (n + 1).repr := h
      have hnat := repr_injective (String.append_right_inj _ |>.mp hrepr)
      rw [Nat.succ.inj hnat]

theorem delimited_int : Delimited fun n : Int => toString n :=
  delimited_word isWord_int toString_injective

/-! ## Quoted texts -/

/-- What is quoted ends where a quote is not doubled. -/
theorem eq_of_doubleQuotes_append {q : Char} {s s' r r' : List Char}
    (hr : ∀ cs, r ≠ q :: cs) (hr' : ∀ cs, r' ≠ q :: cs)
    (heq : doubleQuotes q s ++ q :: r = doubleQuotes q s' ++ q :: r') : s = s' ∧ r = r' := by
  induction s generalizing s' with
  | nil =>
    cases s' with
    | nil => exact ⟨rfl, (List.cons.inj heq).2⟩
    | cons c s' =>
      rw [doubleQuotes, doubleQuotes] at heq
      by_cases hc : c = q
      · rw [if_pos hc] at heq
        exact absurd (List.cons.inj heq).2 (hr _)
      · rw [if_neg hc] at heq
        exact absurd (List.cons.inj heq).1.symm hc
  | cons c s ih =>
    cases s' with
    | nil =>
      rw [doubleQuotes, doubleQuotes] at heq
      by_cases hc : c = q
      · rw [if_pos hc] at heq
        exact absurd (List.cons.inj heq).2.symm (hr' _)
      · rw [if_neg hc] at heq
        exact absurd (List.cons.inj heq).1 hc
    | cons c' s' =>
      obtain ⟨rfl, hrest⟩ : c = c' ∧
          doubleQuotes q s ++ q :: r = doubleQuotes q s' ++ q :: r' := by
        rw [doubleQuotes, doubleQuotes] at heq
        by_cases hc : c = q
        · by_cases hc' : c' = q
          · rw [if_pos hc, if_pos hc'] at heq
            exact ⟨hc.trans hc'.symm, (List.cons.inj (List.cons.inj heq).2).2⟩
          · rw [if_pos hc, if_neg hc'] at heq
            exact absurd (List.cons.inj heq).1.symm hc'
        · by_cases hc' : c' = q
          · rw [if_neg hc, if_pos hc'] at heq
            exact absurd (List.cons.inj heq).1 hc
          · rw [if_neg hc, if_neg hc'] at heq
            exact List.cons.inj heq
      obtain ⟨rfl, htail⟩ := ih hrest
      exact ⟨rfl, htail⟩

theorem eq_of_enclose_append {q : Char} {s s' : String} {r r' : List Char}
    (hr : ∀ cs, r ≠ q :: cs) (hr' : ∀ cs, r' ≠ q :: cs)
    (heq : (enclose q s).toList ++ r = (enclose q s').toList ++ r') : s = s' ∧ r = r' := by
  simp only [enclose, String.toList_ofList, List.cons_append, List.append_assoc,
    List.nil_append] at heq
  obtain ⟨hs, htail⟩ := eq_of_doubleQuotes_append hr hr' (List.cons.inj heq).2
  exact ⟨String.toList_inj.mp hs, htail⟩

theorem isTail_ne {q : Char} (hq : isTail [q] = false) {r : List Char} (hr : isTail r = true) :
    ∀ cs, r ≠ q :: cs := by
  rintro cs rfl
  exact absurd (hr.symm.trans hq) (by simp)

theorem delimited_singleQuoted : Delimited singleQuoted := by
  intro a b r r' hr hr' heq
  exact (eq_of_enclose_append (isTail_ne rfl hr) (isTail_ne rfl hr') heq).1

/-! ## Names -/

/-- **The parts of a name** can be told apart, and it can be told which is the last. -/
theorem eq_of_qualify_append {ps qs : List String} (hps : ps ≠ []) (hqs : qs ≠ [])
    {r r' : List Char} (hr : isTail r = true) (hr' : isTail r' = true)
    (heq : (qualify ps).toList ++ r = (qualify qs).toList ++ r') : ps = qs := by
  have hpoint : ∀ cs : List Char, '.' :: cs ≠ r ∧ '.' :: cs ≠ r' := fun cs =>
    ⟨fun h => isTail_ne rfl hr cs h.symm, fun h => isTail_ne rfl hr' cs h.symm⟩
  have hquote : ∀ cs cs' : List Char, '.' :: cs ≠ '"' :: cs' := by
    intro cs cs' h
    exact absurd (List.cons.inj h).1 (by decide)
  induction ps generalizing qs with
  | nil => exact absurd rfl hps
  | cons p ps ih =>
    cases qs with
    | nil => exact absurd rfl hqs
    | cons q qs =>
      cases ps with
      | nil =>
        cases qs with
        | nil =>
          rw [qualify_singleton, qualify_singleton] at heq
          rw [(eq_of_enclose_append (isTail_ne rfl hr) (isTail_ne rfl hr') heq).1]
        | cons q' qs =>
          rw [qualify_singleton, qualify_cons_cons, String.toList_append, String.toList_append,
            List.append_assoc, List.append_assoc] at heq
          have htail := (eq_of_enclose_append (isTail_ne rfl hr) (hquote _) heq).2
          exact absurd htail.symm (hpoint _).1
      | cons p' ps =>
        cases qs with
        | nil =>
          rw [qualify_singleton, qualify_cons_cons, String.toList_append, String.toList_append,
            List.append_assoc, List.append_assoc] at heq
          have htail := (eq_of_enclose_append (hquote _) (isTail_ne rfl hr') heq).2
          exact absurd htail (hpoint _).2
        | cons q' qs =>
          rw [qualify_cons_cons, qualify_cons_cons] at heq
          simp only [String.toList_append, List.append_assoc] at heq
          obtain ⟨rfl, htail⟩ := eq_of_enclose_append (hquote _) (hquote _) heq
          have hrest := (List.cons.inj htail).2
          rw [ih (List.cons_ne_nil _ _) (List.cons_ne_nil _ _) hrest]

theorem delimited_account : Delimited AccountObjectId.qualifiedName := by
  intro a b r r' hr hr' heq
  have hparts := eq_of_qualify_append (List.cons_ne_nil _ _) (List.cons_ne_nil _ _) hr hr' heq
  cases a
  cases b
  simpa [AccountObjectId.parts] using hparts

theorem delimited_database : Delimited DatabaseObjectId.qualifiedName := by
  intro a b r r' hr hr' heq
  have hparts := eq_of_qualify_append (List.cons_ne_nil _ _) (List.cons_ne_nil _ _) hr hr' heq
  cases a
  cases b
  simpa [DatabaseObjectId.parts] using hparts

theorem delimited_schema : Delimited SchemaObjectId.qualifiedName := by
  intro a b r r' hr hr' heq
  have hparts := eq_of_qualify_append (List.cons_ne_nil _ _) (List.cons_ne_nil _ _) hr hr' heq
  cases a
  cases b
  simpa [SchemaObjectId.parts] using hparts

end WarehouseAdmin.Text
