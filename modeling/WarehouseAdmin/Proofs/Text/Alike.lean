import WarehouseAdmin.Proofs.Text.Plain
import WarehouseAdmin.Ident.Basic

/-!
# Texts that are alike outside of their quotes

Two texts have the same outline when they read as pieces that differ at most in what the literals
quote; the relation `SameOutline` remembers what those of the first text quote. Tokens that are tidy
besides are *alike*. This is the relation that two statements stand in if they come from requests
which differ in the contents of texts only, and it is carried up from a quoted text to the whole
statement: through qualified names, parentheses and separators. Every step only ever puts plain
characters around what it is given, so no literal can run into the next one.
-/

set_option autoImplicit false

namespace WarehouseAdmin.Text

/-- The text is the spelling of the pieces, which can be read back from it. -/
def Reads (t : String) (ps : List Piece) : Prop := t.toList = spell ps ∧ Separated ps

theorem pieces_of_reads {t : String} {ps : List Piece} (h : Reads t ps) : pieces t = some ps := by
  rw [pieces, h.1]
  exact scan_spell h.2

theorem reads_append {a b : String} {ps qs : List Piece} (ha : Reads a ps) (hb : Reads b qs)
    (hopen : opensQuoted qs = false) : Reads (a ++ b) (ps ++ qs) :=
  ⟨by rw [String.toList_append, ha.1, hb.1, spell_append], separated_append ha.2 hb.2 hopen⟩

theorem reads_outside {s : String} (hs : isUnquoted s = true) :
    Reads s (s.toList.map .outside) := by
  refine ⟨spell_outside.symm, ?_⟩
  rw [← List.append_nil (s.toList.map Piece.outside)]
  exact separated_outside (isUnquoted_iff.mp hs) trivial

theorem reads_enclose {q : Char} (hq : isQuote q = true) (s : String) :
    Reads (enclose q s) [.quoted q s.toList] :=
  ⟨by simp [enclose, spell, Piece.chars], hq, rfl, trivial⟩

theorem reads_outside_append {s b : String} (hs : isUnquoted s = true)
    {qs : List Piece} (hb : Reads b qs) : Reads (s ++ b) (s.toList.map .outside ++ qs) :=
  ⟨by rw [String.toList_append, hb.1, spell_append, spell_outside],
    separated_outside (isUnquoted_iff.mp hs) hb.2⟩

theorem opensQuoted_outside {cs : List Char} : opensQuoted (cs.map .outside) = false := by
  cases cs <;> rfl

theorem opensQuoted_outside_append {s : String} (hne : s ≠ "") {qs : List Piece} :
    opensQuoted (s.toList.map .outside ++ qs) = false := by
  cases hs : s.toList with
  | nil => exact absurd (String.toList_eq_nil_iff.mp hs) hne
  | cons c cs => rfl

/-! ## Two texts with one outline -/

/-- The texts read as pieces with the same outline, and the first one quotes `xs`. -/
def SameOutline (t u : String) (xs : List String) : Prop :=
  ∃ ps qs, Reads t ps ∧ Reads u qs ∧ outline ps = outline qs ∧ contents ps = xs

namespace SameOutline

theorem outside {s : String} (hs : isUnquoted s = true) : SameOutline s s [] :=
  ⟨_, _, reads_outside hs, reads_outside hs, rfl, contents_outside⟩

theorem enclosed {q : Char} (hq : isQuote q = true) {s u : String} :
    SameOutline (enclose q s) (enclose q u) [s] := by
  refine ⟨_, _, reads_enclose hq s, reads_enclose hq u, rfl, ?_⟩
  simp [contents, Piece.content?]

variable {sep t u t' u' : String} {xs ys : List String}

/-- Plain characters in front of both texts belong to the outline. -/
theorem after (hsep : isUnquoted sep = true) (h : SameOutline t u xs) :
    SameOutline (sep ++ t) (sep ++ u) xs := by
  obtain ⟨ps, qs, hps, hqs, hout, hcon⟩ := h
  refine ⟨_, _, reads_outside_append hsep hps, reads_outside_append hsep hqs, ?_, ?_⟩
  · rw [outline_append, outline_append, hout]
  · rw [contents_append, contents_outside, hcon, List.nil_append]

/-- Plain characters after both texts belong to the outline. -/
theorem before (hsep : isUnquoted sep = true) (h : SameOutline t u xs) :
    SameOutline (t ++ sep) (u ++ sep) xs := by
  obtain ⟨ps, qs, hps, hqs, hout, hcon⟩ := h
  refine ⟨_, _, reads_append hps (reads_outside hsep) opensQuoted_outside,
    reads_append hqs (reads_outside hsep) opensQuoted_outside, ?_, ?_⟩
  · rw [outline_append, outline_append, hout]
  · rw [contents_append, contents_outside, hcon, List.append_nil]

/-- Two pairs of texts are put together with plain characters between them. -/
theorem join (hne : sep ≠ "") (hsep : isUnquoted sep = true) (h : SameOutline t u xs)
    (h' : SameOutline t' u' ys) : SameOutline (t ++ sep ++ t') (u ++ sep ++ u') (xs ++ ys) := by
  obtain ⟨ps, qs, hps, hqs, hout, hcon⟩ := h
  obtain ⟨ps', qs', hps', hqs', hout', hcon'⟩ := h'
  rw [String.append_assoc, String.append_assoc]
  refine ⟨_, _, reads_append hps (reads_outside_append hsep hps') (opensQuoted_outside_append hne),
    reads_append hqs (reads_outside_append hsep hqs') (opensQuoted_outside_append hne), ?_, ?_⟩
  · simp only [outline_append, hout, hout']
  · simp only [contents_append, contents_outside, hcon, hcon', List.nil_append]

end SameOutline

/-! ## Tokens that are alike -/

/-- Tidy texts with the same outline, so that trimming keeps them and their outline. -/
structure Alike (t u : String) (xs : List String) : Prop where
  tidy_left : isTidy t = true
  tidy_right : isTidy u = true
  same : SameOutline t u xs

theorem alike_plain {s : String} (h : isPlain s = true) : Alike s s [] :=
  ⟨isTidy_of_isPlain h, isTidy_of_isPlain h, .outside (isUnquoted_of_isPlain h)⟩

theorem alike_singleQuoted {s u : String} : Alike (singleQuoted s) (singleQuoted u) [s] :=
  ⟨isTidy_singleQuoted, isTidy_singleQuoted, .enclosed rfl⟩

theorem alike_doubleQuoted {s u : String} : Alike (doubleQuoted s) (doubleQuoted u) [s] :=
  ⟨isTidy_doubleQuoted, isTidy_doubleQuoted, .enclosed rfl⟩

theorem alike_parenthesized {t u : String} {xs : List String} (h : Alike t u xs) :
    Alike ("(" ++ t ++ ")") ("(" ++ u ++ ")") xs := by
  have htidy : ∀ s : String, isTidy ("(" ++ s ++ ")") = true := by
    intro s
    rw [String.append_assoc]
    exact isTidy_append (by decide) (closesTidy_append (by decide))
  exact ⟨htidy t, htidy u, (h.same.after (by decide)).before (by decide)⟩

/-- The texts are alike one by one, and the first ones quote `xs` together. -/
inductive AllAlike : List String → List String → List String → Prop where
  | nil : AllAlike [] [] []
  | cons {t u : String} {ts us xs ys : List String} (h : Alike t u xs) (hs : AllAlike ts us ys) :
    AllAlike (t :: ts) (u :: us) (xs ++ ys)

namespace AllAlike

variable {ts us xs : List String}

theorem singleton {t u : String} (h : Alike t u xs) : AllAlike [t] [u] xs := by
  rw [← List.append_nil xs]
  exact .cons h .nil

theorem append {ts' us' ys : List String} (h : AllAlike ts us xs) (h' : AllAlike ts' us' ys) :
    AllAlike (ts ++ ts') (us ++ us') (xs ++ ys) := by
  induction h with
  | nil => exact h'
  | cons h _ ih =>
    rw [List.append_assoc]
    exact .cons h ih

theorem plain (h : ∀ t ∈ ts, isPlain t = true) : AllAlike ts ts [] := by
  induction ts with
  | nil => exact .nil
  | cons t rest ih =>
    rw [List.forall_mem_cons] at h
    exact .cons (alike_plain h.1) (ih h.2)

/-- Neither list is longer than the other. -/
theorem eq_nil_iff (h : AllAlike ts us xs) : ts = [] ↔ us = [] := by
  cases h <;> simp

theorem tidy_left (h : AllAlike ts us xs) : ∀ t ∈ ts, isTidy t = true := by
  induction h with
  | nil => simp
  | cons h _ ih => exact List.forall_mem_cons.mpr ⟨h.tidy_left, ih⟩

theorem tidy_right (h : AllAlike ts us xs) : ∀ u ∈ us, isTidy u = true := by
  induction h with
  | nil => simp
  | cons h _ ih => exact List.forall_mem_cons.mpr ⟨h.tidy_right, ih⟩

/-- **Texts that are alike one by one have the same outline when they are joined.** -/
theorem intercalate {sep : String} (hne : sep ≠ "") (hsep : isUnquoted sep = true)
    (h : AllAlike ts us xs) :
    SameOutline (String.intercalate sep ts) (String.intercalate sep us) xs := by
  induction h with
  | nil => exact .outside rfl
  | @cons t u ts us xs ys h hs ih =>
    by_cases hts : ts = []
    · have hus : us = [] := hs.eq_nil_iff.mp hts
      subst hts hus
      cases hs
      rw [String.intercalate_singleton, String.intercalate_singleton, List.append_nil]
      exact h.same
    -- The separator keeps a literal at the end of `t` from running into the first one of `ts`.
    · have hus : us ≠ [] := fun hnil => hts (hs.eq_nil_iff.mpr hnil)
      rw [String.intercalate_cons_of_ne_nil hts, String.intercalate_cons_of_ne_nil hus]
      exact .join hne hsep h.same ih

theorem intercalate_alike {sep : String} (hne : sep ≠ "")
    (hsep : isUnquoted sep = true) (h : AllAlike ts us xs) (hts : ts ≠ []) :
    Alike (String.intercalate sep ts) (String.intercalate sep us) xs :=
  ⟨isTidy_intercalate hts h.tidy_left,
    isTidy_intercalate (fun hnil => hts (h.eq_nil_iff.mpr hnil)) h.tidy_right, h.intercalate hne hsep⟩

end AllAlike

theorem alike_qualify {ps qs : List String} (hne : ps ≠ []) (h : ps.length = qs.length) :
    Alike (qualify ps) (qualify qs) ps := by
  have hall : AllAlike (ps.map doubleQuoted) (qs.map doubleQuoted) ps := by
    clear hne
    induction ps generalizing qs with
    | nil =>
      rw [List.eq_nil_of_length_eq_zero h.symm]
      exact .nil
    | cons p ps ih =>
      cases qs with
      | nil => exact absurd h (by simp)
      | cons q qs => exact .append (.singleton alike_doubleQuoted) (ih (by simpa using h))
  exact hall.intercalate_alike (by decide) (by decide) (by simpa using hne)

end WarehouseAdmin.Text
