import WarehouseAdmin.Text.Quoted

/-!
# Reading quotes back

A reader of statements goes from left to right. Outside of quotes every character stands for itself;
a quote character opens a literal, and the literal ends at the first quote character of the same
kind that is not doubled. `scan` is that reader. It gives nothing if the text ends inside a literal.

What a statement is made of is known as *pieces* before it is known as characters, and the fact that
all of this file works towards is that nothing is lost between the two: pieces that are `Separated`
are read back from their spelling (`scan_spell`). Separation asks for two things, that no quote
character stands outside and that no two literals touch. The second is not a formality: `'a'` and
`'b'` side by side read as the one literal `a'b`.
-/

set_option autoImplicit false

namespace WarehouseAdmin.Text

/-- The characters that open a literal. -/
def isQuote (c : Char) : Bool := c == '"' || c == '\x27'

/-- A character outside of quotes, or a literal by its quote character and what it quotes. -/
inductive Piece where
  | outside (c : Char)
  | quoted (q : Char) (body : List Char)
deriving DecidableEq, Repr

/-- Reads a text from left to right. The first argument is the literal that is open, if one is: its
quote character, and what has been read of it, last character first. -/
def scan : Option (Char × List Char) → List Char → Option (List Piece)
  | none, [] => some []
  | some _, [] => none
  | none, c :: rest =>
    if isQuote c then scan (some (c, [])) rest else (scan none rest).map (.outside c :: ·)
  | some (q, body), c :: rest =>
    if c = q then
      match rest with
      | [] => some [.quoted q body.reverse]
      | d :: others =>
        if d = q then scan (some (q, q :: body)) others
        else (scan none (d :: others)).map (.quoted q body.reverse :: ·)
    else scan (some (q, c :: body)) rest

/-- The pieces of a statement, unless it ends inside a literal. -/
def pieces (s : String) : Option (List Piece) := scan none s.toList

namespace Piece

/-- The spelling of a piece. -/
def chars : Piece → List Char
  | .outside c => [c]
  | .quoted q body => q :: doubleQuotes q body ++ [q]

/-- Says whether the piece is a literal. -/
def isQuoted : Piece → Bool
  | .outside _ => false
  | .quoted _ _ => true

/-- The piece with nothing between its quotes. -/
def emptied : Piece → Piece
  | .outside c => .outside c
  | .quoted q _ => .quoted q []

/-- What a literal quotes. -/
def content? : Piece → Option String
  | .outside _ => none
  | .quoted _ body => some (String.ofList body)

end Piece

def spell (ps : List Piece) : List Char := ps.flatMap Piece.chars

/-- The text outside of the quotes, with an empty literal in the place of each literal. -/
def outline (ps : List Piece) : List Piece := ps.map Piece.emptied

/-- What the literals quote, in order. -/
def contents (ps : List Piece) : List String := ps.filterMap Piece.content?

/-- Says whether the first piece is a literal. -/
def opensQuoted (ps : List Piece) : Bool := ps.head?.any Piece.isQuoted

/-- Holds of pieces without a quote character outside, and without two literals side by side. -/
def Separated : List Piece → Prop
  | [] => True
  | .outside c :: rest => isQuote c = false ∧ Separated rest
  | .quoted q _ :: rest => isQuote q = true ∧ opensQuoted rest = false ∧ Separated rest

/-! ## Separated pieces are read back -/

/-- Once a literal has been spelled, nothing that follows makes its last quote a doubled one. -/
theorem head_spell_ne {q : Char} (hq : isQuote q = true) {ps : List Piece} (hps : Separated ps)
    (hopen : opensQuoted ps = false) {d : Char} {rest : List Char} (h : spell ps = d :: rest) :
    d ≠ q := by
  cases ps with
  | nil => exact absurd h (by simp [spell])
  | cons p ps =>
    cases p with
    | quoted q' body => exact absurd hopen (by simp [opensQuoted, Piece.isQuoted])
    | outside c =>
      have hc : c = d := (List.cons.inj h).1
      rintro rfl
      rw [← hc, hps.1] at hq
      exact absurd hq (by simp)

theorem scan_other {q c : Char} {body rest : List Char} (hc : c ≠ q) :
    scan (some (q, body)) (c :: rest) = scan (some (q, c :: body)) rest := by
  rw [scan.eq_def]
  exact if_neg hc

theorem scan_doubled {q : Char} {body rest : List Char} :
    scan (some (q, body)) (q :: q :: rest) = scan (some (q, q :: body)) rest := by
  rw [scan.eq_def]
  simp only [if_true]

theorem scan_closing {q : Char} {body rest : List Char}
    (hrest : ∀ d others, rest = d :: others → d ≠ q) :
    scan (some (q, body)) (q :: rest) = (scan none rest).map (.quoted q body.reverse :: ·) := by
  rw [scan.eq_def]
  simp only [if_true]
  cases rest with
  | nil => simp [scan]
  | cons d others => exact if_neg (hrest d others rfl)

/-- Inside a literal the reader goes on to the quote character that ends it. -/
theorem scan_body {q : Char} {body acc : List Char} {rest : List Char}
    (hrest : ∀ d others, rest = d :: others → d ≠ q) :
    scan (some (q, acc)) (doubleQuotes q body ++ q :: rest) =
      (scan none rest).map (.quoted q (acc.reverse ++ body) :: ·) := by
  -- On what the literal still quotes; what has been read of it only grows.
  induction body generalizing acc with
  | nil => rw [doubleQuotes, List.nil_append, List.append_nil, scan_closing hrest]
  | cons c body ih =>
    have hacc : acc.reverse ++ c :: body = (c :: acc).reverse ++ body := by simp
    rw [hacc, ← ih, doubleQuotes]
    by_cases hc : c = q
    · rw [if_pos hc, hc]
      exact scan_doubled
    · rw [if_neg hc]
      exact scan_other hc

/-- **What is spelled is read back**, piece by piece. -/
theorem scan_spell {ps : List Piece} (h : Separated ps) : scan none (spell ps) = some ps := by
  induction ps with
  | nil => rfl
  | cons p ps ih =>
    cases p with
    | outside c =>
      show scan none (c :: spell ps) = _
      rw [scan, if_neg (by simp [h.1]), ih h.2]
      rfl
    | quoted q body =>
      obtain ⟨hq, hopen, hps⟩ := h
      have hspell : spell (.quoted q body :: ps) = q :: (doubleQuotes q body ++ q :: spell ps) := by
        simp [spell, Piece.chars]
      rw [hspell, scan, if_pos hq,
        scan_body fun d others hd => head_spell_ne hq hps hopen hd, ih hps]
      rfl

/-! ## Putting pieces together -/

theorem spell_append {ps qs : List Piece} : spell (ps ++ qs) = spell ps ++ spell qs :=
  List.flatMap_append

theorem spell_outside {cs : List Char} : spell (cs.map .outside) = cs := by
  induction cs with
  | nil => rfl
  | cons c cs ih => exact congrArg (c :: ·) ih

theorem outline_append {ps qs : List Piece} : outline (ps ++ qs) = outline ps ++ outline qs :=
  List.map_append

theorem contents_append {ps qs : List Piece} : contents (ps ++ qs) = contents ps ++ contents qs :=
  List.filterMap_append

theorem contents_outside {cs : List Char} : contents (cs.map .outside) = [] := by
  induction cs with
  | nil => rfl
  | cons c cs ih => exact ih

theorem separated_append {ps qs : List Piece} (hps : Separated ps) (hqs : Separated qs)
    (hopen : opensQuoted qs = false) : Separated (ps ++ qs) := by
  induction ps with
  | nil => exact hqs
  | cons p ps ih =>
    cases p with
    | outside c => exact ⟨hps.1, ih hps.2⟩
    | quoted q body =>
      refine ⟨hps.1, ?_, ih hps.2.2⟩
      cases ps with
      | nil => exact hopen
      | cons p' ps => exact hps.2.1

theorem separated_outside {cs : List Char} (hcs : ∀ c ∈ cs, isQuote c = false) {qs : List Piece}
    (hqs : Separated qs) : Separated (cs.map .outside ++ qs) := by
  induction cs with
  | nil => exact hqs
  | cons c cs ih =>
    rw [List.forall_mem_cons] at hcs
    exact ⟨hcs.1, ih hcs.2⟩

end WarehouseAdmin.Text
