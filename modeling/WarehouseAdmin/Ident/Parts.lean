import WarehouseAdmin.Ident.Error

/-!
# Dotted names

A dotted name is a sequence of parts with a point between neighbours. A quoted part stands between
double quotes, may hold points, and writes a quote character twice; an unquoted part is taken as it
stands and holds neither a point nor a quote. No part is empty. `Parts.read` gives the parts without
their quotes.
-/

set_option autoImplicit false

namespace WarehouseAdmin.Parts

/-- Why a text is no dotted name. -/
inductive Fault where
  | emptyText
  | emptyPart (index : Nat)
  | unbalancedQuotes
  | afterClosingQuote
deriving DecidableEq, Repr

/-- The fault as an error about the text `input`. -/
def Fault.toError (input : String) : Fault → IdentifierError
  | .emptyText => .empty
  | .emptyPart index => .emptyPart input index
  | .unbalancedQuotes => .unbalancedQuotes input
  | .afterClosingQuote => .malformed input .afterClosingQuote

/-- Reads a quoted part from behind its opening quote: what it holds, and the text behind its
closing quote. -/
def readQuoted : List Char → Option (List Char × List Char)
  | [] => none
  | '"' :: '"' :: rest => (readQuoted rest).map fun (part, after) => ('"' :: part, after)
  | '"' :: rest => some ([], rest)
  | c :: rest => (readQuoted rest).map fun (part, after) => (c :: part, after)

/-- The characters that an unquoted part may hold. -/
def isPlain (c : Char) : Bool := c != '.' && c != '"'

/-- Says whether a part may end before this text: at its end, or at a point. -/
def endsPart : List Char → Bool
  | [] => true
  | c :: _ => c == '.'

/-- Reads the part at the head of the text and gives it with the text behind it, which is empty or
begins with a point. -/
def readPart : List Char → Except Fault (List Char × List Char)
  | '"' :: body =>
    match readQuoted body with
    | none => .error .unbalancedQuotes
    | some (part, rest) => if endsPart rest then .ok (part, rest) else .error .afterClosingQuote
  | cs =>
    if endsPart (cs.dropWhile isPlain) then .ok (cs.takeWhile isPlain, cs.dropWhile isPlain)
    else .error .unbalancedQuotes

theorem length_readQuoted {cs part rest : List Char} (h : readQuoted cs = some (part, rest)) :
    rest.length < cs.length := by
  fun_induction readQuoted cs generalizing part rest with
  | case1 => simp at h
  | case2 r ih =>
    obtain ⟨⟨p, a⟩, hp, he⟩ := Option.map_eq_some_iff.1 h
    have := ih hp
    simp only [Prod.mk.injEq] at he
    rw [← he.2]
    simp only [List.length_cons]
    omega
  | case3 r => simp at h; simp [h.2]
  | case4 c r _ _ ih =>
    obtain ⟨⟨p, a⟩, hp, he⟩ := Option.map_eq_some_iff.1 h
    have := ih hp
    simp only [Prod.mk.injEq] at he
    rw [← he.2]
    simp only [List.length_cons]
    omega

theorem length_dropWhile_le (p : Char → Bool) (cs : List Char) :
    (cs.dropWhile p).length ≤ cs.length := by
  induction cs with
  | nil => simp
  | cons c r ih =>
    simp only [List.dropWhile]
    split <;> simp only [List.length_cons] <;> omega

theorem length_readPart {cs part rest : List Char} (h : readPart cs = .ok (part, rest)) :
    rest.length ≤ cs.length := by
  unfold readPart at h
  split at h
  · rename_i body
    split at h
    · simp at h
    · rename_i p r hq
      split at h
      · simp only [Except.ok.injEq, Prod.mk.injEq] at h
        have := length_readQuoted hq
        rw [← h.2]
        simp only [List.length_cons]
        omega
      · simp at h
  · split at h
    · simp only [Except.ok.injEq, Prod.mk.injEq] at h
      rw [← h.2]
      exact length_dropWhile_le _ _
    · simp at h

/-- Reads the parts of the text; `index` is the number of parts before it. -/
def readFrom (index : Nat) (cs : List Char) : Except Fault (List (List Char)) :=
  match h : readPart cs with
  | .error fault => .error fault
  | .ok ([], _) => .error (.emptyPart index)
  | .ok (part, []) => .ok [part]
  | .ok (part, _ :: rest) => (readFrom (index + 1) rest).map (part :: ·)
termination_by cs.length
decreasing_by
  have := length_readPart h
  simp only [List.length_cons] at this
  omega

def readChars : List Char → Except Fault (List (List Char))
  | [] => .error .emptyText
  | cs => readFrom 0 cs

/-- The parts of a dotted name, without their quotes. -/
def read (input : String) : Except IdentifierError (List String) :=
  match readChars input.toList with
  | .ok parts => .ok (parts.map String.ofList)
  | .error fault => .error (fault.toError input)

end WarehouseAdmin.Parts
