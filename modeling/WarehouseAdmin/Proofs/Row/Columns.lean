import WarehouseAdmin.Row.Decode

/-!
# What a kind of row reads

A kind of row reads its columns one after another, and stops at the first that cannot be decoded.
`ReadsColumns` says this of a reader: it has a fixed list of columns, and does with a row nothing
but decode them in their order. Two things follow by one induction each. The reader sees no more of
a row than the cells that its columns are looked up in (`ReadsColumns.congr`), and its error is that
of the first column in the list that has one (`ReadsColumns.error_iff`).

A look-up passes over a cell if one before it has the same name. So what a row holds for a list of
columns (`Row.seen`) is the rest of its cells, their names in small letters and those left out that
no column asks for; in which order they came does not matter.
-/

set_option autoImplicit false

namespace WarehouseAdmin

/-! ## Columns -/

/-- A column that a kind of row reads: its name, and what its cell is decoded to. -/
inductive Column where
  | required (α : Type) [CellDecode α] (name : String)
  | optional (α : Type) [CellDecode α] (name : String)

namespace Column

def name : Column → String
  | @required _ _ name => name
  | @optional _ _ name => name

/-- What the column gives. -/
abbrev Value : Column → Type
  | @required α _ _ => α
  | @optional α _ _ => Option α

def decode : (c : Column) → Row → Except ScanError c.Value
  | @required α _ name, r => r.decode α name
  | @optional α _ name, r => r.decode? α name

/-- What a column gives depends on its cell alone. -/
theorem decode_congr {c : Column} {r r' : Row} (h : r.get? c.name = r'.get? c.name) :
    c.decode r = c.decode r' := by
  cases c with
  | required α name =>
    simp only [Column.name] at h
    simp only [decode, Row.decode, h]
  | optional α name =>
    simp only [Column.name] at h
    simp only [decode, Row.decode?, Row.decode, h]

end Column

/-- The error of the first of the columns that cannot be decoded. -/
inductive FirstFault (r : Row) : List Column → ScanError → Prop where
  | here {c : Column} {cs : List Column} {e : ScanError} (h : c.decode r = .error e) :
    FirstFault r (c :: cs) e
  | later {c : Column} {cs : List Column} {v : c.Value} {e : ScanError} (hc : c.decode r = .ok v)
    (h : FirstFault r cs e) : FirstFault r (c :: cs) e

/-! ## Readers of columns -/

/-- The reader decodes the columns in their order, and gives what it makes of the values. -/
inductive ReadsColumns {α : Type} : List Column → (Row → Except ScanError α) → Prop where
  | done (a : α) : ReadsColumns [] fun _ => pure a
  | column (c : Column) {cs : List Column} {next : c.Value → Row → Except ScanError α}
    (h : ∀ v, ReadsColumns cs (next v)) : ReadsColumns (c :: cs) fun r => c.decode r >>= (next · r)

namespace ReadsColumns

variable {α : Type} {cs : List Column} {read : Row → Except ScanError α}

/-- **Rows that hold the same for every column are read alike.** -/
theorem congr (h : ReadsColumns cs read) {r r' : Row}
    (hcells : ∀ c ∈ cs, r.get? c.name = r'.get? c.name) : read r = read r' := by
  induction h with
  | done a => rfl
  | column c h ih =>
    rw [List.forall_mem_cons] at hcells
    obtain ⟨hc, hrest⟩ := hcells
    simp only [Column.decode_congr hc]
    cases c.decode r' with
    | error e => rfl
    | ok v => exact ih v hrest

/-- **The error of a reader is that of the first column that has one.** -/
theorem error_iff (h : ReadsColumns cs read) {r : Row} {e : ScanError} :
    read r = .error e ↔ FirstFault r cs e := by
  induction h with
  | done a =>
    constructor
    · intro heq
      exact nomatch heq
    · intro hfault
      exact nomatch hfault
  | column c h ih =>
    constructor
    · intro heq
      cases hc : c.decode r with
      | error e' =>
        simp only [hc] at heq
        obtain rfl : e' = e := Except.error.inj heq
        exact .here hc
      | ok v =>
        simp only [hc] at heq
        exact .later hc ((ih v).mp heq)
    · intro hfault
      cases hfault with
      | here hc =>
        simp only [hc]
        rfl
      | later hc hrest =>
        simp only [hc]
        exact (ih _).mpr hrest

end ReadsColumns

/-! ## What a row holds for columns -/

namespace Row

/-- The cells that a look-up can find: of each name, whatever the case of its ASCII letters, the
first. -/
def firstCells : List (String × Cell) → List (String × Cell)
  | [] => []
  | c :: rest => c :: (firstCells rest).filter fun d => !Text.sameLetters c.1 d.1

/-- What the row holds for the columns: the cells that they can find, with their names in small
letters. -/
def seen (cs : List Column) (r : Row) : List (String × Cell) :=
  ((firstCells r.cells).map fun d => (Text.lower d.1, d.2)).filter fun d =>
    cs.any fun c => Text.lower c.name == d.1

theorem sameLetters_iff {a b : String} :
    Text.sameLetters a b = true ↔ Text.lower a = Text.lower b :=
  beq_iff_eq

theorem mem_firstCells_iff {cells : List (String × Cell)} {d : String × Cell} :
    d ∈ firstCells cells ↔ cells.find? (fun c => Text.sameLetters c.1 d.1) = some d := by
  induction cells with
  | nil => simp [firstCells]
  | cons c rest ih =>
    rw [firstCells, List.mem_cons, List.mem_filter, ih, List.find?_cons]
    by_cases hsame : Text.sameLetters c.1 d.1 = true
    · simp [hsame, eq_comm]
    · have hne : d ≠ c := by
        rintro rfl
        exact hsame (sameLetters_iff.mpr rfl)
      simp [hsame, hne]

/-- A look-up finds the cell of a name among the first cells. -/
theorem get?_eq_some_iff {r : Row} {column : String} {cell : Cell} :
    r.get? column = some cell ↔
      (Text.lower column, cell) ∈ (firstCells r.cells).map fun d => (Text.lower d.1, d.2) := by
  have hfind {name : String} (h : Text.lower name = Text.lower column) :
      (fun c : String × Cell => Text.sameLetters c.1 name) = fun c => Text.sameLetters c.1 column := by
    funext c
    rw [Text.sameLetters, Text.sameLetters, h]
  simp only [get?, Option.map_eq_some_iff, List.mem_map, Prod.mk.injEq]
  constructor
  · rintro ⟨d, hd, rfl⟩
    have hsame : Text.sameLetters d.1 column = true := by
      simpa using List.find?_some hd
    have hname : Text.lower d.1 = Text.lower column := sameLetters_iff.mp hsame
    refine ⟨d, ?_, hname, rfl⟩
    rw [mem_firstCells_iff, hfind hname]
    exact hd
  · rintro ⟨d, hd, hname, rfl⟩
    rw [mem_firstCells_iff, hfind hname] at hd
    exact ⟨d, hd, rfl⟩

theorem mem_seen_iff {cs : List Column} {c : Column} (hc : c ∈ cs) {r : Row} {cell : Cell} :
    (Text.lower c.name, cell) ∈ r.seen cs ↔ r.get? c.name = some cell := by
  have hasked : (cs.any fun b => Text.lower b.name == Text.lower c.name) = true :=
    List.any_eq_true.mpr ⟨c, hc, beq_self_eq_true _⟩
  rw [seen, List.mem_filter, get?_eq_some_iff, and_iff_left hasked]

/-- **The order of the cells does not matter** to what a column finds. -/
theorem get?_eq_of_perm {cs : List Column} {r r' : Row} (h : (r.seen cs).Perm (r'.seen cs))
    {c : Column} (hc : c ∈ cs) : r.get? c.name = r'.get? c.name := by
  apply Option.ext
  intro cell
  rw [← mem_seen_iff hc, ← mem_seen_iff hc, h.mem_iff]

end Row

end WarehouseAdmin
