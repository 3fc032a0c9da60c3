import FactModel.Text.Blank

/-!
Comma-separated tables: a header and rows of cells. Lines that hold only blanks are skipped.
Cells may be quoted; a doubled quote inside quotes is a quote, and lines may end inside quotes.
Lines end with a line feed, a carriage return, or both.
-/

namespace FactModel

inductive CsvError where
  | noColumns
  | tooManyCells (expected line found : Nat)
  | openQuote (line : Nat)

def CsvError.message : CsvError → String
  | noColumns => "No columns to parse from file"
  | tooManyCells expected line found =>
    "Error tokenizing data. C error: " ++
      s!"Expected {expected} fields in line {line}, saw {found}\n"
  | openQuote line =>
    s!"Error tokenizing data. C error: EOF inside string starting at row {line}"

namespace Csv

/-- A row of cells, with the number of the line it ends on. -/
structure Row where
  line : Nat
  cells : List String

inductive CellState where
  | start
  | bare
  | quoted
  | quoteSeen
deriving DecidableEq

/-- The cells read so far of a row, and the characters of the cell being read, both with the
last one first. -/
structure Partial where
  cells : List String
  cell : List Char

namespace Partial

def empty : Partial := ⟨[], []⟩

def push (p : Partial) (c : Char) : Partial := { p with cell := c :: p.cell }

/-- A cell ends at its first NUL. -/
def endCell (p : Partial) : Partial :=
  ⟨String.ofList (p.cell.reverse.takeWhile fun c => c.toNat != 0) :: p.cells, []⟩

def row (p : Partial) : List String := p.endCell.cells.reverse

end Partial

/-- What follows a row: the next line; a row that has begun with an empty cell, where a comma
follows a carriage return; or nothing. -/
inductive RowEnd where
  | line (rest : List Char)
  | comma (rest : List Char)
  | text
  | openQuote

def readRow : CellState → Partial → List Char → List String × RowEnd
  | .quoted, p, [] => (p.row, .openQuote)
  | _, p, [] => (p.row, .text)
  | .quoted, p, c :: rest =>
    if c = '"' then readRow .quoteSeen p rest else readRow .quoted (p.push c) rest
  | state, p, c :: rest =>
    if c = '\n' then (p.row, .line rest)
    else if c = '\r' then
      (p.row, match rest with
        | '\n' :: rest => .line rest
        | ',' :: rest => .comma rest
        | [] => .text
        | rest => .line rest)
    else if c = ',' then readRow .start p.endCell rest
    else if c = '"' && state = .start then readRow .quoted p rest
    else if c = '"' && state = .quoteSeen then readRow .quoted (p.push c) rest
    else readRow .bare (p.push c) rest

def isInline (c : Char) : Bool := c == ' ' || c == '\t'

/-- Skips blank lines up to the next row: the number of lines in front of it, and where it begins.
A comma right after a carriage return that ends a blank line is lost. A row that starts with blanks
begins at `mark`, which moves past line feeds only. -/
def findRow : Nat → Nat → List Char → List Char → Option (Nat × List Char)
  | 0, _, _, _ => none
  | fuel + 1, lines, mark, cs =>
    match cs.dropWhile isInline with
    | [] => none
    | '\n' :: rest => findRow fuel (lines + 1) rest rest
    | '\r' :: '\n' :: rest => findRow fuel (lines + 1) rest rest
    | '\r' :: ',' :: rest => findRow fuel (lines + 1) mark rest
    | '\r' :: rest => findRow fuel (lines + 1) mark rest
    | _ => some (lines, if (cs.head?.map isInline).getD false then mark else cs)

/-- The rows of a text, and the number of lines in front of a quote that stays open. -/
structure Rows where
  rows : List Row
  openQuote : Option Nat

namespace Rows

def cons (r : Row) (rows : Rows) : Rows := { rows with rows := r :: rows.rows }

end Rows

/-- Reads rows from the start of a line, or within a row that has begun. `lines` counts the lines
before. -/
def readRows : Nat → Nat → Option Partial → List Char → Rows
  | 0, _, _, _ => ⟨[], none⟩
  | fuel + 1, lines, begun, cs =>
    match begun with
    | some p => finish fuel lines (readRow .start p cs)
    | none => match findRow (cs.length + 1) lines cs cs with
      | none => ⟨[], none⟩
      | some (lines, cs) => finish fuel lines (readRow .start .empty cs)
where
  finish (fuel lines : Nat) : List String × RowEnd → Rows
    | (cells, .line rest) => .cons ⟨lines + 1, cells⟩ (readRows fuel (lines + 1) none rest)
    | (cells, .comma rest) =>
      .cons ⟨lines + 1, cells⟩ (readRows fuel (lines + 1) (some Partial.empty.endCell) rest)
    | (cells, .text) => ⟨[⟨lines + 1, cells⟩], none⟩
    | (_, .openQuote) => ⟨[], some lines⟩

def byteOrderMark : Char := Char.ofNat 0xFEFF

def rows (text : String) : Rows :=
  let cs := match text.toList with
    | c :: rest => if c = byteOrderMark then rest else c :: rest
    | [] => []
  readRows (cs.length + 2) 0 none cs

def unnamed (position : Nat) : String := s!"Unnamed: {position}"

def countOf (counts : List (String × Nat)) (name : String) : Nat := (counts.lookup name).getD 0

/-- The first numbered name that is not in the header and was not given before. -/
def distinctName (header : List String) (counts : List (String × Nat)) (name : String) :
    Nat → Nat → String × Nat
  | 0, n => (s!"{name}.{n}", n)
  | fuel + 1, n =>
    let candidate := s!"{name}.{n}"
    if header.contains candidate then distinctName header counts name fuel (n + 1)
    else if countOf counts candidate = 0 then (candidate, n)
    else distinctName header counts name fuel (max (n + 1) (countOf counts candidate))

/-- Gives one position of a header a name that no other has. -/
def claimName (state : List String × List (String × Nat)) (position : Nat) :
    List String × List (String × Nat) :=
  let (header, counts) := state
  let name := header.getD position ""
  match countOf counts name with
  | 0 => (header, (name, 1) :: counts)
  | n =>
    let (fresh, n) := distinctName header counts name (header.length + counts.length) n
    (header.set position fresh, (fresh, 1) :: (name, n + 1) :: counts)

/-- The names of the columns: an empty one is named by its position, a repeated one numbered.
Given names are settled first. -/
def columnNames (cells : List String) : List String :=
  let positions := List.range cells.length
  let named := cells.zipIdx.map fun (cell, n) => if cell.isEmpty then unnamed n else cell
  let isGiven := fun n => (cells.getD n "") != ""
  let order := positions.filter isGiven ++ positions.filter fun n => !isGiven n
  (order.foldl claimName (named, [])).1

end Csv

/-- A table with rows as long as the header. -/
structure CsvTable where
  names : List String
  rows : List (List String)

namespace CsvTable

def pad (width : Nat) (cells : List String) : List String :=
  cells ++ List.replicate (width - cells.length) ""

/-- Cells before the columns of the header, when the first row is longer, name the rows and are
dropped. No later row is longer. -/
def ofRows (header : List String) (found : Csv.Rows) : Except CsvError CsvTable :=
  let first := match found.rows with
    | [] => 0
    | r :: _ => r.cells.length
  let width := max header.length first
  match found.rows.find? fun r => width < r.cells.length, found.openQuote with
  | some r, _ => .error (.tooManyCells width r.line r.cells.length)
  | none, some line => .error (.openQuote line)
  | none, none =>
    .ok ⟨Csv.columnNames header, found.rows.map fun r =>
      (pad width r.cells).drop (width - header.length)⟩

def parse (text : String) : Except CsvError CsvTable :=
  match Csv.rows text with
  | ⟨[], some line⟩ => .error (.openQuote line)
  | ⟨[], none⟩ => .error .noColumns
  | ⟨header :: rows, openQuote⟩ => ofRows header.cells ⟨rows, openQuote⟩

end CsvTable

end FactModel
