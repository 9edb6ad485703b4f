import UsageFeed.Report.Row
import UsageFeed.Csv.Record
import UsageFeed.Decimal.Literal
import UsageFeed.Failure

/-!
# `UsageFeed.Report.Table` — usage reports as tables

## Contents
- `Table.ofRows`, which accepts rows that all say where they belong.
- **Cells.** `Column.readCell` and `Flaw`, what is wrong with a record.
- **Records.** `rowByName` under a header, `rowByPlace` when the header is no text.
- `Table.ofCsv`, which reads a whole file or says which record it fails at.
-/

namespace UsageFeed.Report

/-- The rows of a report, in order. -/
structure Table where
  rows : List Row := []
  deriving Repr, Inhabited

/-! ## Rows that belong somewhere -/

/-- The name of the first of namespace and deployment that a row does not give. -/
def Row.missingPlace? (r : Row) : Option String :=
  if r.ns = "" then some Column.ns.name
  else if r.deployment = "" then some Column.deployment.name
  else none

/-- The number, counted from `n`, and the column of the first row that does not say where it
belongs. -/
def firstMisplaced? (n : Nat) : List Row → Option (Nat × String)
  | [] => none
  | r :: more =>
    match r.missingPlace? with
    | some column => some (n, column)
    | none => firstMisplaced? (n + 1) more

/-- The table of the rows, if each says where it belongs. -/
def Table.ofRows (rows : List Row) : Except Failure Table :=
  match firstMisplaced? 1 rows with
  | some (n, column) => .error (.malformedReport n column)
  | none => .ok ⟨rows⟩

/-! ## Cells -/

/-- What is wrong with a record. -/
inductive Flaw where
  | length (found expected : Nat)
  | encoding (cell : Csv.BadCell)
  | number (field : Nat)
  | repeated (column : String)
  | tooShort (length : Nat)
  deriving DecidableEq, Repr

/-- The cell that a text stands for under a column: an empty figure is absent. -/
def Column.readCell (c : Column) (field : Nat) (s : String) : Except Flaw Cell :=
  match c with
  | .ns | .deployment | .container | .image => .ok (.text s)
  | .peak _ | .mean _ =>
    if s = "" then .ok (.figure none)
    else
      match Decimal.readFloat? s.toList with
      | some x => .ok (.figure (some x))
      | none => .error (.number field)

/-! ## Records -/

/-- Puts the cells under named columns into a row, from the cell numbered `field` on. `seen` holds
the columns met before. -/
def rowByName (field : Nat) (seen : List Column) (r : Row) :
    List (String × String) → Except Flaw Row
  | [] => .ok r
  | (name, s) :: more =>
    match Column.ofName? name with
    | none => rowByName (field + 1) seen r more
    | some c =>
      if c ∈ seen then .error (.repeated name)
      else
        match c.readCell field s with
        | .error e => .error e
        | .ok cell => rowByName (field + 1) (c :: seen) (r.put c cell) more

/-- Puts cells into a row in the order of the columns, from the cell numbered `field` on. Texts may
be lacking at the end, figures may not. -/
def rowByPlace (field : Nat) (r : Row) : List Column → List String → Except Flaw Row
  | [], _ => .ok r
  | c :: columns, s :: more =>
    match c.readCell field s with
    | .error e => .error e
    | .ok cell => rowByPlace (field + 1) (r.put c cell) columns more
  | .ns :: columns, [] => rowByPlace (field + 1) r columns []
  | .deployment :: columns, [] => rowByPlace (field + 1) r columns []
  | .container :: columns, [] => rowByPlace (field + 1) r columns []
  | .image :: columns, [] => rowByPlace (field + 1) r columns []
  | .peak _ :: _, [] => .error (.tooShort field)
  | .mean _ :: _, [] => .error (.tooShort field)

/-- The names of the columns, if the header is text. -/
def headerNames? (header : Csv.Record) : Option (List String) :=
  header.cells.mapM fun cell => (Text.Utf8.decode? cell).map Text.trim

/-- Reads a record below a header of so many cells and these names. -/
def readRecord (width : Nat) (names : Option (List String)) (record : Csv.Record) :
    Except Flaw Row :=
  if record.cells.length ≠ width then .error (.length record.cells.length width)
  else
    match record.texts with
    | .error bad => .error (.encoding bad)
    | .ok texts =>
      match names with
      | some names => rowByName 0 [] {} (names.zip texts)
      | none => rowByPlace 0 {} Column.all texts

/-! ## Files -/

/-- A flaw and its record, in words. -/
def Flaw.message (record : Csv.Record) (flaw : Flaw) : String :=
  let number := toString record.index
  let line := toString record.position.line
  let byte := toString record.position.byte
  let place := "record " ++ number ++ " (line: " ++ line ++ ", byte: " ++ byte ++ "): "
  match flaw with
  | .length found expected =>
    "CSV error: " ++ place ++ "found record with " ++ toString found ++
      " fields, but the previous record has " ++ toString expected ++ " fields"
  | .encoding bad =>
    "CSV parse error: record " ++ number ++ " (line " ++ line ++ ", field: " ++
      toString bad.field ++ ", byte: " ++ byte ++ "): invalid utf-8: invalid UTF-8 in field " ++
      toString bad.field ++ " near byte index " ++ toString bad.validLength
  | .number field =>
    "CSV deserialize error: " ++ place ++ "field " ++ toString field ++ ": invalid float literal"
  | .repeated column =>
    "CSV deserialize error: " ++ place ++ "duplicate field `" ++ column ++ "`"
  | .tooShort n =>
    "CSV deserialize error: " ++ place ++ "invalid length " ++ toString n ++
      ", expected struct ReportRow with " ++ toString Column.all.length ++ " elements"

/-- Reads records below a header, up to the first that is flawed. -/
def readRecords (width : Nat) (names : Option (List String)) :
    List Csv.Record → Except (Csv.Record × Flaw) (List Row)
  | [] => .ok []
  | record :: more =>
    match readRecord width names record with
    | .error flaw => .error (record, flaw)
    | .ok row => (readRecords width names more).map (row :: ·)

/-- Reads the rows of a file, which opens with a header. -/
def readRows (file : List UInt8) : Except (Csv.Record × Flaw) (List Row) :=
  match Csv.records file with
  | [] => .ok []
  | header :: body => readRecords header.cells.length (headerNames? header) body

/-- Reads the file behind a reference as a table. -/
def Table.ofCsv (reference : String) (file : List UInt8) : Except Failure Table :=
  match readRows file with
  | .error (record, flaw) => .error (.unreadableReport reference (flaw.message record))
  | .ok rows => Table.ofRows rows

end UsageFeed.Report
