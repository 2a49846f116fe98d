import QuantumAnalytics.Domain.SourceRows

/-!
# Reading CSV rows

`csv.DictReader` with its default dialect, as a state machine over the
characters of a text: fields are separated by commas, a field in double quotes
may contain commas and line ends, and a double quote in it is written twice.
-/

namespace QuantumAnalytics

/-- The states of the parser of `csv.reader`. -/
inductive CsvState
  | startRecord
  | startField
  | inField
  | inQuotedField
  | quoteInQuotedField
  | eatCrNl
  deriving DecidableEq

/-- The parser of `csv.reader`. -/
structure CsvParser where
  /-- The state. -/
  state : CsvState
  /-- The characters of the current field. -/
  field : List Char
  /-- The fields before it. -/
  fields : List String

namespace CsvParser

/-- The parser at the start of a record. -/
def start : CsvParser := ⟨.startRecord, [], []⟩

/-- `csv.field_size_limit()`. -/
def fieldLimit : Nat := 131072

/-- `parse_save_field`. -/
def saveField (parser : CsvParser) (next : CsvState) : CsvParser :=
  ⟨next, [], parser.fields ++ [String.ofList parser.field]⟩

/-- `parse_add_char`; `none` is a `csv.Error`. -/
def addChar (parser : CsvParser) (next : CsvState) (c : Char) : Option CsvParser :=
  if fieldLimit ≤ parser.field.length then none
  else some ⟨next, parser.field ++ [c], parser.fields⟩

/-- The end of a field: a comma, a line end, or the end of the line. -/
def endField? (parser : CsvParser) : Option Char → Option CsvParser
  | none => some (parser.saveField .startRecord)
  | some ',' => some (parser.saveField .startField)
  | some '\n' => some (parser.saveField .eatCrNl)
  | some '\r' => some (parser.saveField .eatCrNl)
  | some _ => none

/-- `parse_process_char` in the states at the start of a field. -/
def startField (parser : CsvParser) (input : Option Char) : Option CsvParser :=
  match parser.endField? input, input with
  | some ended, _ => some ended
  | none, some '"' => some { parser with state := .inQuotedField }
  | none, some c => parser.addChar .inField c
  | none, none => none

/-- `parse_process_char`; the end of a line is `none` as a character, and the
result `none` is a `csv.Error`. -/
def processChar (parser : CsvParser) (input : Option Char) : Option CsvParser :=
  match parser.state, input with
  | .startRecord, none => some parser
  | .startRecord, some '\n' => some { parser with state := .eatCrNl }
  | .startRecord, some '\r' => some { parser with state := .eatCrNl }
  | .startRecord, some c => parser.startField (some c)
  | .startField, input => parser.startField input
  | .inField, input =>
      match parser.endField? input, input with
      | some ended, _ => some ended
      | none, some c => parser.addChar .inField c
      | none, none => none
  | .inQuotedField, none => some parser
  | .inQuotedField, some '"' => some { parser with state := .quoteInQuotedField }
  | .inQuotedField, some c => parser.addChar .inQuotedField c
  | .quoteInQuotedField, some '"' => parser.addChar .inQuotedField '"'
  | .quoteInQuotedField, input =>
      match parser.endField? input, input with
      | some ended, _ => some ended
      | none, some c => parser.addChar .inField c
      | none, none => none
  | .eatCrNl, none => some { parser with state := .startRecord }
  | .eatCrNl, some '\n' => some parser
  | .eatCrNl, some '\r' => some parser
  | .eatCrNl, some _ => none

/-- A line, and then its end. -/
def processLine (parser : CsvParser) (line : List Char) : Option CsvParser := do
  let atEnd ← line.foldlM (fun parser c => parser.processChar (some c)) parser
  atEnd.processChar none

/-- `next(csv.reader)`: the fields of a record and the lines after it, or `none`
at the end. The result `.error ()` is a `csv.Error`. -/
def nextRecord (parser : CsvParser) :
    List (List Char) → Except Unit (Option (List String × List (List Char)))
  | [] =>
      if parser.field ≠ [] ∨ parser.state = .inQuotedField then
        .ok (some ((parser.saveField .startRecord).fields, []))
      else .ok none
  | line :: lines =>
      match parser.processLine line with
      | none => .error ()
      | some parser =>
          if parser.state = .startRecord then .ok (some (parser.fields, lines))
          else parser.nextRecord lines

end CsvParser

/-- The lines of a text with their ends, which are `\n`, `\r` or both in this
order. -/
def csvLines : List Char → List (List Char)
  | [] => []
  | '\r' :: '\n' :: text => ['\r', '\n'] :: csvLines text
  | c :: text =>
      if c = '\n' ∨ c = '\r' then [c] :: csvLines text
      else
        match csvLines text with
        | [] => [[c]]
        | line :: lines => (c :: line) :: lines

/-- A row of `csv.DictReader` whose fields match the header. -/
def csvRow (header fields : List String) : RawPayload :=
  (header.zip fields).foldl (fun row cell => row.set cell.1 cell.2) Dict.empty

/-- What goes wrong while the rows are read. -/
inductive CsvRowsError
  /-- `csv.Error`. -/
  | parse
  /-- A record does not have as many fields as the header. -/
  | shape
  deriving DecidableEq

/-- The loop over `csv.DictReader`, with the number of lines as fuel. -/
def csvRows (header : List String) :
    Nat → List (List Char) → Except CsvRowsError (List RawPayload)
  | 0, _ => .ok []
  | fuel + 1, lines =>
      match CsvParser.start.nextRecord lines with
      | .error () => .error .parse
      | .ok none => .ok []
      | .ok (some (fields, rest)) =>
          if fields = [] then csvRows header fuel rest
          else if fields.length = header.length then
            (csvRows header fuel rest).map fun rows => csvRow header fields :: rows
          else .error .shape

example : (csvRows ["a", "b"] 3 (csvLines "1,2\r\n\r\n\"x\"\"y\",\"z\n\"".toList)).toOption.map
      (fun rows => rows.map fun row => row.entries.map Prod.snd) =
    some [["1", "2"], ["x\"y", "z\n"]] := by decide

end QuantumAnalytics
