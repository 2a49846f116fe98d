import QuantumAnalytics.Ingestion.CsvReader

/-!
# CSV dialects

`csv.reader` with a dialect of `csv.Sniffer`. The parser is a state machine whose
transitions depend on the dialect; what it does to the current field is said apart
from the next state.
-/

namespace QuantumAnalytics

/-- A dialect that `csv.Sniffer().sniff(sample, delimiters=",;\t")` can find. -/
structure CsvDialect where
  delimiter : Char
  quotechar : Char
  doublequote : Bool
  skipinitialspace : Bool
  /-- Only the given delimiters are considered. -/
  delimiter_mem : delimiter ∈ [',', ';', '\t']
  /-- Only quotation marks are considered. -/
  quotechar_mem : quotechar ∈ ['"', '\'']

/-- What a transition does to the current field. -/
inductive CsvEffect
  | keep
  | add
  | save
  deriving DecidableEq

namespace CsvDialect

theorem quotationMark_mem : '"' ∈ ['"', '\''] := by decide

/-- `csv.excel`, the default dialect. -/
def excel : CsvDialect := ⟨',', '"', true, false, by decide, quotationMark_mem⟩

/-- The character ends a line. -/
def isLineEnd (c : Char) : Bool := c == '\n' || c == '\r'

/-- `START_FIELD`. -/
def startField (dialect : CsvDialect) : Option Char → CsvState × CsvEffect
  | none => (.startRecord, .save)
  | some c =>
      if isLineEnd c then (.eatCrNl, .save)
      else if c = dialect.quotechar then (.inQuotedField, .keep)
      else if c = ' ' ∧ dialect.skipinitialspace = true then (.startField, .keep)
      else if c = dialect.delimiter then (.startField, .save)
      else (.inField, .add)

/-- `IN_FIELD`. -/
def inField (dialect : CsvDialect) : Option Char → CsvState × CsvEffect
  | none => (.startRecord, .save)
  | some c =>
      if isLineEnd c then (.eatCrNl, .save)
      else if c = dialect.delimiter then (.startField, .save)
      else (.inField, .add)

/-- The transitions of `parse_process_char`; the end of a line is `none` as a
character, and the result `none` is a `csv.Error`. -/
def transition (dialect : CsvDialect) : CsvState → Option Char → Option (CsvState × CsvEffect)
  | .startRecord, none => some (.startRecord, .keep)
  | .startRecord, some c =>
      if isLineEnd c then some (.eatCrNl, .keep) else some (dialect.startField (some c))
  | .startField, input => some (dialect.startField input)
  | .inField, input => some (dialect.inField input)
  | .inQuotedField, none => some (.inQuotedField, .keep)
  | .inQuotedField, some c =>
      if c = dialect.quotechar then
        some (if dialect.doublequote then .quoteInQuotedField else .inField, .keep)
      else some (.inQuotedField, .add)
  | .quoteInQuotedField, none => some (.startRecord, .save)
  | .quoteInQuotedField, some c =>
      if c = dialect.quotechar then some (.inQuotedField, .add)
      else some (dialect.inField (some c))
  | .eatCrNl, none => some (.startRecord, .keep)
  | .eatCrNl, some c => if isLineEnd c then some (.eatCrNl, .keep) else none

/-- The parser after a transition. -/
def effect (parser : CsvParser) (input : Option Char) : CsvState × CsvEffect → Option CsvParser
  | (state, .keep) => some { parser with state }
  | (state, .add) => input.bind fun c => parser.addChar state c
  | (state, .save) => some (parser.saveField state)

/-- `parse_process_char`. -/
def processChar (dialect : CsvDialect) (parser : CsvParser) (input : Option Char) :
    Option CsvParser :=
  (dialect.transition parser.state input).bind (effect parser input)

/-- The characters of a line. -/
def processChars (dialect : CsvDialect) (parser : CsvParser) (line : List Char) :
    Option CsvParser :=
  line.foldlM (fun parser c => dialect.processChar parser (some c)) parser

/-- `next(csv.reader)`: the fields of a record and the lines after it, or `none`
at the end. The result `.error ()` is a `csv.Error`. -/
def nextRecord (dialect : CsvDialect) (parser : CsvParser) :
    List (List Char) → Except Unit (Option (List String × List (List Char)))
  | [] =>
      if parser.field ≠ [] ∨ parser.state = .inQuotedField then
        .ok (some ((parser.saveField .startRecord).fields, []))
      else .ok none
  | line :: lines =>
      match (dialect.processChars parser line).bind fun atEnd => dialect.processChar atEnd none with
      | none => .error ()
      | some parser =>
          if parser.state = .startRecord then .ok (some (parser.fields, lines))
          else dialect.nextRecord parser lines

/-! ### The default dialect -/

theorem excel_processChar
    (parser : CsvParser)
    (input : Option Char) : excel.processChar parser input = parser.processChar input := by
  obtain ⟨state, field, fields⟩ := parser
  rcases input with - | c
  · cases state <;> rfl
  · by_cases lineFeed : c = '\n'
    · subst lineFeed
      cases state <;> rfl
    by_cases carriage : c = '\r'
    · subst carriage
      cases state <;> rfl
    by_cases quote : c = '"'
    · subst quote
      cases state <;> rfl
    by_cases comma : c = ','
    · subst comma
      cases state <;> rfl
    · cases state <;> simp [processChar, transition, startField, inField, effect, excel, isLineEnd,
        CsvParser.processChar, CsvParser.startField, CsvParser.endField?, lineFeed, carriage, quote,
        comma]

/-- The reader with the default dialect is the default reader. -/
theorem excel_nextRecord
    (parser : CsvParser)
    (lines : List (List Char)) : excel.nextRecord parser lines = parser.nextRecord lines := by
  have line : ∀ parser line, ((excel.processChars parser line).bind fun atEnd =>
      excel.processChar atEnd none) = parser.processLine line := by
    intro parser line
    simp only [processChars, excel_processChar]
    rfl
  induction lines generalizing parser with
  | nil => rfl
  | cons first lines inductionHypothesis =>
      rw [nextRecord, CsvParser.nextRecord, line]
      cases parser.processLine first with
      | none => rfl
      | some next => simp only [inductionHypothesis]

/-! ### What is kept of a text -/

/-- The characters that a parser has kept. -/
def contents (parser : CsvParser) : List Char :=
  parser.fields.flatMap String.toList ++ parser.field

variable {dialect : CsvDialect}

/-- A step follows a transition, and keeps the character when this adds it. -/
theorem processChar_eq_some
    {parser next : CsvParser}
    {input : Option Char}
    (stepped : dialect.processChar parser input = some next) :
    ∃ did, dialect.transition parser.state input = some (next.state, did) ∧
      effect parser input (next.state, did) = some next ∧
      contents next = contents parser ++ if did = .add then input.toList else [] := by
  obtain ⟨⟨state, did⟩, isTransition, isEffect⟩ := Option.bind_eq_some_iff.mp stepped
  refine ⟨did, ?_⟩
  cases did with
  | keep =>
      obtain rfl := Option.some.inj isEffect
      exact ⟨isTransition, rfl, by simp [contents]⟩
  | save =>
      obtain rfl := Option.some.inj isEffect
      exact ⟨isTransition, rfl, by simp [contents, CsvParser.saveField]⟩
  | add =>
      obtain ⟨c, rfl, isAdded⟩ := Option.bind_eq_some_iff.mp isEffect
      unfold CsvParser.addChar at isAdded
      split at isAdded
      next => cases isAdded
      next =>
        obtain rfl := Option.some.inj isAdded
        exact ⟨isTransition, isEffect, by simp [contents]⟩

/-- The current field after a transition. -/
def fieldAfter (parser : CsvParser) (input : Option Char) : CsvEffect → List Char
  | .keep => parser.field
  | .add => parser.field ++ input.toList
  | .save => []

/-- The fields before it after a transition. -/
def fieldsAfter (parser : CsvParser) : CsvEffect → List String
  | .keep => parser.fields
  | .add => parser.fields
  | .save => parser.fields ++ [String.ofList parser.field]

theorem fields_of_effect
    {parser next : CsvParser}
    {input : Option Char}
    {state : CsvState}
    {did : CsvEffect}
    (isEffect : effect parser input (state, did) = some next) :
    next.field = fieldAfter parser input did ∧ next.fields = fieldsAfter parser did := by
  cases did with
  | add =>
      obtain ⟨c, rfl, isAdded⟩ := Option.bind_eq_some_iff.mp isEffect
      unfold CsvParser.addChar at isAdded
      split at isAdded
      next => cases isAdded
      next =>
        obtain rfl := Option.some.inj isAdded
        exact ⟨rfl, rfl⟩
  | _ =>
      obtain rfl := Option.some.inj isEffect
      exact ⟨rfl, rfl⟩

/-- Characters that are kept stay. -/
theorem contents_processChars
    {parser atEnd : CsvParser}
    {line : List Char}
    (stepped : dialect.processChars parser line = some atEnd) :
    contents parser <+: contents atEnd := by
  induction line generalizing parser with
  | nil =>
      obtain rfl := Option.some.inj stepped
      exact List.prefix_rfl
  | cons c line inductionHypothesis =>
      obtain ⟨next, first, rest⟩ := Option.bind_eq_some_iff.mp stepped
      obtain ⟨did, -, -, kept⟩ := processChar_eq_some first
      exact (kept ▸ List.prefix_append _ _).trans (inductionHypothesis rest)

/-- The characters that mean something in a dialect. -/
def special : List Char := [',', ';', '\t', '"', '\'', ' ', '\n', '\r']

/-- How a state of the default dialect goes with a state of another one, as long as
the other one keeps no special character. -/
inductive Tracks (dialect : CsvDialect) : CsvState → CsvState → Prop
  | same {state : CsvState} (unquoted : state ≠ .inQuotedField) : Tracks dialect state state
  | quoted (isDouble : dialect.quotechar = '"') : Tracks dialect .inQuotedField .inQuotedField
  | closed : Tracks dialect .inField .quoteInQuotedField
  | field {state : CsvState} (inRecord : state ≠ .startRecord) (notEnded : state ≠ .eatCrNl) :
      Tracks dialect state .inField

theorem Tracks.step
    {state other nextState nextOther : CsvState}
    {c : Char}
    {did otherDid : CsvEffect}
    (tracks : Tracks dialect state other)
    (isNext : dialect.transition state (some c) = some (nextState, did))
    (isOther : excel.transition other (some c) = some (nextOther, otherDid))
    (clean : did = .add → c ∉ special) : Tracks dialect nextState nextOther := by
  have isDelimiter := dialect.delimiter_mem
  have isQuote := dialect.quotechar_mem
  simp only [List.mem_cons, List.not_mem_nil, or_false, special] at isDelimiter isQuote clean
  cases tracks with
  | same unquoted =>
    cases state <;>
      simp only [transition, excel, startField, inField, isLineEnd] at isNext isOther <;> grind [Tracks]
  | quoted isDouble =>
    simp only [transition, excel] at isNext isOther
    grind [Tracks]
  | closed =>
    simp only [transition, excel, inField, isLineEnd] at isNext isOther
    grind [Tracks]
  | field inRecord notEnded =>
    cases state <;>
      simp only [transition, excel, startField, inField, isLineEnd] at isNext isOther <;> grind [Tracks]

/-- How a state of the default dialect goes with a state of another one that keeps the
same characters. -/
inductive Mirrors (dialect : CsvDialect) : CsvState → CsvState → Prop
  | same {state : CsvState} (quotes : dialect.quotechar = '"' ∨
      state ≠ .inQuotedField ∧ state ≠ .quoteInQuotedField) : Mirrors dialect state state
  | closed (isDouble : dialect.quotechar = '"') : Mirrors dialect .inField .quoteInQuotedField

theorem Mirrors.step
    {state other nextState nextOther : CsvState}
    {c : Char}
    {did otherDid : CsvEffect}
    (mirrors : Mirrors dialect state other)
    (isComma : dialect.delimiter = ',')
    (noSpace : c ≠ ' ')
    (noApostrophe : c ≠ '\'')
    (isNext : dialect.transition state (some c) = some (nextState, did))
    (isOther : excel.transition other (some c) = some (nextOther, otherDid))
    (clean : did = .add → c ∉ special) :
    Mirrors dialect nextState nextOther ∧ otherDid = did := by
  have isQuote := dialect.quotechar_mem
  simp only [List.mem_cons, List.not_mem_nil, or_false, special] at isQuote clean
  cases mirrors with
  | same quotes =>
    cases state <;>
      simp only [transition, excel, startField, inField, isLineEnd] at isNext isOther <;> grind [Mirrors]
  | closed isDouble =>
    simp only [transition, excel, inField, isLineEnd] at isNext isOther
    grind [Mirrors]

/-- A character without a meaning in the dialect is kept. -/
theorem transition_plain
    {state next : CsvState}
    {c : Char}
    {did : CsvEffect}
    (isNext : dialect.transition state (some c) = some (next, did))
    (notDelimiter : c ≠ dialect.delimiter)
    (notQuote : c ≠ dialect.quotechar)
    (notSkipped : c = ' ' → dialect.skipinitialspace = false)
    (notLineEnd : isLineEnd c = false) : did = .add := by
  cases state <;> simp only [transition, startField, inField] at isNext <;> grind

/-- A line end ends the record or is kept. -/
theorem transition_lineEnd
    {state next : CsvState}
    {c : Char}
    {did : CsvEffect}
    (isNext : dialect.transition state (some c) = some (next, did))
    (isEnd : isLineEnd c = true) : next = .eatCrNl ∨ did = .add := by
  have isQuote := dialect.quotechar_mem
  simp only [List.mem_cons, List.not_mem_nil, or_false] at isQuote
  cases state <;> simp only [transition, startField, inField, isLineEnd] at isNext isEnd <;> grind

/-- After a line end nothing is kept or saved. -/
theorem transition_eatCrNl
    {next : CsvState}
    {c : Char}
    {did : CsvEffect}
    (isNext : dialect.transition .eatCrNl (some c) = some (next, did)) :
    next = .eatCrNl ∧ did = .keep := by
  simp only [transition] at isNext
  grind

/-- Another character than the delimiter and a line end saves nothing. -/
theorem eq_eatCrNl_of_save
    {state next : CsvState}
    {c : Char}
    (isNext : dialect.transition state (some c) = some (next, .save))
    (notDelimiter : c ≠ dialect.delimiter) : next = .eatCrNl ∧ state ≠ .eatCrNl := by
  cases state <;> simp only [transition, startField, inField] at isNext <;> grind

/-! ### Lines -/

theorem exists_processChars_append
    {parser atEnd : CsvParser}
    {first second : List Char} :
    dialect.processChars parser (first ++ second) = some atEnd ↔
      ∃ next, dialect.processChars parser first = some next ∧
        dialect.processChars next second = some atEnd := by
  rw [processChars, List.foldlM_append]
  exact Option.bind_eq_some_iff

theorem processChars_singleton
    (parser : CsvParser)
    (c : Char) : dialect.processChars parser [c] = dialect.processChar parser (some c) := by
  simp [processChars]

/-- The states go together over a line. -/
theorem Tracks.processChars
    {parser atEnd other otherAtEnd : CsvParser}
    {line : List Char}
    (tracks : Tracks dialect parser.state other.state)
    (stepped : dialect.processChars parser line = some atEnd)
    (otherStepped : excel.processChars other line = some otherAtEnd)
    (clean : ∀ c ∈ contents atEnd, c ∉ special) :
    Tracks dialect atEnd.state otherAtEnd.state := by
  induction line generalizing parser other with
  | nil =>
      obtain rfl := Option.some.inj stepped
      obtain rfl := Option.some.inj otherStepped
      exact tracks
  | cons c line inductionHypothesis =>
      obtain ⟨next, first, rest⟩ := Option.bind_eq_some_iff.mp stepped
      obtain ⟨otherNext, otherFirst, otherRest⟩ := Option.bind_eq_some_iff.mp otherStepped
      obtain ⟨did, isNext, -, kept⟩ := processChar_eq_some first
      obtain ⟨otherDid, isOther, -, -⟩ := processChar_eq_some otherFirst
      refine inductionHypothesis (tracks.step isNext isOther fun isAdded => ?_) rest otherRest
      apply clean
      apply (contents_processChars rest).subset
      rw [kept, if_pos isAdded]
      simp

/-- A character without a meaning is kept from a line. -/
theorem mem_contents_processChars
    {parser atEnd : CsvParser}
    {line : List Char}
    {c : Char}
    (stepped : dialect.processChars parser line = some atEnd)
    (listed : c ∈ line)
    (notDelimiter : c ≠ dialect.delimiter)
    (notQuote : c ≠ dialect.quotechar)
    (notSkipped : c = ' ' → dialect.skipinitialspace = false)
    (notLineEnd : isLineEnd c = false) : c ∈ contents atEnd := by
  induction line generalizing parser with
  | nil => cases listed
  | cons head line inductionHypothesis =>
      obtain ⟨next, first, rest⟩ := Option.bind_eq_some_iff.mp stepped
      rcases List.mem_cons.mp listed with rfl | later
      · obtain ⟨did, isNext, -, kept⟩ := processChar_eq_some first
        have isAdded := transition_plain isNext notDelimiter notQuote notSkipped notLineEnd
        apply (contents_processChars rest).subset
        rw [kept, if_pos isAdded]
        simp
      · exact inductionHypothesis rest later

/-- Without a delimiter there is one field at most. -/
theorem length_fields_le_one
    {parser atEnd : CsvParser}
    {line : List Char}
    (few : parser.fields = [] ∨ parser.fields.length = 1 ∧ parser.state = .eatCrNl)
    (stepped : dialect.processChars parser line = some atEnd)
    (noDelimiter : dialect.delimiter ∉ line) :
    atEnd.fields = [] ∨ atEnd.fields.length = 1 ∧ atEnd.state = .eatCrNl := by
  induction line generalizing parser with
  | nil =>
      obtain rfl := Option.some.inj stepped
      exact few
  | cons c line inductionHypothesis =>
      obtain ⟨next, first, rest⟩ := Option.bind_eq_some_iff.mp stepped
      obtain ⟨notHead, notRest⟩ := List.ne_and_not_mem_of_not_mem_cons noDelimiter
      refine inductionHypothesis ?_ rest notRest
      obtain ⟨did, isTransition, isEffect, -⟩ := processChar_eq_some first
      have fields := (fields_of_effect isEffect).2
      rcases few with none | ⟨one, ended⟩
      · cases did with
        | keep => exact .inl (fields.trans none)
        | add => exact .inl (fields.trans none)
        | save =>
            refine .inr ⟨?_, (eq_eatCrNl_of_save isTransition (Ne.symm notHead)).1⟩
            rw [fields, fieldsAfter, none]
            rfl
      · rw [ended] at isTransition
        obtain ⟨isEnded, rfl⟩ := transition_eatCrNl isTransition
        exact .inr ⟨fields.symm ▸ one, isEnded⟩

/-- A parser mirrors another one over a line. -/
theorem Mirrors.processChars
    {parser atEnd other otherAtEnd : CsvParser}
    {line : List Char}
    (mirrors : Mirrors dialect parser.state other.state)
    (sameField : other.field = parser.field)
    (sameFields : other.fields = parser.fields)
    (isComma : dialect.delimiter = ',')
    (noSpace : ' ' ∉ line)
    (noApostrophe : '\'' ∉ line)
    (stepped : dialect.processChars parser line = some atEnd)
    (otherStepped : excel.processChars other line = some otherAtEnd)
    (clean : ∀ c ∈ contents atEnd, c ∉ special) : otherAtEnd.fields = atEnd.fields := by
  induction line generalizing parser other with
  | nil =>
      obtain rfl := Option.some.inj stepped
      obtain rfl := Option.some.inj otherStepped
      exact sameFields
  | cons c line inductionHypothesis =>
      obtain ⟨next, first, rest⟩ := Option.bind_eq_some_iff.mp stepped
      obtain ⟨otherNext, otherFirst, otherRest⟩ := Option.bind_eq_some_iff.mp otherStepped
      obtain ⟨headSpace, restSpace⟩ := List.ne_and_not_mem_of_not_mem_cons noSpace
      obtain ⟨headApostrophe, restApostrophe⟩ := List.ne_and_not_mem_of_not_mem_cons noApostrophe
      obtain ⟨did, isNext, isEffect, kept⟩ := processChar_eq_some first
      obtain ⟨otherDid, isOther, isOtherEffect, -⟩ := processChar_eq_some otherFirst
      obtain ⟨nextMirrors, rfl⟩ := mirrors.step isComma (Ne.symm headSpace) (Ne.symm headApostrophe)
        isNext isOther fun isAdded => by
          apply clean
          apply (contents_processChars rest).subset
          rw [kept, if_pos isAdded]
          simp
      obtain ⟨nextField, nextFields⟩ := fields_of_effect isEffect
      obtain ⟨otherNextField, otherNextFields⟩ := fields_of_effect isOtherEffect
      refine inductionHypothesis nextMirrors ?_ ?_ restSpace restApostrophe rest otherRest
      · rw [nextField, otherNextField]
        cases otherDid <;> simp [fieldAfter, sameField]
      · rw [nextFields, otherNextFields]
        cases otherDid <;> simp [fieldsAfter, sameField, sameFields]

/-! ### Records -/

/-- Between fields nothing is held. -/
def Tidy (parser : CsvParser) : Prop :=
  parser.state ∈ [.startRecord, .startField, .eatCrNl] → parser.field = []

theorem transition_tidy
    {state next : CsvState}
    {input : Option Char}
    {did : CsvEffect}
    (isNext : dialect.transition state input = some (next, did))
    (between : next ∈ [.startRecord, .startField, .eatCrNl]) :
    did = .save ∨ did = .keep ∧ state ∈ [.startRecord, .startField, .eatCrNl] := by
  simp only [List.mem_cons, List.not_mem_nil, or_false] at between ⊢
  cases input with
  | none => cases state <;> simp only [transition, startField, inField] at isNext <;> grind
  | some c => cases state <;> simp only [transition, startField, inField] at isNext <;> grind

theorem Tidy.processChar
    {parser next : CsvParser}
    {input : Option Char}
    (tidy : Tidy parser)
    (stepped : dialect.processChar parser input = some next) : Tidy next := by
  intro between
  obtain ⟨did, isNext, isEffect, -⟩ := processChar_eq_some stepped
  rw [(fields_of_effect isEffect).1]
  rcases transition_tidy isNext between with rfl | ⟨rfl, wasBetween⟩
  · rfl
  · exact tidy wasBetween

theorem Tidy.processChars
    {parser atEnd : CsvParser}
    {line : List Char}
    (tidy : Tidy parser)
    (stepped : dialect.processChars parser line = some atEnd) : Tidy atEnd := by
  induction line generalizing parser with
  | nil =>
      obtain rfl := Option.some.inj stepped
      exact tidy
  | cons c line inductionHypothesis =>
      obtain ⟨next, first, rest⟩ := Option.bind_eq_some_iff.mp stepped
      exact inductionHypothesis (tidy.processChar first) rest

theorem tidy_start : Tidy .start := fun _ => rfl

/-- The end of a line adds nothing. -/
theorem contents_processChar_none
    {parser next : CsvParser}
    (stepped : dialect.processChar parser none = some next) : contents next = contents parser := by
  obtain ⟨did, -, -, kept⟩ := processChar_eq_some stepped
  simpa using kept

/-- What the parser has kept is part of the record that it reads. -/
theorem contents_nextRecord
    {parser : CsvParser}
    {lines rest : List (List Char)}
    {fields : List String}
    (tidy : Tidy parser)
    (read : dialect.nextRecord parser lines = .ok (some (fields, rest))) :
    contents parser <+: fields.flatMap String.toList := by
  induction lines generalizing parser with
  | nil =>
      rw [nextRecord] at read
      split at read
      next =>
        obtain ⟨rfl, -⟩ := Prod.mk.inj (Option.some.inj (Except.ok.inj read))
        simp [contents, CsvParser.saveField]
      next => cases read
  | cons line lines inductionHypothesis =>
      rw [nextRecord] at read
      split at read
      next => cases read
      next next ended =>
        obtain ⟨atEnd, stepped, last⟩ := Option.bind_eq_some_iff.mp ended
        have nextTidy := (tidy.processChars stepped).processChar last
        refine (contents_processChars stepped).trans (contents_processChar_none last ▸ ?_)
        split at read
        next isStart =>
          obtain ⟨rfl, -⟩ := Prod.mk.inj (Option.some.inj (Except.ok.inj read))
          rw [contents, nextTidy (by simp [isStart])]
          exact ⟨[], by simp⟩
        next => exact inductionHypothesis nextTidy read

section Header

variable {line : List Char} {lines : List (List Char)}
  (endsLine : ∃ body c, line = body ++ [c] ∧ isLineEnd c = true)

/-- A parser in front of a new line has read a record. -/
theorem nextRecord_eq_of_eatCrNl
    {atEnd : CsvParser}
    (stepped : dialect.processChars .start line = some atEnd)
    (ended : atEnd.state = .eatCrNl) :
    dialect.nextRecord .start (line :: lines) = .ok (some (atEnd.fields, lines)) := by
  rw [nextRecord, stepped, Option.bind_some, processChar, ended]
  rfl

include endsLine

/-- A record without special characters ends with its line. -/
theorem exists_eatCrNl_of_nextRecord
    {names : List String}
    {rest : List (List Char)}
    (opened : dialect.nextRecord .start (line :: lines) = .ok (some (names, rest)))
    (clean : ∀ c ∈ names.flatMap String.toList, c ∉ special) :
    ∃ atEnd, dialect.processChars .start line = some atEnd ∧ atEnd.state = .eatCrNl ∧
      atEnd.fields = names ∧ ∀ c ∈ contents atEnd, c ∉ special := by
  obtain ⟨atEnd, stepped, isClean⟩ : ∃ atEnd, dialect.processChars .start line = some atEnd ∧
      ∀ c ∈ contents atEnd, c ∉ special := by
    have read := opened
    rw [nextRecord] at read
    split at read
    next => cases read
    next next ended =>
      obtain ⟨atEnd, stepped, last⟩ := Option.bind_eq_some_iff.mp ended
      have tidy := (tidy_start.processChars stepped).processChar last
      refine ⟨atEnd, stepped, fun c isKept => clean c ?_⟩
      rw [← contents_processChar_none last] at isKept
      split at read
      next isStart =>
        obtain ⟨rfl, -⟩ := Prod.mk.inj (Option.some.inj (Except.ok.inj read))
        rwa [contents, tidy (by simp [isStart]), List.append_nil] at isKept
      next => exact (contents_nextRecord tidy read).subset isKept
  have ended : atEnd.state = .eatCrNl := by
    obtain ⟨body, c, rfl, isEnd⟩ := endsLine
    obtain ⟨before, -, last⟩ := exists_processChars_append.mp stepped
    rw [processChars_singleton] at last
    obtain ⟨did, isNext, -, kept⟩ := processChar_eq_some last
    rcases transition_lineEnd isNext isEnd with isEnded | rfl
    · exact isEnded
    · have isSpecial : c ∈ special := by
        simp only [isLineEnd, Bool.or_eq_true, beq_iff_eq] at isEnd
        rcases isEnd with rfl | rfl <;> decide
      exact absurd isSpecial (isClean c (by simp [kept]))
  refine ⟨atEnd, stepped, ended, ?_, isClean⟩
  rw [nextRecord_eq_of_eatCrNl stepped ended] at opened
  exact (Prod.mk.inj (Option.some.inj (Except.ok.inj opened))).1

/-- The default dialect reads the same line as its first record. -/
theorem exists_eatCrNl_of_default
    {names header : List String}
    {rest otherRest : List (List Char)}
    (opened : dialect.nextRecord .start (line :: lines) = .ok (some (names, rest)))
    (clean : ∀ c ∈ names.flatMap String.toList, c ∉ special)
    (otherOpened : excel.nextRecord .start (line :: lines) = .ok (some (header, otherRest))) :
    otherRest = lines ∧ ∃ otherAtEnd, excel.processChars .start line = some otherAtEnd ∧
      otherAtEnd.state = .eatCrNl ∧ otherAtEnd.fields = header := by
  obtain ⟨atEnd, stepped, ended, -, isClean⟩ :=
    exists_eatCrNl_of_nextRecord endsLine opened clean
  obtain ⟨otherAtEnd, otherStepped⟩ :
      ∃ otherAtEnd, excel.processChars .start line = some otherAtEnd := by
    rw [nextRecord] at otherOpened
    split at otherOpened
    next => cases otherOpened
    next next ended =>
      obtain ⟨otherAtEnd, otherStepped, -⟩ := Option.bind_eq_some_iff.mp ended
      exact ⟨otherAtEnd, otherStepped⟩
  have tracks : Tracks dialect CsvParser.start.state CsvParser.start.state := .same (by decide)
  have tracksEnd := tracks.processChars stepped otherStepped isClean
  rw [ended] at tracksEnd
  have otherEnded : otherAtEnd.state = .eatCrNl := by
    generalize otherAtEnd.state = other at tracksEnd
    cases tracksEnd with
    | same => rfl
    | field _ notEnded => exact absurd rfl notEnded
  rw [nextRecord_eq_of_eatCrNl otherStepped otherEnded] at otherOpened
  obtain ⟨isHeader, isRest⟩ := Prod.mk.inj (Option.some.inj (Except.ok.inj otherOpened))
  exact ⟨isRest.symm, otherAtEnd, otherStepped, otherEnded, isHeader⟩

/-- The default dialect reads a header with commas that has no spaces or apostrophes
as the sniffed one does. -/
theorem header_eq_of_plain
    {names header : List String}
    {rest otherRest : List (List Char)}
    (opened : dialect.nextRecord .start (line :: lines) = .ok (some (names, rest)))
    (clean : ∀ c ∈ names.flatMap String.toList, c ∉ special)
    (otherOpened : excel.nextRecord .start (line :: lines) = .ok (some (header, otherRest)))
    (isComma : dialect.delimiter = ',')
    (noSpace : ' ' ∉ line)
    (noApostrophe : '\'' ∉ line) : header = names := by
  obtain ⟨atEnd, stepped, -, rfl, isClean⟩ := exists_eatCrNl_of_nextRecord endsLine opened clean
  obtain ⟨-, otherAtEnd, otherStepped, -, rfl⟩ :=
    exists_eatCrNl_of_default endsLine opened clean otherOpened
  have mirrors : Mirrors dialect CsvParser.start.state CsvParser.start.state :=
    .same (.inr ⟨by decide, by decide⟩)
  exact mirrors.processChars rfl rfl isComma noSpace noApostrophe stepped otherStepped isClean

/-- A header of several columns that the default dialect reads without special
characters has commas, and no spaces or apostrophes. -/
theorem plain_of_header
    {names header : List String}
    {rest otherRest : List (List Char)}
    (opened : dialect.nextRecord .start (line :: lines) = .ok (some (names, rest)))
    (clean : ∀ c ∈ names.flatMap String.toList, c ∉ special)
    (otherOpened : excel.nextRecord .start (line :: lines) = .ok (some (header, otherRest)))
    (otherClean : ∀ c ∈ header.flatMap String.toList, c ∉ special)
    (several : 1 < header.length) :
    dialect.delimiter = ',' ∧ ' ' ∉ line ∧ '\'' ∉ line := by
  obtain ⟨atEnd, stepped, -, -, isClean⟩ := exists_eatCrNl_of_nextRecord endsLine opened clean
  obtain ⟨-, otherAtEnd, otherStepped, otherEnded, rfl⟩ :=
    exists_eatCrNl_of_default endsLine opened clean otherOpened
  have otherTidy := tidy_start.processChars otherStepped
  have otherContents : contents otherAtEnd = otherAtEnd.fields.flatMap String.toList := by
    rw [contents, otherTidy (by simp [otherEnded]), List.append_nil]
  have absent : ∀ c ∈ special, c ≠ ',' → c ≠ '"' → isLineEnd c = false → c ∉ line := by
    intro c isSpecial notComma notQuote notLineEnd listed
    refine otherClean c ?_ isSpecial
    rw [← otherContents]
    exact mem_contents_processChars otherStepped listed notComma notQuote (fun _ => rfl) notLineEnd
  refine ⟨?_, absent ' ' (by decide) (by decide) (by decide) (by decide),
    absent '\'' (by decide) (by decide) (by decide) (by decide)⟩
  by_contra notComma
  have noComma : ',' ∉ line := by
    intro listed
    refine isClean ',' ?_ (by decide)
    have notQuote : ',' ≠ dialect.quotechar := by
      rintro isQuote
      have := dialect.quotechar_mem
      simp [← isQuote] at this
    exact mem_contents_processChars stepped listed (Ne.symm notComma) notQuote
      (fun isSpace => absurd isSpace (by decide)) (by decide)
  rcases length_fields_le_one (.inl rfl) otherStepped noComma with none | ⟨one, -⟩
  · rw [none] at several
    exact absurd several (by decide)
  · omega

end Header

/-! ### Rows -/

/-- A line with nothing but its end. -/
def IsBlank (line : List Char) : Prop := ∀ c ∈ line, isLineEnd c = true

theorem processChars_blank
    {parser : CsvParser}
    {line : List Char}
    (outside : parser.state = .startRecord ∨ parser.state = .eatCrNl)
    (blank : IsBlank line) :
    ((dialect.processChars parser line).bind fun atEnd => dialect.processChar atEnd none) =
      some { parser with state := .startRecord } := by
  induction line generalizing parser with
  | nil =>
      rw [processChars, List.foldlM_nil]
      rcases outside with isStart | isEnd
      · simp [processChar, isStart, transition, effect]
      · simp [processChar, isEnd, transition, effect]
  | cons c line inductionHypothesis =>
      obtain ⟨isEnd, blankRest⟩ := List.forall_mem_cons.mp blank
      have first : dialect.processChar parser (some c) = some { parser with state := .eatCrNl } := by
        rcases outside with isStart | isEatCrNl
        · simp [processChar, isStart, transition, effect, isEnd]
        · simp [processChar, isEatCrNl, transition, effect, isEnd]
      rw [processChars, List.foldlM_cons, first]
      exact inductionHypothesis (.inr rfl) blankRest

/-- A blank line is a record without fields. -/
theorem nextRecord_blank
    {line : List Char}
    (blank : IsBlank line)
    (lines : List (List Char)) :
    dialect.nextRecord .start (line :: lines) = .ok (some ([], lines)) := by
  rw [nextRecord, processChars_blank (.inl rfl) blank]
  rfl

/-- The parser has begun a field. -/
def Begun (parser : CsvParser) : Prop :=
  parser.fields ≠ [] ∨ parser.state ≠ .startRecord ∧ parser.state ≠ .eatCrNl

theorem transition_outside
    {state next : CsvState}
    {input : Option Char}
    {did : CsvEffect}
    (isNext : dialect.transition state input = some (next, did))
    (outside : next = .startRecord ∨ next = .eatCrNl) :
    did = .save ∨ (state = .startRecord ∨ state = .eatCrNl) ∧ ∀ c ∈ input, isLineEnd c = true := by
  cases input with
  | none => cases state <;> simp only [transition, startField, inField] at isNext <;> grind
  | some c => cases state <;> simp only [transition, startField, inField] at isNext <;> grind

theorem transition_none
    {state next : CsvState}
    {did : CsvEffect}
    (isNext : dialect.transition state none = some (next, did)) :
    next = .startRecord ∨ next = .inQuotedField := by
  cases state <;> simp only [transition, startField, inField] at isNext <;> grind

theorem fields_ne_nil_of_effect
    {parser next : CsvParser}
    {input : Option Char}
    {state : CsvState}
    {did : CsvEffect}
    (isEffect : effect parser input (state, did) = some next)
    (saved : parser.fields ≠ [] ∨ did = .save) : next.fields ≠ [] := by
  rw [(fields_of_effect isEffect).2]
  rcases saved with some | rfl
  · cases did <;> simp [fieldsAfter, some]
  · simp [fieldsAfter]

/-- A field that was begun is not lost. -/
theorem Begun.processChar
    {parser next : CsvParser}
    {input : Option Char}
    (begun : Begun parser)
    (stepped : dialect.processChar parser input = some next) : Begun next := by
  obtain ⟨did, isNext, isEffect, -⟩ := processChar_eq_some stepped
  by_cases outside : next.state = .startRecord ∨ next.state = .eatCrNl
  · left
    rcases begun with some | ⟨notStart, notEnd⟩
    · exact fields_ne_nil_of_effect isEffect (.inl some)
    · rcases transition_outside isNext outside with rfl | ⟨wasOutside, -⟩
      · exact fields_ne_nil_of_effect isEffect (.inr rfl)
      · exact absurd wasOutside (not_or.mpr ⟨notStart, notEnd⟩)
  · exact .inr (not_or.mp outside)

theorem Begun.processChars
    {parser atEnd : CsvParser}
    {line : List Char}
    (begun : Begun parser)
    (stepped : dialect.processChars parser line = some atEnd) : Begun atEnd := by
  induction line generalizing parser with
  | nil =>
      obtain rfl := Option.some.inj stepped
      exact begun
  | cons c line inductionHypothesis =>
      obtain ⟨next, first, rest⟩ := Option.bind_eq_some_iff.mp stepped
      exact inductionHypothesis (begun.processChar first) rest

/-- A line that is not blank begins a field. -/
theorem begun_of_not_blank
    {parser atEnd : CsvParser}
    {line : List Char}
    (filled : ¬IsBlank line)
    (stepped : dialect.processChars parser line = some atEnd) : Begun atEnd := by
  induction line generalizing parser with
  | nil => exact absurd (by simp [IsBlank]) filled
  | cons c line inductionHypothesis =>
      obtain ⟨next, first, rest⟩ := Option.bind_eq_some_iff.mp stepped
      by_cases filledRest : IsBlank line
      · have notEnd : isLineEnd c ≠ true :=
          fun isEnd => filled (List.forall_mem_cons.mpr ⟨isEnd, filledRest⟩)
        refine Begun.processChars ?_ rest
        obtain ⟨did, isNext, isEffect, -⟩ := processChar_eq_some first
        by_cases outside : next.state = .startRecord ∨ next.state = .eatCrNl
        · left
          rcases transition_outside isNext outside with rfl | ⟨-, isEnd⟩
          · exact fields_ne_nil_of_effect isEffect (.inr rfl)
          · exact absurd (isEnd c rfl) notEnd
        · exact .inr (not_or.mp outside)
      · exact inductionHypothesis filledRest rest

/-- A record that was begun has fields. -/
theorem fields_ne_nil_of_begun
    {parser : CsvParser}
    {lines : List (List Char)}
    {found : Option (List String × List (List Char))}
    (begun : Begun parser)
    (inside : lines = [] → parser.state = .inQuotedField)
    (read : dialect.nextRecord parser lines = .ok found) :
    ∃ fields rest, found = some (fields, rest) ∧ fields ≠ [] := by
  induction lines generalizing parser with
  | nil =>
      rw [nextRecord, if_pos (.inr (inside rfl))] at read
      refine ⟨_, _, (Except.ok.inj read).symm, ?_⟩
      simp [CsvParser.saveField]
  | cons line lines inductionHypothesis =>
      rw [nextRecord] at read
      split at read
      next => cases read
      next next ended =>
        obtain ⟨atEnd, stepped, last⟩ := Option.bind_eq_some_iff.mp ended
        have nextBegun := (begun.processChars stepped).processChar last
        split at read
        next isStart =>
          refine ⟨_, _, (Except.ok.inj read).symm, ?_⟩
          rcases nextBegun with some | ⟨notStart, -⟩
          · exact some
          · exact absurd isStart notStart
        next notStart =>
          refine inductionHypothesis nextBegun (fun _ => ?_) read
          obtain ⟨did, isNext, -⟩ := processChar_eq_some last
          exact (transition_none isNext).resolve_left notStart

/-- A line that is not blank is part of a record with fields. -/
theorem fields_ne_nil_of_not_blank
    {line : List Char}
    {lines : List (List Char)}
    {found : Option (List String × List (List Char))}
    (filled : ¬IsBlank line)
    (read : dialect.nextRecord .start (line :: lines) = .ok found) :
    ∃ fields rest, found = some (fields, rest) ∧ fields ≠ [] := by
  rw [nextRecord] at read
  split at read
  next => cases read
  next next ended =>
    obtain ⟨atEnd, stepped, last⟩ := Option.bind_eq_some_iff.mp ended
    have begun := (begun_of_not_blank filled stepped).processChar last
    split at read
    next isStart =>
      refine ⟨_, _, (Except.ok.inj read).symm, ?_⟩
      rcases begun with some | ⟨notStart, -⟩
      · exact some
      · exact absurd isStart notStart
    next notStart =>
      refine fields_ne_nil_of_begun begun (fun _ => ?_) read
      obtain ⟨did, isNext, -⟩ := processChar_eq_some last
      exact (transition_none isNext).resolve_left notStart

end CsvDialect

open CsvDialect in
/-- There are no rows when every line is blank. -/
theorem csvRows_eq_nil_iff
    {header : List String}
    {fuel : Nat}
    {lines : List (List Char)}
    {rows : List RawPayload}
    (read : csvRows header fuel lines = .ok rows)
    (enough : lines.length ≤ fuel) : rows = [] ↔ ∀ line ∈ lines, IsBlank line := by
  induction fuel generalizing lines with
  | zero =>
      obtain rfl := List.eq_nil_of_length_eq_zero (Nat.le_zero.mp enough)
      obtain rfl := Except.ok.inj read
      simp
  | succ fuel inductionHypothesis =>
      cases lines with
      | nil =>
          obtain rfl := Except.ok.inj read
          simp
      | cons line lines =>
          rw [csvRows, ← excel_nextRecord] at read
          by_cases blank : IsBlank line
          · rw [nextRecord_blank blank] at read
            rw [List.forall_mem_cons, and_iff_right blank]
            exact inductionHypothesis read (Nat.le_of_succ_le_succ enough)
          · constructor
            · rintro rfl
              split at read
              next => cases read
              next none =>
                obtain ⟨_, _, isSome, -⟩ := fields_ne_nil_of_not_blank blank none
                cases isSome
              next fields rest isRecord =>
                obtain ⟨_, _, isSome, filled⟩ := fields_ne_nil_of_not_blank blank isRecord
                obtain ⟨rfl, -⟩ := Prod.mk.inj (Option.some.inj isSome)
                rw [if_neg filled] at read
                split at read
                next =>
                  rw [Checks.map_eq_ok] at read
                  obtain ⟨_, -, isCons⟩ := read
                  cases isCons
                next => cases read
            · intro allBlank
              exact absurd (allBlank line List.mem_cons_self) blank

/-- The keys of a row are the columns. -/
theorem mem_keys_csvRow
    {header fields : List String}
    (sameLength : fields.length = header.length)
    {key : String} : key ∈ (csvRow header fields).keys ↔ key ∈ header := by
  have general : ∀ (cells : List (String × String)) (row : RawPayload),
      key ∈ (cells.foldl (fun row cell => row.set cell.1 cell.2) row).keys ↔
        key ∈ cells.map Prod.fst ∨ key ∈ row.keys := by
    intro cells
    induction cells with
    | nil => simp
    | cons cell cells inductionHypothesis =>
        intro row
        rw [List.foldl_cons, inductionHypothesis, Dict.mem_keys_set, List.map_cons, List.mem_cons]
        tauto
  rw [csvRow, general, List.map_fst_zip (le_of_eq sameLength.symm)]
  simp [Dict.keys]

/-- The rows have the columns of the header. -/
theorem mem_keys_of_csvRows
    {header : List String}
    {fuel : Nat}
    {lines : List (List Char)}
    {rows : List RawPayload}
    (read : csvRows header fuel lines = .ok rows)
    {row : RawPayload}
    (listed : row ∈ rows)
    {key : String} : key ∈ row.keys ↔ key ∈ header := by
  induction fuel generalizing lines rows with
  | zero =>
      obtain rfl := Except.ok.inj read
      cases listed
  | succ fuel inductionHypothesis =>
      rw [csvRows] at read
      split at read
      next => cases read
      next =>
        obtain rfl := Except.ok.inj read
        cases listed
      next fields rest _ =>
        split at read
        next => exact inductionHypothesis read listed
        next =>
          split at read
          next sameLength =>
            rw [Checks.map_eq_ok] at read
            obtain ⟨others, readRest, rfl⟩ := read
            rcases List.mem_cons.mp listed with rfl | later
            · exact mem_keys_csvRow sameLength
            · exact inductionHypothesis readRest later
          next => cases read

end QuantumAnalytics
