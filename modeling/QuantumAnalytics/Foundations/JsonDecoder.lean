import QuantumAnalytics.Foundations.PyJson

/-!
# The JSON decoder

`json.loads` of a string, as a machine that reads one code point at a time and
keeps a stack of the containers that are open. A value is complete when its
last code point is read; only a number ends before the code point that follows
it, and is converted there.
-/

namespace QuantumAnalytics

/-- What `json.loads` raises. -/
inductive LoadsError
  /-- `JSONDecodeError`. -/
  | decode
  /-- The `ValueError` of an integer with too many digits. -/
  | value
  /-- `RecursionError`. -/
  | recursion
  deriving DecidableEq

namespace JsonDecoder

/-! ### Numbers -/

/-- A character that continues a number. -/
def isNumberPart (c : Char) : Bool := isNumberChar c || c == 'E'

/-- `0|[1-9][0-9]*` and what follows. -/
def integerPart : List Char → Option (List Char × List Char)
  | '0' :: text => some (['0'], text)
  | c :: text =>
      if c.isDigit then some (c :: text.takeWhile Char.isDigit, text.dropWhile Char.isDigit)
      else none
  | [] => none

/-- `(\.[0-9]+)?` and what follows. -/
def fractionPart : List Char → List Char × List Char
  | '.' :: text =>
      if text.takeWhile Char.isDigit = [] then ([], '.' :: text)
      else ('.' :: text.takeWhile Char.isDigit, text.dropWhile Char.isDigit)
  | text => ([], text)

/-- `[-+]?` and what follows. -/
def signPart : List Char → List Char × List Char
  | '+' :: text => (['+'], text)
  | '-' :: text => (['-'], text)
  | text => ([], text)

/-- `([eE][-+]?[0-9]+)?`, written with a small letter, and what follows. -/
def exponentPart : List Char → List Char × List Char
  | c :: text =>
      let (sign, unsigned) := signPart text
      if (c = 'e' ∨ c = 'E') ∧ unsigned.takeWhile Char.isDigit ≠ [] then
        ('e' :: (sign ++ unsigned.takeWhile Char.isDigit), unsigned.dropWhile Char.isDigit)
      else ([], c :: text)
  | [] => ([], [])

/-- The number of a sign, an integer part and the rest of a number text. -/
def convert (negative : Bool) (digits rest : List Char) : Except LoadsError PyJson :=
  if rest = [] then do
    require (digits.length ≤ PyText.maxIntDigits) .value
    let magnitude : Int := Nat.ofDigitChars 10 digits 0
    return .int (if negative then -magnitude else magnitude)
  else
    match FloatToken.ofChars? ((if negative then ['-'] else []) ++ digits ++ rest) with
    | some token => .ok (.float (.ofToken token))
    | none => .error .decode

/-- `_match_number`: the number at the start of a text, which nothing may follow. -/
def number (text : List Char) : Except LoadsError PyJson :=
  let negative := text.head? = some '-'
  match integerPart (if negative then text.drop 1 else text) with
  | none => .error .decode
  | some (digits, text) => do
      let (fraction, text) := fractionPart text
      let (exponent, text) := exponentPart text
      let value ← convert negative digits (fraction ++ exponent)
      require (text = []) .decode
      return value

/-! ### Strings -/

/-- Where the reader of a string is. -/
inductive Escape
  /-- Not in an escape. -/
  | outside
  /-- After a backslash. -/
  | backslash
  /-- In the hexadecimal digits of `\u`, with those that were read. -/
  | unicode (digits : List Nat)
  deriving DecidableEq

/-- A string that is being read. -/
structure Scan where
  /-- What has been read. -/
  text : PyStr
  /-- The last code point is this high surrogate, and it was escaped. -/
  high : Option Nat
  /-- The escape that is being read. -/
  escape : Escape

/-- A string before its first code point. -/
def Scan.start : Scan := ⟨[], none, .outside⟩

/-- The string with one code point more. -/
def Scan.append (scan : Scan) (point : CodePoint) : Scan := ⟨scan.text ++ [point], none, .outside⟩

/-- `chr(unit)` of a number with four hexadecimal digits. -/
def ofUnit (unit : Nat) : CodePoint :=
  if surrogate : 0xd800 ≤ unit ∧ unit < 0xe000 then .surrogate ⟨unit - 0xd800, by omega⟩
  else .scalar (Char.ofNat unit)

/-- The string with an escaped code point more, which joins an escaped high
surrogate before it. -/
def Scan.appendUnit (scan : Scan) (unit : Nat) : Scan :=
  match scan.high with
  | some high =>
      if 0xdc00 ≤ unit ∧ unit < 0xe000 then
        ⟨scan.text.dropLast ++
          [.scalar (Char.ofNat (0x10000 + (high - 0xd800) * 0x400 + (unit - 0xdc00)))],
          none, .outside⟩
      else ⟨scan.text ++ [ofUnit unit], if 0xd800 ≤ unit ∧ unit < 0xdc00 then some unit else none,
        .outside⟩
  | none => ⟨scan.text ++ [ofUnit unit],
      if 0xd800 ≤ unit ∧ unit < 0xdc00 then some unit else none, .outside⟩

/-- The value of a hexadecimal digit. -/
def hexValue? (c : Char) : Option Nat :=
  if '0' ≤ c ∧ c ≤ '9' then some (c.toNat - '0'.toNat)
  else if 'a' ≤ c ∧ c ≤ 'f' then some (c.toNat - 'a'.toNat + 10)
  else if 'A' ≤ c ∧ c ≤ 'F' then some (c.toNat - 'A'.toNat + 10)
  else none

/-- The character that an escape of one letter stands for. -/
def escaped? : Char → Option Char
  | '"' => some '"'
  | '\\' => some '\\'
  | '/' => some '/'
  | 'b' => some '\x08'
  | 'f' => some '\x0c'
  | 'n' => some '\n'
  | 'r' => some '\r'
  | 't' => some '\t'
  | _ => none

/-- A character of a string that is not the closing quote; `none` is an error. -/
def Scan.readChar? (scan : Scan) (c : Char) : Option Scan :=
  match scan.escape with
  | .outside =>
      if c = '\\' then some { scan with escape := .backslash }
      else if c.toNat < 0x20 then none
      else some (scan.append (.scalar c))
  | .backslash =>
      if c = 'u' then some { scan with escape := .unicode [] }
      else (escaped? c).map fun meant => scan.append (.scalar meant)
  | .unicode digits => do
      let digit ← hexValue? c
      if digits.length = 3 then
        return scan.appendUnit ((digits ++ [digit]).foldl (fun unit next => 16 * unit + next) 0)
      else return { scan with escape := .unicode (digits ++ [digit]) }

/-- `scanstring` of one code point: the string goes on or it is complete. -/
def Scan.read (scan : Scan) (point : CodePoint) : Except LoadsError (Scan ⊕ PyStr) :=
  match point with
  | .scalar c =>
      if c = '"' ∧ scan.escape = .outside then .ok (.inr scan.text)
      else (requireSome (scan.readChar? c) .decode).map Sum.inl
  | .surrogate _ =>
      if scan.escape = .outside then .ok (.inl (scan.append point)) else .error .decode

/-! ### Values -/

/-- A container that is open while one of its values is read. -/
inductive Frame
  /-- A list, with the items before. -/
  | items (before : List PyJson)
  /-- A mapping, with the members before and the key of the value. -/
  | member (before : PyObject) (key : PyStr)

/-- What is read next. -/
inductive Phase
  /-- A value; right after `[` also `]`. -/
  | value (isFirst : Bool)
  /-- A key; right after `\x7b` also `\x7d`. -/
  | key (before : PyObject) (isFirst : Bool)
  /-- The colon after a key. -/
  | colon (before : PyObject) (key : PyStr)
  /-- What follows a value. -/
  | after (value : PyJson)
  /-- The rest of a string. -/
  | string (scan : Scan)
  /-- The rest of a key. -/
  | keyString (before : PyObject) (scan : Scan)
  /-- The rest of a number. -/
  | number (text : List Char)
  /-- The rest of a literal. -/
  | literal (rest : List Char) (value : PyJson)

/-- The decoder: what is read next, and the open containers. -/
structure State where
  phase : Phase
  stack : List Frame

/-- The decoder before the first code point. -/
def start : State := ⟨.value false, []⟩

/-- `[ \t\n\r]`. -/
def isBlank (c : Char) : Bool := c == ' ' || c == '\t' || c == '\n' || c == '\r'

/-- The members of a mapping with one that is new or replaced, in key order. -/
def setField : PyObject → PyStr → PyJson → PyObject
  | [], key, value => [(key, value)]
  | (other, before) :: fields, key, value =>
      if key.ords < other.ords then (key, value) :: (other, before) :: fields
      else if key = other then (key, value) :: fields
      else (other, before) :: setField fields key value

/-- The literal that starts with a character: its other characters and its value. -/
def literal? : Char → Option (List Char × PyJson)
  | 'n' => some (['u', 'l', 'l'], .null)
  | 't' => some (['r', 'u', 'e'], .bool true)
  | 'f' => some (['a', 'l', 's', 'e'], .bool false)
  | 'N' => some (['a', 'N'], .float .nan)
  | 'I' => some (['n', 'f', 'i', 'n', 'i', 't', 'y'], .float (.infinite false))
  | _ => none

/-- The first character of a value. -/
def readValue (nesting : Nat) (isFirst : Bool) (stack : List Frame) (c : Char) :
    Except LoadsError State :=
  if isBlank c then .ok ⟨.value isFirst, stack⟩
  else if c = '"' then .ok ⟨.string .start, stack⟩
  else if c = '[' then do
    require (stack.length < nesting) .recursion
    return ⟨.value true, .items [] :: stack⟩
  else if c = '\x7b' then do
    require (stack.length < nesting) .recursion
    return ⟨.key [] true, stack⟩
  else if c = '-' ∨ c.isDigit then .ok ⟨.number [c], stack⟩
  else
    match literal? c with
    | some (rest, value) => .ok ⟨.literal rest value, stack⟩
    | none =>
        match isFirst, c, stack with
        | true, ']', .items [] :: stack => .ok ⟨.after (.arr []), stack⟩
        | _, _, _ => .error .decode

/-- The character after a value. -/
def readAfter (value : PyJson) (stack : List Frame) (c : Char) : Except LoadsError State :=
  if isBlank c then .ok ⟨.after value, stack⟩
  else
    match stack, c with
    | .items before :: stack, ',' => .ok ⟨.value false, .items (before ++ [value]) :: stack⟩
    | .items before :: stack, ']' => .ok ⟨.after (.arr (before ++ [value])), stack⟩
    | .member before key :: stack, ',' => .ok ⟨.key (setField before key value) false, stack⟩
    | .member before key :: stack, '\x7d' =>
        .ok ⟨.after (.obj (setField before key value)), stack⟩
    | _, _ => .error .decode

/-- The first character of a key. -/
def readKey (before : PyObject) (isFirst : Bool) (stack : List Frame) (c : Char) :
    Except LoadsError State :=
  if isBlank c then .ok ⟨.key before isFirst, stack⟩
  else if c = '"' then .ok ⟨.keyString before .start, stack⟩
  else if isFirst ∧ c = '\x7d' then .ok ⟨.after (.obj before), stack⟩
  else .error .decode

/-- The character after a key. -/
def readColon (before : PyObject) (key : PyStr) (stack : List Frame) (c : Char) :
    Except LoadsError State :=
  if isBlank c then .ok ⟨.colon before key, stack⟩
  else if c = ':' then .ok ⟨.value false, .member before key :: stack⟩
  else .error .decode

/-- A character that is not part of a string. -/
def readChar (nesting : Nat) (state : State) (c : Char) : Except LoadsError State :=
  match state.phase with
  | .value isFirst => readValue nesting isFirst state.stack c
  | .key before isFirst => readKey before isFirst state.stack c
  | .colon before key => readColon before key state.stack c
  | .after value => readAfter value state.stack c
  | .number text =>
      if isNumberPart c then .ok ⟨.number (text ++ [c]), state.stack⟩
      else if text = ['-'] ∧ c = 'I' then
        .ok ⟨.literal ['n', 'f', 'i', 'n', 'i', 't', 'y'] (.float (.infinite true)), state.stack⟩
      else do readAfter (← number text) state.stack c
  | .literal rest value =>
      match rest with
      | [] => .error .decode
      | [last] => if c = last then .ok ⟨.after value, state.stack⟩ else .error .decode
      | next :: rest => if c = next then .ok ⟨.literal rest value, state.stack⟩ else .error .decode
  | _ => .error .decode

/-- One code point. -/
def step (nesting : Nat) (state : State) (point : CodePoint) : Except LoadsError State :=
  match state.phase with
  | .string scan => do
      match ← scan.read point with
      | .inl scan => return ⟨.string scan, state.stack⟩
      | .inr text => return ⟨.after (.str text), state.stack⟩
  | .keyString before scan => do
      match ← scan.read point with
      | .inl scan => return ⟨.keyString before scan, state.stack⟩
      | .inr text => return ⟨.colon before text, state.stack⟩
  | _ =>
      match point with
      | .scalar c => readChar nesting state c
      | .surrogate _ => do
          -- A number is converted before the decoder looks at what follows it.
          match state.phase with
          | .number text => let _ ← number text
          | _ => pure ()
          .error .decode

/-- The code points of a text. -/
def run (nesting : Nat) (state : State) (text : PyStr) : Except LoadsError State :=
  text.foldlM (step nesting) state

/-- The end of the text. -/
def finish (state : State) : Except LoadsError PyJson :=
  match state.phase with
  | .after value => do
      require (state.stack.isEmpty = true) .decode
      return value
  | .number text => do
      let value ← number text
      require (state.stack.isEmpty = true) .decode
      return value
  | _ => .error .decode

end JsonDecoder

/-- `json.loads(text)`. -/
def PyJson.loads (interpreter : Interpreter) (text : PyStr) : Except LoadsError PyJson := do
  require (text.head? ≠ some (.scalar '\ufeff')) .decode
  JsonDecoder.finish (← JsonDecoder.run interpreter.nesting JsonDecoder.start text)

end QuantumAnalytics
