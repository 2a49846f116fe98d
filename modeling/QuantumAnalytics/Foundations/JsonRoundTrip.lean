import Mathlib.Data.List.TakeWhile
import QuantumAnalytics.Foundations.DecimalExact
import QuantumAnalytics.Foundations.JsonDecoder
import QuantumAnalytics.Foundations.Utf8

/-!
# Reading canonical text

The decoder reads the canonical text of a document as that document. Every
value is read by itself: the decoder enters it with any containers open, and
leaves it with the value complete and the same containers open.
-/

namespace QuantumAnalytics
namespace JsonDecoder

variable {nesting : Nat} {stack : List Frame}

/-! ### Reading in parts -/

@[simp] theorem run_nil (state : State) : run nesting state [] = .ok state := rfl

theorem run_cons (state : State) (point : CodePoint) (text : PyStr) :
    run nesting state (point :: text) =
      step nesting state point >>= fun next => run nesting next text := by
  rw [run, List.foldlM_cons]
  rfl

theorem run_append (state : State) (first second : PyStr) :
    run nesting state (first ++ second) =
      run nesting state first >>= fun next => run nesting next second := by
  rw [run, List.foldlM_append]
  rfl

theorem run_append_of_eq_ok
    {state next : State}
    {first : PyStr}
    (read : run nesting state first = .ok next)
    (second : PyStr) : run nesting state (first ++ second) = run nesting next second := by
  rw [run_append, read, Checks.ok_bind]

theorem run_cons_of_eq_ok
    {state next : State}
    {point : CodePoint}
    (read : step nesting state point = .ok next)
    (text : PyStr) : run nesting state (point :: text) = run nesting next text := by
  rw [run_cons, read, Checks.ok_bind]

/-! ### Strings -/

/-- The phases in which a string is read, and what follows it. -/
structure StringPhase (nesting : Nat) (stack : List Frame) (wrap : Scan → Phase)
    (done : PyStr → Phase) : Prop where
  goesOn : ∀ {scan next : Scan} {point : CodePoint}, scan.read point = .ok (.inl next) →
    step nesting ⟨wrap scan, stack⟩ point = .ok ⟨wrap next, stack⟩
  ends : ∀ {scan : Scan} {text : PyStr} {point : CodePoint}, scan.read point = .ok (.inr text) →
    step nesting ⟨wrap scan, stack⟩ point = .ok ⟨done text, stack⟩

theorem stringPhase_value :
    StringPhase nesting stack .string fun text => .after (.str text) where
  goesOn read := by simp [step, read, Checks.ok_bind, pure, Except.pure]
  ends read := by simp [step, read, Checks.ok_bind, pure, Except.pure]

theorem stringPhase_key (before : PyObject) :
    StringPhase nesting stack (.keyString before) (.colon before) where
  goesOn read := by simp [step, read, Checks.ok_bind, pure, Except.pure]
  ends read := by simp [step, read, Checks.ok_bind, pure, Except.pure]

/-- A character that is read in a string. -/
theorem read_of_readChar
    {scan next : Scan}
    {c : Char}
    (isRead : scan.readChar? c = some next)
    (notEnd : c ≠ '"' ∨ scan.escape ≠ .outside) : scan.read (.scalar c) = .ok (.inl next) := by
  have goesOn : ¬(c = '"' ∧ scan.escape = .outside) := by tauto
  rw [Scan.read, if_neg goesOn, isRead]
  rfl

variable {wrap : Scan → Phase} {done : PyStr → Phase}

/-- A character that is not escaped is read by itself. -/
theorem run_plain
    (phase : StringPhase nesting stack wrap done)
    (before : PyStr)
    {c : Char}
    (quote : c ≠ '"')
    (backslash : c ≠ '\\')
    (printable : ¬c.toNat < 0x20) :
    run nesting ⟨wrap ⟨before, none, .outside⟩, stack⟩ [.scalar c] =
      .ok ⟨wrap ⟨before ++ [.scalar c], none, .outside⟩, stack⟩ := by
  have read : (⟨before, none, .outside⟩ : Scan).readChar? c =
      some ⟨before ++ [.scalar c], none, .outside⟩ := by
    simp [Scan.readChar?, backslash, printable, Scan.append]
  rw [run_cons_of_eq_ok (phase.goesOn (read_of_readChar read (.inl quote))), run_nil]

/-- An escape of one letter is read as what it stands for. -/
theorem run_escaped
    (phase : StringPhase nesting stack wrap done)
    (before : PyStr)
    {letter meant : Char}
    (isEscape : escaped? letter = some meant)
    (notUnicode : letter ≠ 'u') :
    run nesting ⟨wrap ⟨before, none, .outside⟩, stack⟩ [.scalar '\\', .scalar letter] =
      .ok ⟨wrap ⟨before ++ [.scalar meant], none, .outside⟩, stack⟩ := by
  have first : (⟨before, none, .outside⟩ : Scan).readChar? '\\' =
      some ⟨before, none, .backslash⟩ := rfl
  have second : (⟨before, none, .backslash⟩ : Scan).readChar? letter =
      some ⟨before ++ [.scalar meant], none, .outside⟩ := by
    simp [Scan.readChar?, notUnicode, isEscape, Scan.append]
  rw [run_cons_of_eq_ok (phase.goesOn (read_of_readChar first (.inl (by decide)))),
    run_cons_of_eq_ok (phase.goesOn (read_of_readChar second (.inr (by simp)))), run_nil]

/-- A control character is read from its number. -/
theorem run_control
    (phase : StringPhase nesting stack wrap done)
    (before : PyStr)
    {unit : Nat}
    (control : unit < 0x20) :
    run nesting ⟨wrap ⟨before, none, .outside⟩, stack⟩
        (PyStr.ofChars ['\\', 'u', '0', '0', Json.hexDigit (unit / 16), Json.hexDigit unit]) =
      .ok ⟨wrap ⟨before ++ [.scalar (Char.ofNat unit)], none, .outside⟩, stack⟩ := by
  have high : hexValue? (Json.hexDigit (unit / 16)) = some (unit / 16) := by
    interval_cases unit <;> decide
  have low : hexValue? (Json.hexDigit unit) = some (unit % 16) := by
    interval_cases unit <;> decide
  have whole : 16 * (unit / 16) + unit % 16 = unit := Nat.div_add_mod unit 16
  have notSurrogate : ¬(0xd800 ≤ unit ∧ unit < 0xe000) := by omega
  have notHigh : ¬(0xd800 ≤ unit ∧ unit < 0xdc00) := by omega
  have outside : (⟨before, none, .outside⟩ : Scan).readChar? '\\' =
      some ⟨before, none, .backslash⟩ := rfl
  have letter : (⟨before, none, .backslash⟩ : Scan).readChar? 'u' =
      some ⟨before, none, .unicode []⟩ := rfl
  have zero : hexValue? '0' = some 0 := rfl
  have first : (⟨before, none, .unicode []⟩ : Scan).readChar? '0' =
      some ⟨before, none, .unicode [0]⟩ := by simp [Scan.readChar?, zero]
  have second : (⟨before, none, .unicode [0]⟩ : Scan).readChar? '0' =
      some ⟨before, none, .unicode [0, 0]⟩ := by simp [Scan.readChar?, zero]
  have third : (⟨before, none, .unicode [0, 0]⟩ : Scan).readChar? (Json.hexDigit (unit / 16)) =
      some ⟨before, none, .unicode [0, 0, unit / 16]⟩ := by simp [Scan.readChar?, high]
  have fourth : (⟨before, none, .unicode [0, 0, unit / 16]⟩ : Scan).readChar? (Json.hexDigit unit) =
      some ⟨before ++ [.scalar (Char.ofNat unit)], none, .outside⟩ := by
    simp [Scan.readChar?, low, Scan.appendUnit, whole, ofUnit, notSurrogate, notHigh]
  simp only [PyStr.ofChars, List.map_cons, List.map_nil]
  rw [run_cons_of_eq_ok (phase.goesOn (read_of_readChar outside (.inl (by decide)))),
    run_cons_of_eq_ok (phase.goesOn (read_of_readChar letter (.inr (by simp)))),
    run_cons_of_eq_ok (phase.goesOn (read_of_readChar first (.inr (by simp)))),
    run_cons_of_eq_ok (phase.goesOn (read_of_readChar second (.inr (by simp)))),
    run_cons_of_eq_ok (phase.goesOn (read_of_readChar third (.inr (by simp)))),
    run_cons_of_eq_ok (phase.goesOn (read_of_readChar fourth (.inr (by simp)))), run_nil]

/-- The text of a code point is read as the code point. -/
theorem run_escapePoint
    (phase : StringPhase nesting stack wrap done)
    (before : PyStr)
    (point : CodePoint) :
    run nesting ⟨wrap ⟨before, none, .outside⟩, stack⟩ (PyJson.escapePoint point) =
      .ok ⟨wrap ⟨before ++ [point], none, .outside⟩, stack⟩ := by
  cases point with
  | surrogate offset =>
      have read : (⟨before, none, .outside⟩ : Scan).read (.surrogate offset) =
          .ok (.inl ⟨before ++ [.surrogate offset], none, .outside⟩) := rfl
      rw [PyJson.escapePoint, run_cons_of_eq_ok (phase.goesOn read), run_nil]
  | scalar c =>
      rw [PyJson.escapePoint]
      unfold Json.escapeChar
      split_ifs with quote backslash newline carriage tab formfeed backspace control
      · rw [quote]
        exact run_escaped phase before rfl (by decide)
      · rw [backslash]
        exact run_escaped phase before rfl (by decide)
      · rw [newline]
        exact run_escaped phase before rfl (by decide)
      · rw [carriage]
        exact run_escaped phase before rfl (by decide)
      · rw [tab]
        exact run_escaped phase before rfl (by decide)
      · rw [formfeed]
        exact run_escaped phase before rfl (by decide)
      · rw [backspace]
        exact run_escaped phase before rfl (by decide)
      · have read := run_control phase before control
        rwa [Char.ofNat_toNat] at read
      · exact run_plain phase before quote backslash control

/-- The text of a string is read as the string. -/
theorem run_renderString
    (phase : StringPhase nesting stack wrap done)
    (before text : PyStr) :
    run nesting ⟨wrap ⟨before, none, .outside⟩, stack⟩ (PyJson.renderString text) =
      .ok ⟨done (before ++ text), stack⟩ := by
  induction text generalizing before with
  | nil =>
      have read : (⟨before, none, .outside⟩ : Scan).read (.scalar '"') = .ok (.inr before) := rfl
      rw [PyJson.renderString, run_cons_of_eq_ok (phase.ends read), run_nil, List.append_nil]
  | cons point text inductionHypothesis =>
      rw [PyJson.renderString, run_append_of_eq_ok (run_escapePoint phase before point),
        inductionHypothesis, List.append_assoc]
      rfl

/-! ### Numbers -/

/-- The characters of a number are collected. -/
theorem run_number
    (read text : List Char)
    (isNumber : ∀ c ∈ text, isNumberPart c = true) :
    run nesting ⟨.number read, stack⟩ (PyStr.ofChars text) =
      .ok ⟨.number (read ++ text), stack⟩ := by
  induction text generalizing read with
  | nil => rw [List.append_nil]; rfl
  | cons c text inductionHypothesis =>
      have collected : step nesting ⟨.number read, stack⟩ (.scalar c) =
          .ok ⟨.number (read ++ [c]), stack⟩ := by
        simp [step, readChar, isNumber c List.mem_cons_self]
      rw [PyStr.ofChars, List.map_cons, run_cons_of_eq_ok collected]
      rw [PyStr.ofChars] at inductionHypothesis
      rw [inductionHypothesis _ fun d member => isNumber d (List.mem_cons_of_mem c member),
        List.append_assoc]
      rfl

/-- Digits are read to their end. -/
theorem takeWhile_isDigit
    {text : List Char}
    (digits : ∀ c ∈ text, c.isDigit = true) :
    text.takeWhile Char.isDigit = text ∧ text.dropWhile Char.isDigit = [] :=
  ⟨List.takeWhile_eq_self_iff.mpr digits, List.dropWhile_eq_nil_iff.mpr digits⟩

theorem isDigit_of_mem_toDigits
    {n : Nat}
    {c : Char}
    (member : c ∈ Nat.toDigits 10 n) : c.isDigit = true :=
  Nat.isDigit_of_mem_toDigits (by decide) (by decide) member

theorem integerPart_toDigits (n : Nat) :
    integerPart (Nat.toDigits 10 n) = some (Nat.toDigits 10 n, []) := by
  rcases Nat.eq_zero_or_pos n with rfl | positive
  · rfl
  · have leads := Decimal.head?_toDigits positive
    have digits : ∀ c ∈ Nat.toDigits 10 n, c.isDigit = true := fun _ => isDigit_of_mem_toDigits
    cases shape : Nat.toDigits 10 n with
    | nil => exact absurd shape Nat.toDigits_ne_nil
    | cons c text =>
        rw [shape] at leads digits
        have notZero : c ≠ '0' := by simpa using leads
        obtain ⟨taken, dropped⟩ := takeWhile_isDigit fun d member =>
          digits d (List.mem_cons_of_mem c member)
        unfold integerPart
        split
        next heq => exact absurd (List.cons.inj heq).1 notZero
        next heq =>
          obtain ⟨rfl, rfl⟩ := List.cons.inj heq
          rw [if_pos (digits c List.mem_cons_self), taken, dropped]
        next heq => simp at heq

/-- The characters of an integer. -/
theorem repr_toList (value : Int) :
    value.repr.toList = (if value < 0 then ['-'] else []) ++ Nat.toDigits 10 value.natAbs := by
  cases value with
  | ofNat n =>
      have notNegative : ¬Int.ofNat n < 0 := by simp
      rw [if_neg notNegative, Int.repr, Nat.repr_eq_ofList_toDigits, String.toList_ofList]
      rfl
  | negSucc n =>
      have negative : Int.negSucc n < 0 := Int.negSucc_lt_zero n
      rw [if_pos negative, Int.repr]
      simp [Nat.repr_eq_ofList_toDigits]

/-- The text of a short integer is read as the integer. -/
theorem number_repr
    {value : Int}
    (short : PyJson.isShortInt value = true) : number value.repr.toList = .ok (.int value) := by
  have digitHead : (Nat.toDigits 10 value.natAbs).head? ≠ some '-' := by
    intro leads
    have member := List.mem_of_mem_head? leads
    exact absurd (isDigit_of_mem_toDigits member) (by decide)
  have shortDigits : (Nat.toDigits 10 value.natAbs).length ≤ PyText.maxIntDigits := by
    simpa [PyJson.isShortInt] using short
  have value_eq : Nat.ofDigitChars 10 (Nat.toDigits 10 value.natAbs) 0 = value.natAbs :=
    Nat.ofDigitChars_ten_toDigits
  rw [repr_toList]
  by_cases negative : value < 0
  · simp [number, negative, integerPart_toDigits, fractionPart, exponentPart, convert, require,
      shortDigits, value_eq, bind, Except.bind, pure, Except.pure]
    rw [abs_of_neg negative, neg_neg]
  · simp [number, negative, digitHead, integerPart_toDigits, fractionPart, exponentPart, convert,
      require, shortDigits, value_eq, bind, Except.bind, pure, Except.pure]
    omega

/-! ### Documents -/

/-- The text of a float is a JSON number. -/
def IsWritten : PyFloat → Prop
  | .finite token shortest => number token.text.toList = .ok (.float (.finite token shortest))
  | _ => True

mutual

/-- A value with room for its containers, short integers and written floats. -/
def Readable : Nat → PyJson → Prop
  | _, .int value => PyJson.isShortInt value = true
  | _, .float value => IsWritten value
  | room, .arr items => 0 < room ∧ ReadableItems (room - 1) items
  | room, .obj fields => 0 < room ∧ ReadableFields (room - 1) fields
  | _, _ => True

/-- The items are readable. -/
def ReadableItems : Nat → List PyJson → Prop
  | _, [] => True
  | room, item :: items => Readable room item ∧ ReadableItems room items

/-- The values of the members are readable. -/
def ReadableFields : Nat → PyObject → Prop
  | _, [] => True
  | room, (_, value) :: fields => Readable room value ∧ ReadableFields room fields

end

/-- A value has been read, up to the end of its number. -/
inductive Reads (stack : List Frame) (value : PyJson) : State → Prop
  | done : Reads stack value ⟨.after value, stack⟩
  | number {text : List Char} : JsonDecoder.number text = .ok value →
      Reads stack value ⟨.number text, stack⟩

/-- What follows a value is read as such. -/
theorem step_of_reads
    {state : State}
    {value : PyJson}
    (reads : Reads stack value state)
    {c : Char}
    (notNumber : isNumberPart c = false)
    (notLiteral : c ≠ 'I') :
    step nesting state (.scalar c) = readAfter value stack c := by
  cases reads with
  | done => rfl
  | number isNumber => simp [step, readChar, notNumber, notLiteral, isNumber, Checks.ok_bind]

/-- A new key that follows the others is added at the end. -/
theorem setField_of_lt
    {before : PyObject}
    {key : PyStr}
    {value : PyJson}
    (later : ∀ field ∈ before, field.1.ords < key.ords) :
    setField before key value = before ++ [(key, value)] := by
  induction before with
  | nil => rfl
  | cons field before inductionHypothesis =>
      have below := later field List.mem_cons_self
      have notAbove : ¬key.ords < field.1.ords := List.lt_asymm below
      have different : key ≠ field.1 := by
        rintro rfl
        exact List.lt_irrefl _ below
      rw [setField, if_neg notAbove, if_neg different,
        inductionHypothesis fun other member => later other (List.mem_cons_of_mem field member)]
      rfl

/-- A literal is read to its end. -/
theorem run_literal
    (value : PyJson)
    {text : List Char}
    (nonempty : text ≠ []) :
    run nesting ⟨.literal text value, stack⟩ (PyStr.ofChars text) =
      .ok ⟨.after value, stack⟩ := by
  induction text with
  | nil => exact absurd rfl nonempty
  | cons c text inductionHypothesis =>
      cases text with
      | nil =>
          have read : step nesting ⟨.literal [c] value, stack⟩ (.scalar c) =
              .ok ⟨.after value, stack⟩ := by simp [step, readChar]
          rw [PyStr.ofChars, List.map_cons, run_cons_of_eq_ok read, List.map_nil, run_nil]
      | cons d text =>
          have read : step nesting ⟨.literal (c :: d :: text) value, stack⟩ (.scalar c) =
              .ok ⟨.literal (d :: text) value, stack⟩ := by simp [step, readChar]
          rw [PyStr.ofChars, List.map_cons, run_cons_of_eq_ok read]
          exact inductionHypothesis (by simp)

/-- A literal is read from its first character. -/
theorem run_literal?
    {isFirst : Bool}
    {c : Char}
    {text : List Char}
    {value : PyJson}
    (isLiteral : literal? c = some (text, value))
    (nonempty : text ≠ [])
    (plain : isBlank c = false ∧ c ≠ '"' ∧ c ≠ '[' ∧ c ≠ '\x7b' ∧ ¬(c = '-' ∨ c.isDigit = true)) :
    run nesting ⟨.value isFirst, stack⟩ (PyStr.ofChars (c :: text)) =
      .ok ⟨.after value, stack⟩ := by
  obtain ⟨blank, quote, bracket, brace, digit⟩ := plain
  have read : step nesting ⟨.value isFirst, stack⟩ (.scalar c) =
      .ok ⟨.literal text value, stack⟩ := by
    simp only [step, readChar, readValue, blank, quote, bracket, brace, digit, isLiteral]
    rfl
  rw [PyStr.ofChars, List.map_cons, run_cons_of_eq_ok read]
  exact run_literal value nonempty

/-- A number text is collected from its first character. -/
theorem run_numberText
    {isFirst : Bool}
    {c : Char}
    {text : List Char}
    (starts : c = '-' ∨ c.isDigit = true)
    (isNumber : ∀ d ∈ text, isNumberPart d = true) :
    run nesting ⟨.value isFirst, stack⟩ (PyStr.ofChars (c :: text)) =
      .ok ⟨.number (c :: text), stack⟩ := by
  have plain : isBlank c = false ∧ c ≠ '"' ∧ c ≠ '[' ∧ c ≠ '\x7b' := by
    rcases starts with rfl | digit
    · decide
    · refine ⟨?_, ?_, ?_, ?_⟩
      · simp only [isBlank, Bool.or_eq_false_iff, beq_eq_false_iff_ne]
        refine ⟨⟨⟨?_, ?_⟩, ?_⟩, ?_⟩ <;> (rintro rfl; exact absurd digit (by decide))
      all_goals (rintro rfl; exact absurd digit (by decide))
  obtain ⟨blank, quote, bracket, brace⟩ := plain
  have read : step nesting ⟨.value isFirst, stack⟩ (.scalar c) = .ok ⟨.number [c], stack⟩ := by
    simp only [step, readChar, readValue, blank, quote, bracket, brace, starts]
    rfl
  rw [PyStr.ofChars, List.map_cons, run_cons_of_eq_ok read]
  exact run_number [c] text isNumber

/-- A number text starts with a sign or a digit. -/
theorem exists_cons_of_number
    {text : List Char}
    {value : PyJson}
    (isNumber : number text = .ok value) :
    ∃ c rest, text = c :: rest ∧ (c = '-' ∨ c.isDigit = true) := by
  cases text with
  | nil => simp [number, integerPart] at isNumber
  | cons c rest =>
      refine ⟨c, rest, rfl, ?_⟩
      by_contra neither
      rw [not_or] at neither
      have absent : integerPart (c :: rest) = none := by
        unfold integerPart
        split
        next heq =>
          obtain ⟨rfl, -⟩ := List.cons.inj heq
          exact absurd rfl neither.2
        next heq =>
          obtain ⟨rfl, -⟩ := List.cons.inj heq
          exact if_neg neither.2
        next heq => rfl
      simp [number, neither.1, absent] at isNumber

theorem isNumberPart_of_isDigit
    {c : Char}
    (digit : c.isDigit = true) : isNumberPart c = true := by
  simp [isNumberPart, isNumberChar, digit]

/-- The text of an integer is a number text. -/
theorem isNumberPart_of_mem_repr
    {value : Int}
    {c : Char}
    (member : c ∈ value.repr.toList) : isNumberPart c = true := by
  rw [repr_toList, List.mem_append] at member
  rcases member with sign | digit
  · split at sign
    · rw [List.mem_singleton.mp sign]
      rfl
    · simp at sign
  · exact isNumberPart_of_isDigit (isDigit_of_mem_toDigits digit)

/-- A number text is read up to its end. -/
theorem exists_reads_number
    {isFirst : Bool}
    {text : List Char}
    {value : PyJson}
    (isNumber : number text = .ok value)
    (parts : ∀ c ∈ text, isNumberPart c = true) :
    ∃ state, run nesting ⟨.value isFirst, stack⟩ (PyStr.ofChars text) = .ok state ∧
      Reads stack value state := by
  obtain ⟨c, rest, rfl, starts⟩ := exists_cons_of_number isNumber
  exact ⟨_, run_numberText starts fun d member => parts d (List.mem_cons_of_mem c member),
    .number isNumber⟩

/-- The text of a float is read up to its end. -/
theorem exists_reads_float
    {isFirst : Bool}
    {value : PyFloat}
    (written : IsWritten value) :
    ∃ state, run nesting ⟨.value isFirst, stack⟩ (PyStr.ofChars (PyJson.renderFloat value)) =
      .ok state ∧ Reads stack (.float value) state := by
  cases value with
  | finite token shortest =>
      refine exists_reads_number written fun c member => ?_
      rw [isNumberPart, token.isNumber c member, Bool.true_or]
  | nan => exact ⟨_, run_literal? rfl (by decide) (by decide), .done⟩
  | infinite negative =>
      cases negative with
      | false => exact ⟨_, run_literal? rfl (by decide) (by decide), .done⟩
      | true =>
          have sign : step nesting ⟨.value isFirst, stack⟩ (.scalar '-') =
              .ok ⟨.number ['-'], stack⟩ := rfl
          have letter : step nesting ⟨.number ['-'], stack⟩ (.scalar 'I') =
              .ok ⟨.literal ['n', 'f', 'i', 'n', 'i', 't', 'y'] (.float (.infinite true)),
                stack⟩ := rfl
          refine ⟨_, ?_, .done⟩
          change run nesting _ (.scalar '-' :: .scalar 'I' ::
            PyStr.ofChars ['n', 'f', 'i', 'n', 'i', 't', 'y']) = _
          rw [run_cons_of_eq_ok sign, run_cons_of_eq_ok letter, run_literal _ (by decide)]

mutual

/-- The text of a document is read as the document. -/
theorem exists_reads_render : (value : PyJson) → ∀ (isFirst : Bool) {room : Nat}
    {stack : List Frame}, value.Canonical → Readable room value →
    stack.length + room ≤ nesting →
    ∃ state, run nesting ⟨.value isFirst, stack⟩ value.render = .ok state ∧
      Reads stack value state
  | .null, _, _, _, _, _, _ => ⟨_, run_literal? rfl (by decide) (by decide), .done⟩
  | .bool true, _, _, _, _, _, _ => ⟨_, run_literal? rfl (by decide) (by decide), .done⟩
  | .bool false, _, _, _, _, _, _ => ⟨_, run_literal? rfl (by decide) (by decide), .done⟩
  | .int _, _, _, _, _, readable, _ =>
      exists_reads_number (number_repr readable) fun _ => isNumberPart_of_mem_repr
  | .float _, _, _, _, _, readable, _ => exists_reads_float readable
  | .str text, isFirst, _, stack, _, _, _ => by
      have opened : step nesting ⟨.value isFirst, stack⟩ (.scalar '"') =
          .ok ⟨.string .start, stack⟩ := rfl
      refine ⟨_, ?_, .done⟩
      rw [PyJson.render, run_cons_of_eq_ok opened, Scan.start,
        run_renderString stringPhase_value [] text, List.nil_append]
  | .arr [], isFirst, room, stack, _, readable, fits => by
      have room' : stack.length < nesting := by
        have := readable.1
        omega
      have opened : step nesting ⟨.value isFirst, stack⟩ (.scalar '[') =
          .ok ⟨.value true, .items [] :: stack⟩ := by
        simp [step, readChar, readValue, isBlank, room', require, bind, Except.bind, pure,
          Except.pure]
      have closed : step nesting ⟨.value true, .items [] :: stack⟩ (.scalar ']') =
          .ok ⟨.after (.arr []), stack⟩ := rfl
      refine ⟨_, ?_, .done⟩
      change run nesting _ [.scalar '[', .scalar ']'] = _
      rw [run_cons_of_eq_ok opened, run_cons_of_eq_ok closed, run_nil]
  | .arr (item :: items), isFirst, room, stack, canonical, readable, fits => by
      have positive := readable.1
      have room' : stack.length < nesting := by omega
      have opened : step nesting ⟨.value isFirst, stack⟩ (.scalar '[') =
          .ok ⟨.value true, .items [] :: stack⟩ := by
        simp [step, readChar, readValue, isBlank, room', require, bind, Except.bind, pure,
          Except.pure]
      have inner : (Frame.items [] :: stack).length + (room - 1) ≤ nesting := by
        rw [List.length_cons]
        omega
      obtain ⟨state, readItem, reads⟩ :=
        exists_reads_render item true canonical.1 readable.2.1 inner
      refine ⟨_, ?_, .done⟩
      rw [PyJson.render, run_cons_of_eq_ok opened, run_append_of_eq_ok readItem,
        run_renderItems items reads canonical.2 readable.2.2 inner, List.nil_append]
  | .obj [], isFirst, room, stack, _, readable, fits => by
      have room' : stack.length < nesting := by
        have := readable.1
        omega
      have opened : step nesting ⟨.value isFirst, stack⟩ (.scalar '\x7b') =
          .ok ⟨.key [] true, stack⟩ := by
        simp [step, readChar, readValue, isBlank, room', require, bind, Except.bind, pure,
          Except.pure]
      have closed : step nesting ⟨.key [] true, stack⟩ (.scalar '\x7d') =
          .ok ⟨.after (.obj []), stack⟩ := rfl
      refine ⟨_, ?_, .done⟩
      change run nesting _ [.scalar '\x7b', .scalar '\x7d'] = _
      rw [run_cons_of_eq_ok opened, run_cons_of_eq_ok closed, run_nil]
  | .obj ((key, value) :: fields), isFirst, room, stack, canonical, readable, fits => by
      have positive := readable.1
      have room' : stack.length < nesting := by omega
      have opened : step nesting ⟨.value isFirst, stack⟩ (.scalar '\x7b') =
          .ok ⟨.key [] true, stack⟩ := by
        simp [step, readChar, readValue, isBlank, room', require, bind, Except.bind, pure,
          Except.pure]
      have quoted : step nesting ⟨.key [] true, stack⟩ (.scalar '"') =
          .ok ⟨.keyString [] .start, stack⟩ := rfl
      have colon : step nesting ⟨.colon [] key, stack⟩ (.scalar ':') =
          .ok ⟨.value false, .member [] key :: stack⟩ := rfl
      have inner : (Frame.member [] key :: stack).length + (room - 1) ≤ nesting := by
        rw [List.length_cons]
        omega
      obtain ⟨state, readValue, reads⟩ :=
        exists_reads_render value false canonical.2.1 readable.2.1 inner
      refine ⟨_, ?_, .done⟩
      rw [PyJson.render, run_cons_of_eq_ok opened, run_cons_of_eq_ok quoted, Scan.start,
        run_append_of_eq_ok (run_renderString (stringPhase_key []) [] key), List.nil_append,
        run_cons_of_eq_ok colon, run_append_of_eq_ok readValue,
        run_renderFields fields reads canonical.1 canonical.2.2 readable.2.2 inner,
        List.nil_append]

/-- The rest of a list is read as its other items. -/
theorem run_renderItems : (items : List PyJson) → ∀ {room : Nat} {stack : List Frame}
    {before : List PyJson} {item : PyJson} {state : State},
    Reads (.items before :: stack) item state → PyJson.CanonicalItems items →
    ReadableItems room items → (Frame.items before :: stack).length + room ≤ nesting →
    run nesting state (PyJson.renderItems items) =
      .ok ⟨.after (.arr (before ++ item :: items)), stack⟩
  | [], _, _, _, _, _, reads, _, _, _ => by
      rw [PyJson.renderItems, run_cons, step_of_reads reads (by decide) (by decide)]
      rfl
  | next :: items, room, stack, before, item, state, reads, canonical, readable, fits => by
      have comma : step nesting state (.scalar ',') =
          .ok ⟨.value false, .items (before ++ [item]) :: stack⟩ := by
        rw [step_of_reads reads (by decide) (by decide)]
        rfl
      obtain ⟨later, readNext, readsNext⟩ := exists_reads_render next false canonical.1 readable.1
        (show (Frame.items (before ++ [item]) :: stack).length + room ≤ nesting from fits)
      rw [PyJson.renderItems, run_cons_of_eq_ok comma, run_append_of_eq_ok readNext,
        run_renderItems items readsNext canonical.2 readable.2 fits, List.append_assoc]
      rfl

/-- The rest of a mapping is read as its other members. -/
theorem run_renderFields : (fields : PyObject) → ∀ {room : Nat} {stack : List Frame}
    {before : PyObject} {key : PyStr} {value : PyJson} {state : State},
    Reads (.member before key :: stack) value state →
    ((before ++ (key, value) :: fields).Pairwise fun left right => left.1.ords < right.1.ords) →
    PyJson.CanonicalFields fields → ReadableFields room fields →
    (Frame.member before key :: stack).length + room ≤ nesting →
    run nesting state (PyJson.renderFields fields) =
      .ok ⟨.after (.obj (before ++ (key, value) :: fields)), stack⟩
  | [], _, _, before, key, value, _, reads, ordered, _, _, _ => by
      have later : ∀ field ∈ before, field.1.ords < key.ords := fun field member =>
        (List.pairwise_append.mp ordered).2.2 field member (key, value) List.mem_cons_self
      rw [PyJson.renderFields, run_cons, step_of_reads reads (by decide) (by decide)]
      change Except.ok _ = _
      rw [setField_of_lt later]
  | (next, nextValue) :: fields, room, stack, before, key, value, state, reads, ordered,
      canonical, readable, fits => by
      have later : ∀ field ∈ before, field.1.ords < key.ords := fun field member =>
        (List.pairwise_append.mp ordered).2.2 field member (key, value) List.mem_cons_self
      have comma : step nesting state (.scalar ',') =
          .ok ⟨.key (before ++ [(key, value)]) false, stack⟩ := by
        rw [step_of_reads reads (by decide) (by decide), ← setField_of_lt later]
        rfl
      have quoted : step nesting ⟨.key (before ++ [(key, value)]) false, stack⟩ (.scalar '"') =
          .ok ⟨.keyString (before ++ [(key, value)]) .start, stack⟩ := rfl
      have colon : step nesting ⟨.colon (before ++ [(key, value)]) next, stack⟩ (.scalar ':') =
          .ok ⟨.value false, .member (before ++ [(key, value)]) next :: stack⟩ := rfl
      obtain ⟨last, readNext, readsNext⟩ := exists_reads_render nextValue false canonical.1 readable.1
        (show (Frame.member (before ++ [(key, value)]) next :: stack).length + room ≤ nesting
          from fits)
      have reordered : ((before ++ [(key, value)]) ++ (next, nextValue) :: fields).Pairwise
          fun left right => left.1.ords < right.1.ords := by
        rw [List.append_assoc]
        exact ordered
      rw [PyJson.renderFields, run_cons_of_eq_ok comma, run_cons_of_eq_ok quoted, Scan.start,
        run_append_of_eq_ok
          (run_renderString (stringPhase_key (before ++ [(key, value)])) [] next),
        List.nil_append, run_cons_of_eq_ok colon, run_append_of_eq_ok readNext,
        run_renderFields fields readsNext reordered canonical.2 readable.2 fits,
        List.append_assoc]
      rfl

end

/-! ### Documents that are written -/

mutual

/-- The texts of the floats in a value are JSON numbers. -/
def Written : PyJson → Prop
  | .float value => IsWritten value
  | .arr items => WrittenItems items
  | .obj fields => WrittenFields fields
  | _ => True

/-- The floats in the items are written. -/
def WrittenItems : List PyJson → Prop
  | [] => True
  | item :: items => Written item ∧ WrittenItems items

/-- The floats in the members are written. -/
def WrittenFields : PyObject → Prop
  | [] => True
  | (_, value) :: fields => Written value ∧ WrittenFields fields

end

theorem WrittenFields.of_forall
    {fields : PyObject}
    (written : ∀ field ∈ fields, Written field.2) : WrittenFields fields := by
  induction fields with
  | nil => trivial
  | cons field fields inductionHypothesis =>
      exact ⟨written field List.mem_cons_self, inductionHypothesis fun other member =>
        written other (List.mem_cons_of_mem field member)⟩

theorem WrittenFields.of_mem
    {fields : PyObject}
    (written : WrittenFields fields) : ∀ field ∈ fields, Written field.2 := by
  induction fields with
  | nil => simp
  | cons first fields inductionHypothesis =>
      exact List.forall_mem_cons.mpr ⟨written.1, inductionHypothesis written.2⟩

theorem WrittenItems.of_forall
    {items : List PyJson}
    (written : ∀ item ∈ items, Written item) : WrittenItems items := by
  induction items with
  | nil => trivial
  | cons item items inductionHypothesis =>
      exact ⟨written item List.mem_cons_self, inductionHypothesis fun other member =>
        written other (List.mem_cons_of_mem item member)⟩

mutual

/-- What the encoder writes can be read back. -/
theorem readable_of_checkEncodable : (value : PyJson) → ∀ {room : Nat}, Written value →
    PyJson.checkEncodable room value = .ok () → Readable room value
  | .null, _, _, _ => trivial
  | .bool _, _, _, _ => trivial
  | .str _, _, _, _ => trivial
  | .int _, _, _, encodable => by simpa [PyJson.checkEncodable, Readable] using encodable
  | .float _, _, written, _ => written
  | .arr items, 0, _, encodable => absurd encodable (by simp [PyJson.checkEncodable])
  | .arr items, room + 1, written, encodable =>
      ⟨room.succ_pos, readableItems_of_checkItems items written encodable⟩
  | .obj fields, 0, _, encodable => absurd encodable (by simp [PyJson.checkEncodable])
  | .obj fields, room + 1, written, encodable =>
      ⟨room.succ_pos, readableFields_of_checkFields fields written encodable⟩

theorem readableItems_of_checkItems : (items : List PyJson) → ∀ {room : Nat},
    WrittenItems items → PyJson.checkItems room items = .ok () → ReadableItems room items
  | [], _, _, _ => trivial
  | item :: items, room, written, encodable => by
      rw [PyJson.checkItems, Checks.bind_done_eq_ok] at encodable
      exact ⟨readable_of_checkEncodable item written.1 encodable.1,
        readableItems_of_checkItems items written.2 encodable.2⟩

theorem readableFields_of_checkFields : (fields : PyObject) → ∀ {room : Nat},
    WrittenFields fields → PyJson.checkFields room fields = .ok () → ReadableFields room fields
  | [], _, _, _ => trivial
  | (key, value) :: fields, room, written, encodable => by
      rw [PyJson.checkFields, Checks.bind_done_eq_ok] at encodable
      exact ⟨readable_of_checkEncodable value written.1 encodable.1,
        readableFields_of_checkFields fields written.2 encodable.2⟩

end

end JsonDecoder

namespace PyJson

/-- The decoder reads the canonical text of a document from its start. -/
theorem exists_reads_start
    {interpreter : Interpreter}
    {value : PyJson}
    (canonical : value.Canonical)
    (readable : JsonDecoder.Readable interpreter.nesting value) :
    ∃ state, JsonDecoder.run interpreter.nesting JsonDecoder.start value.render = .ok state ∧
      JsonDecoder.Reads [] value state := by
  have fits : ([] : List JsonDecoder.Frame).length + interpreter.nesting ≤ interpreter.nesting := by
    simp
  exact JsonDecoder.exists_reads_render value false canonical readable fits

/-- `json.loads` reads the canonical text of a document as the document. -/
theorem loads_render
    {interpreter : Interpreter}
    {value : PyJson}
    (canonical : value.Canonical)
    (readable : JsonDecoder.Readable interpreter.nesting value) :
    loads interpreter value.render = .ok value := by
  obtain ⟨state, read, reads⟩ := exists_reads_start canonical readable
  -- A mark of byte order does not start a value.
  have unmarked : value.render.head? ≠ some (.scalar '\ufeff') := by
    intro marked
    obtain ⟨text, shape⟩ := List.head?_eq_some_iff.mp marked
    rw [shape, JsonDecoder.run_cons] at read
    exact absurd read (by simp [JsonDecoder.start, JsonDecoder.step, JsonDecoder.readChar, JsonDecoder.readValue,
      JsonDecoder.isBlank, JsonDecoder.literal?])
  rw [loads, read]
  cases reads with
  | done => simp [require, unmarked, JsonDecoder.finish, bind, Except.bind, pure, Except.pure]
  | number isNumber =>
      simp [require, unmarked, JsonDecoder.finish, isNumber, bind, Except.bind, pure, Except.pure]

/-- A document is read back from what the encoder writes. -/
theorem loads_of_dumps
    {interpreter : Interpreter}
    {value : PyJson}
    {text : PyStr}
    (canonical : value.Canonical)
    (written : JsonDecoder.Written value)
    (isDumped : value.dumps interpreter = .ok text) : loads interpreter text = .ok value := by
  rw [dumps, Checks.bind_done_eq_ok] at isDumped
  obtain ⟨encodable, rendered⟩ := isDumped
  obtain rfl : value.render = text := Except.ok.inj rendered
  exact loads_render canonical (JsonDecoder.readable_of_checkEncodable value written encodable)

theorem CanonicalItems.of_forall
    {items : List PyJson}
    (canonical : ∀ item ∈ items, Canonical item) : CanonicalItems items := by
  induction items with
  | nil => trivial
  | cons item items inductionHypothesis =>
      exact ⟨canonical item List.mem_cons_self, inductionHypothesis fun other member =>
        canonical other (List.mem_cons_of_mem item member)⟩

theorem CanonicalFields.of_forall
    {fields : PyObject}
    (canonical : ∀ field ∈ fields, Canonical field.2) : CanonicalFields fields := by
  induction fields with
  | nil => trivial
  | cons field fields inductionHypothesis =>
      exact ⟨canonical field List.mem_cons_self, inductionHypothesis fun other member =>
        canonical other (List.mem_cons_of_mem field member)⟩

theorem mem_sortFields
    {fields : PyObject}
    {field : PyStr × PyJson} : field ∈ sortFields fields ↔ field ∈ fields :=
  (List.perm_insertionSort _ fields).mem_iff

/-- Members with distinct keys are listed in key order. -/
theorem canonical_sortFields
    {fields : PyObject}
    (distinct : (fields.map Prod.fst).Nodup)
    (canonical : ∀ field ∈ fields, Canonical field.2) : Canonical (.obj (sortFields fields)) := by
  have sorted : (sortFields fields).Pairwise _ := @List.pairwise_insertionSort _ _ _
    ⟨fun _ _ => by first | exact List.le_total _ _ | exact le_total _ _⟩
    ⟨fun _ _ _ => by first | exact List.le_trans | exact le_trans⟩ fields
  have sortedDistinct : ((sortFields fields).map Prod.fst).Nodup :=
    ((List.perm_insertionSort _ fields).map Prod.fst).nodup_iff.mpr distinct
  have different : (sortFields fields).Pairwise fun left right => left.1 ≠ right.1 :=
    List.pairwise_map.mp sortedDistinct
  refine ⟨?_, CanonicalFields.of_forall fun field member =>
    canonical field (mem_sortFields.mp member)⟩
  refine (sorted.and different).imp fun {left right} both => ?_
  have apart : left.1.ords ≠ right.1.ords := fun same => both.2 (PyStr.ords_injective same)
  first
    | exact (List.le_iff_lt_or_eq.mp both.1).resolve_right apart
    | exact lt_of_le_of_ne both.1 apart

/-- A mapping is encoded when its members are. -/
theorem checkFields_eq_ok
    {room : Nat}
    {fields : PyObject} :
    checkFields room fields = .ok () ↔
      ∀ field ∈ fields, checkEncodable room field.2 = .ok () := by
  induction fields with
  | nil => simp [checkFields]
  | cons field fields inductionHypothesis =>
      rw [checkFields, Checks.bind_done_eq_ok, inductionHypothesis, List.forall_mem_cons]

/-- The text of a mapping has no surrogates when those of its keys and values have none. -/
theorem isPlain_render_obj (fields : PyObject) :
    PyStr.isPlain (render (.obj fields)) = fields.all fun field =>
      PyStr.isPlain (renderString field.1) && PyStr.isPlain (render field.2) := by
  have later : ∀ fields : PyObject, PyStr.isPlain (renderFields fields) = fields.all fun field =>
      PyStr.isPlain (renderString field.1) && PyStr.isPlain (render field.2) := by
    intro fields
    induction fields with
    | nil => rfl
    | cons field fields inductionHypothesis =>
        simp only [renderFields, PyStr.isPlain_scalar_cons, PyStr.isPlain_append,
          inductionHypothesis, List.all_cons, Bool.and_assoc]
  cases fields with
  | nil => rfl
  | cons field fields =>
      simp only [render, PyStr.isPlain_scalar_cons, PyStr.isPlain_append, later, List.all_cons,
        Bool.and_assoc]

/-- The text of a string without surrogates has none. -/
theorem isPlain_renderString_ofChars (text : List Char) :
    PyStr.isPlain (renderString (PyStr.ofChars text)) = true := by
  induction text with
  | nil => rfl
  | cons c text inductionHypothesis =>
      rw [PyStr.ofChars, List.map_cons, renderString, PyStr.isPlain_append, escapePoint,
        PyStr.isPlain_ofChars, Bool.true_and]
      exact inductionHypothesis

end PyJson

/-- A document that a program builds: its floats are written as `repr` does. -/
structure JsonDocument extends PyDocument where
  /-- The texts of the floats are JSON numbers. -/
  written : JsonDecoder.Written value

end QuantumAnalytics
