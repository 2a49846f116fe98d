import QuantumAnalytics.Foundations.PyText
import QuantumAnalytics.Foundations.Regex

/-!
# Formula texts

`_validate_formula_text` cuts a formula into cell references, numbers, operators and
names. Every name that is followed by a parenthesis has to be an allowed function. The
beginning of a longer name can be taken for a cell reference; then the name escapes.
-/

namespace QuantumAnalytics
namespace Xlsx

open Regex (isLetter isDigit)

/-! ### Patterns -/

/-- `[1-9]`. -/
def isNonzeroDigit (c : Char) : Bool := '1' ≤ c && c ≤ '9'

/-- `[A-Za-z0-9_.]`. -/
def isNamePart (c : Char) : Bool := isLetter c || isDigit c || c == '_' || c == '.'

/-- `[()+\-*/^%,<>= ]`. -/
def isOperatorPart (c : Char) : Bool := "()+-*/^%,<>= ".toList.contains c

/-- `\$?`. -/
def dollar : Regex := .opt (.one (· == '$'))

/-- `\$?[A-Za-z]{1,3}\$?[1-9][0-9]{0,6}`. -/
def singleReference : Regex :=
  .seq dollar (.seq (.many isLetter 1 (some 3)) (.seq dollar
    (.seq (.one isNonzeroDigit) (.many isDigit 0 (some 6)))))

/-- `_CELL_REFERENCE`. -/
def cellReference : Regex :=
  .seq singleReference (.opt (.seq (.one (· == ':')) singleReference))

/-- `_NUMBER`. -/
def number : Regex :=
  .alt (.seq (.many isDigit 1 none) (.opt (.seq (.one (· == '.')) (.many isDigit 0 none))))
    (.seq (.one (· == '.')) (.many isDigit 1 none))

/-- `_OPERATOR`. -/
def operator : Regex := .many isOperatorPart 1 none

/-- `_IDENTIFIER`. -/
def identifier : Regex := .seq (.one isLetter) (.many isNamePart 0 (some 31))

/-! ### The scanner -/

/-- `_MAX_FORMULA_LENGTH`. -/
def maxFormulaLength : Nat := 512

/-- `_ALLOWED_FUNCTIONS`. -/
def allowedFunctions : List (List Char) :=
  ["ABS", "AVERAGE", "COUNT", "COUNTA", "IF", "MAX", "MIN", "ROUND", "SUBTOTAL", "SUM"].map
    String.toList

/-- The names that need no parenthesis. -/
def booleanNames : List (List Char) := ["TRUE", "FALSE"].map String.toList

/-- What follows a name, if the name may stand here. -/
def afterName (text : List Char) : Option (List Char) := do
  let rest ← identifier.match? text
  let token := (text.take (text.length - rest.length)).map Char.toUpper
  if token ∈ booleanNames then some rest
  else if token ∉ allowedFunctions ∨ rest.head? ≠ some '(' then none
  else some rest

/-- One turn of the loop: what follows the next token. -/
def afterToken (text : List Char) : Option (List Char) :=
  match [cellReference, number, operator].findSome? fun pattern => pattern.match? text with
  | some rest => some rest
  | none => afterName text

/-- The loop, with a bound on its turns; `none` is a loop that goes on. -/
def scan : Nat → List Char → Option Bool
  | _, [] => some true
  | 0, _ :: _ => none
  | turns + 1, c :: text =>
      match afterToken (c :: text) with
      | none => some false
      | some rest => scan turns rest

/-- `_validate_formula_text`: whether it passes. -/
def validateFormulaText (text : String) : Bool :=
  text ≠ "" && text = PyText.stripText text && text.length ≤ maxFormulaLength &&
    text.toList.all (fun c => c.toNat < 128) && scan text.toList.length text.toList = some true

/-! ### Calls -/

/-- No name goes on from here. -/
def Bounded (before : List Char) : Prop := ∀ c ∈ before.getLast?, isNamePart c = false

/-- A name of a formula with a parenthesis behind it: as many name characters as
possible, the first of which is a letter. -/
structure IsCall (text name : List Char) : Prop where
  letter : ∃ first ∈ name.head?, isLetter first = true
  part : ∀ c ∈ name, isNamePart c = true
  stands : ∃ before after, text = before ++ (name ++ '(' :: after) ∧ Bounded before

/-- The name is an allowed function, in any case. -/
def IsAllowed (name : List Char) : Prop := name.map Char.toUpper ∈ allowedFunctions

instance (name : List Char) : Decidable (IsAllowed name) :=
  inferInstanceAs (Decidable (_ ∈ _))

/-- The name begins like a cell reference, or it is `TRUE` or `FALSE` in any case. -/
def IsMistaken (name : List Char) : Prop :=
  (∃ letters digit rest, name = letters ++ digit :: rest ∧ letters.all isLetter = true ∧
      1 ≤ letters.length ∧ letters.length ≤ 3 ∧ isNonzeroDigit digit = true) ∨
    name.map Char.toUpper ∈ booleanNames

/-! ### Tokens -/

theorem isNamePart_of_isLetter {c : Char} (letter : isLetter c = true) : isNamePart c = true := by
  simp [isNamePart, letter]

theorem isDigit_of_isNonzeroDigit {c : Char} (digit : isNonzeroDigit c = true) :
    isDigit c = true := by
  simp only [isNonzeroDigit, isDigit, Bool.and_eq_true, decide_eq_true_eq] at digit ⊢
  exact ⟨le_trans (by decide) digit.1, digit.2⟩

theorem not_isLetter_of_isDigit {c : Char} (digit : isDigit c = true) : isLetter c = false := by
  by_contra letter
  rw [Bool.not_eq_false] at letter
  simp only [isLetter, isDigit, Bool.and_eq_true, Bool.or_eq_true, decide_eq_true_eq] at digit letter
  rcases letter with ⟨upper, -⟩ | ⟨lower, -⟩
  · exact absurd (upper.trans digit.2) (by decide)
  · exact absurd (lower.trans digit.2) (by decide)

/-- Behind a bound, a text of name characters begins. -/
theorem Bounded.eq_nil
    {before name : List Char}
    (bounded : Bounded (before ++ name))
    (parts : ∀ c ∈ name, isNamePart c = true) : name = [] := by
  by_contra present
  obtain ⟨last, isLast⟩ := Option.isSome_iff_exists.mp
    (List.getLast?_isSome.mpr present)
  have other := bounded last (by rw [List.getLast?_append, isLast]; rfl)
  rw [parts last (List.mem_of_getLast? isLast)] at other
  cases other

theorem Bounded.of_append
    {before more : List Char}
    (bounded : Bounded (before ++ more)) : Bounded more := by
  intro c isLast
  exact bounded c (by rw [List.getLast?_append, isLast]; rfl)

/-- The letters of a reference, and what follows them. -/
def BeginsReference (text : List Char) : Prop :=
  ∃ letters next rest, text = letters ++ next :: rest ∧ letters.all isLetter = true ∧
    1 ≤ letters.length ∧ letters.length ≤ 3 ∧ (next = '$' ∨ isNonzeroDigit next = true)

theorem BeginsReference.append
    {text : List Char}
    (begins : BeginsReference text)
    (more : List Char) : BeginsReference (text ++ more) := by
  obtain ⟨letters, next, rest, rfl, facts⟩ := begins
  exact ⟨letters, next, rest ++ more, by simp, facts⟩

/-- A letter of a reference that no name character precedes is its first one. -/
theorem beginsReference_of_single
    {front back : List Char}
    {c : Char}
    (accepted : singleReference.Accepts (front ++ c :: back))
    (letter : isLetter c = true)
    (bounded : Bounded front) : BeginsReference (c :: back) := by
  obtain ⟨sign, tail, isSplit, isSign, letters, tail', rfl, ⟨areLetters, one, three⟩, sign', tail'',
    rfl, isSign', _, digits, rfl, ⟨digit, rfl, isDigit⟩, ⟨areDigits, -⟩⟩ := accepted
  have noLetter : ∀ {text : List Char}, dollar.Accepts text → c ∉ text := by
    rintro text (⟨d, rfl, isDollar⟩ | rfl) listed
    · obtain rfl := List.mem_singleton.mp listed
      obtain rfl := beq_iff_eq.mp isDollar
      cases letter
    · cases listed
  rcases Regex.split_append isSplit with ⟨more, rfl, -⟩ | ⟨front, rfl, isTail⟩
  · exact absurd (List.mem_append_right _ List.mem_cons_self) (noLetter isSign)
  · rcases Regex.split_append isTail.symm with ⟨more, rfl, rfl⟩ | ⟨front', rfl, isTail'⟩
    · -- The letter is one of the letters, so it is the first.
      have parts : ∀ x ∈ front, isNamePart x = true := fun x listed =>
        isNamePart_of_isLetter (List.all_eq_true.mp areLetters x (List.mem_append_left _ listed))
      obtain rfl := bounded.eq_nil parts
      rcases isSign' with ⟨d, rfl, isDollar⟩ | rfl
      · exact ⟨c :: more, d, _, rfl, areLetters, one, three 3 rfl, .inl (beq_iff_eq.mp isDollar)⟩
      · exact ⟨c :: more, digit, _, rfl, areLetters, one, three 3 rfl, .inr isDigit⟩
    · rcases Regex.split_append isTail'.symm with ⟨more, rfl, -⟩ | ⟨front'', rfl, isDigits⟩
      · exact absurd (List.mem_append_right _ List.mem_cons_self) (noLetter isSign')
      · have listed : c ∈ [digit] ++ digits := by
          rw [isDigits]
          exact List.mem_append_right _ List.mem_cons_self
        have isNumeric : Regex.isDigit c = true := by
          rcases List.mem_cons.mp listed with rfl | listed
          · exact isDigit_of_isNonzeroDigit isDigit
          · exact List.all_eq_true.mp areDigits c listed
        rw [not_isLetter_of_isDigit isNumeric] at letter
        cases letter

theorem beginsReference_of_cellReference
    {front back : List Char}
    {c : Char}
    (accepted : cellReference.Accepts (front ++ c :: back))
    (letter : isLetter c = true)
    (bounded : Bounded front) : BeginsReference (c :: back) := by
  obtain ⟨first, tail, isSplit, isFirst, isTail⟩ := accepted
  rcases Regex.split_append isSplit with ⟨more, rfl, rfl⟩ | ⟨front', rfl, rfl⟩
  · exact (beginsReference_of_single isFirst letter bounded).append tail
  · rcases isTail with ⟨_, second, isSplit', ⟨colon, rfl, isColon⟩, isSecond⟩ | absent
    · obtain rfl := beq_iff_eq.mp isColon
      cases front' with
      | nil =>
          obtain ⟨rfl, -⟩ := List.cons.inj isSplit'
          cases letter
      | cons first' front' =>
          obtain ⟨rfl, rfl⟩ := List.cons.inj isSplit'
          have later : Bounded front' := by
            have whole : first ++ ':' :: front' = (first ++ [':']) ++ front' := by simp
            rw [whole] at bounded
            exact bounded.of_append
          exact beginsReference_of_single isSecond letter later
    · cases (List.append_eq_nil_iff.mp absent).2

/-- The characters of a number. -/
theorem not_letter_of_number
    {taken : List Char}
    (accepted : number.Accepts taken)
    {c : Char}
    (listed : c ∈ taken) : isLetter c = false := by
  have point : ∀ {d : Char}, (d == '.') = true → isLetter d = false := by
    intro d isPoint
    obtain rfl := beq_iff_eq.mp isPoint
    rfl
  rcases accepted with ⟨whole, fraction, rfl, ⟨areDigits, -⟩, isFraction⟩ |
      ⟨_, digits, rfl, ⟨d, rfl, isPoint⟩, ⟨areDigits, -⟩⟩
  · rcases List.mem_append.mp listed with inWhole | inFraction
    · exact not_isLetter_of_isDigit (List.all_eq_true.mp areDigits c inWhole)
    · rcases isFraction with ⟨_, digits, rfl, ⟨d, rfl, isPoint⟩, ⟨areDigits, -⟩⟩ | rfl
      · rcases List.mem_cons.mp inFraction with rfl | inDigits
        · exact point isPoint
        · exact not_isLetter_of_isDigit (List.all_eq_true.mp areDigits c inDigits)
      · cases inFraction
  · rcases List.mem_cons.mp listed with rfl | inDigits
    · exact point isPoint
    · exact not_isLetter_of_isDigit (List.all_eq_true.mp areDigits c inDigits)

theorem not_letter_of_operator
    {taken : List Char}
    (accepted : operator.Accepts taken)
    {c : Char}
    (listed : c ∈ taken) : isLetter c = false := by
  have isPart : c ∈ "()+-*/^%,<>= ".toList :=
    List.contains_iff_mem.mp (List.all_eq_true.mp accepted.1 c listed)
  have none : ("()+-*/^%,<>= ".toList.all fun d => !isLetter d) = true := by decide +kernel
  simpa using List.all_eq_true.mp none c isPart

theorem ne_nil_of_accepts
    {pattern : Regex}
    (isPattern : pattern ∈ [cellReference, number, operator])
    {taken : List Char}
    (accepted : pattern.Accepts taken) : taken ≠ [] := by
  rintro rfl
  simp only [List.mem_cons, List.not_mem_nil, or_false] at isPattern
  rcases isPattern with rfl | rfl | rfl
  · obtain ⟨first, tail, isEmpty, ⟨sign, rest, rfl, -, letters, rest', rfl, ⟨-, one, -⟩, -⟩, -⟩ :=
      accepted
    obtain ⟨-, rfl, -, -⟩ : sign = [] ∧ letters = [] ∧ rest' = [] ∧ tail = [] := by
      simpa using isEmpty
    exact absurd one (by decide)
  · rcases accepted with ⟨whole, fraction, isEmpty, ⟨-, one, -⟩, -⟩ |
        ⟨_, digits, isEmpty, ⟨d, rfl, -⟩, -⟩
    · obtain ⟨rfl, rfl⟩ := List.append_eq_nil_iff.mp isEmpty.symm
      exact absurd one (by decide)
    · cases isEmpty
  · exact absurd accepted.2.1 (by decide)

/-- A name is taken as far as it goes, up to 32 characters. -/
theorem identifier_spec
    {text rest : List Char}
    (matched : identifier.match? text = some rest) :
    ∃ taken, text = taken ++ rest ∧ taken ≠ [] ∧ (∀ x ∈ taken, isNamePart x = true) ∧
      (taken.length = 32 ∨ ∀ x ∈ rest.head?, isNamePart x = false) := by
  cases text with
  | nil => cases matched
  | cons first text =>
      simp only [identifier, Regex.match?, Regex.rests] at matched
      split at matched
      next letter =>
        rw [List.flatMap_cons, List.flatMap_nil, List.append_nil] at matched
        obtain ⟨taken, rfl, parts, stops⟩ := Regex.head?_manyRests matched
        refine ⟨first :: taken, rfl, List.cons_ne_nil _ _, ?_, ?_⟩
        · intro x listed
          rcases List.mem_cons.mp listed with rfl | later
          · exact isNamePart_of_isLetter letter
          · exact List.all_eq_true.mp parts x later
        · rcases stops with bound | other
          · left
            rw [List.length_cons, ← Option.some.inj bound]
          · exact .inr other
      next => cases matched

/-- What a token is, seen from a letter in it that no name character precedes. -/
theorem afterToken_spec
    {text rest : List Char}
    (isRest : afterToken text = some rest) :
    ∃ taken, text = taken ++ rest ∧ taken ≠ [] ∧
      ∀ front c back, taken = front ++ c :: back → isLetter c = true → Bounded front →
        BeginsReference (c :: back) ∨
          front = [] ∧ (∀ x ∈ taken, isNamePart x = true) ∧
            (∀ x ∈ rest.head?, isNamePart x = false) ∧
            (taken.map Char.toUpper ∈ booleanNames ∨ taken.map Char.toUpper ∈ allowedFunctions) := by
  unfold afterToken at isRest
  split at isRest
  next found isFound =>
    obtain rfl := Option.some.inj isRest
    obtain ⟨pattern, isPattern, matched⟩ := List.exists_of_findSome?_eq_some isFound
    obtain ⟨taken, rfl, accepted⟩ := Regex.exists_of_match? matched
    refine ⟨taken, rfl, ne_nil_of_accepts isPattern accepted, ?_⟩
    rintro front c back rfl letter bounded
    simp only [List.mem_cons, List.not_mem_nil, or_false] at isPattern
    have listed : c ∈ front ++ c :: back := List.mem_append_right _ List.mem_cons_self
    rcases isPattern with rfl | rfl | rfl
    · exact .inl (beginsReference_of_cellReference accepted letter bounded)
    · rw [not_letter_of_number accepted listed] at letter
      cases letter
    · rw [not_letter_of_operator accepted listed] at letter
      cases letter
  next =>
    unfold afterName at isRest
    obtain ⟨found, matched, isRest⟩ := Option.bind_eq_some_iff.mp isRest
    obtain ⟨taken, rfl, present, parts, stops⟩ := identifier_spec matched
    have isToken : (taken ++ found).take ((taken ++ found).length - found.length) = taken := by
      rw [List.length_append, Nat.add_sub_cancel, List.take_left]
    rw [isToken] at isRest
    dsimp only at isRest
    have ends : rest = found ∧ (∀ x ∈ found.head?, isNamePart x = false) ∧
        (taken.map Char.toUpper ∈ booleanNames ∨ taken.map Char.toUpper ∈ allowedFunctions) := by
      split at isRest
      next boolean =>
        refine ⟨(Option.some.inj isRest).symm, stops.resolve_left fun long => ?_, .inl boolean⟩
        have short : ∀ name ∈ booleanNames, name.length < 32 := by decide
        have less := short _ boolean
        rw [List.length_map] at less
        omega
      next =>
        split at isRest
        next => cases isRest
        next passes =>
          rw [not_or, not_not, not_not] at passes
          refine ⟨(Option.some.inj isRest).symm, fun x isHead => ?_, .inr passes.1⟩
          obtain rfl := Option.some.inj (isHead.symm.trans passes.2)
          rfl
    obtain ⟨rfl, stopsHere, isName⟩ := ends
    refine ⟨taken, rfl, present, ?_⟩
    rintro front c back rfl - bounded
    have isFirst : front = [] := Bounded.eq_nil (by simpa using bounded : Bounded ([] ++ front))
      fun x listed => parts x (List.mem_append_left _ listed)
    exact .inr ⟨isFirst, parts, stopsHere, isName⟩

/-! ### The loop -/

/-- A turn for every character is enough. -/
theorem scan_isSome
    {turns : Nat}
    {text : List Char}
    (enough : text.length ≤ turns) : (scan turns text).isSome = true := by
  induction turns generalizing text with
  | zero =>
      obtain rfl := List.length_eq_zero_iff.mp (Nat.le_zero.mp enough)
      rfl
  | succ turns inductionHypothesis =>
      cases text with
      | nil => rfl
      | cons c text =>
          rw [scan]
          cases next : afterToken (c :: text) with
          | none => rfl
          | some rest =>
              obtain ⟨taken, split, present, -⟩ := afterToken_spec next
              have lengths := congrArg List.length split
              have positive := List.length_pos_iff.mpr present
              rw [List.length_append] at lengths
              exact inductionHypothesis (by omega)

/-- A called name that begins with the letters of a reference. -/
theorem isMistaken_of_beginsReference
    {name after : List Char}
    (begins : BeginsReference (name ++ '(' :: after))
    (parts : ∀ x ∈ name, isNamePart x = true) : IsMistaken name := by
  obtain ⟨letters, next, rest, split, areLetters, one, three, isNext⟩ := begins
  have noBracket : next ≠ '(' := by
    rintro rfl
    rcases isNext with isDollar | isDigit
    · cases isDollar
    · cases isDigit
  rcases Regex.split_append split with ⟨more, rfl, -⟩ | ⟨more, rfl, isRest⟩
  · have letter := List.all_eq_true.mp areLetters '('
      (List.mem_append_right _ List.mem_cons_self)
    cases letter
  · cases more with
    | nil => exact absurd (List.cons.inj isRest).1 noBracket
    | cons x more =>
        obtain ⟨rfl, -⟩ := List.cons.inj isRest
        have isPart := parts next (List.mem_append_right _ List.mem_cons_self)
        rcases isNext with rfl | isDigit
        · cases isPart
        · exact .inl ⟨letters, next, more, rfl, areLetters, one, three, isDigit⟩

/-- Every call of a scanned text is allowed or mistaken for something else. -/
theorem allowed_or_mistaken_of_scan
    {turns : Nat}
    {text name : List Char}
    (scanned : scan turns text = some true)
    (call : IsCall text name) : IsAllowed name ∨ IsMistaken name := by
  obtain ⟨⟨first, isFirst, letter⟩, parts, before, after, split, bounded⟩ := call
  obtain ⟨name, rfl⟩ : ∃ rest, name = first :: rest := by
    cases name with
    | nil => cases isFirst
    | cons c rest => exact ⟨rest, congrArg (· :: rest) (Option.some.inj isFirst)⟩
  induction turns generalizing text before with
  | zero =>
      cases text with
      | nil => simp at split
      | cons c text => cases scanned
  | succ turns inductionHypothesis =>
      cases text with
      | nil => simp at split
      | cons c text =>
          rw [scan] at scanned
          cases next : afterToken (c :: text) with
          | none =>
              rw [next] at scanned
              cases scanned
          | some rest =>
              rw [next] at scanned
              obtain ⟨taken, isTaken, -, token⟩ := afterToken_spec next
              rw [isTaken, List.cons_append] at split
              rcases Regex.split_append split.symm with ⟨more, isToken, isMore⟩ | ⟨more, rfl, isRest⟩
              · -- The name begins in this token.
                rcases token before first more isToken letter bounded with begins | named
                · have whole := begins.append rest
                  rw [List.cons_append, ← isMore] at whole
                  exact .inr (isMistaken_of_beginsReference whole parts)
                · obtain ⟨rfl, takenParts, stops, isName⟩ := named
                  have same : first :: name = taken := by
                    have joined : (first :: name) ++ '(' :: after = taken ++ rest := by
                      rw [isToken, List.nil_append, List.cons_append, List.cons_append, isMore]
                    have stopsName : ∀ x ∈ ('(' :: after).head?, isNamePart x = false := by
                      rintro x ⟨⟩
                      rfl
                    exact (Regex.append_eq_of_stops joined (List.all_eq_true.mpr parts)
                      (List.all_eq_true.mpr takenParts) stopsName stops).1
                  rw [same]
                  exact isName.elim (fun boolean => .inr (.inr boolean)) .inl
              · exact inductionHypothesis scanned more bounded.of_append isRest

/-! ### Allowed functions -/

theorem toUpper_of_isDigit {c : Char} (digit : isDigit c = true) : c.toUpper = c := by
  simp only [isDigit, Bool.and_eq_true, decide_eq_true_eq] at digit
  refine dif_neg fun lower => ?_
  exact absurd (le_trans lower.1 digit.2) (by decide)

/-- An allowed function is never mistaken. -/
theorem not_mistaken_of_allowed
    {name : List Char}
    (allowed : IsAllowed name) : ¬IsMistaken name := by
  rintro (⟨letters, digit, rest, rfl, -, -, -, isDigit⟩ | boolean)
  · have areLetters : (allowedFunctions.all fun function => function.all isLetter) = true := by
      decide +kernel
    have letter := List.all_eq_true.mp (List.all_eq_true.mp areLetters _ allowed) digit.toUpper
      (List.mem_map_of_mem (List.mem_append_right _ List.mem_cons_self))
    rw [toUpper_of_isDigit (isDigit_of_isNonzeroDigit isDigit),
      not_isLetter_of_isDigit (isDigit_of_isNonzeroDigit isDigit)] at letter
    cases letter
  · have apart : (allowedFunctions.all fun function => !booleanNames.contains function) = true := by
      decide +kernel
    have absent := List.all_eq_true.mp apart _ allowed
    rw [List.contains_iff_mem.mpr boolean] at absent
    cases absent

/-- **The formula allowlist** covers every call of an accepted text exactly when no called
name begins like a cell reference or is `TRUE` or `FALSE`; and the scanner ends on
every text. -/
theorem calls_allowed_iff (text : String) :
    (scan text.toList.length text.toList).isSome = true ∧
      (validateFormulaText text = true →
        ((∀ name, IsCall text.toList name → IsAllowed name) ↔
          ∀ name, IsCall text.toList name → ¬IsMistaken name)) := by
  refine ⟨scan_isSome (Nat.le_refl _), fun valid => ⟨fun allowed name call =>
    not_mistaken_of_allowed (allowed name call), fun plain name call => ?_⟩⟩
  simp only [validateFormulaText, Bool.and_eq_true, decide_eq_true_eq] at valid
  exact (allowed_or_mistaken_of_scan valid.2 call).resolve_right (plain name call)

/-- The only call of a sum. -/
theorem calls_allowed_iff_sum :
    ∀ name, IsCall "SUM(1)".toList name → IsAllowed name := by
  refine ((calls_allowed_iff "SUM(1)").2 (by decide +kernel)).mpr fun name call mistaken => ?_
  obtain ⟨-, -, before, after, split, -⟩ := call
  have whole : (before ++ name) ++ '(' :: after = "SUM".toList ++ "(1)".toList := by
    rw [List.append_assoc, ← split]
    rfl
  have isName : before ++ name = "SUM".toList := by
    rcases Regex.split_append whole with ⟨more, isSum, -⟩ | ⟨more, isSum, isRest⟩
    · have listed : '(' ∈ "SUM".toList := isSum ▸ List.mem_append_right _ List.mem_cons_self
      exact absurd listed (by decide)
    · cases more with
      | nil => rw [isSum, List.append_nil]
      | cons x more =>
          have tail : "1)".toList = more ++ '(' :: after := (List.cons.inj isRest).2
          have listed : '(' ∈ "1)".toList := by
            rw [tail]
            exact List.mem_append_right _ List.mem_cons_self
          exact absurd listed (by decide)
  have lengths := congrArg List.length isName
  rw [List.length_append] at lengths
  have three : "SUM".toList.length = 3 := rfl
  rcases mistaken with ⟨letters, digit, rest, rfl, -, -, -, isDigit⟩ | boolean
  · have listed : digit ∈ "SUM".toList := by
      rw [← isName]
      exact List.mem_append_right _ (List.mem_append_right _ List.mem_cons_self)
    have none : ("SUM".toList.all fun c => !isNonzeroDigit c) = true := by decide +kernel
    have other := List.all_eq_true.mp none digit listed
    rw [isDigit] at other
    cases other
  · have long : ∀ name ∈ booleanNames, 3 < name.length := by decide
    have more := long _ boolean
    rw [List.length_map] at more
    omega

/-- `LOG10` is called: the scanner takes the name for the cell of column LOG and row 10. -/
theorem not_allowed_log :
    validateFormulaText "LOG10(5)" = true ∧ IsCall "LOG10(5)".toList "LOG10".toList ∧
      ¬IsAllowed "LOG10".toList := by
  refine ⟨by decide +kernel, ⟨⟨'L', rfl, rfl⟩,
    fun c => List.all_eq_true.mp (by decide +kernel : "LOG10".toList.all isNamePart = true) c, [],
    "5)".toList, rfl, nofun⟩, by decide +kernel⟩

end Xlsx
end QuantumAnalytics
