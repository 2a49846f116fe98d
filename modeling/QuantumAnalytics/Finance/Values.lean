import Mathlib.Data.List.Dedup
import QuantumAnalytics.Finance.Common

/-!
# Typed values

A typed value has a signature (type, unit, currency) and either a payload or a
state that says why there is none, with a reason. Signatures and values carry
the checks of their constructors, so that no ill-formed value exists. A value
is written to a JSON object and read back from one.
-/

namespace QuantumAnalytics
namespace Finance

/-- `_VALUE_TYPES`. -/
inductive ValueType
  | money
  | decimal
  | rate
  | integer
  | boolean
  deriving DecidableEq

namespace ValueType

/-- The text of a value type. -/
def text : ValueType → String
  | money => "MONEY"
  | decimal => "DECIMAL"
  | rate => "RATE"
  | integer => "INTEGER"
  | boolean => "BOOLEAN"

/-- The value type of a text. -/
def ofText? : String → Option ValueType
  | "MONEY" => some money
  | "DECIMAL" => some decimal
  | "RATE" => some rate
  | "INTEGER" => some integer
  | "BOOLEAN" => some boolean
  | _ => none

@[simp] theorem ofText?_text (valueType : ValueType) : ofText? valueType.text = some valueType := by
  cases valueType <;> rfl

/-- `{"MONEY", "DECIMAL", "RATE"}`. -/
def isDecimal : ValueType → Bool
  | money => true
  | decimal => true
  | rate => true
  | _ => false

/-- `_NUMERIC_TYPES`. -/
def isNumeric : ValueType → Bool
  | boolean => false
  | _ => true

end ValueType

theorem moneyUnit_ne_empty : "MONEY" ≠ "" := by decide

/-- The states without a value, in the order of `_STATE_PRECEDENCE`. -/
inductive NonvalidState
  | conflict
  | blocked
  | unavailable
  | empty
  deriving DecidableEq

namespace NonvalidState

/-- The text of a state. -/
def text : NonvalidState → String
  | conflict => "CONFLICT"
  | blocked => "BLOCKED"
  | unavailable => "UNAVAILABLE"
  | empty => "EMPTY"

/-- `_STATE_PRECEDENCE`. -/
def precedence : List NonvalidState := [conflict, blocked, unavailable, empty]

theorem mem_precedence (state : NonvalidState) : state ∈ precedence := by
  cases state <;> decide

end NonvalidState

/-- `_STATES`. -/
inductive ValueState
  | valid
  | nonvalid (state : NonvalidState)
  deriving DecidableEq

namespace ValueState

/-- The text of a state. -/
def text : ValueState → String
  | valid => "VALID"
  | nonvalid state => state.text

/-- The state of a text. -/
def ofText? : String → Option ValueState
  | "VALID" => some valid
  | "CONFLICT" => some (nonvalid .conflict)
  | "BLOCKED" => some (nonvalid .blocked)
  | "UNAVAILABLE" => some (nonvalid .unavailable)
  | "EMPTY" => some (nonvalid .empty)
  | _ => none

@[simp] theorem ofText?_text (state : ValueState) : ofText? state.text = some state := by
  rcases state with _ | state
  · rfl
  · cases state <;> rfl

end ValueState

/-! ### Signatures -/

/-- What `_validate_signature` checks of a currency. -/
def currencyFits (valueType : ValueType) (currency : Option String) : Bool :=
  match valueType, currency with
  | .money, some code => PyText.isCurrencyCode code
  | .money, none => false
  | _, currency => currency.isNone

/-- A value type with its unit and currency. -/
structure Signature where
  /-- The type. -/
  valueType : ValueType
  /-- The unit, such as `MONEY_PER_ITEM`. -/
  unit : String
  /-- The currency of a `MONEY` value. -/
  currency : Option String
  /-- A unit is present. -/
  unitNonempty : unit ≠ ""
  /-- Money has a currency code and nothing else has one. -/
  currencyFits : Finance.currencyFits valueType currency = true
  deriving DecidableEq

@[ext] theorem Signature.ext
    {left right : Signature}
    (valueType : left.valueType = right.valueType)
    (unit : left.unit = right.unit)
    (currency : left.currency = right.currency) : left = right := by
  cases left
  cases right
  subst valueType unit currency
  rfl

/-- A currency code. -/
def CurrencyCode : Type := { code : String // PyText.isCurrencyCode code = true }

instance : DecidableEq CurrencyCode := inferInstanceAs (DecidableEq (Subtype _))

/-- `currency: None` or a text; `none` for any other JSON value. -/
def currency? : Json → Option (Option String)
  | .null => some none
  | .str code => some (some code)
  | _ => none

/-- `_validate_signature`. -/
def validateSignature (valueType unit currency : Json) : Result Signature := do
  let valueType ← lookUpOr ValueType.ofText? valueType .valueSignatureInvalid
  let unit ← requireSome (text? unit) (.finance .valueSignatureInvalid)
  if unitNonempty : unit ≠ "" then
    let currency ← requireSome (currency? currency) (.finance .valueCurrencyInvalid)
    if fits : currencyFits valueType currency = true then
      return ⟨valueType, unit, currency, unitNonempty, fits⟩
    else raise .valueCurrencyInvalid
  else raise .valueSignatureInvalid

/-! ### Values -/

/-- The value of a `VALID` typed value. -/
inductive Payload
  | number (value : Decimal)
  | integer (value : Int)
  | truth (value : Bool)
  deriving DecidableEq

/-- The payload is of the Python type that the value type requires. -/
def Payload.hasType : Payload → ValueType → Bool
  | .number _, valueType => valueType.isDecimal
  | .integer _, valueType => valueType = .integer
  | .truth _, valueType => valueType = .boolean

/-- A payload, or a state without a value and the reason for it. -/
inductive Content
  | valid (payload : Payload)
  | nonvalid (state : NonvalidState) (reasonCode : String)
  deriving DecidableEq

/-- What `_make_valid` and `_make_nonvalid` check. -/
def Content.fits : Content → ValueType → Bool
  | .valid payload, valueType => payload.hasType valueType
  | .nonvalid _ reasonCode, _ => reasonCode ≠ ""

/-- `tuple(sorted(set(source_ids)))`. -/
def sortedSet (sourceIds : List String) : List String :=
  sourceIds.dedup.insertionSort (· ≤ ·)

@[simp] theorem mem_sortedSet {sourceIds : List String} {sourceId : String} :
    sourceId ∈ sortedSet sourceIds ↔ sourceId ∈ sourceIds := by
  simp [sortedSet]

/-- `_Value`: a typed value that one of its constructors accepted. -/
structure Value where
  /-- Type, unit and currency. -/
  signature : Signature
  /-- The payload or the reason for its absence. -/
  content : Content
  /-- Where the value comes from. -/
  sourceIds : List String
  /-- The payload has the declared type; an absent one has a reason. -/
  fits : content.fits signature.valueType = true
  deriving DecidableEq

namespace Value

/-- `value.state`. -/
def state (value : Value) : ValueState :=
  match value.content with
  | .valid _ => .valid
  | .nonvalid state _ => .nonvalid state

/-- `value.value`. -/
def payload? (value : Value) : Option Payload :=
  match value.content with
  | .valid payload => some payload
  | .nonvalid _ _ => none

/-- `value.reason_code or ""`. -/
def reasonText (value : Value) : String :=
  match value.content with
  | .valid _ => ""
  | .nonvalid _ reasonCode => reasonCode

end Value

/-- `_make_valid`. -/
def makeValid (payload : Payload) (signature : Signature) (sourceIds : List String) :
    Result Value :=
  if fits : payload.hasType signature.valueType = true then
    .ok ⟨signature, .valid payload, sortedSet sourceIds, fits⟩
  else raise .valueTypeInvalid

/-- `_make_nonvalid` with a reason that is present. -/
def nonvalidValue
    (state : NonvalidState)
    (signature : Signature)
    (reasonCode : String)
    (sourceIds : List String)
    (present : reasonCode ≠ "") : Value where
  signature := signature
  content := .nonvalid state reasonCode
  sourceIds := sortedSet sourceIds
  fits := by simpa [Content.fits] using present

/-- `_make_nonvalid`. -/
def makeNonvalid
    (state : NonvalidState)
    (signature : Signature)
    (reasonCode : String)
    (sourceIds : List String) : Result Value :=
  if present : reasonCode ≠ "" then
    .ok (nonvalidValue state signature reasonCode sourceIds present)
  else raise .valueReasonInvalid

/-- What `_make_valid` returns. -/
theorem makeValid_eq_ok
    {payload : Payload}
    {signature : Signature}
    {sourceIds : List String}
    {value : Value} :
    makeValid payload signature sourceIds = .ok value ↔
      value.content = .valid payload ∧ value.signature = signature ∧
        value.sourceIds = sortedSet sourceIds := by
  unfold makeValid
  constructor
  · intro made
    split at made
    · obtain rfl := Except.ok.inj made
      exact ⟨rfl, rfl, rfl⟩
    · exact absurd made (by simp [raise])
  · obtain ⟨valueSignature, content, valueSources, fits⟩ := value
    rintro ⟨rfl, rfl, rfl⟩
    rw [dif_pos (show payload.hasType valueSignature.valueType = true from fits)]

/-- What `_make_nonvalid` returns. -/
theorem makeNonvalid_eq_ok
    {state : NonvalidState}
    {signature : Signature}
    {reasonCode : String}
    {sourceIds : List String}
    {value : Value} :
    makeNonvalid state signature reasonCode sourceIds = .ok value ↔
      value.content = .nonvalid state reasonCode ∧ value.signature = signature ∧
        value.sourceIds = sortedSet sourceIds := by
  unfold makeNonvalid
  constructor
  · intro made
    split at made
    · obtain rfl := Except.ok.inj made
      exact ⟨rfl, rfl, rfl⟩
    · exact absurd made (by simp [raise])
  · obtain ⟨valueSignature, content, valueSources, fits⟩ := value
    rintro ⟨rfl, rfl, rfl⟩
    have present : reasonCode ≠ "" := by simpa [Content.fits] using fits
    rw [dif_pos present]
    rfl

/-! ### Typed values as JSON objects -/

/-- The `value` member of a written value. -/
inductive Encoded
  | null
  | flag (value : Bool)
  | text (value : String)
  deriving DecidableEq

/-- The JSON value that is written. -/
def Encoded.toJson : Encoded → Json
  | .null => .null
  | .flag value => .bool value
  | .text value => .str value

/-- The members of a written value. -/
structure ValueDict where
  /-- The state. -/
  state : ValueState
  /-- The value, as text or as a flag. -/
  value : Encoded
  /-- Type, unit and currency. -/
  signature : Signature
  /-- The reason for a missing value. -/
  reasonCode : Option String
  /-- Where the value comes from. -/
  sourceIds : List String
  deriving DecidableEq

/-- A text or `null`. -/
def optionalText : Option String → Json
  | some text => .str text
  | none => .null

/-- The written value as a JSON object. -/
def ValueDict.toJson (dict : ValueDict) : Json :=
  .obj [("currency", optionalText dict.signature.currency),
    ("reason_code", optionalText dict.reasonCode),
    ("source_ids", .arr (dict.sourceIds.map .str)),
    ("state", .str dict.state.text),
    ("unit", .str dict.signature.unit),
    ("value", dict.value.toJson),
    ("value_type", .str dict.signature.valueType.text)]

/-- The text of a payload. -/
def encodePayload (payload : Payload) (scale : Option Nat) : Encoded :=
  match payload with
  | .number value => .text (decimalText value scale)
  | .integer value => .text (toString value)
  | .truth value => .flag value

/-- `_value_to_dict`. -/
def valueToDict (value : Value) (scale : Option Nat) : ValueDict where
  state := value.state
  value := (value.payload?.map fun payload => encodePayload payload scale).getD .null
  signature := value.signature
  reasonCode :=
    match value.content with
    | .valid _ => none
    | .nonvalid _ reasonCode => some reasonCode
  sourceIds := value.sourceIds

/-- The payload of a `VALID` value of the given type. -/
def readPayload (valueType : ValueType) (raw : Json) : Result Payload :=
  match valueType, raw with
  | .boolean, .bool value => .ok (.truth value)
  | .boolean, _ => raise .valueTypeInvalid
  | .integer, raw => (parseInteger raw .valueTypeInvalid maxDecimalInputPrecision).map .integer
  | _, raw =>
      (parseDecimal raw .valueDecimalInvalid maxDecimalInputPrecision maxDecimalInputScale).map
        .number

/-- The members that a written value has. -/
def valueKeys : List String :=
  ["state", "value", "value_type", "unit", "currency", "reason_code", "source_ids"]

/-- The source ids of a written value: distinct nonempty strings. -/
def readSourceIds (raw : Json) : Option (List String) :=
  match raw with
  | .arr items => (strings? items).filter fun ids => ids.all (fun id => id ≠ "") && ids.Nodup
  | _ => none

/-- `_value_from_dict`. -/
def valueFromDict (raw : Json) (sourceId : String) : Result Value := do
  let .obj fields := raw | raise .typedValueMalformed
  check (hasExactKeys fields valueKeys = true) .typedValueMalformed
  let signature ← validateSignature (member fields "value_type") (member fields "unit")
    (member fields "currency")
  let state ← lookUpOr ValueState.ofText? (member fields "state") .valueStateInvalid
  let ids ← requireSome (readSourceIds (member fields "source_ids")) (.finance .valueSourcesInvalid)
  match state with
  | .nonvalid state =>
      check (isNull (member fields "value") = true) .typedValueMalformed
      let reasonCode ← requireSome (nonemptyString? (member fields "reason_code"))
        (.finance .typedValueMalformed)
      makeNonvalid state signature reasonCode (sourceId :: ids)
  | .valid =>
      check (isNull (member fields "reason_code") = true) .typedValueMalformed
      makeValid (← readPayload signature.valueType (member fields "value")) signature
        (sourceId :: ids)

end Finance
end QuantumAnalytics
