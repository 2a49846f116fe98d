import QuantumAnalytics.Foundations.JsonNesting

/-!
# Writing JSON with special floats

`json.dumps` with its default `allow_nan=True` writes infinite floats and `NaN`,
which `json.loads` reads back. It fails on an integer with too many digits and on
containers nested too deeply for the interpreter.
-/

namespace QuantumAnalytics
namespace PyJson

mutual

/-- The first failure of the encoder with `allow_nan=True`. -/
def checkWritable : Nat → PyJson → Except DumpsError Unit
  | _, .int value => require (isShortInt value) .value
  | 0, .arr _ => .error .recursion
  | room + 1, .arr items => checkWritableItems room items
  | 0, .obj _ => .error .recursion
  | room + 1, .obj fields => checkWritableFields room fields
  | _, _ => .ok ()

/-- The items of a list in order. -/
def checkWritableItems : Nat → List PyJson → Except DumpsError Unit
  | _, [] => .ok ()
  | room, item :: items => do
      checkWritable room item
      checkWritableItems room items

/-- The members of a mapping in order. -/
def checkWritableFields : Nat → PyObject → Except DumpsError Unit
  | _, [] => .ok ()
  | room, (_, value) :: fields => do
      checkWritable room value
      checkWritableFields room fields

end

mutual

/-- What the encoder writes can be read back, and what can be read it writes. -/
theorem checkWritable_eq_ok : (value : PyJson) → ∀ {room : Nat}, JsonDecoder.Written value →
    (checkWritable room value = .ok () ↔ JsonDecoder.Readable room value)
  | .null, room, _ => by cases room <;> simp [checkWritable, JsonDecoder.Readable]
  | .bool _, room, _ => by cases room <;> simp [checkWritable, JsonDecoder.Readable]
  | .str _, room, _ => by cases room <;> simp [checkWritable, JsonDecoder.Readable]
  | .int _, room, _ => by cases room <;> simp [checkWritable, JsonDecoder.Readable]
  | .float _, room, written => by
      cases room <;> exact ⟨fun _ => written, fun _ => by simp [checkWritable]⟩
  | .arr items, 0, _ => by simp [checkWritable, JsonDecoder.Readable]
  | .arr items, room + 1, written => by
      rw [checkWritable, checkWritableItems_eq_ok items written]
      simp [JsonDecoder.Readable]
  | .obj fields, 0, _ => by simp [checkWritable, JsonDecoder.Readable]
  | .obj fields, room + 1, written => by
      rw [checkWritable, checkWritableFields_eq_ok fields written]
      simp [JsonDecoder.Readable]

theorem checkWritableItems_eq_ok : (items : List PyJson) → ∀ {room : Nat},
    JsonDecoder.WrittenItems items →
    (checkWritableItems room items = .ok () ↔ JsonDecoder.ReadableItems room items)
  | [], _, _ => by simp [checkWritableItems, JsonDecoder.ReadableItems]
  | item :: items, room, written => by
      rw [checkWritableItems, Checks.bind_done_eq_ok, checkWritable_eq_ok item written.1,
        checkWritableItems_eq_ok items written.2]
      rfl

theorem checkWritableFields_eq_ok : (fields : PyObject) → ∀ {room : Nat},
    JsonDecoder.WrittenFields fields →
    (checkWritableFields room fields = .ok () ↔ JsonDecoder.ReadableFields room fields)
  | [], _, _ => by simp [checkWritableFields, JsonDecoder.ReadableFields]
  | (key, value) :: fields, room, written => by
      rw [checkWritableFields, Checks.bind_done_eq_ok, checkWritable_eq_ok value written.1,
        checkWritableFields_eq_ok fields written.2]
      rfl

end

/-- The members of a mapping that is written can be written. -/
theorem forall_of_checkWritableFields
    {room : Nat}
    {fields : PyObject}
    (writable : checkWritableFields room fields = .ok ()) :
    ∀ field ∈ fields, checkWritable room field.2 = .ok () := by
  induction fields with
  | nil => nofun
  | cons field fields inductionHypothesis =>
      rw [checkWritableFields, Checks.bind_done_eq_ok] at writable
      exact List.forall_mem_cons.mpr ⟨writable.1, inductionHypothesis writable.2⟩

/-- `json.dumps(value, ensure_ascii=False, sort_keys=True, separators=(",", ":"))`. -/
def dumpsSpecial (interpreter : Interpreter) (value : PyJson) : Except DumpsError PyStr := do
  checkWritable interpreter.nesting value
  return render value

/-- A document is read back from what the encoder writes. -/
theorem loads_of_dumpsSpecial
    {interpreter : Interpreter}
    {value : PyJson}
    {text : PyStr}
    (canonical : value.Canonical)
    (written : JsonDecoder.Written value)
    (isDumped : value.dumpsSpecial interpreter = .ok text) : loads interpreter text = .ok value := by
  rw [dumpsSpecial, Checks.bind_done_eq_ok, checkWritable_eq_ok value written] at isDumped
  obtain ⟨readable, rendered⟩ := isDumped
  obtain rfl : value.render = text := Except.ok.inj rendered
  exact loads_render canonical readable

end PyJson
end QuantumAnalytics
