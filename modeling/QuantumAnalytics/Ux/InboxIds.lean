import Mathlib.Data.Set.Function
import QuantumAnalytics.Foundations.Utf8
import QuantumAnalytics.Ux.InboxOrder

/-!
# The ids of the entries

The parts of an id are joined as they are. A separator inside the id of a record
or a form can therefore stand for the one behind it, and two entries get one id.
-/

namespace QuantumAnalytics

namespace Ux

open Reporting (GeneratedAt memberOf)

/-- U+001F. -/
def separator : CodePoint := .scalar '\x1f'

namespace Source

/-- What the id of a source starts with. -/
def kind : Source → String
  | metric _ => "metric"
  | field _ _ => "configuration"
  | start _ => "configuration"
  | importFile _ => "import"

/-- The id of the record, the form or the file. -/
def owner : Source → PyStr
  | metric record => textOf (PyJson.get record "report_record_id")
  | field form _ => textOf (PyJson.get form "form_id")
  | start form => textOf (PyJson.get form "form_id")
  | importFile file => PyStr.ofString file.rawFileId

/-- The field of a form. -/
def fieldId : Source → PyStr
  | field _ input => textOf (PyJson.get input "field_id")
  | start _ => PyStr.ofString "valid_from"
  | _ => []

/-- The cause, behind the field of a form. -/
def rest : Source → PyStr
  | metric record => reasonOf record
  | field _ input => textOf (PyJson.get input "field_id") ++ separator :: fieldCause input
  | start _ => PyStr.ofString "valid_from" ++ separator :: PyStr.ofString "VALID_FROM_REQUIRED"
  | importFile file => importCause file

/-- The text that is hashed. -/
def text (source : Source) : PyStr :=
  PyStr.ofString source.kind ++ separator :: (source.owner ++ separator :: source.rest)

/-- The owner of the second source is that of the first one with a separator and
more behind it, and what is behind it is how the cause of the first one starts. -/
def Continues (first second : Source) : Prop :=
  ∃ middle, second.owner = first.owner ++ separator :: middle ∧
    first.rest = middle ++ separator :: second.rest

/-- Two sources of one kind, one of which continues the other. -/
def Collide (first second : Source) : Prop :=
  first.kind = second.kind ∧ (Continues first second ∨ Continues second first)

/-- Two sources are not about the same thing. -/
def Apart (first second : Source) : Prop :=
  ¬(first.kind = second.kind ∧ first.owner = second.owner ∧ first.rest = second.rest)

theorem separator_not_mem_kind (source : Source) : separator ∉ PyStr.ofString source.kind := by
  have plain : ∀ kind ∈ ["metric", "configuration", "import"],
      separator ∉ PyStr.ofString kind := by decide
  cases source <;> exact plain _ (by simp [kind])

theorem text_eq_iff {first second : Source} :
    first.text = second.text ↔
      first.kind = second.kind ∧ first.owner = second.owner ∧ first.rest = second.rest ∨
        Collide first second := by
  have plain : ∀ source : Source, ∀ middle other,
      PyStr.ofString source.kind ≠ other ++ separator :: middle := by
    intro source middle other same
    exact source.separator_not_mem_kind (by rw [same]; simp)
  rw [text, text, Joining.append_cons_eq_iff, Joining.append_cons_eq_iff,
    PyStr.ofString_injective.eq_iff, Collide, Continues, Continues]
  simp only [plain, false_and, exists_false, or_false]
  exact and_or_left

theorem joined_cons (part next : PyStr) (parts : List PyStr) :
    joined (part :: next :: parts) = part ++ separator :: joined (next :: parts) := by
  rw [joined, List.intercalate_cons_cons, List.append_assoc]
  rfl

theorem joined_singleton (part : PyStr) : joined [part] = part := List.intercalate_singleton

/-- The id of an entry is the digest of the text of its source. -/
theorem exists_payload_of_exception
    {interpreter : Interpreter}
    {source : Source}
    {item : ExceptionItem}
    (isItem : source.exception interpreter = .ok item) :
    ∃ payload, source.text.encode? = some payload ∧
      item.exceptionId = "exc-" ++ shortDigest payload := by
  cases source with
  | metric record =>
      simp only [exception, metricException, exceptionId, Checks.bind_eq_ok,
        Checks.requireSome_eq_ok, Checks.pure_eq_ok, joined_cons, joined_singleton] at isItem
      obtain ⟨_, ⟨payload, isPayload, rfl⟩, -, -, rfl⟩ := isItem
      exact ⟨payload, isPayload, rfl⟩
  | field form input =>
      simp only [exception, fieldException, exceptionId, Checks.bind_eq_ok,
        Checks.requireSome_eq_ok, Checks.pure_eq_ok, joined_cons, joined_singleton] at isItem
      obtain ⟨_, ⟨payload, isPayload, rfl⟩, rfl⟩ := isItem
      exact ⟨payload, isPayload, rfl⟩
  | start form =>
      simp only [exception, startException, exceptionId, Checks.bind_eq_ok,
        Checks.requireSome_eq_ok, Checks.pure_eq_ok, joined_cons, joined_singleton] at isItem
      obtain ⟨_, ⟨payload, isPayload, rfl⟩, rfl⟩ := isItem
      exact ⟨payload, isPayload, rfl⟩
  | importFile file =>
      simp only [exception, importException, exceptionId, Checks.bind_eq_ok,
        Checks.requireSome_eq_ok, Checks.pure_eq_ok, joined_cons, joined_singleton] at isItem
      obtain ⟨_, ⟨payload, isPayload, rfl⟩, rfl⟩ := isItem
      exact ⟨payload, isPayload, rfl⟩

end Source

/-- The short digests of the texts of the sources differ when the texts do. -/
def DigestsDistinct (list : List Source) : Prop :=
  Set.InjOn shortDigest {payload | ∃ source ∈ list, source.text.encode? = some payload}

variable {interpreter : Interpreter}

/-- The entries of sources. -/
def AreEntries (interpreter : Interpreter) (list : List Source) (items : List ExceptionItem) :
    Prop :=
  List.Forall₂ (fun source item => source.exception interpreter = .ok item) list items

theorem AreEntries.map_exceptionId
    {list : List Source}
    {items : List ExceptionItem}
    (entries : AreEntries interpreter list items) :
    items.map ExceptionItem.exceptionId =
      list.map fun source => "exc-" ++ shortDigest (source.text.encode?.getD []) := by
  induction entries with
  | nil => rfl
  | cons isItem _ inductionHypothesis =>
      obtain ⟨payload, isPayload, isId⟩ := Source.exists_payload_of_exception isItem
      rw [List.map_cons, List.map_cons, inductionHypothesis, isId, isPayload, Option.getD_some]

theorem AreEntries.exists_payload
    {list : List Source}
    {items : List ExceptionItem}
    (entries : AreEntries interpreter list items)
    {source : Source}
    (listed : source ∈ list) : ∃ payload, source.text.encode? = some payload := by
  obtain ⟨item, -, isItem⟩ := Checks.exists_left_of_mem (List.Forall₂.flip entries) listed
  obtain ⟨payload, isPayload, -⟩ := Source.exists_payload_of_exception isItem
  exact ⟨payload, isPayload⟩

/-- The ids of entries differ if and only if the texts of their sources do. -/
theorem AreEntries.nodup_iff
    {list : List Source}
    {items : List ExceptionItem}
    (entries : AreEntries interpreter list items)
    (digests : DigestsDistinct list) :
    (items.map ExceptionItem.exceptionId).Nodup ↔
      list.Pairwise fun first second => first.text ≠ second.text := by
  rw [entries.map_exceptionId, List.Nodup, List.pairwise_map]
  refine List.Pairwise.iff_of_mem fun {first second} isFirst isSecond => not_congr ?_
  obtain ⟨payload, isPayload⟩ := entries.exists_payload isFirst
  obtain ⟨otherPayload, isOther⟩ := entries.exists_payload isSecond
  rw [isPayload, isOther, Option.getD_some, Option.getD_some, String.append_right_inj]
  constructor
  · intro same
    have payloads := digests ⟨first, isFirst, isPayload⟩ ⟨second, isSecond, isOther⟩ same
    have decoded := PyStr.decode?_of_encode? isPayload
    rw [payloads, PyStr.decode?_of_encode? isOther] at decoded
    exact (Option.some.inj decoded).symm
  · intro same
    rw [same, isOther] at isPayload
    rw [Option.some.inj isPayload]

/-- Sources that are not about the same thing have different texts unless two of
them collide. -/
theorem pairwise_text_ne_iff
    {list : List Source}
    (apart : list.Pairwise Source.Apart) :
    (list.Pairwise fun first second => first.text ≠ second.text) ↔
      list.Pairwise fun first second => ¬first.Collide second := by
  constructor
  · exact fun pairwise => pairwise.imp fun different collide =>
      different (Source.text_eq_iff.mpr (.inr collide))
  · intro pairwise
    refine (pairwise.and apart).imp ?_
    rintro first second ⟨distinct, isApart⟩ same
    exact (Source.text_eq_iff.mp same).elim isApart distinct

end Ux
end QuantumAnalytics
