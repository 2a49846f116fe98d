import QuantumAnalytics.Foundations.FileSystem
import QuantumAnalytics.Foundations.PyText
import QuantumAnalytics.Foundations.Sha256

/-!
# Immutable puts

`put_immutable` of the local raw storage, one step of the file system after the other.
The calls of one process that put the same key write to one temporary file, whose name
only holds the process id.
-/

namespace QuantumAnalytics
namespace ImmutablePut

/-- The two paths of a key that `_safe_path` accepts. -/
structure PutPaths (Path : Type) where
  /-- The published object. -/
  destination : Path
  /-- `.{name}.tmp-{pid}` next to it. -/
  temporary : Path
  /-- The names differ. -/
  ne : temporary ≠ destination

/-- The arguments of a call. -/
structure PutCall where
  /-- What the stream gives, one block for each read. -/
  blocks : List (List UInt8)
  /-- `expected_sha256`. -/
  expectedSha256 : String

namespace PutCall

/-- The bytes of the stream. -/
def bytes (call : PutCall) : List UInt8 := call.blocks.flatten

/-- The digest of the bytes. -/
def actual (call : PutCall) : String := Sha256.hexdigestOfBytes call.bytes

/-- The expected digest passes the checks in front of the files. -/
def isDigest (call : PutCall) : Bool :=
  call.expectedSha256.length == 64 && (PyText.int? 16 call.expectedSha256).isSome

end PutCall

/-- What a call raises. -/
inductive PutError
  /-- `ValueError`: the expected digest is not one. -/
  | digestInvalid
  /-- `ValueError`: the bytes have another digest. -/
  | digestMismatch
  | immutableObjectConflict
  | fileExistsError
  | fileNotFoundError
  deriving DecidableEq

/-- How a call ends. -/
abbrev PutResult := Except PutError Unit

/-- Where a call stands. -/
inductive PutPhase
  /-- In front of the checks. -/
  | start
  /-- `destination.exists()`. -/
  | lookup
  /-- The digest of an object that existed. -/
  | compareExisting
  /-- `temporary.open("xb")`. -/
  | openTemporary
  /-- The temporary file is open, and these blocks are not written. -/
  | writing (inode : Nat) (remaining : List (List UInt8))
  /-- `os.link(temporary, destination)`. -/
  | publish
  /-- The digest of an object that another call has published. -/
  | compareRaced
  /-- `temporary.unlink(missing_ok=True)`, with the result of the `try` block. -/
  | cleanup (result : PutResult)
  | done (result : PutResult)
  deriving DecidableEq

section Steps

variable {Path : Type} [DecidableEq Path] (paths : PutPaths Path)

/-- The comparison of the published object with the expected digest. -/
def compare (call : PutCall) (files : FileSystem Path) : PutResult :=
  match files.read? paths.destination with
  | none => .error .fileNotFoundError
  | some content =>
      if Sha256.hexdigestOfBytes content = call.expectedSha256 then .ok ()
      else .error .immutableObjectConflict

/-- One step of a call. -/
def putStep (call : PutCall) (files : FileSystem Path) :
    PutPhase → FileSystem Path × PutPhase
  | .start => (files, if call.isDigest then .lookup else .done (.error .digestInvalid))
  | .lookup =>
      (files, if (files.read? paths.destination).isSome then .compareExisting else .openTemporary)
  | .compareExisting => (files, .done (compare paths call files))
  | .openTemporary =>
      -- The `try` block has begun, so the cleanup follows either way.
      match files.names paths.temporary with
      | some _ => (files, .cleanup (.error .fileExistsError))
      | none => (files.create paths.temporary, .writing files.fresh call.blocks)
  | .writing inode (block :: remaining) => (files.append inode block, .writing inode remaining)
  | .writing _ [] =>
      (files, if call.actual = call.expectedSha256 then .publish
        else .cleanup (.error .digestMismatch))
  | .publish =>
      match files.names paths.temporary with
      | none => (files, .cleanup (.error .fileNotFoundError))
      | some inode =>
          if (files.read? paths.destination).isSome then (files, .compareRaced)
          else (files.link inode paths.destination, .cleanup (.ok ()))
  | .compareRaced => (files, .cleanup (compare paths call files))
  | .cleanup result => (files.unlink paths.temporary, .done result)
  | .done result => (files, .done result)

/-- The files, and where each call stands. -/
structure PutState (Call Path : Type) where
  files : FileSystem Path
  phase : Call → PutPhase

variable {Call : Type} [DecidableEq Call] (calls : Call → PutCall)

/-- The state in which no call has begun. -/
def initial (files : FileSystem Path) : PutState Call Path := ⟨files, fun _ => .start⟩

/-- One call takes a step. -/
def PutState.step (state : PutState Call Path) (call : Call) : PutState Call Path :=
  let (files, phase) := putStep paths (calls call) state.files (state.phase call)
  ⟨files, Function.update state.phase call phase⟩

/-- The calls take steps in some order. -/
def PutState.run (state : PutState Call Path) (schedule : List Call) : PutState Call Path :=
  schedule.foldl (PutState.step paths calls) state

/-! ### What calls may expect of each other -/

/-- The call does not open the temporary file while it exists. -/
def FindsNoTemporary (state : PutState Call Path) (call : Call) : Prop :=
  state.phase call = .openTemporary → state.files.names paths.temporary = none

/-- No step of the schedule opens a temporary file that exists. -/
def NeverMeet (state : PutState Call Path) : List Call → Prop
  | [] => True
  | call :: schedule =>
      FindsNoTemporary paths state call ∧ NeverMeet (state.step paths calls call) schedule

/-- No call has suffered from another one. -/
structure Undisturbed (files : FileSystem Path) (schedule : List Call) : Prop where
  /-- A call that takes enough steps ends. -/
  ends : ∀ call, (calls call).blocks.length + 7 ≤ schedule.count call →
    ∃ result, ((initial files).run paths calls schedule).phase call = .done result
  /-- A call with the right bytes has succeeded, unless another object was published. -/
  succeeds : ∀ call result, ((initial files).run paths calls schedule).phase call = .done result →
    (calls call).isDigest = true → (calls call).actual = (calls call).expectedSha256 →
    (∀ content, ((initial files).run paths calls schedule).files.read? paths.destination =
      some content → Sha256.hexdigestOfBytes content = (calls call).expectedSha256) →
    result = .ok ()
  /-- No call has failed because its temporary file was in use or gone. -/
  ownFiles : ∀ call error, ((initial files).run paths calls schedule).phase call =
      .done (.error error) → error ≠ .fileExistsError ∧ error ≠ .fileNotFoundError
  /-- The published object was there, or has all the bytes that its call promised. -/
  published : ∀ content, ((initial files).run paths calls schedule).files.read?
      paths.destination = some content →
    files.read? paths.destination = some content ∨
      ∃ call, content = (calls call).bytes ∧ (calls call).actual = (calls call).expectedSha256
  /-- An object that is published stays. -/
  lasting : ∀ later content, ((initial files).run paths calls schedule).files.read?
      paths.destination = some content →
    NeverMeet paths calls ((initial files).run paths calls schedule) later →
    ((initial files).run paths calls (schedule ++ later)).files.read? paths.destination =
      some content

end Steps
end ImmutablePut
end QuantumAnalytics
