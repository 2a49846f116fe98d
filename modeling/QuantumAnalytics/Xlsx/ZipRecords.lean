import Mathlib.Data.List.Sort
import QuantumAnalytics.Foundations.Slices
import QuantumAnalytics.Xlsx.Archive

/-!
# The records of a ZIP file

An archive is a row of local records, the central directory and the end record. Its
entries are those of the central directory; the validator reads the bytes once more
and compares them with the entries.
-/

namespace QuantumAnalytics
namespace Xlsx

abbrev Bytes := List UInt8

/-- `_u16`. -/
def u16 (payload : Bytes) (offset : Nat) : Nat := littleEndian (slice payload offset (offset + 2))

/-- `_u32`. -/
def u32 (payload : Bytes) (offset : Nat) : Nat := littleEndian (slice payload offset (offset + 4))

/-- `_u64`. -/
def u64 (payload : Bytes) (offset : Nat) : Nat := littleEndian (slice payload offset (offset + 8))

/-- `_LOCAL_HEADER`. -/
def localHeader : Bytes := [80, 75, 3, 4]

/-- `_CENTRAL_HEADER`. -/
def centralHeader : Bytes := [80, 75, 1, 2]

/-- `_DATA_DESCRIPTOR`. -/
def dataDescriptor : Bytes := [80, 75, 7, 8]

/-- `_END_RECORD`. -/
def endRecord : Bytes := [80, 75, 5, 6]

/-- The code of every error. -/
def polyglot : String := "XLSX_ARCHIVE_POLYGLOT_FORBIDDEN"

/-! ### Entries -/

/-- The encodings of file names: `"utf-8"` if the flag is set, `"cp437"` otherwise. -/
structure NameCodec where
  /-- `payload.decode(encoding)`; `none` is a `UnicodeDecodeError`. -/
  decode : Bool → Bytes → Option (List Char)
  /-- `text.encode(encoding)`; `none` is a `UnicodeEncodeError`. -/
  encode : Bool → List Char → Option Bytes
  /-- A text is encoded as what it was decoded from. -/
  encode_decode : ∀ utf8 payload text, decode utf8 payload = some text →
    encode utf8 text = some payload

/-- `ZipInfo`. -/
structure ZipInfo where
  origFilename : List Char
  flagBits : Nat
  compressType : Nat
  crc : Nat
  compressSize : Nat
  fileSize : Nat
  headerOffset : Nat
  extra : Bytes
  deriving DecidableEq

/-- The names are UTF-8. -/
def isUtf8 (flags : Nat) : Bool := flags.testBit 11

/-- A data descriptor follows the data. -/
def hasDescriptor (flags : Nat) : Bool := flags.testBit 3

/-- The sizes of the name, the extra fields and the comment in a central record. -/
def centralSizes (payload : Bytes) (offset : Nat) : Nat × Nat × Nat :=
  (u16 payload (offset + 28), u16 payload (offset + 30), u16 payload (offset + 32))

/-- The entry of the central record at an offset. -/
def centralInfo? (codec : NameCodec) (payload : Bytes) (offset : Nat) : Option ZipInfo := do
  let (nameSize, extraSize, _) := centralSizes payload offset
  let flags := u16 payload (offset + 8)
  let name := slice payload (offset + 46) (offset + 46 + nameSize)
  let origFilename ← codec.decode (isUtf8 flags) name
  return {
    origFilename
    flagBits := flags
    compressType := u16 payload (offset + 10)
    crc := u32 payload (offset + 16)
    compressSize := u32 payload (offset + 20)
    fileSize := u32 payload (offset + 24)
    headerOffset := u32 payload (offset + 42)
    extra := slice payload (offset + 46 + nameSize) (offset + 46 + nameSize + extraSize) }

/-- The entries of some central records in a row. -/
def centralEntries? (codec : NameCodec) (payload : Bytes) : Nat → Nat → Option (List ZipInfo)
  | _, 0 => some []
  | offset, count + 1 => do
      let info ← centralInfo? codec payload offset
      let (nameSize, extraSize, commentSize) := centralSizes payload offset
      let infos ← centralEntries? codec payload
        (offset + 46 + nameSize + extraSize + commentSize) count
      return info :: infos

/-- An open `ZipFile`, which lists the entries of the central directory. -/
structure ZipFile (codec : NameCodec) (payload : Bytes) where
  startDir : Nat
  infolist : List ZipInfo
  lists : centralEntries? codec payload startDir infolist.length = some infolist

/-! ### The validator -/

/-- The loop of `_end_record_offset`. Occurrences of the signature do not overlap, so
the last one below a position is found by going down. -/
def endRecordOffsetBelow (payload : Bytes) (searchStart : Nat) : Nat → Result Nat
  | 0 => .error polyglot
  | offset + 1 =>
      let commentSize := u16 payload (offset + 20)
      if searchStart ≤ offset ∧ slice payload offset (offset + 4) = endRecord ∧
          offset + 22 ≤ payload.length ∧ offset + 22 + commentSize = payload.length then do
        require (commentSize = 0) polyglot
        return offset
      else endRecordOffsetBelow payload searchStart offset

/-- `_end_record_offset`. -/
def endRecordOffset (payload : Bytes) : Result Nat :=
  endRecordOffsetBelow payload (payload.length - (22 + 65535)) (payload.length - 3)

/-- The loop body of `_validate_central_directory`. -/
def centralStep (payload : Bytes) (endOffset cursor : Nat) : Result Nat := do
  require (cursor + 46 ≤ endOffset ∧ slice payload cursor (cursor + 4) = centralHeader) polyglot
  let (nameSize, extraSize, commentSize) := centralSizes payload cursor
  require (commentSize = 0) polyglot
  return cursor + (46 + nameSize + extraSize)

/-- The loop of `_validate_central_directory`. -/
def centralCursor (payload : Bytes) (endOffset : Nat) : Nat → Nat → Result Nat
  | cursor, 0 => .ok cursor
  | cursor, count + 1 => do
      let next ← centralStep payload endOffset cursor
      centralCursor payload endOffset next count

/-- `_validate_central_directory`. -/
def validateCentralDirectory (payload : Bytes) (offset size entryCount endOffset : Nat) :
    Result Unit := do
  let cursor ← centralCursor payload endOffset offset entryCount
  require (cursor = offset + size ∧ cursor = endOffset) polyglot

/-- The layout of a descriptor: whether it has a signature, and its sizes of eight
bytes each. -/
def descriptorLayouts : List (Bool × Bool) :=
  [(false, false), (true, false), (false, true), (true, true)]

/-- The bytes are a descriptor of the entry in a layout. -/
def isDescriptorOf (payload : Bytes) (info : ZipInfo) (layout : Bool × Bool) : Bool :=
  let cursor := if layout.1 then 4 else 0
  let sizeWidth := if layout.2 then 8 else 4
  let size offset := if layout.2 then u64 payload offset else u32 payload offset
  payload.length = cursor + 4 + 2 * sizeWidth &&
    (!layout.1 || payload.take 4 = dataDescriptor) &&
    u32 payload cursor = info.crc && size (cursor + 4) = info.compressSize &&
    size (cursor + 4 + sizeWidth) = info.fileSize

/-- `_descriptor_matches`. -/
def descriptorMatches (payload : Bytes) (info : ZipInfo) : Bool :=
  descriptorLayouts.any (isDescriptorOf payload info)

/-- The loop body of `_validate_local_records`. -/
def localStep (codec : NameCodec) (payload : Bytes) (cursor nextOffset : Nat) (info : ZipInfo) :
    Result Unit := do
  let offset := info.headerOffset
  require (offset = cursor ∧ offset + 30 ≤ nextOffset ∧
    slice payload offset (offset + 4) = localHeader) polyglot
  let flags := u16 payload (offset + 6)
  let nameStart := offset + 30
  let nameEnd := nameStart + u16 payload (offset + 26)
  let dataStart := nameEnd + u16 payload (offset + 28)
  let dataEnd := dataStart + info.compressSize
  require (flags = info.flagBits ∧ u16 payload (offset + 8) = info.compressType ∧
    dataStart ≤ nextOffset ∧ dataEnd ≤ nextOffset) polyglot
  let name ← requireSome (codec.encode (isUtf8 flags) info.origFilename) polyglot
  require (slice payload nameStart nameEnd = name) polyglot
  if hasDescriptor flags then
    require (descriptorMatches (slice payload dataEnd nextOffset) info = true) polyglot
  else
    require (dataEnd = nextOffset ∧ u32 payload (offset + 14) = info.crc ∧
      u32 payload (offset + 18) = info.compressSize ∧
      u32 payload (offset + 22) = info.fileSize) polyglot

/-- The loop of `_validate_local_records`, with the cursor after it. -/
def localCursor (codec : NameCodec) (payload : Bytes) (directory : Nat) :
    Nat → List ZipInfo → Result Nat
  | cursor, [] => .ok cursor
  | cursor, info :: infos => do
      let nextOffset := (infos.head?.map ZipInfo.headerOffset).getD directory
      localStep codec payload cursor nextOffset info
      localCursor codec payload directory nextOffset infos

/-- `sorted(infos, key=lambda info: info.header_offset)`. -/
def ordered (infos : List ZipInfo) : List ZipInfo :=
  infos.insertionSort fun first second => first.headerOffset ≤ second.headerOffset

/-- `_validate_local_records`. -/
def validateLocalRecords (codec : NameCodec) (payload : Bytes) (infos : List ZipInfo)
    (directory : Nat) : Result Unit := do
  require (infos ≠ []) polyglot
  let cursor ← localCursor codec payload directory 0 (ordered infos)
  require (cursor = directory) polyglot

section Validator

variable {codec : NameCodec} {payload : Bytes} (zf : ZipFile codec payload)

/-- `validate_zip_record_coverage`. -/
def validateZipRecordCoverage : Result Unit := do
  require (payload.take 4 = localHeader) polyglot
  let endOffset ← endRecordOffset payload
  require (u16 payload (endOffset + 4) = 0 ∧ u16 payload (endOffset + 6) = 0) polyglot
  let entriesOnDisk := u16 payload (endOffset + 8)
  let entryCount := u16 payload (endOffset + 10)
  let centralSize := u32 payload (endOffset + 12)
  let centralOffset := u32 payload (endOffset + 16)
  require (entriesOnDisk ≠ 0xFFFF ∧ entryCount ≠ 0xFFFF ∧ centralSize ≠ 0xFFFFFFFF ∧
    centralOffset ≠ 0xFFFFFFFF ∧ entriesOnDisk = entryCount ∧
    entryCount = zf.infolist.length ∧ centralOffset = zf.startDir ∧
    centralOffset + centralSize = endOffset) polyglot
  validateCentralDirectory payload centralOffset centralSize entryCount endOffset
  validateLocalRecords codec payload zf.infolist centralOffset

/-- `validate_archive_extra_fields`. -/
def validateArchiveExtraFields : Result Unit :=
  forM zf.infolist fun info => do
    require (info.extra = []) polyglot
    let offset := info.headerOffset
    require (offset + 30 ≤ payload.length ∧ slice payload offset (offset + 4) = localHeader ∧
      u16 payload (offset + 28) = 0) polyglot

end Validator

end Xlsx
end QuantumAnalytics
