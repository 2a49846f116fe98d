import QuantumAnalytics.Xlsx.ZipRecords

/-!
# The records cover a ZIP file

What the validator accepts is cut into records without a gap: each cursor of its loops
is the end of one record and the start of the next one.
-/

namespace QuantumAnalytics
namespace Xlsx

/-! ### Records -/

/-- A record of the central directory. -/
structure CentralRecord where
  header : Bytes
  name : Bytes

namespace CentralRecord

/-- The bytes of the record. -/
def bytes (entry : CentralRecord) : Bytes := entry.header ++ entry.name

def flags (entry : CentralRecord) : Nat := u16 entry.header 8

def method (entry : CentralRecord) : Nat := u16 entry.header 10

def crc (entry : CentralRecord) : Nat := u32 entry.header 16

def compressSize (entry : CentralRecord) : Nat := u32 entry.header 20

def fileSize (entry : CentralRecord) : Nat := u32 entry.header 24

def headerOffset (entry : CentralRecord) : Nat := u32 entry.header 42

/-- The header is one of a name without extra fields and without a comment. -/
structure WellFormed (entry : CentralRecord) : Prop where
  length : entry.header.length = 46
  signature : entry.header.take 4 = centralHeader
  nameSize : u16 entry.header 28 = entry.name.length
  extraSize : u16 entry.header 30 = 0
  commentSize : u16 entry.header 32 = 0

end CentralRecord

/-- A local record. -/
structure LocalRecord where
  header : Bytes
  name : Bytes
  data : Bytes
  descriptor : Bytes

/-- The bytes of the record. -/
def LocalRecord.bytes (record : LocalRecord) : Bytes :=
  record.header ++ record.name ++ record.data ++ record.descriptor

/-- The entry of a record of the central directory. -/
structure CentralRecord.Describes (codec : NameCodec) (entry : CentralRecord) (info : ZipInfo) :
    Prop where
  name : codec.decode (isUtf8 entry.flags) entry.name = some info.origFilename
  flagBits : info.flagBits = entry.flags
  compressType : info.compressType = entry.method
  crc : info.crc = entry.crc
  compressSize : info.compressSize = entry.compressSize
  fileSize : info.fileSize = entry.fileSize
  headerOffset : info.headerOffset = entry.headerOffset

/-- The bytes are a descriptor with or without a signature, of sizes of four or of
eight bytes. -/
def IsDescriptor (entry : CentralRecord) (descriptor : Bytes) : Prop :=
  ∃ signature crc sizes : Bytes, descriptor = signature ++ crc ++ sizes ∧
    (signature = [] ∨ signature = dataDescriptor) ∧
    crc.length = 4 ∧ littleEndian crc = entry.crc ∧
    ∃ width, (width = 4 ∨ width = 8) ∧ sizes.length = 2 * width ∧
      littleEndian (sizes.take width) = entry.compressSize ∧
      littleEndian (sizes.drop width) = entry.fileSize

/-- A local record agrees with a record of the central directory. -/
structure LocalRecord.Agrees (record : LocalRecord) (entry : CentralRecord) : Prop where
  length : record.header.length = 30
  signature : record.header.take 4 = localHeader
  flags : u16 record.header 6 = entry.flags
  method : u16 record.header 8 = entry.method
  nameSize : u16 record.header 26 = record.name.length
  extraSize : u16 record.header 28 = 0
  name : record.name = entry.name
  data : record.data.length = entry.compressSize
  /-- There is a descriptor if the flag is set. -/
  descriptor : hasDescriptor entry.flags = true → IsDescriptor entry record.descriptor
  /-- There is none otherwise, and the header has the sizes. -/
  plain : hasDescriptor entry.flags = false → record.descriptor = [] ∧
    u32 record.header 14 = entry.crc ∧ u32 record.header 18 = entry.compressSize ∧
    u32 record.header 22 = entry.fileSize

/-- The records lie one after the other from an offset on, where their entries say. -/
def Tiled : Nat → List CentralRecord → List LocalRecord → Prop
  | _, [], [] => True
  | offset, entry :: entries, record :: records =>
      entry.headerOffset = offset ∧ record.Agrees entry ∧
        Tiled (offset + record.bytes.length) entries records
  | _, _, _ => False

/-- The bytes are one local record for each entry, in the order of the offsets, the
central directory and the end record. -/
def Covered (codec : NameCodec) (payload : Bytes) (infos : List ZipInfo) : Prop :=
  ∃ entries sorted records last,
    payload = records.flatMap LocalRecord.bytes ++ entries.flatMap CentralRecord.bytes ++ last ∧
      List.Forall₂ (CentralRecord.Describes codec) entries infos ∧
      (∀ entry ∈ entries, entry.WellFormed) ∧
      sorted.Perm entries ∧ Tiled 0 sorted records ∧
      last.length = 22 ∧ last.take 4 = endRecord

/-! ### Fields -/

theorem u16_slice
    {payload : Bytes}
    {start stop offset : Nat}
    (inside : start + (offset + 2) ≤ stop) :
    u16 (slice payload start stop) offset = u16 payload (start + offset) := by
  rw [u16, u16, Slices.slice_slice inside, Nat.add_assoc]

theorem u32_slice
    {payload : Bytes}
    {start stop offset : Nat}
    (inside : start + (offset + 4) ≤ stop) :
    u32 (slice payload start stop) offset = u32 payload (start + offset) := by
  rw [u32, u32, Slices.slice_slice inside, Nat.add_assoc]

theorem take_slice
    {payload : Bytes}
    {start stop count : Nat}
    (inside : start + count ≤ stop) :
    (slice payload start stop).take count = slice payload start (start + count) := by
  have taken : ∀ values : Bytes, values.take count = slice values 0 count := fun values => by
    rw [slice, List.drop_zero, Nat.sub_zero]
  rw [taken, Slices.slice_slice inside, Nat.add_zero]

variable {codec : NameCodec} {payload : Bytes}

/-! ### The end record -/

theorem endRecordOffsetBelow_spec
    {searchStart position endOffset : Nat}
    (found : endRecordOffsetBelow payload searchStart position = .ok endOffset) :
    endOffset + 22 = payload.length ∧
      slice payload endOffset (endOffset + 4) = endRecord := by
  induction position with
  | zero => cases found
  | succ offset inductionHypothesis =>
      unfold endRecordOffsetBelow at found
      dsimp only at found
      split at found
      next isEnd =>
        simp only [↓Checks.bind_done_eq_ok, Checks.require_eq_ok, Checks.pure_eq_ok] at found
        obtain ⟨noComment, rfl⟩ := found
        obtain ⟨-, signature, -, isLast⟩ := isEnd
        rw [noComment] at isLast
        exact ⟨isLast, signature⟩
      next => exact inductionHypothesis found

/-! ### The central directory -/

/-- A step of the loop goes over one record. -/
theorem centralStep_spec
    {endOffset cursor next : Nat}
    (stepped : centralStep payload endOffset cursor = .ok next) :
    slice payload cursor (cursor + 4) = centralHeader ∧ u16 payload (cursor + 32) = 0 ∧
      next = cursor + (46 + u16 payload (cursor + 28) + u16 payload (cursor + 30)) := by
  simp only [centralStep, centralSizes] at stepped
  simp only [↓Checks.bind_done_eq_ok, Checks.require_eq_ok, Checks.pure_eq_ok] at stepped
  obtain ⟨⟨-, signature⟩, noComment, rfl⟩ := stepped
  exact ⟨signature, Checks.require_eq_ok.mp noComment, rfl⟩

theorem le_of_centralCursor
    {endOffset cursor count final : Nat}
    (run : centralCursor payload endOffset cursor count = .ok final) : cursor ≤ final := by
  induction count generalizing cursor with
  | zero => exact le_of_eq (Except.ok.inj run)
  | succ count inductionHypothesis =>
      obtain ⟨next, stepped, run⟩ := Checks.bind_eq_ok.mp run
      obtain ⟨-, -, rfl⟩ := centralStep_spec stepped
      exact le_trans (Nat.le_add_right _ _) (inductionHypothesis run)

/-- The entry that is listed for a record is described by it. -/
theorem describes_of_centralInfo
    {cursor stop : Nat}
    {info : ZipInfo}
    (isEntry : centralInfo? codec payload cursor = some info)
    (header : stop = cursor + 46 + u16 payload (cursor + 28)) :
    CentralRecord.Describes codec ⟨slice payload cursor (cursor + 46),
        slice payload (cursor + 46) stop⟩ info ∧
      info.extra = slice payload stop (stop + u16 payload (cursor + 30)) := by
  simp only [centralInfo?, centralSizes, Option.bind_eq_bind, Option.bind_eq_some_iff,
    Option.pure_def, Option.some.injEq] at isEntry
  obtain ⟨name, isName, rfl⟩ := isEntry
  subst header
  have field16 : ∀ offset, offset + 2 ≤ 46 →
      u16 (slice payload cursor (cursor + 46)) offset = u16 payload (cursor + offset) :=
    fun offset fits => u16_slice (Nat.add_le_add_left fits cursor)
  have field32 : ∀ offset, offset + 4 ≤ 46 →
      u32 (slice payload cursor (cursor + 46)) offset = u32 payload (cursor + offset) :=
    fun offset fits => u32_slice (Nat.add_le_add_left fits cursor)
  refine ⟨⟨?_, (field16 8 (by decide)).symm, (field16 10 (by decide)).symm,
    (field32 16 (by decide)).symm, (field32 20 (by decide)).symm, (field32 24 (by decide)).symm,
    (field32 42 (by decide)).symm⟩, rfl⟩
  rw [CentralRecord.flags, field16 8 (by decide)]
  exact isName

/-- The loop over the central directory cuts it into records of the entries. -/
theorem exists_centralRecords
    {infos : List ZipInfo}
    {endOffset cursor final : Nat}
    (lists : centralEntries? codec payload cursor infos.length = some infos)
    (run : centralCursor payload endOffset cursor infos.length = .ok final)
    (fits : final ≤ payload.length)
    (noExtra : ∀ info ∈ infos, info.extra = []) :
    ∃ pairs : List (ZipInfo × CentralRecord), pairs.map Prod.fst = infos ∧
      (∀ pair ∈ pairs, pair.2.Describes codec pair.1 ∧ pair.2.WellFormed) ∧
      slice payload cursor final = (pairs.map Prod.snd).flatMap CentralRecord.bytes := by
  induction infos generalizing cursor with
  | nil =>
      obtain rfl := Except.ok.inj run
      exact ⟨[], rfl, fun pair listed => absurd listed List.not_mem_nil, Slices.slice_self _ _⟩
  | cons info infos inductionHypothesis =>
      obtain ⟨next, stepped, rest⟩ := Checks.bind_eq_ok.mp run
      obtain ⟨signature, noComment, isNext⟩ := centralStep_spec stepped
      have below := le_of_centralCursor rest
      simp only [List.length_cons, centralEntries?, centralSizes, Option.bind_eq_bind,
        Option.bind_eq_some_iff, Option.pure_def, Option.some.injEq, List.cons.injEq] at lists
      obtain ⟨first, isEntry, others, lists, isFirst, areOthers⟩ := lists
      rw [isFirst] at isEntry
      rw [areOthers] at lists
      obtain ⟨describes, isExtra⟩ := describes_of_centralInfo isEntry rfl
      rw [List.forall_mem_cons] at noExtra
      -- The extra field is empty and lies in the payload, so its size is zero.
      have extraSize : u16 payload (cursor + 30) = 0 := by
        have length := @Slices.length_slice _ payload (cursor + 46 + u16 payload (cursor + 28))
          (cursor + 46 + u16 payload (cursor + 28) + u16 payload (cursor + 30)) (by omega)
        rw [← isExtra, noExtra.1, List.length_nil] at length
        omega
      rw [extraSize, noComment, Nat.add_zero, Nat.add_zero] at lists
      have isNext : next = cursor + 46 + u16 payload (cursor + 28) := by omega
      rw [← isNext] at lists describes
      obtain ⟨pairs, areInfos, each, isTail⟩ := inductionHypothesis lists rest noExtra.2
      let record : CentralRecord := ⟨slice payload cursor (cursor + 46),
        slice payload (cursor + 46) next⟩
      have wellFormed : record.WellFormed := by
        refine ⟨?_, ?_, ?_, ?_, ?_⟩
        · exact (Slices.length_slice (by omega)).trans (by omega)
        · exact (take_slice (by omega)).trans signature
        · rw [u16_slice (by omega), Slices.length_slice (by omega)]
          omega
        · exact (u16_slice (by omega)).trans extraSize
        · exact (u16_slice (by omega)).trans noComment
      refine ⟨(info, record) :: pairs, by rw [List.map_cons, areInfos], ?_, ?_⟩
      · exact List.forall_mem_cons.mpr ⟨⟨describes, wellFormed⟩, each⟩
      · rw [List.map_cons, List.flatMap_cons, ← isTail, CentralRecord.bytes,
          Slices.slice_append (by omega) (by omega), Slices.slice_append (by omega) below]

/-! ### The local records -/

/-- A descriptor of a layout is one. -/
theorem isDescriptor_of_matches
    {entry : CentralRecord}
    {info : ZipInfo}
    {descriptor : Bytes}
    (describes : entry.Describes codec info)
    (isMatch : descriptorMatches descriptor info = true) : IsDescriptor entry descriptor := by
  obtain ⟨layout, -, fits⟩ := List.any_eq_true.mp isMatch
  simp only [isDescriptorOf, Bool.and_eq_true, Bool.or_eq_true, Bool.not_eq_true',
    decide_eq_true_eq] at fits
  obtain ⟨⟨⟨⟨length, isSigned⟩, isCrc⟩, isCompressed⟩, isFile⟩ := fits
  obtain ⟨signed, wide⟩ := layout
  -- The signature, the checksum and the sizes are the slices at these positions.
  obtain ⟨start, isStart⟩ : ∃ start, start = if signed = true then 4 else 0 := ⟨_, rfl⟩
  obtain ⟨width, isWidth⟩ : ∃ width, width = if wide = true then 8 else 4 := ⟨_, rfl⟩
  rw [← isStart] at isCrc isCompressed isFile
  rw [← isWidth] at isFile
  have total : descriptor.length = start + 4 + 2 * width := by
    rw [isStart, isWidth]
    exact length
  have sizes : ∀ offset, (if wide = true then u64 descriptor offset else u32 descriptor offset) =
      littleEndian (slice descriptor offset (offset + width)) := by
    intro offset
    rw [isWidth]
    cases wide <;> rfl
  refine ⟨slice descriptor 0 start, slice descriptor start (start + 4),
    slice descriptor (start + 4) descriptor.length, ?_, ?_, ?_, isCrc.trans describes.crc, width,
    ?_, ?_, ?_, ?_⟩
  · rw [Slices.slice_append (by omega) (by omega), Slices.slice_append (by omega) (by omega),
      Slices.slice_length]
  · cases signed with
    | false => exact .inl (isStart ▸ Slices.slice_self _ _)
    | true => exact .inr (isStart ▸ isSigned.resolve_left (by simp))
  · exact (Slices.length_slice (by omega)).trans (by omega)
  · cases wide
    · exact .inl isWidth
    · exact .inr isWidth
  · exact (Slices.length_slice (le_refl _)).trans (by omega)
  · rw [take_slice (by omega), ← sizes]
    exact isCompressed.trans describes.compressSize
  · have isLast : (slice descriptor (start + 4) descriptor.length).drop width =
        slice descriptor (start + 4 + width) (start + 4 + width + width) := by
      rw [slice, slice, List.drop_take, List.drop_drop]
      congr 1
      omega
    rw [isLast, ← sizes]
    exact isFile.trans describes.fileSize

/-- A step of the loop goes over one record. -/
theorem exists_localRecord
    {entry : CentralRecord}
    {info : ZipInfo}
    {cursor next : Nat}
    (describes : entry.Describes codec info)
    (stepped : localStep codec payload cursor next info = .ok ())
    (noExtra : u16 payload (info.headerOffset + 28) = 0)
    (fits : next ≤ payload.length) :
    cursor ≤ next ∧ entry.headerOffset = cursor ∧ ∃ record : LocalRecord,
      slice payload cursor next = record.bytes ∧ record.Agrees entry := by
  simp only [localStep] at stepped
  simp only [↓Checks.bind_done_eq_ok, Checks.bind_eq_ok, Checks.require_eq_ok,
    Checks.requireSome_eq_ok] at stepped
  obtain ⟨⟨isOffset, room, signature⟩, ⟨isFlags, isMethod, dataStart, dataEnd⟩, name, isName,
    sameName, sizes⟩ := stepped
  rw [isOffset] at room signature isFlags isMethod dataStart dataEnd isName sameName sizes noExtra
  rw [noExtra, Nat.add_zero] at dataStart dataEnd sizes
  obtain ⟨nameEnd, isNameEnd⟩ : ∃ nameEnd, nameEnd = cursor + 30 + u16 payload (cursor + 26) :=
    ⟨_, rfl⟩
  rw [← isNameEnd] at dataStart dataEnd sameName sizes
  have flags : u16 payload (cursor + 6) = entry.flags := isFlags.trans describes.flagBits
  have isEntryName : name = entry.name := by
    rw [flags, codec.encode_decode _ _ _ describes.name] at isName
    exact (Option.some.inj isName).symm
  have field16 : ∀ offset, offset + 2 ≤ 30 →
      u16 (slice payload cursor (cursor + 30)) offset = u16 payload (cursor + offset) :=
    fun offset inside => u16_slice (Nat.add_le_add_left inside cursor)
  have field32 : ∀ offset, offset + 4 ≤ 30 →
      u32 (slice payload cursor (cursor + 30)) offset = u32 payload (cursor + offset) :=
    fun offset inside => u32_slice (Nat.add_le_add_left inside cursor)
  refine ⟨by omega, describes.headerOffset.symm.trans isOffset,
    ⟨slice payload cursor (cursor + 30), slice payload (cursor + 30) nameEnd,
      slice payload nameEnd (nameEnd + info.compressSize),
      slice payload (nameEnd + info.compressSize) next⟩, ?_, ?_⟩
  · rw [LocalRecord.bytes, Slices.slice_append (by omega) (by omega),
      Slices.slice_append (by omega) (by omega), Slices.slice_append (by omega) dataEnd]
  · refine ⟨?_, ?_, ?_, ?_, ?_, ?_, sameName.trans isEntryName, ?_, fun described => ?_,
      fun plain => ?_⟩
    · exact (Slices.length_slice (by omega)).trans (by omega)
    · exact (take_slice (by omega)).trans signature
    · exact (field16 6 (by decide)).trans flags
    · exact (field16 8 (by decide)).trans (isMethod.trans describes.compressType)
    · rw [field16 26 (by decide), Slices.length_slice (by omega)]
      omega
    · exact (field16 28 (by decide)).trans noExtra
    · rw [Slices.length_slice (by omega), describes.compressSize]
      omega
    · rw [flags, if_pos described] at sizes
      exact isDescriptor_of_matches describes (Checks.require_eq_ok.mp sizes)
    · rw [flags, if_neg (by rw [plain]; decide)] at sizes
      obtain ⟨isEnd, isCrc, isCompressed, isFile⟩ := Checks.require_eq_ok.mp sizes
      refine ⟨?_, (field32 14 (by decide)).trans (isCrc.trans describes.crc),
        (field32 18 (by decide)).trans (isCompressed.trans describes.compressSize),
        (field32 22 (by decide)).trans (isFile.trans describes.fileSize)⟩
      rw [Nat.add_zero] at isEnd
      change slice payload (nameEnd + info.compressSize) next = []
      rw [isEnd, Slices.slice_self]

theorem le_of_localStep
    {info : ZipInfo}
    {cursor next : Nat}
    (stepped : localStep codec payload cursor next info = .ok ()) : cursor ≤ next := by
  simp only [localStep] at stepped
  simp only [↓Checks.bind_done_eq_ok, Checks.require_eq_ok] at stepped
  obtain ⟨⟨rfl, room, -⟩, -⟩ := stepped
  omega

theorem le_of_localCursor
    {directory cursor final : Nat}
    {infos : List ZipInfo}
    (run : localCursor codec payload directory cursor infos = .ok final) : cursor ≤ final := by
  induction infos generalizing cursor with
  | nil => exact le_of_eq (Except.ok.inj run)
  | cons info infos inductionHypothesis =>
      obtain ⟨_, stepped, rest⟩ := Checks.bind_eq_ok.mp run
      exact (le_of_localStep stepped).trans (inductionHypothesis rest)

/-- The loop over the local records cuts the bytes in front of the directory into
records. -/
theorem exists_localRecords
    {pairs : List (ZipInfo × CentralRecord)}
    {directory cursor final : Nat}
    (describes : ∀ pair ∈ pairs, pair.2.Describes codec pair.1)
    (run : localCursor codec payload directory cursor (pairs.map Prod.fst) = .ok final)
    (noExtra : ∀ pair ∈ pairs, u16 payload (pair.1.headerOffset + 28) = 0)
    (fits : final ≤ payload.length) :
    ∃ records, slice payload cursor final = records.flatMap LocalRecord.bytes ∧
      Tiled cursor (pairs.map Prod.snd) records := by
  induction pairs generalizing cursor with
  | nil =>
      obtain rfl := Except.ok.inj run
      exact ⟨[], Slices.slice_self _ _, trivial⟩
  | cons pair pairs inductionHypothesis =>
      obtain ⟨_, stepped, rest⟩ := Checks.bind_eq_ok.mp run
      rw [List.forall_mem_cons] at describes noExtra
      have below := le_of_localCursor rest
      obtain ⟨above, isOffset, record, isRecord, agrees⟩ :=
        exists_localRecord describes.1 stepped noExtra.1 (below.trans fits)
      obtain ⟨records, areRecords, tiled⟩ := inductionHypothesis describes.2 rest noExtra.2
      refine ⟨record :: records, ?_, isOffset, agrees, ?_⟩
      · rw [List.flatMap_cons, ← areRecords, ← isRecord, Slices.slice_append above below]
      · have length := @Slices.length_slice _ payload cursor _ (below.trans fits)
        rw [isRecord] at length
        rw [length, Nat.add_sub_cancel' above]
        exact tiled

/-! ### Coverage -/

/-- What the validator accepts is covered by the records of its entries. -/
theorem covered_of_validate
    (zf : ZipFile codec payload)
    (accepted : validateZipRecordCoverage zf = .ok ())
    (noExtra : validateArchiveExtraFields zf = .ok ()) :
    Covered codec payload zf.infolist := by
  simp only [validateZipRecordCoverage] at accepted
  simp only [↓Checks.bind_done_eq_ok, Checks.bind_eq_ok, Checks.require_eq_ok] at accepted
  obtain ⟨-, last, isEnd, -, ⟨-, -, -, -, -, isCount, isStart, isSize⟩, central, locals⟩ :=
    accepted
  simp only [validateCentralDirectory, Checks.bind_eq_ok, Checks.require_eq_ok] at central
  obtain ⟨final, centralRun, -, rfl⟩ := central
  simp only [validateLocalRecords] at locals
  simp only [↓Checks.bind_done_eq_ok, Checks.bind_eq_ok, Checks.require_eq_ok] at locals
  obtain ⟨-, _, localRun, rfl⟩ := locals
  simp only [validateArchiveExtraFields] at noExtra
  have extras : ∀ info ∈ zf.infolist, info.extra = [] ∧
      u16 payload (info.headerOffset + 28) = 0 := by
    intro info listed
    have each := Checks.forM_eq_ok.mp noExtra info listed
    simp only [↓Checks.bind_done_eq_ok, Checks.require_eq_ok] at each
    exact ⟨each.1, each.2.2.2⟩
  have isLast := endRecordOffsetBelow_spec isEnd
  have lists := zf.lists
  rw [isCount, isStart] at centralRun
  rw [isStart] at localRun isSize
  obtain ⟨pairs, areInfos, each, isDirectory⟩ := exists_centralRecords lists centralRun
    (by omega) fun info listed => (extras info listed).1
  let sorted := pairs.insertionSort fun first second =>
    first.1.headerOffset ≤ second.1.headerOffset
  have isSorted : sorted.Perm pairs := List.perm_insertionSort _ _
  have areOrdered : sorted.map Prod.fst = ordered zf.infolist := by
    rw [← areInfos]
    exact List.map_insertionSort _ _ _ _ fun _ _ _ _ => Iff.rfl
  rw [← areOrdered] at localRun
  obtain ⟨records, areRecords, tiled⟩ := exists_localRecords
    (fun pair listed => (each pair (isSorted.mem_iff.mp listed)).1) localRun
    (fun pair listed => (extras pair.1
      (areInfos ▸ List.mem_map_of_mem (isSorted.mem_iff.mp listed))).2) (by omega)
  refine ⟨pairs.map Prod.snd, sorted.map Prod.snd, records,
    slice payload final payload.length, ?_, ?_, ?_, isSorted.map Prod.snd, tiled, ?_, ?_⟩
  · rw [← areRecords, ← isDirectory, Slices.slice_append (Nat.zero_le _) (by omega),
      Slices.slice_append (Nat.zero_le _) (by omega), Slices.slice_length]
  · rw [← areInfos, List.forall₂_map_left_iff, List.forall₂_map_right_iff, List.forall₂_same]
    exact fun pair listed => (each pair listed).1
  · exact List.forall_mem_map.mpr fun pair listed => (each pair listed).2
  · exact (Slices.length_slice (le_refl _)).trans (by omega)
  · exact (take_slice (by omega)).trans isLast.2

/-! ### A small archive -/

/-- The names of ASCII characters. -/
def asciiCodec : NameCodec where
  decode _ payload :=
    if payload.all fun byte => decide (byte.toNat < 128) then
      some (payload.map fun byte => Char.ofNat byte.toNat)
    else none
  encode _ text := some (text.map fun c => UInt8.ofNat c.toNat)
  encode_decode _ payload text isText := by
    split at isText
    next small =>
      obtain rfl := Option.some.inj isText
      have same : ∀ byte ∈ payload, UInt8.ofNat (Char.ofNat byte.toNat).toNat = byte := by
        intro byte listed
        have isSmall : byte.toNat < 128 := of_decide_eq_true (List.all_eq_true.mp small byte listed)
        have isValid : byte.toNat.isValidChar := .inl (isSmall.trans (by decide))
        rw [Char.ofNat, dif_pos isValid]
        exact UInt8.ofNat_toNat
      rw [List.map_map]
      exact congrArg some ((List.map_congr_left same).trans (List.map_id payload))
    next => cases isText

/-- An archive with the file `a`, which has the text `x`. -/
def letterZip : Bytes :=
  [80, 75, 3, 4, 20, 0, 0, 0, 0, 0, 0, 0, 33, 0, 131, 22, 220, 140, 1, 0, 0, 0, 1, 0, 0, 0, 1,
    0, 0, 0, 97, 120, 80, 75, 1, 2, 20, 3, 20, 0, 0, 0, 0, 0, 0, 0, 33, 0, 131, 22, 220, 140,
    1, 0, 0, 0, 1, 0, 0, 0, 1, 0, 0, 0, 0, 0, 0, 0, 0, 0, 0, 0, 0, 0, 0, 0, 0, 0, 97, 80, 75,
    5, 6, 0, 0, 0, 0, 1, 0, 1, 0, 47, 0, 0, 0, 32, 0, 0, 0, 0, 0]

/-- The entry of the file. -/
def letterInfo : ZipInfo := ⟨['a'], 0, 0, 2363233923, 1, 1, 0, []⟩

/-- The archive is open. -/
def openLetterZip : ZipFile asciiCodec letterZip where
  startDir := 32
  infolist := [letterInfo]
  lists := by decide +kernel

theorem covered_of_validate_letter : Covered asciiCodec letterZip [letterInfo] :=
  covered_of_validate openLetterZip (by decide +kernel) (by decide +kernel)

end Xlsx
end QuantumAnalytics
