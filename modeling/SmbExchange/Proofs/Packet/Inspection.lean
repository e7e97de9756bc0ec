import SmbExchange.Packet.Cursor
import SmbExchange.Packet.Dump
import SmbExchange.Proofs.Bytes.Bounds
import SmbExchange.Proofs.Packet.Extent
import SmbExchange.Proofs.Packet.Fields
import SmbExchange.Proofs.Packet.View

/-!
# Looking into a received message

Where the parts of a message stand is computed from counts that the peer has
chosen, up to 255 parameter words and 65535 bytes, and most of them are read
without a check.  Every question that can be asked about a packet is asked
here once more without a net: bytes that are not all there have no value, and
neither has a difference of positions that would be negative, or a sum that a
machine word cannot hold.  Every question still has its answer, whatever the
buffer holds, because the least capacity of a packet is exactly where the byte
count of a message with 255 words ends.  Only a UTF-16 text at the very last
position has none, and while there is more data the cursor is not there.

The readings that are checked, namely of the byte area, the message, the frame
and the texts, succeed or report the range that leaves the buffer.
-/

namespace SmbExchange.Packet

open LittleEndian (decode toWord)

/-- A difference of positions, which must not be negative. -/
def difference? (position offset : Nat) : Option Nat :=
  if offset ≤ position then some (position - offset) else none

theorem difference?_eq {position offset : Nat} (hle : offset ≤ position) :
    difference? position offset = some (position - offset) :=
  if_pos hle

section Questions

variable (packet : Packet)

/-! ## The header -/

def hasMarker? : Option Bool :=
  (packet.buffer.range? headerRoom (headerRoom + 4)).map (· == marker)

/-- The number in a header field.  The accessors and the flags of a packet are each computed from
one such number. -/
def field? (field : HeaderField) : Option Nat :=
  (packet.buffer.range? field.offset (field.offset + field.width)).map decode

def signatureBytes? : Option Bytes :=
  packet.buffer.range? HeaderField.signature.offset
    (HeaderField.signature.offset + HeaderField.signature.width)

def andxCommand? : Option UInt8 :=
  packet.buffer[37]?

def flags? : Option UInt8 :=
  (packet.field? .flags).map UInt8.ofNat

def flags2? : Option UInt16 :=
  (packet.field? .flags2).map UInt16.ofNat

def wordCount? : Option UInt8 :=
  (packet.field? .wordCount).map UInt8.ofNat

/-! ## Words, counts and the byte area -/

def parameter? (index : UInt64) : Option (Except Fault UInt16) := do
  let count ← packet.wordCount?
  if count.toNat < index.toNat then some (.error (.parameterIndex index.toNat count))
  else
    let offset ← wordOffset? index
    (packet.buffer.wordAt? offset).map .ok

def byteOffset? : Option Nat :=
  packet.wordCount?.map fun count => 39 + 2 * count.toNat

def byteCount? : Option UInt16 := do
  let offset ← packet.byteOffset?
  let slot ← difference? offset 2
  packet.buffer.wordAt? slot

def bytes? : Option (Except Fault Bytes) := do
  let offset ← packet.byteOffset?
  let count ← packet.byteCount?
  packet.buffer.read? offset count.toNat

def totalLength? : Option Nat := do
  let offset ← packet.byteOffset?
  let count ← packet.byteCount?
  difference? (offset + count.toNat) headerRoom

def message? : Option (Except Fault Bytes) := do
  let length ← packet.totalLength?
  packet.buffer.read? headerRoom length

/-- A frame that is not all there is refused by the look itself. -/
def frame? : Option (Except Fault Bytes) := do
  let length ← packet.totalLength?
  match packet.buffer.range? 0 (headerRoom + length) with
  | some frame => some (.ok frame)
  | none => some (.error (.bufferOverflow 0 (headerRoom + length) packet.capacity))

/-! ## The status -/

def status? : Option Status := do
  let flags2 ← packet.flags2?
  if flags2 &&& 0x4000 != 0 then
    let code ← packet.field? .longErrorCode
    some (.nt (UInt32.ofNat code))
  else
    let errorClass ← packet.field? .errorClass
    let code ← packet.field? .errorCode
    some (.legacy (UInt8.ofNat errorClass) (UInt8.ofNat code))

def checkForError? : Option (Except Fault Unit) := do
  let status ← packet.status?
  some (if status.isSuccess then .ok () else .error (.ofStatus status))

/-! ## The listings -/

/-- A word of the listing is asked for like any parameter word. -/
def wordCell? (index : Nat) : Option (List Char) := do
  let word ← packet.parameter? (UInt64.ofNat index)
  let value := (word.toOption.getD 0).toNat
  let number := padRight 2 (toString (index + 1)).toList
  some ('P' :: number ++ ('=' :: (toString value).toList) ++ ['/', '0', 'x'] ++ Hex.lower 1 value)

def wordLine? (row : Nat) : Option String := do
  let count ← packet.wordCount?
  let indices := (List.range wordColumns).map (row * wordColumns + ·)
  let cells ← (indices.filter (· < count.toNat)).mapM packet.wordCell?
  some (String.ofList (trimRight (cells.flatMap (padRight wordColumnWidth))))

def wordLines? : Option (List String) := do
  let count ← packet.wordCount?
  let rows := (count.toNat + wordColumns - 1) / wordColumns
  (List.range rows).mapM packet.wordLine?

def statusLine? : Option String := do
  let flags2 ← packet.flags2?
  if flags2 &&& 0x4000 != 0 then
    let code ← packet.field? .longErrorCode
    let number := "Long error: 0x" ++ String.ofList (Hex.upper 8 (UInt32.ofNat code).toNat)
    some (match Status.ntName? (UInt32.ofNat code) with
      | some name => number ++ " (" ++ name ++ ")"
      | none => number)
  else
    let errorClass ← packet.field? .errorClass
    let code ← packet.field? .errorCode
    some ("Error text: " ++ Status.legacyText (UInt8.ofNat errorClass) (UInt8.ofNat code))

/-- Only a response has a line for the status. -/
def responseLines? : Option (List String) := do
  let flags ← packet.flags?
  if flags &&& 0x80 != 0 then
    let status ← packet.statusLine?
    some [status]
  else some []

/-- Only a signed message has a line for the signature. -/
def signatureLines? : Option (List String) := do
  let flags2 ← packet.flags2?
  if flags2 &&& 0x0004 != 0 then
    let signature ← packet.field? .signature
    some ["Signature: " ++ String.ofList (Hex.lower 16 (UInt64.ofNat signature).toNat)]
  else some []

def dump? : Option String := do
  let command ← packet.field? .command
  let flags ← packet.flags?
  let length ← packet.totalLength?
  let offset ← difference? (← packet.byteOffset?) headerRoom
  let count ← packet.byteCount?
  let flags2 ← packet.flags2?
  let signature ← packet.signatureLines?
  let treeId ← packet.field? .treeId
  let processId ← packet.field? .processId
  let userId ← packet.field? .userId
  let multiplexId ← packet.field? .multiplexId
  let words ← packet.wordCount?
  let wordLines ← packet.wordLines?
  let status ← packet.responseLines?
  some (String.intercalate "\n"
    (["SMB " ++ Command.name (UInt8.ofNat command)
        ++ (if flags &&& 0x80 != 0 then " [Response]" else ""),
      "Packet Length: " ++ toString length,
      "Byte Offset: " ++ toString offset ++ ", Byte Count: " ++ toString count.toNat,
      "Flags: " ++ flagsText flags,
      "Flags2: " ++ flags2Text flags2]
    ++ signature
    ++ ["TID=" ++ toString (UInt16.ofNat treeId).toNat
          ++ ", PID=" ++ toString (UInt16.ofNat processId).toNat
          ++ ", UID=" ++ toString (UInt16.ofNat userId).toNat
          ++ ", MID=" ++ toString (UInt16.ofNat multiplexId).toNat,
        "Parameter Words: " ++ toString words.toNat]
    ++ wordLines ++ status))

def hexDump? : Option String := do
  let length ← packet.totalLength?
  let listed ← packet.buffer.range? headerRoom (min (headerRoom + length) packet.capacity)
  some (String.ofList ((hexLinesFrom 0 listed).flatMap fun line => line ++ ['\n']))

/-! ## Unpacking -/

def resetBytePointer? : Option Packet := do
  let offset ← packet.byteOffset?
  let count ← packet.byteCount?
  some { packet with position := offset, limit := offset + count.toNat }

def textAt? (start limit : Nat) (unicode : Bool) : Option (Except Fault (String × Nat)) :=
  if unicode then packet.buffer.readUtf16? start limit else packet.buffer.readLatin? start limit

def unpackString? (unicode : Bool) : Option (Attempt String) := do
  let start ← packet.textStart? unicode
  match ← packet.textAt? start maximumString unicode with
  | .ok (text, consumed) => some (.ok text, { packet with position := start + consumed })
  | .error fault => some (.error fault, packet)

end Questions

/-- Unpacks strings while there is more data, in whatever the flags say at each step. -/
def unpackStrings? (packet : Packet) : (count : Nat) → Option (List (Except Fault String × Nat))
  | 0 => some []
  | count + 1 =>
    if packet.hasMoreData then do
      let flags2 ← packet.flags2?
      match ← packet.unpackString? (flags2 &&& 0x8000 != 0) with
      | (.ok text, after) => do
        let rest ← after.unpackStrings? count
        some ((.ok text, after.position) :: rest)
      | (.error fault, after) => some [(.error fault, after.position)]
    else some []

/-! ## Receiving -/

/-- Writes `source` over the range of the buffer that it takes up. -/
def patch? (packet : Packet) (offset : Nat) (source : Bytes) : Option Packet :=
  if offset + source.length ≤ packet.capacity then some (packet.patch offset source) else none

/-- Makes a buffer of zeros and writes the marker. -/
def withCapacity? (capacity : Nat) : Option (Except Fault Packet) :=
  if hcapacity : minimumCapacity ≤ capacity then
    let zeroed : Packet :=
      { buffer := Bytes.zeros capacity
        expectedCommand := 0
        position := wordsStart
        limit := wordsStart
        sent := false
        minimum_le_length := by simpa [minimumCapacity] using hcapacity }
    (zeroed.patch? headerRoom marker).map .ok
  else some (.error (.bufferOverflow 0 minimumCapacity capacity))

/-- Looks for the marker, makes a buffer and writes the message into it.  The command is read back
from the buffer. -/
def ofMessage? (message : Bytes) : Option (Except Fault Packet) :=
  if message.length < minimumMessage then some (.error (.shortReceive message.length))
  else do
    let head ← message.range? 0 marker.length
    if head ≠ marker then some (.error .invalidHeader)
    else
      match ← withCapacity? (max (headerRoom + message.length) defaultCapacity) with
      | .error fault => some (.error fault)
      | .ok empty => do
        let filled ← empty.patch? headerRoom message
        let command ← filled.field? .command
        some (.ok { filled with expectedCommand := UInt8.ofNat command })

/-! ## The answers -/

section Answers

variable (packet : Packet)

@[simp]
theorem hasMarker?_eq : packet.hasMarker? = some packet.hasMarker := by
  have hminimum := packet.minimum_le_length
  rw [hasMarker?, Bytes.range?_eq (by rw [headerRoom]; omega), Option.map_some, hasMarker]

@[simp]
theorem field?_eq (field : HeaderField) : packet.field? field = some (packet.get field) := by
  have hminimum := packet.minimum_le_length
  have hfield := field.offset_add_width_le_wordsStart
  rw [wordsStart] at hfield
  rw [field?, Bytes.range?_eq (by omega), Option.map_some, get]

@[simp]
theorem signatureBytes?_eq : packet.signatureBytes? = some packet.signatureBytes := by
  have hminimum := packet.minimum_le_length
  have hfield := HeaderField.offset_add_width_le_wordsStart .signature
  rw [wordsStart] at hfield
  rw [signatureBytes?, Bytes.range?_eq (by omega), signatureBytes]

@[simp]
theorem andxCommand?_eq : packet.andxCommand? = some packet.andxCommand := by
  have hminimum := packet.minimum_le_length
  rw [andxCommand?, Bytes.getElem?_eq_byteAt (by omega), andxCommand]

@[simp]
theorem flags?_eq : packet.flags? = some packet.flags := by
  rw [flags?, field?_eq, Option.map_some, flags]

@[simp]
theorem flags2?_eq : packet.flags2? = some packet.flags2 := by
  rw [flags2?, field?_eq, Option.map_some, flags2]

@[simp]
theorem wordCount?_eq : packet.wordCount? = some packet.wordCount := by
  rw [wordCount?, field?_eq, Option.map_some, wordCount]

theorem wordAt?_eq {offset : Nat} (hinside : offset + 2 ≤ 549) :
    packet.buffer.wordAt? offset = some (packet.wordAt offset) := by
  have hminimum := packet.minimum_le_length
  rw [Bytes.wordAt?_eq (by omega), wordAt]

/-- The slot after 255 words ends where the least buffer ends. -/
@[simp]
theorem parameter?_eq (index : UInt64) :
    packet.parameter? index = some (packet.parameter index) := by
  have hcount := packet.wordCount.toNat_lt
  rw [parameter?, parameter, wordCount?_eq, Option.bind_eq_bind, Option.bind_some]
  by_cases hindex : packet.wordCount.toNat < index.toNat
  · rw [if_pos hindex, if_pos hindex]
  · rw [if_neg hindex, if_neg hindex, wordOffset?_of_le (by omega), Option.bind_eq_bind,
      Option.bind_some, packet.wordAt?_eq (by rw [headerRoom]; omega), Option.map_some,
      wordOffset_eq]

@[simp]
theorem byteOffset?_eq : packet.byteOffset? = some packet.byteOffset := by
  rw [byteOffset?, wordCount?_eq, Option.map_some, byteOffset]

@[simp]
theorem byteCount?_eq : packet.byteCount? = some packet.byteCount := by
  have hlow := packet.le_byteOffset
  have hhigh := packet.byteOffset_le
  rw [byteCount?, byteOffset?_eq, Option.bind_eq_bind, Option.bind_some,
    difference?_eq (by omega), Option.bind_some, packet.wordAt?_eq (by omega), byteCount]

@[simp]
theorem bytes?_eq : packet.bytes? = some packet.bytes := by
  simp only [bytes?, byteOffset?_eq, byteCount?_eq, Bytes.read?_eq, Option.bind_eq_bind,
    Option.bind_some, bytes]

@[simp]
theorem totalLength?_eq : packet.totalLength? = some packet.totalLength := by
  have hlow := packet.le_byteOffset
  simp only [totalLength?, byteOffset?_eq, byteCount?_eq, Option.bind_eq_bind, Option.bind_some]
  rw [difference?_eq (by rw [headerRoom]; omega), totalLength]

@[simp]
theorem message?_eq : packet.message? = some packet.message := by
  simp only [message?, totalLength?_eq, Bytes.read?_eq, Option.bind_eq_bind, Option.bind_some,
    message]

@[simp]
theorem frame?_eq : packet.frame? = some packet.frame := by
  rw [frame?, totalLength?_eq, Option.bind_eq_bind, Option.bind_some, frame_eq]
  by_cases hfits : packet.Fits
  · have hrange : packet.buffer.range? 0 (headerRoom + packet.totalLength) =
        some (packet.buffer.slice 0 (headerRoom + packet.totalLength)) := Bytes.range?_zero hfits
    rw [hrange, if_pos hfits]
  · have hrange : packet.buffer.range? 0 (headerRoom + packet.totalLength) = none :=
      if_neg fun hinside => hfits hinside.2
    rw [hrange, if_neg hfits]

@[simp]
theorem status?_eq : packet.status? = some packet.status := by
  simp only [status?, flags2?_eq, field?_eq, Option.bind_eq_bind, Option.bind_some]
  rw [← apply_ite some]
  rfl

@[simp]
theorem checkForError?_eq : packet.checkForError? = some packet.checkForError := by
  rw [checkForError?, status?_eq, Option.bind_eq_bind, Option.bind_some, checkForError]

/-- A traversal in which every step has its value. -/
theorem mapM_eq_some {α β : Type} {items : List α} {step : α → Option β} {value : α → β}
    (hstep : ∀ item ∈ items, step item = some (value item)) :
    items.mapM step = some (items.map value) := by
  induction items with
  | nil => rfl
  | cons item items ih =>
    rw [List.mapM_cons, hstep item (List.mem_cons_self ..),
      ih fun other hother => hstep other (List.mem_cons_of_mem _ hother)]
    rfl

/-- The listing asks only for words that the count covers, and these are never refused. -/
theorem wordCell?_eq {index : Nat} (hindex : index < packet.wordCount.toNat) :
    packet.wordCell? index = some (packet.wordCell index) := by
  have hcount := packet.wordCount.toNat_lt
  have hnumber : (UInt64.ofNat index).toNat = index :=
    UInt64.toNat_ofNat_of_lt' (by simp only [UInt64.size]; omega)
  have hword : packet.parameter (UInt64.ofNat index) =
      .ok (packet.wordAt (wordsStart + 2 * index)) := by
    rw [parameter, if_neg (by omega), wordOffset, hnumber, wordsStart]
  rw [wordCell?, parameter?_eq, Option.bind_eq_bind, Option.bind_some, hword, wordCell]
  rfl

@[simp]
theorem wordLine?_eq (row : Nat) : packet.wordLine? row = some (packet.wordLine row) := by
  have hcells : ∀ indices : List Nat,
      (indices.filter (· < packet.wordCount.toNat)).mapM packet.wordCell? =
        some ((indices.filter (· < packet.wordCount.toNat)).map packet.wordCell) :=
    fun indices => mapM_eq_some fun index hindex =>
      packet.wordCell?_eq (by simpa using (List.mem_filter.mp hindex).2)
  simp only [wordLine?, wordLine, wordCount?_eq, hcells, Option.bind_eq_bind, Option.bind_some,
    List.flatMap_map]

@[simp]
theorem wordLines?_eq : packet.wordLines? = some packet.wordLines := by
  rw [wordLines?, wordCount?_eq, Option.bind_eq_bind, Option.bind_some, wordLines]
  exact mapM_eq_some fun row _ => packet.wordLine?_eq row

@[simp]
theorem statusLine?_eq : packet.statusLine? = some packet.statusLine := by
  simp only [statusLine?, flags2?_eq, field?_eq, Option.bind_eq_bind, Option.bind_some]
  rw [← apply_ite some]
  rfl

@[simp]
theorem responseLines?_eq : packet.responseLines? =
    some (if packet.isResponse then [packet.statusLine] else []) := by
  simp only [responseLines?, flags?_eq, statusLine?_eq, Option.bind_eq_bind, Option.bind_some]
  rw [← apply_ite some]
  rfl

@[simp]
theorem signatureLines?_eq : packet.signatureLines? =
    some (if packet.hasSecuritySignature then
      ["Signature: " ++ String.ofList (Hex.lower 16 packet.signature.toNat)] else []) := by
  simp only [signatureLines?, flags2?_eq, field?_eq, Option.bind_eq_bind, Option.bind_some]
  rw [← apply_ite some]
  rfl

@[simp]
theorem dump?_eq : packet.dump? = some packet.dump := by
  have hroom : headerRoom ≤ packet.byteOffset :=
    Nat.le_trans (by decide) packet.le_byteOffset
  simp only [dump?, field?_eq, flags?_eq, flags2?_eq, totalLength?_eq, byteOffset?_eq,
    byteCount?_eq, wordCount?_eq, wordLines?_eq, responseLines?_eq, signatureLines?_eq,
    difference?_eq hroom, Option.bind_eq_bind, Option.bind_some]
  rfl

@[simp]
theorem hexDump?_eq : packet.hexDump? = some packet.hexDump := by
  have hminimum := packet.minimum_le_length
  have hlisted : packet.buffer.range? headerRoom
      (min (headerRoom + packet.totalLength) packet.capacity) = some packet.listedBytes :=
    Bytes.range?_min (by rw [headerRoom]; omega)
  simp only [hexDump?, totalLength?_eq, hlisted, Option.bind_eq_bind, Option.bind_some]
  rfl

@[simp]
theorem resetBytePointer?_eq : packet.resetBytePointer? = some packet.resetBytePointer := by
  simp only [resetBytePointer?, byteOffset?_eq, byteCount?_eq, Option.bind_eq_bind,
    Option.bind_some, resetBytePointer]

@[simp]
theorem textAt?_eq (start limit : Nat) (unicode : Bool) :
    packet.textAt? start limit unicode = some (packet.textAt start limit unicode) := by
  cases unicode with
  | true => exact Bytes.readUtf16?_eq packet.buffer start limit
  | false => exact Bytes.readLatin?_eq packet.buffer start limit

@[simp]
theorem unpackString?_eq (unicode : Bool) :
    packet.unpackString? unicode = packet.unpackString unicode := by
  rw [unpackString?, unpackString]
  cases packet.textStart? unicode with
  | none => rfl
  | some start =>
    simp only [textAt?_eq, Option.bind_eq_bind, Option.bind_some, Option.map_some]
    cases packet.textAt start maximumString unicode <;> rfl

end Answers

/-- Induction on how many strings are still unpacked; the packet changes from step to step. -/
@[simp]
theorem unpackStrings?_eq (packet : Packet) (count : Nat) :
    packet.unpackStrings? count = packet.unpackStrings count := by
  induction count generalizing packet with
  | zero => rfl
  | succ count ih =>
    rw [unpackStrings?, unpackStrings]
    by_cases hmore : packet.hasMoreData
    · rw [if_pos hmore, if_pos hmore]
      simp only [flags2?_eq, unpackString?_eq, Option.bind_eq_bind, Option.bind_some, isUnicode]
      rcases packet.unpackString (packet.flags2 &&& 0x8000 != 0) with _ | ⟨fault | text, after⟩
      · rfl
      · rfl
      · exact congrArg (Option.bind · fun rest => some ((.ok text, after.position) :: rest))
          (ih after)
    · rw [if_neg hmore, if_neg hmore]

/-! ## Receiving without a net -/

theorem patch?_eq (packet : Packet) {offset : Nat} {source : Bytes}
    (hinside : offset + source.length ≤ packet.capacity) :
    packet.patch? offset source = some (packet.patch offset source) :=
  if_pos hinside

@[simp]
theorem withCapacity?_eq (capacity : Nat) :
    withCapacity? capacity = some (withCapacity capacity) := by
  by_cases hcapacity : minimumCapacity ≤ capacity
  · have hroom : headerRoom + marker.length ≤ (Bytes.zeros capacity).length := by
      rw [Bytes.length_zeros]
      exact Nat.le_trans (by decide) hcapacity
    rw [withCapacity?, withCapacity, dif_pos hcapacity, dif_pos hcapacity]
    dsimp only
    rw [patch?_eq _ hroom, Option.map_some]
    rfl
  · rw [withCapacity?, withCapacity, dif_neg hcapacity, dif_neg hcapacity]

@[simp]
theorem ofMessage?_eq (message : Bytes) : ofMessage? message = some (ofMessage message) := by
  by_cases hshort : message.length < minimumMessage
  · rw [ofMessage?, ofMessage, if_pos hshort, if_pos hshort]
  · have hmarker : marker.length ≤ message.length :=
      Nat.le_trans (by decide) (Nat.le_of_not_lt hshort)
    rw [ofMessage?, ofMessage, if_neg hshort, if_neg hshort, Bytes.range?_zero hmarker,
      Option.bind_eq_bind, Option.bind_some]
    by_cases hother : message.take marker.length ≠ marker
    · rw [if_pos hother, if_pos hother]
    · have hcapacity : minimumCapacity ≤ max (headerRoom + message.length) defaultCapacity :=
        Nat.le_trans (by decide) (Nat.le_max_right _ _)
      have hroom : headerRoom + message.length ≤ (blank _ hcapacity).capacity := by
        simp only [blank, capacity, Bytes.length_patch, Bytes.length_zeros]
        exact Nat.le_max_left _ _
      have hcommand : UInt8.ofNat (((blank _ hcapacity).patch headerRoom message).get .command) =
          message.byteAt 4 :=
        command_fill (by rw [messageRoom, headerRoom] at *; omega) (Nat.le_of_not_lt hshort)
      rw [if_neg hother, if_neg hother]
      simp only [withCapacity?_eq, withCapacity, dif_pos hcapacity, Option.bind_some,
        patch?_eq _ hroom, field?_eq, Option.bind_eq_bind, hcommand]

/-! ## Every question -/

/-- An answer is given, or the range that leaves the buffer is reported. -/
def Checked {α : Type} (packet : Packet) (answer : Except Fault α) : Prop :=
  (∃ value, answer = .ok value) ∨
    ∃ offset length, answer = .error (packet.buffer.overflow offset length)

/-- Every question that can be asked about the packet is answered by what lies inside its buffer,
and every checked reading says so where it cannot answer. -/
structure Inspected (packet : Packet) : Prop where
  hasMarker_eq : packet.hasMarker? = some packet.hasMarker
  field_eq : ∀ field, packet.field? field = some (packet.get field)
  signatureBytes_eq : packet.signatureBytes? = some packet.signatureBytes
  andxCommand_eq : packet.andxCommand? = some packet.andxCommand
  parameter_eq : ∀ index, packet.parameter? index = some (packet.parameter index)
  parameter_ok : ∀ index, index.toNat ≤ packet.wordCount.toNat →
    ∃ word, packet.parameter? index = some (.ok word)
  byteOffset_eq : packet.byteOffset? = some packet.byteOffset
  byteCount_eq : packet.byteCount? = some packet.byteCount
  totalLength_eq : packet.totalLength? = some packet.totalLength
  status_eq : packet.status? = some packet.status
  checkForError_eq : packet.checkForError? = some packet.checkForError
  bytes_eq : packet.bytes? = some packet.bytes
  message_eq : packet.message? = some packet.message
  frame_eq : packet.frame? = some packet.frame
  dump_eq : packet.dump? = some packet.dump
  hexDump_eq : packet.hexDump? = some packet.hexDump
  resetBytePointer_eq : packet.resetBytePointer? = some packet.resetBytePointer
  bytes_checked : packet.Checked packet.bytes
  message_checked : packet.Checked packet.message
  frame_checked : packet.Checked packet.frame
  unpackString_eq : ∀ unicode, (unicode = true → packet.position + 1 < positionSpan) →
    ∃ result after, packet.unpackString? unicode = some (result, after) ∧
      packet.unpackString unicode = some (result, after) ∧ packet.Checked result
  unpackStrings_eq : packet.limit < positionSpan → ∀ count,
    ∃ steps, packet.unpackStrings? count = some steps ∧ packet.unpackStrings count = some steps ∧
      ∀ step ∈ steps, packet.Checked step.1
  byteStrings_eq : ∀ count, ∃ steps, packet.resetBytePointer.unpackStrings? count = some steps ∧
    packet.resetBytePointer.unpackStrings count = some steps ∧
      ∀ step ∈ steps, packet.Checked step.1

theorem checked_read (packet : Packet) (offset length : Nat) :
    packet.Checked (packet.buffer.read offset length) := by
  rw [Bytes.read]
  split
  · exact .inl ⟨_, rfl⟩
  · exact .inr ⟨_, _, rfl⟩

theorem checked_frame (packet : Packet) : packet.Checked packet.frame := by
  rw [frame_eq]
  split
  · exact .inl ⟨_, rfl⟩
  · exact .inr ⟨_, _, rfl⟩

section UnpackString

variable {packet : Packet} {unicode : Bool} {attempt : Attempt String}

/-- Where a string starts is known unless it is aligned behind the last position. -/
theorem exists_unpackString (haddress : unicode = true → packet.position + 1 < positionSpan) :
    ∃ attempt, packet.unpackString unicode = some attempt :=
  ⟨_, congrArg (Option.map _) (textStart?_eq_some_iff.mpr ⟨haddress, rfl⟩)⟩

/-- Unpacking moves the cursor and leaves the rest of the packet alone. -/
theorem frame_of_unpackString (hunpack : packet.unpackString unicode = some attempt) :
    attempt.2.buffer = packet.buffer ∧ attempt.2.limit = packet.limit := by
  obtain ⟨start, -, rfl⟩ := Option.map_eq_some_iff.mp hunpack
  split <;> exact ⟨rfl, rfl⟩

theorem checked_of_unpackString (hunpack : packet.unpackString unicode = some attempt) :
    packet.Checked attempt.1 := by
  obtain ⟨start, -, rfl⟩ := Option.map_eq_some_iff.mp hunpack
  cases htext : packet.textAt start maximumString unicode with
  | ok text => exact .inl ⟨_, rfl⟩
  | error fault =>
    have hoverflow : ∃ offset length, fault = packet.buffer.overflow offset length := by
      cases unicode with
      | true => exact Bytes.exists_overflow_of_readUtf16 htext
      | false => exact Bytes.exists_overflow_of_readLatin htext
    obtain ⟨offset, length, rfl⟩ := hoverflow
    exact .inr ⟨offset, length, rfl⟩

/-- While there is more data the cursor is in front of a position, and so is not the last one. -/
theorem exists_unpackString_of_hasMoreData (hlimit : packet.limit < positionSpan)
    (hmore : packet.hasMoreData = true) (unicode : Bool) :
    ∃ attempt, packet.unpackString unicode = some attempt := by
  have hfront : packet.position < packet.limit := of_decide_eq_true hmore
  exact exists_unpackString fun _ => Nat.lt_of_le_of_lt hfront hlimit

end UnpackString

theorem exists_unpackStrings {packet : Packet} (hlimit : packet.limit < positionSpan)
    (count : Nat) :
    ∃ steps, packet.unpackStrings count = some steps ∧ ∀ step ∈ steps, packet.Checked step.1 := by
  induction count generalizing packet with
  | zero => exact ⟨[], rfl, fun step hstep => absurd hstep List.not_mem_nil⟩
  | succ count ih =>
    rw [unpackStrings]
    cases hmore : packet.hasMoreData with
    | false => exact ⟨[], rfl, fun step hstep => absurd hstep List.not_mem_nil⟩
    | true =>
      obtain ⟨⟨result, after⟩, hstring⟩ :=
        exists_unpackString_of_hasMoreData hlimit hmore packet.isUnicode
      obtain ⟨hbuffer, hsame⟩ := frame_of_unpackString hstring
      have hchecked := checked_of_unpackString hstring
      rw [if_pos rfl, hstring]
      cases result with
      | error fault =>
        refine ⟨_, rfl, fun step hstep => ?_⟩
        rw [List.mem_singleton.mp hstep]
        exact hchecked
      | ok text =>
        obtain ⟨steps, hsteps, hrest⟩ := ih (by rw [hsame]; exact hlimit)
        simp only [Option.bind_eq_bind, Option.bind_some, hsteps]
        refine ⟨_, rfl, fun step hstep => ?_⟩
        rcases List.mem_cons.mp hstep with rfl | hlater
        · exact hchecked
        · have hstepped := hrest step hlater
          rwa [Checked, hbuffer] at hstepped

theorem limit_resetBytePointer_lt (packet : Packet) :
    packet.resetBytePointer.limit < positionSpan := by
  have hoffset := packet.byteOffset_le
  have hcount := packet.byteCount.toNat_lt
  change packet.byteOffset + packet.byteCount.toNat < positionSpan
  rw [positionSpan, UInt64.size]
  omega

/-- Whatever is received, and whatever a buffer of at least `minimumCapacity` bytes holds, wherever
its cursor stands: nothing that is asked about a packet looks outside the buffer, and the strings of
the byte area can be gone through. -/
theorem inspected_of_any_contents :
    (∀ message, ofMessage? message = some (ofMessage message)) ∧
      ∀ packet : Packet, packet.Inspected := by
  refine ⟨ofMessage?_eq, fun packet => ?_⟩
  refine
    { hasMarker_eq := packet.hasMarker?_eq
      field_eq := packet.field?_eq
      signatureBytes_eq := packet.signatureBytes?_eq
      andxCommand_eq := packet.andxCommand?_eq
      parameter_eq := packet.parameter?_eq
      parameter_ok := ?_
      byteOffset_eq := packet.byteOffset?_eq
      byteCount_eq := packet.byteCount?_eq
      totalLength_eq := packet.totalLength?_eq
      status_eq := packet.status?_eq
      checkForError_eq := packet.checkForError?_eq
      bytes_eq := packet.bytes?_eq
      message_eq := packet.message?_eq
      frame_eq := packet.frame?_eq
      dump_eq := packet.dump?_eq
      hexDump_eq := packet.hexDump?_eq
      resetBytePointer_eq := packet.resetBytePointer?_eq
      bytes_checked := packet.checked_read _ _
      message_checked := packet.checked_read _ _
      frame_checked := packet.checked_frame
      unpackString_eq := ?_
      unpackStrings_eq := ?_
      byteStrings_eq := ?_ }
  · intro index hindex
    rw [parameter?_eq, parameter, if_neg (Nat.not_lt_of_le hindex)]
    exact ⟨_, rfl⟩
  · intro unicode haddress
    obtain ⟨⟨result, after⟩, hstring⟩ := exists_unpackString haddress
    exact ⟨result, after, (packet.unpackString?_eq unicode).trans hstring, hstring,
      checked_of_unpackString hstring⟩
  · intro hlimit count
    obtain ⟨steps, hsteps, hchecked⟩ := exists_unpackStrings hlimit count
    exact ⟨steps, (packet.unpackStrings?_eq count).trans hsteps, hsteps, hchecked⟩
  · intro count
    obtain ⟨steps, hsteps, hchecked⟩ :=
      exists_unpackStrings packet.limit_resetBytePointer_lt count
    exact ⟨steps, (unpackStrings?_eq _ count).trans hsteps, hsteps, hchecked⟩

end SmbExchange.Packet
