import SmbExchange.Proofs.Packet.Described
import SmbExchange.Proofs.Packet.Fields

/-!
# The layout of a message

A message is the marker, the header fields, the number of parameter words, the
words, the byte count and the byte area.  `LaidOut` gives the place of each of
them, counted from the marker, without any packet.  A packet that shows a
message laid out like this reads all of its parts back.
-/

namespace SmbExchange.Packet

open LittleEndian (encode decode span ofWord toWord)

structure Contents where
  command : UInt8
  /-- The header fields behind the command, in the order in which they are set. -/
  settings : FieldSettings
  words : List UInt16
  payload : Bytes
  settings_behind_command : ∀ setting ∈ settings,
    setting.1 ≠ .command ∧ setting.1 ≠ .wordCount
  length_words_le : words.length ≤ 255
  length_payload_le : payload.length ≤ 65535

namespace Contents

variable (contents : Contents)

/-- The number of bytes from the marker to the end of the byte area. -/
def messageLength : Nat :=
  35 + 2 * contents.words.length + contents.payload.length

/-- Every part of the message stands at its place. -/
structure LaidOut (message : Bytes) : Prop where
  length_eq : message.length = contents.messageLength
  marker_eq : message.slice 0 4 = marker
  command_eq : message.byteAt 4 = contents.command
  field_eq : ∀ field value, field ≠ .command → field ≠ .wordCount →
    contents.settings.Leaves field value →
      message.slice (field.offset - headerRoom) field.width = encode field.width value
  wordCount_eq : (message.byteAt 32).toNat = contents.words.length
  word_eq : ∀ index word, contents.words[index]? = some word →
    message.slice (33 + 2 * index) 2 = ofWord word
  byteCount_eq : message.slice (33 + 2 * contents.words.length) 2 =
    ofWord (UInt16.ofNat contents.payload.length)
  payload_eq : message.slice (35 + 2 * contents.words.length) contents.payload.length =
    contents.payload

/-- The packet reads every part of the message as it was given. -/
structure ReadFrom (message : Bytes) (packet : Packet) : Prop where
  command_eq : packet.command = contents.command
  field_eq : ∀ field value, field ≠ .command → field ≠ .wordCount →
    contents.settings.Leaves field value → packet.get field = value % span field.width
  wordCount_eq : packet.wordCount.toNat = contents.words.length
  parameter_eq : ∀ index word, contents.words[index.toNat]? = some word →
    packet.parameter index = .ok word
  byteCount_eq : packet.byteCount.toNat = contents.payload.length
  bytes_eq : packet.bytes = .ok contents.payload
  totalLength_eq : packet.totalLength = message.length
  message_eq : packet.message = .ok message

end Contents

section ReadFrom

variable {contents : Contents} {message : Bytes} {packet : Packet}

theorem declaredWords_of_laidOut (hlaid : contents.LaidOut message) :
    declaredWords message = contents.words.length :=
  hlaid.wordCount_eq

theorem declaredBytes_of_laidOut (hlaid : contents.LaidOut message) :
    declaredBytes message = contents.payload.length := by
  have hcount : contents.payload.length % 65536 = contents.payload.length :=
    Nat.mod_eq_of_lt (Nat.lt_succ_of_le contents.length_payload_le)
  rw [declaredBytes, declaredWords_of_laidOut hlaid, hlaid.byteCount_eq,
    LittleEndian.toWord_ofWord, UInt16.toNat_ofNat', hcount]

theorem length_of_laidOut (hlaid : contents.LaidOut message) :
    message.length = declaredStart message + declaredBytes message := by
  rw [hlaid.length_eq, declaredBytes_of_laidOut hlaid, declaredStart,
    declaredWords_of_laidOut hlaid, Contents.messageLength]

theorem describesItself_of_laidOut (hlaid : contents.LaidOut message) :
    DescribesItself message :=
  (length_of_laidOut hlaid).symm

/-- A packet that shows a message of this layout reads it as it was given. -/
theorem readFrom_of_shows (hlaid : contents.LaidOut message) (hshows : packet.Shows message)
    (hroom : headerRoom + message.length ≤ packet.capacity) :
    contents.ReadFrom message packet := by
  have hreads := reads_of_shows hshows (describesItself_of_laidOut hlaid) hroom
  have hwords := declaredWords_of_laidOut hlaid
  have hbytes := declaredBytes_of_laidOut hlaid
  have hlength := length_of_laidOut hlaid
  have hstart : declaredStart message = 35 + 2 * contents.words.length := by
    rw [declaredStart, hwords]
  constructor
  · exact hreads.command_eq.trans hlaid.command_eq
  · intro field value hcommand hcount hleaves
    have hfield := field.offset_add_width_le_wordsStart
    rw [wordsStart] at hfield
    rw [get_of_shows hshows field (by rw [headerRoom]; omega),
      hlaid.field_eq field value hcommand hcount hleaves, LittleEndian.decode_encode]
  · exact hreads.wordCount_eq.trans hwords
  · intro index word hword
    have hindex : index.toNat < declaredWords message :=
      hwords ▸ (List.getElem?_eq_some_iff.mp hword).1
    rw [hreads.parameter_eq index hindex, hlaid.word_eq index.toNat word hword,
      LittleEndian.toWord_ofWord]
  · exact hreads.byteCount_eq.trans hbytes
  · have hrest : message.drop (declaredStart message) = contents.payload := by
      rw [← hlaid.payload_eq, ← hstart, Bytes.slice, List.take_of_length_le]
      rw [List.length_drop]
      omega
    rw [hreads.bytes_eq, hrest]
  · rw [totalLength_of_shows hshows (by omega), hlength]
  · exact hreads.message_eq

end ReadFrom

end SmbExchange.Packet
