import SmbExchange.Command
import SmbExchange.Packet.Status
import SmbExchange.Packet.Words

/-!
# Packets as text

Two listings for people: the decoded header with the parameter words, and the message bytes in
hexadecimal beside their characters, sixteen to a line.
-/

namespace SmbExchange

/-! ## Flag names -/

/-- Names of the first set of flags, lowest bit first. -/
def flagNames : List (UInt8 × String) :=
  [(0x01, "SubDialect"), (0x08, "Caseless"), (0x10, "Canonical"), (0x20, "Oplock"),
   (0x40, "Notify"), (0x80, "Response")]

/-- Names of the second set of flags, lowest bit first. -/
def flag2Names : List (UInt16 × String) :=
  [(0x0001, "LongFilenames"), (0x0002, "ExtAttributes"), (0x0004, "SecuritySignatures"),
   (0x0800, "ExtendedSetup"), (0x2000, "ReadIfEXE"), (0x4000, "LongErrorCode"),
   (0x8000, "Unicode")]

/-- The names of flags that are set, with commas between them. -/
def joinFlags (names : List String) : String :=
  if names.isEmpty then "<None>" else String.intercalate "," names

/-- The flags of the first set that are set. -/
def flagsText (value : UInt8) : String :=
  joinFlags ((flagNames.filter fun entry => value &&& entry.1 != 0).map Prod.snd)

/-- The flags of the second set that are set. -/
def flags2Text (value : UInt16) : String :=
  joinFlags ((flag2Names.filter fun entry => value &&& entry.1 != 0).map Prod.snd)

namespace Packet

/-! ## The decoded header -/

def padRight (width : Nat) (chars : List Char) : List Char :=
  chars ++ List.replicate (width - chars.length) ' '

def trimRight (chars : List Char) : List Char :=
  (chars.reverse.dropWhile fun char => char == ' ').reverse

/-- How many parameter words stand on a line. -/
def wordColumns : Nat := 4

/-- How wide the column of a parameter word is. -/
def wordColumnWidth : Nat := 20

/-- A parameter word with its number, counted from one, in decimal and hexadecimal. -/
def wordCell (packet : Packet) (index : Nat) : List Char :=
  let value := (packet.wordAt (wordsStart + 2 * index)).toNat
  let number := padRight 2 (toString (index + 1)).toList
  'P' :: number ++ ('=' :: (toString value).toList) ++ ['/', '0', 'x'] ++ Hex.lower 1 value

def wordLine (packet : Packet) (row : Nat) : String :=
  let indices := (List.range wordColumns).map (row * wordColumns + ·)
  let present := indices.filter (· < packet.wordCount.toNat)
  String.ofList (trimRight (present.flatMap fun index =>
    padRight wordColumnWidth (packet.wordCell index)))

def wordLines (packet : Packet) : List String :=
  let rows := (packet.wordCount.toNat + wordColumns - 1) / wordColumns
  (List.range rows).map packet.wordLine

def statusLine (packet : Packet) : String :=
  if packet.isLongErrorCode then
    let number := "Long error: 0x" ++ String.ofList (Hex.upper 8 packet.longErrorCode.toNat)
    match Status.ntName? packet.longErrorCode with
    | some name => number ++ " (" ++ name ++ ")"
    | none => number
  else "Error text: " ++ Status.legacyText packet.errorClass packet.errorCode

def dumpLines (packet : Packet) : List String :=
  ["SMB " ++ Command.name packet.command ++ (if packet.isResponse then " [Response]" else ""),
   "Packet Length: " ++ toString packet.totalLength,
   "Byte Offset: " ++ toString (packet.byteOffset - headerRoom) ++ ", Byte Count: "
     ++ toString packet.byteCount.toNat,
   "Flags: " ++ flagsText packet.flags,
   "Flags2: " ++ flags2Text packet.flags2]
  ++ (if packet.hasSecuritySignature then
        ["Signature: " ++ String.ofList (Hex.lower 16 packet.signature.toNat)] else [])
  ++ ["TID=" ++ toString packet.treeId.toNat ++ ", PID=" ++ toString packet.processId.toNat
        ++ ", UID=" ++ toString packet.userId.toNat ++ ", MID="
        ++ toString packet.multiplexId.toNat,
      "Parameter Words: " ++ toString packet.wordCount.toNat]
  ++ packet.wordLines
  ++ (if packet.isResponse then [packet.statusLine] else [])

def dump (packet : Packet) : String :=
  String.intercalate "\n" packet.dumpLines

/-- A short summary for debugging. -/
def summary (packet : Packet) : String :=
  "SmbPacket \x7b command: " ++ toString packet.command.toNat
    ++ ", flags: " ++ toString packet.flags.toNat
    ++ ", flags2: " ++ toString packet.flags2.toNat
    ++ ", mid: " ++ toString packet.multiplexId.toNat
    ++ ", parameter_count: " ++ toString packet.wordCount.toNat
    ++ ", byte_count: " ++ toString packet.byteCount.toNat
    ++ ", capacity: " ++ toString packet.capacity
    ++ ", pos: " ++ toString packet.position ++ " \x7d"

/-! ## The bytes -/

def bytesPerLine : Nat := 16

/-- The character shown for a byte: itself where it is a blank or a printable ASCII character. -/
def shownChar (byte : UInt8) : Char :=
  if 0x20 ≤ byte ∧ byte ≤ 0x7E then Char.ofNat byte.toNat else '.'

/-- One line of the byte listing: offset, up to sixteen bytes in hexadecimal, their characters. -/
def hexLine (row : Nat) (bytes : Bytes) : List Char :=
  Hex.lower 4 (bytesPerLine * row) ++ [':', ' ']
    ++ bytes.flatMap (fun byte => Hex.ofByte byte ++ [' '])
    ++ List.replicate (3 * (bytesPerLine - bytes.length)) ' '
    ++ bytes.map shownChar

/-- The lines of a byte listing from a given row on. -/
def hexLinesFrom (row : Nat) (bytes : Bytes) : List (List Char) :=
  if hempty : bytes = [] then []
  else
    hexLine row (bytes.take bytesPerLine) :: hexLinesFrom (row + 1) (bytes.drop bytesPerLine)
  termination_by bytes.length
  decreasing_by
    have hpositive := List.length_pos_iff.mpr hempty
    simp only [List.length_drop, bytesPerLine]
    omega

/-- The bytes that are listed: the message, as far as it lies inside the buffer. -/
def listedBytes (packet : Packet) : Bytes :=
  packet.buffer.slice headerRoom packet.totalLength

def hexLines (packet : Packet) : List (List Char) :=
  hexLinesFrom 0 packet.listedBytes

/-- The byte listing of a message, every line ended. -/
def hexDump (packet : Packet) : String :=
  String.ofList (packet.hexLines.flatMap fun line => line ++ ['\n'])

end Packet

end SmbExchange
