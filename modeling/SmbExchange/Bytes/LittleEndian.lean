import SmbExchange.Bytes.Basic

/-!
# Little-endian numbers

Numbers on the wire are written with the least significant byte first.  `encode` writes a number in
a fixed number of bytes and `decode` reads any number of bytes; each undoes the other up to the
width.
-/

namespace SmbExchange.LittleEndian

/-- The `width` low bytes of `value`, least significant first. -/
def encode : (width : Nat) → (value : Nat) → Bytes
  | 0, _ => []
  | width + 1, value => UInt8.ofNat value :: encode width (value / 256)

/-- The number whose bytes are given, least significant first. -/
def decode : Bytes → Nat
  | [] => 0
  | byte :: rest => byte.toNat + 256 * decode rest

/-- How many numbers so many bytes can hold. -/
def span : (width : Nat) → Nat
  | 0 => 1
  | width + 1 => 256 * span width

@[simp]
theorem length_encode (width value : Nat) : (encode width value).length = width := by
  induction width generalizing value with
  | zero => rfl
  | succ width ih => simp [encode, ih]

theorem decode_encode (width value : Nat) : decode (encode width value) = value % span width := by
  induction width generalizing value with
  | zero => simp [encode, decode, span, Nat.mod_one]
  | succ width ih =>
    have hsplit := @Nat.mod_mul 256 (span width) value
    simp only [encode, decode, ih, UInt8.toNat_ofNat', span, hsplit]

theorem encode_decode (bytes : Bytes) : encode bytes.length (decode bytes) = bytes := by
  induction bytes with
  | nil => rfl
  | cons byte rest ih =>
    simp only [List.length_cons, encode, decode]
    have hlow : byte.toNat < 256 := byte.toNat_lt
    have hquotient : (byte.toNat + 256 * decode rest) / 256 = decode rest := by omega
    rw [hquotient, ih]
    congr 1
    apply UInt8.toNat.inj
    simp only [UInt8.toNat_ofNat']
    omega

def ofWord (value : UInt16) : Bytes := encode 2 value.toNat

def ofLong (value : UInt32) : Bytes := encode 4 value.toNat

def ofQuad (value : UInt64) : Bytes := encode 8 value.toNat

def toByte (bytes : Bytes) : UInt8 := UInt8.ofNat (decode bytes)

def toWord (bytes : Bytes) : UInt16 := UInt16.ofNat (decode bytes)

/-- The long word that a string holds. -/
def toLong (bytes : Bytes) : UInt32 := UInt32.ofNat (decode bytes)

/-- The quad word that a string holds. -/
def toQuad (bytes : Bytes) : UInt64 := UInt64.ofNat (decode bytes)

end SmbExchange.LittleEndian
