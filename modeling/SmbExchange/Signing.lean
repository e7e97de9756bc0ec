import SmbExchange.Bytes.LittleEndian
import SmbExchange.Digest.Hmac

/-!
# Signatures

A signature covers a whole message with the sequence number standing in place of the signature
field, so what the field held before does not matter.  Request and response of one exchange have
sequence numbers that follow each other.

Any function from byte strings to tags makes a signer; `Signer.hmac` takes the keyed hash.
-/

namespace SmbExchange

abbrev Signature := { bytes : Bytes // bytes.length = 8 }

structure Signer where
  /-- The signature of a message at a sequence number. -/
  sign : Bytes → UInt32 → Signature
  /-- The signature that a message carries is the one of a sequence number. -/
  verify : Bytes → UInt32 → Bool

namespace Signature

/-- Where the signature field of a message starts. -/
def fieldStart : Nat := 14

/-- Where the signature field of a message ends. -/
def fieldEnd : Nat := 22

/-- What is authenticated: the message with the sequence number in place of the signature field.  A
message that ends inside the field loses what it has of the field, one that ends before it loses
nothing. -/
def input (message : Bytes) (sequence : UInt32) : Bytes :=
  message.take fieldStart ++ (LittleEndian.encode 8 sequence.toNat ++ message.drop fieldEnd)

def embedded? (message : Bytes) : Option Signature :=
  let field := message.slice fieldStart 8
  if hlength : field.length = 8 then some ⟨field, hlength⟩ else none

end Signature

namespace Signer

abbrev Tag := { bytes : Bytes // bytes.length = 32 }

/-- The part of a tag that a signature field has room for. -/
def truncate (tag : Tag) : Signature :=
  ⟨tag.val.take 8, by simp [tag.property]⟩

/-- The signer made of a keyed hash. -/
def ofMac (mac : Bytes → Tag) : Signer where
  sign message sequence := truncate (mac (Signature.input message sequence))
  verify message sequence :=
    match Signature.embedded? message with
    | some found => found == truncate (mac (Signature.input message sequence))
    | none => false

/-- The signer with HMAC-SHA256 under a session key. -/
def hmac (key : Bytes) : Signer :=
  ofMac fun input => ⟨Hmac.tag key input, Hmac.length_tag key input⟩

/-- How a signer shows itself: never with its key. -/
def summary : String := "HmacSigner \x7b .. \x7d"

end Signer

end SmbExchange
