import SmbExchange.Digest.Sha256

/-!
# HMAC-SHA256

A keyed hash: the key, stretched to one block, goes in front of the message with one mask and in
front of that hash with another.  A key longer than a block is replaced by its hash.
-/

namespace SmbExchange.Hmac

def blockLength : Nat := 64

/-- A key stretched to one block. -/
def blockKey (key : Bytes) : Bytes :=
  let short := if blockLength < key.length then Sha256.hash key else key
  short ++ Bytes.zeros (blockLength - short.length)

def tag (key message : Bytes) : Bytes :=
  let block := blockKey key
  let inner := Sha256.hash (block.map (· ^^^ 0x36) ++ message)
  Sha256.hash (block.map (· ^^^ 0x5C) ++ inner)

@[simp]
theorem length_tag (key message : Bytes) : (tag key message).length = 32 := by
  simp [tag]

end SmbExchange.Hmac
