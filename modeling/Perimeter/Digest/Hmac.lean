import Perimeter.Digest.Sha256

/-!
# `Perimeter.Digest.Hmac`: keyed digests

HMAC over SHA-256. A key longer than a block is hashed first, and every key is
filled up with zeros to one block.

* `length_blockKey`: the key used is one block long.
-/

set_option autoImplicit false

namespace Perimeter.Hmac

/-- The octets of one block of the hash function. -/
def blockLength : Nat := 64

/-- A key brought to the length of a block. -/
def blockKey (key : Bytes) : Bytes :=
  let short := if key.length > blockLength then (Sha256.digest key).bytes else key
  short ++ List.replicate (blockLength - short.length) 0

/-- The keyed digest of a message. -/
def tag (key message : Bytes) : Octets 32 :=
  let k := blockKey key
  let inner := Sha256.digest (k.map (· ^^^ 0x36) ++ message)
  Sha256.digest (k.map (· ^^^ 0x5c) ++ inner.bytes)

theorem length_blockKey (key : Bytes) : (blockKey key).length = blockLength := by
  have hshort : (if key.length > blockLength then (Sha256.digest key).bytes else key).length ≤
      blockLength := by
    split
    · rw [(Sha256.digest key).length_eq]; decide
    · omega
  simp only [blockKey, List.length_append, List.length_replicate]
  omega

end Perimeter.Hmac
