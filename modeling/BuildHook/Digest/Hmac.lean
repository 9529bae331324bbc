import BuildHook.Digest.Sha256

/-!
# Keyed digests

The keyed SHA-256 digest of a message: the key is brought to one block and mixed, in two different
ways, in front of the message and in front of the inner digest.
-/

namespace BuildHook.Hmac

/-- Bytes in one block. -/
def blockLength : Nat := 64

/-- A key of one block: a longer key is replaced by its digest, a shorter one is filled with
zeros. -/
def blockKey (key : Bytes) : Bytes :=
  let key := if blockLength < key.length then Sha256.hash key else key
  key ++ List.replicate (blockLength - key.length) 0

/-- The keyed digest of a message. -/
def digest (key message : Bytes) : Bytes :=
  let key := blockKey key
  Sha256.hash
    (key.map (· ^^^ 0x5c) ++ Sha256.hash (key.map (· ^^^ 0x36) ++ message))

/-- A keyed digest has thirty-two bytes. -/
theorem digest_length (key message : Bytes) : (digest key message).length = 32 := rfl

end BuildHook.Hmac
