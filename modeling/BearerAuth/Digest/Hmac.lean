import BearerAuth.Digest.Sha256
import BearerAuth.Digest.Sha512

/-!
# HMAC

Keyed digests as RFC 2104 builds them from SHA-256, SHA-384 and SHA-512.

- `Hmac.Hash`: the three hash functions.
- `Hash.mac key message`: the code that authenticates `message` under `key`.
-/

namespace BearerAuth.Digest.Hmac

/-- The hash functions that codes are built from. -/
inductive Hash where
  | sha256
  | sha384
  | sha512
  deriving DecidableEq, Repr

namespace Hash

/-- The plain digest of a message. -/
def digest : Hash → List UInt8 → List UInt8
  | sha256 => Sha256.digest
  | sha384 => Sha512.digest384
  | sha512 => Sha512.digest

/-- The bytes that the hash absorbs at a time. -/
def blockSize : Hash → Nat
  | sha256 => 64
  | sha384 => 128
  | sha512 => 128

/-- The key as one block: a key that is too long is hashed, a shorter one is
filled up with zeros. -/
def keyBlock (h : Hash) (key : List UInt8) : List UInt8 :=
  let short := if key.length ≤ h.blockSize then key else h.digest key
  short ++ List.replicate (h.blockSize - short.length) 0

/-- The message authentication code of `message` under `key`. -/
def mac (h : Hash) (key message : List UInt8) : List UInt8 :=
  let block := h.keyBlock key
  h.digest (block.map (· ^^^ 0x5c) ++ h.digest (block.map (· ^^^ 0x36) ++ message))

end Hash

end BearerAuth.Digest.Hmac
