/-
# Message authentication with SHA-256

A key fills a block of 64 bytes: one that is longer is hashed first, and zeros
follow one that is shorter. A message is authenticated by hashing it behind the
key's inner block, and the outcome behind its outer block. Both blocks depend on
the key alone, so `Key` holds the states they lead to.

Key definitions: `Key`, `Key.ofSecret`, `Key.authenticate`.
-/
import UserAccounts.Crypto.Sha256

namespace UserAccounts.Hmac

structure Key where
  inner : Sha256.State
  outer : Sha256.State
deriving DecidableEq, Repr

/-- The block of 64 bytes that a secret fills. -/
def keyBlock (secret : Bytes) : Bytes :=
  let key := if 64 < secret.length then Sha256.hash secret else secret
  key ++ List.replicate (64 - key.length) 0

def Key.ofSecret (secret : Bytes) : Key :=
  let block := keyBlock secret
  { inner := Sha256.absorb .initial (block.map (· ^^^ 0x36))
    outer := Sha256.absorb .initial (block.map (· ^^^ 0x5C)) }

def Key.authenticate (key : Key) (message : Bytes) : Bytes :=
  Sha256.finish key.outer 64 (Sha256.finish key.inner 64 message)

end UserAccounts.Hmac
