import SessionEngine.Crypto.Digest

/-! Random values and keys. Nothing is left to chance: a side draws from a seed, so that the same seed
gives the same run. Keys follow from a secret and from what they are tied to. -/

namespace SessionEngine.Tls.Secret

open Crypto (Digest)

/-- What the side with seed `seed` draws for `purpose`, in 64 bytes. -/
def draw (seed : Nat) (purpose : String) : Bytes :=
  Digest.sha512.code (Bytes.word seed) (Bytes.ofString purpose)

/-- What follows from `secret` for `purpose`, tied to `context`. -/
def derive (secret : Bytes) (purpose : String) (context : Bytes) : Bytes :=
  Digest.sha256.code secret (Bytes.ofString purpose ++ context)

end SessionEngine.Tls.Secret
