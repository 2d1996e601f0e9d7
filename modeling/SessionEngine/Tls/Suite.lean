import SessionEngine.Crypto.Digest
import SessionEngine.Tls.Key
import SessionEngine.Tls.Version

/-! Cipher suites: the version that each belongs to, its hash function, and by which keys a server signs
under it. The main statement is `ofCode?_code`: a suite is known by its number. -/

namespace SessionEngine.Tls

open Crypto (Digest)

/-- The kinds of key by which a server signs. -/
inductive Signer where
  /-- The suite says nothing about it. -/
  | any
  /-- Keys on curves of all forms. -/
  | elliptic
  | rsa
  deriving DecidableEq, Repr, Inhabited

namespace Signer

/-- Whether a key is of the kind. -/
def admits : Signer → PrivateKey → Bool
  | .any, _ | .rsa, .rsa .. | .elliptic, .ecdsa .. | .elliptic, .ed25519 _ => true
  | _, _ => false

/-- The schemes of signature that go with the kind and may be chosen. -/
def schemes : Signer → List Nat
  | .any => []
  | .elliptic => [0x0807, 0x0603, 0x0503, 0x0403]
  | .rsa => [0x0806, 0x0805, 0x0804, 0x0601, 0x0501, 0x0401]

/-- Whether a scheme of signature goes with the kind. -/
def goesWith : Signer → Nat → Bool
  | .any, _ => true
  | .elliptic, scheme => (0x0203 :: elliptic.schemes).contains scheme
  | .rsa, scheme => (0x0201 :: rsa.schemes).contains scheme

end Signer

/-- A cipher suite. -/
structure Suite where
  /-- The number of the suite. -/
  code : Nat
  version : Version
  digest : Digest
  signer : Signer
  deriving DecidableEq, Repr, Inhabited

namespace Suite

/-- The suites, best first. -/
def all : List Suite :=
  [⟨0x1302, .tls13, .sha384, .any⟩, ⟨0x1301, .tls13, .sha256, .any⟩, ⟨0x1303, .tls13, .sha256, .any⟩,
   ⟨0xc02c, .tls12, .sha384, .elliptic⟩, ⟨0xc02b, .tls12, .sha256, .elliptic⟩,
   ⟨0xcca9, .tls12, .sha256, .elliptic⟩, ⟨0xc030, .tls12, .sha384, .rsa⟩,
   ⟨0xc02f, .tls12, .sha256, .rsa⟩, ⟨0xcca8, .tls12, .sha256, .rsa⟩]

/-- The suite with a number. -/
def ofCode? (code : Nat) : Option Suite := all.find? (·.code == code)

/-- A suite is known by its number. -/
theorem ofCode?_code {s : Suite} (h : s ∈ all) : ofCode? s.code = some s := by
  revert s
  decide

end Suite

end SessionEngine.Tls
