import SessionEngine.Tls.Group
import SessionEngine.Tls.Wire

/-! How two sides of version 1.2 tell each other their shares of a secret: the server names the group and
signs what it says, the client just answers. -/

namespace SessionEngine.Tls

open Wire Wire.Reader

/-- What a server tells of its share of a secret. -/
structure KeyExchange where
  group : Nat
  share : Bytes
  /-- The scheme of the signature. -/
  scheme : Nat
  signature : Bytes
  deriving DecidableEq, Repr, Inhabited

namespace KeyExchange

/-- The number that says that a group follows by its number. -/
def named : Nat := 3

/-- The part that is signed, for a group and a share. -/
def parameters (group : Nat) (share : Bytes) : Bytes :=
  UInt8.ofNat named :: word16 group ++ vector 1 share

/-- The written form. -/
def encode (k : KeyExchange) : Bytes :=
  parameters k.group k.share ++ word16 k.scheme ++ vector 2 k.signature

/-- Reads the written form. -/
def reader : Reader KeyExchange := do
  if (← number 1 "ECCurveType") ≠ named then throw .missingKeyExchange
  let group ← number 2 "NamedGroup"
  let share ← filled u8
  let scheme ← number 2 "SignatureScheme"
  let signature ← opaqueBytes u16
  done "ServerKeyExchange"
  return { group, share, scheme, signature }

/-- What `body` tells; it is corrupt in one way only. -/
def decode (body : Bytes) : Except Corruption KeyExchange :=
  (reader.ofBytes body).mapError fun _ => .missingKeyExchange

/-- What is signed for a handshake with the two random values. -/
def signed (clientRandom serverRandom : Bytes) (group : Nat) (share : Bytes) : Bytes :=
  clientRandom ++ serverRandom ++ parameters group share

/-- The written form of the client's share. -/
def encodeAnswer (share : Bytes) : Bytes := vector 1 share

/-- The client's share, and what follows it. -/
def decodeAnswer (body : Bytes) : Except Corruption (Bytes × Bytes) := filled u8 body

end KeyExchange

end SessionEngine.Tls
