import SessionEngine.Tls.ServerName
import SessionEngine.Tls.Wire

/-! Extensions of the messages of a handshake: a number and a body each. An extension comes at most once,
and the body of a known one is all of what it has to be. The main statement is `nodup_of_list`: no number
comes twice in a list that was read. -/

namespace SessionEngine.Tls

open Wire Wire.Reader

structure Extension where
  /-- The number of the extension. -/
  code : Nat
  body : Bytes
  deriving DecidableEq, Repr, Inhabited

namespace Extension

/-! ### Numbers -/

/-- The name by which the client calls the server. -/
def serverName : Nat := 0
/-- Proof that a certificate is still good. -/
def status : Nat := 5
/-- The groups in which to agree on a secret. -/
def groups : Nat := 10
/-- The forms of points. -/
def points : Nat := 11
/-- The schemes of signature. -/
def schemes : Nat := 13
/-- The protocols to speak afterwards. -/
def protocols : Nat := 16
def clientKinds : Nat := 19
def serverKinds : Nat := 20
/-- Keys depend on all that was said. -/
def extendedSecret : Nat := 23
/-- The ways in which certificates are compressed. -/
def compressors : Nat := 27
/-- Tickets to come back with. -/
def ticket : Nat := 35
def sharedKeys : Nat := 41
/-- Data before the handshake is over. -/
def earlyData : Nat := 42
/-- The versions of the protocol. -/
def versions : Nat := 43
/-- What a server wants to see again. -/
def cookie : Nat := 44
/-- How keys that were shared before are used. -/
def keyModes : Nat := 45
/-- The names of authorities. -/
def authorities : Nat := 47
/-- Shares of secrets. -/
def shares : Nat := 51
/-- The inner extensions that a hidden hello takes over. -/
def hiddenNames : Nat := 0xfd00
/-- A hello that is hidden in another one. -/
def hidden : Nat := 0xfe0d
/-- That the handshake is the first one of the connection. -/
def renegotiation : Nat := 0xff01

/-! ### Lists of extensions -/

/-- The written form of a list of extensions, without its length. -/
def encode (extensions : List Extension) : Bytes :=
  extensions.flatMap fun e => word16 e.code ++ vector 2 e.body

def verify (name : String) (check : Reader Unit) (body : Bytes) : Except Corruption Unit :=
  (do check; done name : Reader Unit).ofBytes body

/-- The next extension, which is none of those `seen` before. `check` reads the body of an extension by
its number, `name` names the list, and an extension with the number `final` has to be the last one. -/
def next (name : String) (final : Option Nat) (check : Nat → Reader Unit) (seen : List Extension) :
    Reader Extension := do
  let code ← number 2 "ExtensionType"
  let body ← opaqueBytes u16
  let left ← get
  if code ∈ seen.map (·.code) then throw (.duplicateExtension code)
  else match verify name (check code) body with
    | .error how => throw how
    | .ok () => if final = some code ∧ left ≠ [] then throw .keyNotLast else return ⟨code, body⟩

/-- At most `n` more extensions, until nothing is left. -/
def upTo (name : String) (final : Option Nat) (check : Nat → Reader Unit) :
    (n : Nat) → (seen : List Extension) → Reader (List Extension)
  | 0, seen => return seen
  | n + 1, seen => do
    if ← isDone then return seen
    else
      let e ← next name final check seen
      upTo name final check n (seen ++ [e])

/-- A list of extensions behind its length. -/
def list (name : String) (final : Option Nat) (check : Nat → Reader Unit) :
    Reader (List Extension) :=
  short u16 do upTo name final check (← get).length []

/-- What `r` reads of the body of the extension `code`, if it is there. -/
def find? {α : Type} (extensions : List Extension) (code : Nat) (r : Reader α) : Option α :=
  (extensions.find? (·.code == code)).bind fun e => (r.ofBytes e.body).toOption

/-! ### Bodies -/

/-- Reads nothing: the body is empty. -/
def empty : Reader Unit := done "Empty"

/-- Reads what is not looked at. -/
def anything : Reader Unit := do let _ ← rest

/-- Numbers of two bytes in a list that must not be empty. -/
def numbers (list item : String) : Reader (List Nat) := list16 list (number 2 item)

/-- What a client says of the name by which it calls the server. -/
inductive HostClaim where
  /-- A name, in lower case. -/
  | name (name : String)
  | address
  | malformed
  deriving DecidableEq, Repr, Inhabited

def HostClaim.ofBytes (data : Bytes) : HostClaim :=
  match String.fromUTF8? ⟨data.toArray⟩ with
  | some text =>
    match ServerName.parse text with
    | .ok (.dns host) => .name host.toLower
    | .ok _ => .address
    | .error _ => .malformed
  | none => .malformed

/-- At most `n` more names of the server, of which one may be the name of a host. What follows a name of
another type cannot be told apart and is passed over. -/
def hostNames : (n : Nat) → Option HostClaim → Reader HostClaim
  | 0, found => return found.getD .malformed
  | n + 1, found => do
    if ← isDone then return found.getD .malformed
    match ← number 1 "ServerNameType" with
    | 0 =>
      let data ← filled u16
      if found.isSome then throw .invalidServerName
      hostNames n (some (.ofBytes data))
    | _ =>
      let _ ← rest
      return found.getD .malformed

/-- The name by which a client calls the server. -/
def host : Reader HostClaim := short (positive u16 (.emptyList "ServerNames")) do
  hostNames (← get).length none

/-- A request for proof that a certificate is still good. -/
def statusRequest : Reader Unit := do
  match ← number 1 "CertificateStatusType" with
  | 1 =>
    let _ ← Reader.list u16 (opaqueBytes u16)
    let _ ← opaqueBytes u16
  | _ => anything

/-- A group and a share of a secret in it. -/
def share : Reader (Nat × Bytes) := do
  let group ← number 2 "NamedGroup"
  return (group, ← filled u16)

/-- How many keys that were shared before are named, and how many are bound to the hello. -/
def keys : Reader (Nat × Nat) := do
  let identities ← list16 "PskIdentities" do
    let _ ← filled u16
    u32
  let binders ← list16 "PskBinders" (filled u8)
  return (identities.length, binders.length)

def version : Reader Nat := number 2 "ProtocolVersion"

def hiddenHello : Reader Unit := do
  match ← number 1 "EchClientHelloType" with
  | 0 =>
    let _ ← number 2 "HpkeKdf"
    let _ ← number 2 "HpkeAead"
    let _ ← u8
    let _ ← opaqueBytes u16
    let _ ← filled u16
  | 1 => return
  | _ => throw .invalidContentType

/-- The protocols to speak afterwards. -/
def protocolNames : Reader (List Bytes) := list16 "ProtocolNames" (filled u8)

/-! ### Laws -/

theorem code_of_next {name : String} {final : Option Nat} {check : Nat → Reader Unit}
    {seen : List Extension} {e : Extension} {data rest : Bytes}
    (h : next name final check seen data = .ok (e, rest)) : e.code ∉ seen.map (·.code) := by
  obtain ⟨code, _, _, h⟩ := bind_eq_ok.mp h
  obtain ⟨body, _, _, h⟩ := bind_eq_ok.mp h
  obtain ⟨left, _, _, h⟩ := bind_eq_ok.mp h
  by_cases hc : code ∈ seen.map (·.code)
  · simp only [if_pos hc] at h
    cases h
  · simp only [if_neg hc] at h
    cases hb : verify name (check code) body with
    | error how => simp only [hb] at h; cases h
    | ok =>
      simp only [hb] at h
      by_cases hl : final = some code ∧ left ≠ []
      · simp only [if_pos hl] at h; cases h
      · simp only [if_neg hl] at h; cases h; exact hc

theorem nodup_of_upTo {name : String} {final : Option Nat} {check : Nat → Reader Unit} {n : Nat}
    {seen found : List Extension} {data rest : Bytes} (hs : (seen.map (·.code)).Nodup)
    (h : upTo name final check n seen data = .ok (found, rest)) : (found.map (·.code)).Nodup := by
  induction n generalizing seen data with
  | zero => cases h; exact hs
  | succ n ih =>
    obtain ⟨stop, _, _, h⟩ := bind_eq_ok.mp h
    cases stop with
    | true => cases h; exact hs
    | false =>
      obtain ⟨e, _, he, h⟩ := bind_eq_ok.mp h
      refine ih ?_ h
      rw [List.map_append, List.nodup_append]
      refine ⟨hs, by simp, ?_⟩
      simp only [List.map_cons, List.map_nil, List.mem_singleton]
      rintro a ha b rfl rfl
      exact code_of_next he ha

/-- No number comes twice in a list of extensions that was read. -/
theorem nodup_of_list {name : String} {final : Option Nat} {check : Nat → Reader Unit}
    {found : List Extension} {data rest : Bytes}
    (h : list name final check data = .ok (found, rest)) : (found.map (·.code)).Nodup := by
  obtain ⟨_, _, h⟩ := short_eq_ok h
  obtain ⟨_, _, _, h⟩ := bind_eq_ok.mp h
  have hnone : (([] : List Extension).map (·.code)).Nodup := List.nodup_nil
  exact nodup_of_upTo hnone h

end Extension

end SessionEngine.Tls
