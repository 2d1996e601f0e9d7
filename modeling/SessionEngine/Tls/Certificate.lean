import SessionEngine.Tls.Fault
import SessionEngine.Tls.ServerName
import SessionEngine.Tls.Signature

/-! Certificates: how they are written, who vouches for whom, and the names that they speak for. No
clock is asked, so the time for which a certificate is valid is read and not looked at. The main
statement is `trusted_mono`: what is trusted with some authorities is trusted with more of them. -/

namespace SessionEngine.Tls

open Der

/-- A certificate. Names and keys are kept as they are written. -/
structure Certificate where
  /-- The part that is signed. -/
  signed : Bytes
  algorithm : Bytes
  signature : Bytes
  issuer : Bytes
  subject : Bytes
  keyInfo : Bytes
  /-- The extensions that matter, by their last numbers. -/
  extensions : List (UInt8 × Bytes)
  deriving DecidableEq, Repr

/-- An authority that is trusted. -/
structure Anchor where
  subject : Bytes
  keyInfo : Bytes
  deriving DecidableEq, Repr

namespace Certificate

/-! ### Reading -/

/-- Reads from the head of what is left, with the fault that ends the reading. -/
abbrev Parser := StateT Bytes (Except CertificateFault)

/-- What `r` reads; it is bad encoding if it reads nothing. -/
def parse {α : Type} (r : Reader α) : Parser α := fun data =>
  (r data).elim (.error .badEncoding) .ok

/-- What `p` reads from all of `data`, with `fault` if something is left. -/
def whole {α : Type} (p : Parser α) (fault : CertificateFault) (data : Bytes) :
    Except CertificateFault α := do
  match ← p data with
  | (a, []) => return a
  | _ => .error fault

/-- What `p` reads from all of a value with tag `tag`, with `fault` if that is not what comes. -/
def within {α : Type} (tag : UInt8) (fault : CertificateFault) (p : Parser α) : Parser α :=
  fun data =>
    match Reader.value tag data with
    | none => .error fault
    | some (content, rest) => (whole p fault content).map (·, rest)

/-- Checks that a certificate is of the third version. -/
def version : Parser Unit := within (tagContext 0) .unsupportedVersion do
  let n ← parse Reader.natural
  if 256 ≤ n then throw .badEncoding
  if n ≠ 2 then throw .unsupportedVersion

/-- The first two numbers of the identifiers of the extensions that matter. -/
def extensionFamily : Bytes := [0x55, 0x1d]

/-- The last numbers of the extensions that matter, and whether each is kept as it is. -/
def extensionNumbers : List (UInt8 × Bool) :=
  [(15, true), (17, false), (19, false), (30, false), (31, false), (37, false)]

/-- One more extension. -/
def extension (seen : List (UInt8 × Bytes)) : Parser (List (UInt8 × Bytes)) := do
  let id ← parse (Reader.value tagObjectId)
  let critical ← match ← parse (Reader.valueIf tagBoolean) with
    | none => pure false
    | some [0xff] => pure true
    | some [0] => pure false
    | some _ => throw .badEncoding
  let value ← parse (Reader.value tagOctets)
  let known := ((Bytes.after? extensionFamily id).filter (·.length == 1)).bind fun last =>
    (extensionNumbers.lookup (last.headD 0)).map (last.headD 0, ·)
  match known with
  | none => if critical then throw .unsupportedExtension else return seen
  | some (number, plain) =>
    if (seen.lookup number).isSome then throw .invalidExtension
    else if plain then return (number, value) :: seen
    else
      match (Reader.value tagSequence).whole value with
      | none => throw .badEncoding
      | some content => return (number, content) :: seen

/-- What `p` makes of one sequence after the other, at most `n` of them, until nothing is left. -/
def each {α : Type} (p : α → Parser α) : (n : Nat) → α → Parser α
  | 0, a => return a
  | n + 1, a => do
    let a ← within tagSequence .badEncoding (p a)
    if (← get).isEmpty then return a else each p n a

def extensionList : Parser (List (UInt8 × Bytes)) := do
  if (← get).isEmpty then return []
  within (tagContext 3) .badEncoding <| within tagSequence .badEncoding do
    let left ← get
    if left.isEmpty then return [] else each extension left.length []

/-- The signed part of a certificate, with the algorithm and the signature that follow it. -/
def content (signed algorithm signature : Bytes) : Parser Certificate := do
  version
  let _ ← parse (Reader.value tagInteger)
  if (← parse (Reader.value tagSequence)) ≠ algorithm then throw .algorithmMismatch
  let issuer ← parse (Reader.value tagSequence)
  let _ ← parse (Reader.value tagSequence)
  let subject ← parse (Reader.value tagSequence)
  let keyInfo ← parse (Reader.value tagSequence)
  return { signed, algorithm, signature, issuer, subject, keyInfo, extensions := ← extensionList }

def decode (data : Bytes) : Except CertificateFault Certificate := do
  let (signed, inner, algorithm, signature) ← whole (within tagSequence .badEncoding do
    let before ← get
    let inner ← parse (Reader.value tagSequence)
    let signed := before.take (before.length - (← get).length)
    let algorithm ← parse (Reader.value tagSequence)
    return (signed, inner, algorithm, ← parse Reader.bits)) .badEncoding data
  whole (content signed algorithm signature) .badEncoding inner

/-- The authority that a certificate of the first version names. -/
def firstVersionAnchor : Reader Anchor := Reader.within tagSequence do
  let anchor ← Reader.within tagSequence do
    let _ ← Reader.value tagInteger
    let _ ← Reader.value tagSequence
    let _ ← Reader.value tagSequence
    let _ ← Reader.value tagSequence
    let subject ← Reader.value tagSequence
    return ⟨subject, ← Reader.value tagSequence⟩
  let _ ← Reader.value tagSequence
  let _ ← Reader.value tagBits
  return anchor

/-- The authority that the certificate `data` names. -/
def decodeAnchor (data : Bytes) : Except CertificateFault Anchor :=
  match decode data with
  | .ok c => .ok ⟨c.subject, c.keyInfo⟩
  | .error .unsupportedVersion => (firstVersionAnchor.whole data).elim (.error .badEncoding) .ok
  | .error fault => .error fault

/-! ### Trust -/

/-- Whether the subject may vouch for others. -/
def isAuthority (c : Certificate) : Bool :=
  ((c.extensions.lookup 19).bind (Reader.value tagBoolean)).any (·.1 == [0xff])

/-- Whether the holder of the key `keyInfo` signed `c`. -/
def isSignedBy (c : Certificate) (keyInfo : Bytes) : Bool :=
  match Scheme.ofAlgorithm? c.algorithm, PublicKey.ofInfo? keyInfo with
  | some scheme, some key => scheme.verify key c.signed c.signature
  | _, _ => false

/-- Checks that the holder of `c` signed `message` with `signature` by a scheme, in version 1.3 if `modern`
holds. -/
def checkSignature (c : Certificate) (modern : Bool) (scheme : Scheme) (message signature : Bytes) :
    Except CertificateFault Unit :=
  match PublicKey.parts? c.keyInfo with
  | none => .error .badEncoding
  | some (kind, _) =>
    if !(scheme.keyKinds modern).contains kind then .error (.unsuitableKey scheme.algorithm kind)
    else if (PublicKey.ofInfo? c.keyInfo).any (scheme.verify · message signature) then .ok ()
    else .error .badSignature

def vouchedBy (c : Certificate) (anchor : Anchor) : Bool :=
  c.issuer == anchor.subject && c.isSignedBy anchor.keyInfo

/-- The subject of a certificate as somebody who vouches. -/
def anchor (c : Certificate) : Anchor := ⟨c.subject, c.keyInfo⟩

/-- Whether a chain of at most `depth` of the certificates `others` leads from `c` to one of
`anchors`. -/
def trusted (anchors : List Anchor) (others : List Certificate) : (depth : Nat) → Certificate → Bool
  | 0, c => anchors.any c.vouchedBy
  | depth + 1, c =>
    anchors.any c.vouchedBy ||
      others.any fun i => i.isAuthority && c.vouchedBy i.anchor && trusted anchors others depth i

/-- The most certificates between a peer's own and an authority. -/
def maxDepth : Nat := 6

/-- Why `c` is not trusted: a signature does not fit, or nobody is known who vouches for it. -/
def distrust (anchors : List Anchor) (c : Certificate) : CertificateFault :=
  if anchors.any fun a => c.issuer == a.subject then .badSignature else .unknownIssuer

/-! ### Names -/

/-- The name that an alternative name of a certificate writes. -/
def nameOf? (e : Element) : Option ServerName :=
  if e.tag = 0x82 then
    (String.fromUTF8? ⟨e.content.toArray⟩).bind fun text =>
      if ServerName.isDns text.toList then some (.dns text) else none
  else if e.tag = 0x87 then ServerName.ofAddress? e.content
  else none

def names (c : Certificate) : List ServerName :=
  (((c.extensions.lookup 17).bind elements?).getD []).filterMap nameOf?

/-- Whether the peer that presents `leaf`, with `others` that may lead to an authority, is accepted
under `anchors`, and under the name `wanted` if one is asked for. -/
def verify (anchors : List Anchor) (others : List Bytes) (leaf : Certificate)
    (wanted : Option ServerName) : Except CertificateFault Unit :=
  let others := others.filterMap fun data => (decode data).toOption
  if leaf.isAuthority then .error .authorityAsPeer
  else if !trusted anchors others maxDepth leaf then .error (distrust anchors leaf)
  else match wanted with
    | none => .ok ()
    | some name =>
      if leaf.names.any (·.covers name) then .ok ()
      else .error (.wrongName name.render (leaf.names.map ServerName.describe))

/-- What is trusted with some authorities is trusted with more of them. -/
theorem trusted_mono {anchors anchors' : List Anchor} {others others' : List Certificate}
    (ha : anchors ⊆ anchors') (hi : others ⊆ others') {depth : Nat} {c : Certificate}
    (h : trusted anchors others depth c = true) : trusted anchors' others' depth c = true := by
  have hmono {α : Type} {l l' : List α} {p q : α → Bool} (hl : l ⊆ l')
      (hp : ∀ x, p x = true → q x = true) (h : l.any p = true) : l'.any q = true := by
    obtain ⟨x, hx, hpx⟩ := List.any_eq_true.mp h
    exact List.any_eq_true.mpr ⟨x, hl hx, hp x hpx⟩
  induction depth generalizing c with
  | zero => exact hmono ha (fun _ hx => hx) h
  | succ depth ih =>
    simp only [trusted, Bool.or_eq_true] at h ⊢
    refine h.imp (hmono ha fun _ hx => hx) (hmono hi fun i hp => ?_)
    simp only [Bool.and_eq_true] at hp ⊢
    exact ⟨hp.1, ih hp.2⟩

end Certificate

end SessionEngine.Tls
