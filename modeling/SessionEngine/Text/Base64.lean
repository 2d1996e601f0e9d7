import SessionEngine.Bytes

/-! Base64: bytes as printable characters, six bits to a character. White space between characters
is skipped, and the padding at the end may be left out. The text is taken eight characters at a time,
and what is wrong with an earlier group is reported before what is wrong with a later one. The main
statements are `bytesOf_sixBits`, by which the groups of six bits that three bytes are cut into give the
three bytes back, and `encode_of_decodeStrict?`, by which strict reading accepts one text for each
string of bytes. -/

namespace SessionEngine.Text.Base64

inductive Fault where
  | invalidCharacter (byte : UInt8)
  /-- Padding in front of other characters. -/
  | prematurePadding
  /-- Characters at the end that make no whole bytes, or padding that does not fit them. -/
  | invalidPadding
  deriving DecidableEq, Repr, Inhabited

/-- The written form of a fault. -/
def Fault.text : Fault → String
  | .invalidCharacter byte => s!"InvalidCharacter({byte.toNat})"
  | .prematurePadding => "PrematurePadding"
  | .invalidPadding => "InvalidTrailingPadding"

/-- What a byte of the text stands for. -/
inductive Symbol where
  | digit (value : Nat)
  | padding
  | blank
  deriving DecidableEq, Repr

def symbol? (byte : UInt8) : Except Fault Symbol :=
  let n := byte.toNat
  if 65 ≤ n ∧ n ≤ 90 then .ok (.digit (n - 65))
  else if 97 ≤ n ∧ n ≤ 122 then .ok (.digit (n - 97 + 26))
  else if 48 ≤ n ∧ n ≤ 57 then .ok (.digit (n - 48 + 52))
  else if n = 43 then .ok (.digit 62)
  else if n = 47 then .ok (.digit 63)
  else if n = 61 then .ok .padding
  else if (9 ≤ n ∧ n ≤ 13) ∨ n = 32 then .ok .blank
  else .error (.invalidCharacter byte)

/-- The bytes that groups of six bits make up; bits short of a byte are dropped. -/
def bytesOf : List Nat → Bytes
  | a :: b :: c :: d :: rest =>
    UInt8.ofNat (a * 4 + b / 16) :: UInt8.ofNat (b * 16 + c / 4) :: UInt8.ofNat (c * 64 + d) ::
      bytesOf rest
  | [a, b, c] => [UInt8.ofNat (a * 4 + b / 16), UInt8.ofNat (b * 16 + c / 4)]
  | [a, b] => [UInt8.ofNat (a * 4 + b / 16)]
  | [_] => []
  | [] => []

/-- The bytes of a run of digits; padding stands for no bits. -/
def bytesOfSymbols (symbols : List Symbol) : Bytes :=
  bytesOf (symbols.filterMap fun
    | .digit value => some value
    | _ => none)

/-- The most characters in a group. -/
def groupSize : Nat := 8

/-- The bytes of the last group, which may be short. Its first half must be without padding, and its
end must either be padded to four characters or not be padded at all. -/
def lastBytes (group : List Symbol) : Except Fault Bytes :=
  let final := group.drop (group.length - 4)
  let (head, tail) := if 4 < group.length then (group.take 4, group.drop 4) else ([], group)
  let fits : Bool :=
    match tail with
    | [] => true
    | [.digit _, .digit _, .padding, .padding] => true
    | [.digit _, .digit _, .digit _, .padding] => true
    | [_] => false
    | _ => !final.contains .padding
  if (group.take (group.length - 4)).contains .padding then .error .prematurePadding
  else if fits then .ok (bytesOfSymbols head ++ bytesOfSymbols tail)
  else .error .invalidPadding

/-- The bytes that a text writes, of which the characters of `group` were read already. -/
def decodeFrom (group : List Symbol) : Bytes → Except Fault Bytes
  | [] => lastBytes group
  | byte :: rest =>
    match symbol? byte with
    | .error fault => .error fault
    | .ok .blank => decodeFrom group rest
    | .ok symbol =>
      if group.length < groupSize then decodeFrom (group ++ [symbol]) rest
      else if group.contains .padding then .error .prematurePadding
      else (decodeFrom [symbol] rest).map (bytesOfSymbols group ++ ·)

def decode (text : Bytes) : Except Fault Bytes := decodeFrom [] text

/-- The character for a group of six bits. -/
def character (value : Nat) : UInt8 :=
  if value < 26 then UInt8.ofNat (65 + value)
  else if value < 52 then UInt8.ofNat (97 + (value - 26))
  else if value < 62 then UInt8.ofNat (48 + (value - 52))
  else if value = 62 then 43
  else 47

/-- The groups of six bits of three bytes. -/
def sixBits (x y z : UInt8) : List Nat :=
  [x.toNat / 4, x.toNat % 4 * 16 + y.toNat / 16, y.toNat % 16 * 4 + z.toNat / 64, z.toNat % 64]

/-- `data` in base64, padded. -/
def encode : Bytes → Bytes
  | x :: y :: z :: rest => (sixBits x y z).map character ++ encode rest
  | [x, y] => ((sixBits x y 0).take 3).map character ++ [61]
  | [x] => ((sixBits x 0 0).take 2).map character ++ [61, 61]
  | [] => []

/-- The bytes that `text` writes, if it is just what is written for them. -/
def decodeStrict? (text : Bytes) : Option Bytes :=
  match decode text with
  | .ok data => if encode data = text then some data else none
  | .error _ => none

theorem encode_of_decodeStrict? {text data : Bytes} (h : decodeStrict? text = some data) :
    encode data = text := by
  unfold decodeStrict? at h
  split at h
  · split at h
    next he => exact Option.some.inj h ▸ he
    · simp at h
  · simp at h

theorem bytesOf_sixBits (x y z : UInt8) (rest : List Nat) :
    bytesOf (sixBits x y z ++ rest) = x :: y :: z :: bytesOf rest := by
  have hx := x.toNat_lt
  have hy := y.toNat_lt
  have hz := z.toNat_lt
  simp only [sixBits, List.cons_append, List.nil_append, bytesOf, List.cons.injEq, and_true]
  refine ⟨?_, ?_, ?_⟩ <;> apply UInt8.toNat_inj.mp <;> simp only [UInt8.toNat_ofNat'] <;> omega

end SessionEngine.Text.Base64
