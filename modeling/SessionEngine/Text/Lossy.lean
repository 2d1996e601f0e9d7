import SessionEngine.Bytes

/-! Bytes read as UTF-8 text where some may not be: each longest start of a sequence that breaks off
is one replacement character. The main statements are `follow_append`, by which a sequence that breaks
off loses nothing, and `decode_ascii_cons`, by which an ASCII byte is always read as itself. -/

namespace SessionEngine.Text.Lossy

/-- What stands for bytes that are no text. -/
def replacement : Char := '\ufffd'

/-- A range of bytes, both ends included. -/
structure Range where
  low : UInt8
  high : UInt8
  deriving DecidableEq, Repr

/-- Whether a byte lies in a range. -/
def Range.contains (r : Range) (b : UInt8) : Bool := r.low ≤ b && b ≤ r.high

/-- The bytes that continue a sequence. -/
def tail : Range := ⟨0x80, 0xbf⟩

/-- The ranges of the bytes that follow `lead`, if `lead` begins a sequence of more than one byte. -/
def following? (lead : UInt8) : Option (List Range) :=
  if lead < 0xc2 then none
  else if lead ≤ 0xdf then some [tail]
  else if lead = 0xe0 then some [⟨0xa0, 0xbf⟩, tail]
  else if lead = 0xed then some [⟨0x80, 0x9f⟩, tail]
  else if lead ≤ 0xef then some [tail, tail]
  else if lead = 0xf0 then some [⟨0x90, 0xbf⟩, tail, tail]
  else if lead ≤ 0xf3 then some [tail, tail, tail]
  else if lead = 0xf4 then some [⟨0x80, 0x8f⟩, tail, tail]
  else none

/-- The bytes at the head of `data` that lie in the given ranges, one after the other, and what
follows them. -/
def follow : (ranges : List Range) → (data : Bytes) → Bytes × Bytes
  | r :: ranges, b :: data =>
    if r.contains b then
      let (taken, rest) := follow ranges data
      (b :: taken, rest)
    else ([], b :: data)
  | _, data => ([], data)

theorem follow_append (ranges : List Range) (data : Bytes) :
    (follow ranges data).1 ++ (follow ranges data).2 = data := by
  fun_induction follow ranges data with
  | case1 => simp_all
  | case2 => rfl
  | case3 => rfl

theorem length_follow_le (ranges : List Range) (data : Bytes) :
    (follow ranges data).2.length ≤ data.length := by
  have := congrArg List.length (follow_append ranges data)
  rw [List.length_append] at this
  omega

/-- The character that a sequence writes: the low bits of its bytes, six from each but the first. -/
def assemble (lead : UInt8) (taken : Bytes) : Char :=
  let first := lead.toNat % (64 >>> taken.length)
  Char.ofNat (taken.foldl (fun n b => n * 64 + b.toNat % 64) first)

/-- The text that bytes write, as far as they do. -/
def decode : Bytes → List Char
  | [] => []
  | lead :: data =>
    if lead < 0x80 then Char.ofNat lead.toNat :: decode data
    else match following? lead with
      | none => replacement :: decode data
      | some ranges =>
        have := length_follow_le ranges data
        let taken := (follow ranges data).1
        let c := if taken.length = ranges.length then assemble lead taken else replacement
        c :: decode (follow ranges data).2
  termination_by data => data.length

def text (data : Bytes) : String := String.ofList (decode data)

theorem decode_ascii_cons {b : UInt8} (h : b < 0x80) (data : Bytes) :
    decode (b :: data) = Char.ofNat b.toNat :: decode data := by
  rw [decode, if_pos h]

end SessionEngine.Text.Lossy
