/-! Byte strings, the data that travels on a connection: how text becomes bytes, how a number is
written big-endian, how a known head is taken off, and how a string is cut into pieces. The main
statements are `after?_eq_some_iff`, which says when a head can be taken off, `bigEndian_word`, by
which four bytes written for a number are read back as it, and `flatten_pieces`. -/

namespace SessionEngine

/-- A string of bytes. -/
abbrev Bytes := List UInt8

namespace Bytes

def ofString (text : String) : Bytes := text.toUTF8.toList

/-- The line feed. -/
def newline : UInt8 := 10

def listing (data : Bytes) : String :=
  "[" ++ ", ".intercalate (data.map fun b => toString b.toNat) ++ "]"

/-- What follows `head` in `data`, if `data` starts with it. -/
def after? : (head data : Bytes) → Option Bytes
  | [], data => some data
  | _ :: _, [] => none
  | h :: head, d :: data => if h = d then after? head data else none

theorem after?_eq_some_iff {head data rest : Bytes} :
    after? head data = some rest ↔ data = head ++ rest := by
  induction head generalizing data with
  | nil => simp [after?]
  | cons h head ih =>
    cases data with
    | nil => simp [after?]
    | cons d data =>
      by_cases hd : h = d
      · simp [after?, hd, ih]
      · simp [after?, hd, Ne.symm hd]

@[simp] theorem after?_append (head rest : Bytes) : after? head (head ++ rest) = some rest :=
  after?_eq_some_iff.mpr rfl

/-- `data` in pieces of at most `size` bytes, or of one byte if `size` is zero. -/
def pieces (size : Nat) (data : Bytes) : List Bytes :=
  if h : data = [] then []
  else
    have : (data.drop (max size 1)).length < data.length := by
      have := List.length_pos_iff.mpr h
      rw [List.length_drop]
      omega
    data.take (max size 1) :: pieces size (data.drop (max size 1))
  termination_by data.length

/-- Cutting into pieces loses nothing. -/
theorem flatten_pieces (size : Nat) (data : Bytes) : (pieces size data).flatten = data := by
  fun_induction pieces size data with
  | case1 => rfl
  | case2 data h _ ih => rw [List.flatten_cons, ih, List.take_append_drop]

/-- The number that `data` writes in base 256, most significant byte first. -/
def bigEndian (data : Bytes) : Nat := data.foldl (fun n b => n * 256 + b.toNat) 0

/-- The four bytes that write `n` modulo `UInt32.size`, most significant byte first. -/
def word (n : Nat) : Bytes :=
  [UInt8.ofNat (n / 0x1000000), UInt8.ofNat (n / 0x10000), UInt8.ofNat (n / 0x100), UInt8.ofNat n]

@[simp] theorem length_word (n : Nat) : (word n).length = 4 := rfl

theorem bigEndian_word (n : Nat) : bigEndian (word n) = n % UInt32.size := by
  simp only [UInt32.size, bigEndian, word, List.foldl_cons, List.foldl_nil, UInt8.toNat_ofNat']
  omega

/-- The last `width` bytes of `n` in base 256, most significant byte first. -/
def fixed : (width n : Nat) → Bytes
  | 0, _ => []
  | width + 1, n => fixed width (n / 256) ++ [UInt8.ofNat n]

@[simp] theorem length_fixed (width n : Nat) : (fixed width n).length = width := by
  induction width generalizing n with
  | zero => rfl
  | succ width ih => simp [fixed, ih]

/-- The 64-bit FNV-1a digest of `data`, started from `basis`. -/
def digest (basis : UInt64) (data : Bytes) : UInt64 :=
  data.foldl (fun h b => (h ^^^ b.toUInt64) * 0x100000001b3) basis

/-- The offset basis that FNV-1a fixes for 64 bits. -/
def digestBasis : UInt64 := 0xcbf29ce484222325

/-- The eight bytes of a 64-bit word, most significant byte first. -/
def ofUInt64 (w : UInt64) : Bytes :=
  (List.range 8).map fun i => (w >>> (UInt64.ofNat (8 * (7 - i)))).toUInt8

end Bytes

end SessionEngine
