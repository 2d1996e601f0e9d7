/-! Spans of time in nanoseconds, and their written form: a number in the largest unit that is not
larger than the span. -/

namespace SessionEngine.Span

def ofMillis (n : Nat) : Nat := n * 1000000

def toMillis (span : Nat) : Nat := span / 1000000

theorem toMillis_ofMillis (n : Nat) : toMillis (ofMillis n) = n := by
  simp [toMillis, ofMillis]

structure TimeUnit where
  name : String
  /-- How many nanoseconds it is. -/
  size : Nat
  deriving DecidableEq, Repr

/-- The units, from the largest to the smallest. -/
def units : List TimeUnit := [⟨"s", 1000000000⟩, ⟨"ms", 1000000⟩, ⟨"µs", 1000⟩]

/-- The unit of a span that is shorter than all others. -/
def nanosecond : TimeUnit := ⟨"ns", 1⟩

/-- The decimals of `part / size` for `part < size`, up to `places` of them, by long division and
without zeros at the end. -/
def decimals (size : Nat) : (places part : Nat) → List Char
  | 0, _ => []
  | places + 1, part =>
    if part = 0 then []
    else Nat.digitChar (part * 10 / size) :: decimals size places (part * 10 % size)

def inUnit (span : Nat) (u : TimeUnit) : String :=
  match decimals u.size 9 (span % u.size) with
  | [] => s!"{span / u.size}{u.name}"
  | digits => s!"{span / u.size}.{String.ofList digits}{u.name}"

/-- The written form of a span. -/
def render (span : Nat) : String :=
  inUnit span ((units.find? fun u => decide (u.size ≤ span)).getD nanosecond)

example : render (ofMillis 1500) = "1.5s" := by decide +kernel
example : render (ofMillis 250) = "250ms" := by decide +kernel
example : render 0 = "0ns" := by decide +kernel

end SessionEngine.Span
