import SessionEngine.Text.Concealed

/-! Characters that show on a page as themselves. The main statement is `isPrintable_of_ascii`: of the
ASCII characters, all but the controls are printable. -/

namespace SessionEngine.Text

/-- Whether a character shows as itself. -/
def isPrintable (c : Char) : Bool :=
  if c.toNat < 0x7f then 0x20 ≤ c.toNat
  else !concealedRanges.any fun (low, high) => low ≤ c.toNat && c.toNat ≤ high

theorem isPrintable_of_ascii {c : Char} (hlow : 0x20 ≤ c.toNat) (hhigh : c.toNat < 0x7f) :
    isPrintable c = true := by
  simp [isPrintable, hlow, hhigh]

end SessionEngine.Text
