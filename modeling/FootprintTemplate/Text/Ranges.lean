/-! Sets of code points, for the character classes of the Unicode standard. -/
namespace FootprintTemplate.Text

/-- Inclusive ranges of code points. -/
abbrev Ranges := List (Nat × Nat)

def Ranges.holds (ranges : Ranges) (c : Char) : Bool :=
  ranges.any fun range => range.1 ≤ c.toNat && c.toNat ≤ range.2

end FootprintTemplate.Text
