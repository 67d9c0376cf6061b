namespace Permits.Text

/-- Code points from the first number to the second, both included. -/
abbrev Range := Nat × Nat

def inRanges (rs : List Range) (c : Char) : Bool :=
  rs.any fun r => r.1 ≤ c.toNat && c.toNat ≤ r.2

end Permits.Text
