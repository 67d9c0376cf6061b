namespace Permits.Text

def hexChar (n : Nat) : Char :=
  if n < 10 then Char.ofNat (0x30 + n) else Char.ofNat (0x61 + (n - 10))

def hexUpperChar (n : Nat) : Char :=
  if n < 10 then Char.ofNat (0x30 + n) else Char.ofNat (0x41 + (n - 10))

/-- Two lowercase digits for each byte. -/
def hexBytes (bs : List UInt8) : List Char :=
  bs.flatMap fun b => [hexChar (b.toNat / 16), hexChar (b.toNat % 16)]

/-- The last four hexadecimal digits, lowercase. -/
def hex4 (n : Nat) : List Char :=
  [hexChar (n / 4096 % 16), hexChar (n / 256 % 16), hexChar (n / 16 % 16), hexChar (n % 16)]

def hexUpper4 (n : Nat) : List Char :=
  [hexUpperChar (n / 4096 % 16), hexUpperChar (n / 256 % 16), hexUpperChar (n / 16 % 16),
   hexUpperChar (n % 16)]

end Permits.Text
