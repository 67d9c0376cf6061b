import Permits.Text.CaseTables

namespace Permits.Text

def Capitals.small? (k : Capitals) (n : Nat) : Option Nat :=
  if k.first ≤ n ∧ n ≤ k.last ∧ (n - k.first) % k.stride = 0 then some (k.small + (n - k.first))
  else none

/-- Lowercases one character on its own. U+0130 is the only one that becomes two. -/
def lowerChar (c : Char) : List Char :=
  if c.toNat < 0x80 then
    [if 0x41 ≤ c.toNat ∧ c.toNat ≤ 0x5A then Char.ofNat (c.toNat + 32) else c]
  else if c.toNat = 0x130 then ['i', '\u0307']
  else match capitals.findSome? (·.small? c.toNat) with
    | some n => [Char.ofNat n]
    | none => [c]

/-- The nearest character that is not case-ignorable exists and is cased. -/
def meetsCased : List Char → Bool
  | [] => false
  | c :: cs => if inRanges caseIgnorable c then meetsCased cs else inRanges cased c

/-- Lowercases the text after `before`, which is held reversed. A capital sigma that ends a word
becomes the final form. -/
def lowerFrom (before : List Char) : List Char → List Char
  | [] => []
  | c :: cs =>
    (if c = 'Σ' then [if meetsCased before && !meetsCased cs then 'ς' else 'σ'] else lowerChar c)
      ++ lowerFrom (c :: before) cs

def lowercase (s : String) : String := String.ofList (lowerFrom [] s.toList)

end Permits.Text
