import Permits.Text.Classes

namespace Permits.Text

/-- The words of a text, between which stand blanks and ends of lines. -/
def words (s : String) : List (List Char) :=
  (s.toList.splitOnP fun c => c = ' ' || c = '\n').filter (!·.isEmpty)

def hexNumber (cs : List Char) : Nat := cs.foldl (fun n c => 16 * n + (hexDigit? c).getD 0) 0

/-- A character, or two with a dash between them and all that lie between. -/
def range (word : List Char) : Range :=
  let (low, high) := word.span (· ≠ '-')
  (hexNumber low, hexNumber (if high.isEmpty then low else high.drop 1))

def ranges (s : String) : List Range := (words s).map range

end Permits.Text
