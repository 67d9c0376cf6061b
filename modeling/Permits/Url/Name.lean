import Permits.Url.Name.Composition
import Permits.Url.Name.Direction
import Permits.Url.Name.Joining
import Permits.Url.Punycode

namespace Permits.Url.Name

def isForbidden (c : Char) : Bool :=
  c.toNat ≤ 0x20 || c.toNat = 0x7F ||
    c ∈ ['%', '#', '/', ':', '<', '>', '?', '@', '[', '\\', ']', '^', '|']

/-- A joiner stands after a virama; the one that keeps letters apart may also stand between two that
would join. `before` is what stands in front, reversed. -/
def joinersFit (before : List Char) : List Char → Bool
  | [] => true
  | c :: rest =>
    let fits :=
      if c.toNat = 0x200C then
        before.head?.any isVirama || (joins joinsAfter before && joins joinsBefore rest)
      else if c.toNat = 0x200D then before.head?.any isVirama
      else true
    fits && joinersFit (c :: before) rest

/-- A label does not begin with a mark and is not too long to be written in ASCII. -/
def isProper (label : List Char) : Bool :=
  label.all Text.isAscii ||
    (!label.head?.any isMark && joinersFit [] label && label.length ≤ 1000)

/-- The text of a label, which may be given in its ASCII form. That form must stand for plain
characters, in the order and composition in which they are written. -/
def plain? (label : List Char) : Option (List Char) :=
  match label with
  | 'x' :: 'n' :: '-' :: '-' :: code => do
    if !code.all Text.isAscii ∨ code.isEmpty ∨ code.getLast? = some '-' ∨ 2000 < code.length then
      none
    let text ← Punycode.decode? code
    if text.all isPlain && compose text == text then some text else none
  | _ => some label

def toAscii (label : List Char) : List Char :=
  if label.all Text.isAscii then label else ['x', 'n', '-', '-'] ++ Punycode.encode label

/-- The ASCII form of a name. If a part of it is written from right to left, no label may mix the
directions. -/
def ascii? (name : List Char) : Option (List Char) := do
  let text := compose (← name.mapM replace?).flatten
  if text.any isForbidden then none
  let labels ← (text.splitOn '.').mapM plain?
  if !labels.all isProper then none
  if labels.any (·.any turns) && !labels.all keepsDirection then none
  return ['.'].intercalate (labels.map toAscii)

end Permits.Url.Name
