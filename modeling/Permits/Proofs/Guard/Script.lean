import Mathlib.Data.List.Basic
import Permits.Text.Classes

namespace Permits

/-- A text as the engine of a script holds it: as UTF-16 units. -/
abbrev Units := List Nat

namespace Units

def ofChar (c : Char) : Units :=
  if c.toNat < 0x10000 then [c.toNat]
  else [0xD800 + (c.toNat - 0x10000) / 0x400, 0xDC00 + (c.toNat - 0x10000) % 0x400]

def ofString (s : String) : Units := s.toList.flatMap ofChar

theorem ofChar_append_inj {c d : Char} {us vs : Units} (h : ofChar c ++ us = ofChar d ++ vs) :
    c = d ∧ us = vs := by
  have hc : c.toNat < 0xD800 ∨ 0xDFFF < c.toNat ∧ c.toNat < 0x110000 := c.valid
  have hd : d.toNat < 0xD800 ∨ 0xDFFF < d.toNat ∧ d.toNat < 0x110000 := d.valid
  unfold ofChar at h
  split at h <;> split at h <;> simp only [List.cons_append, List.nil_append, List.cons.injEq] at h
  · exact ⟨Char.toNat_inj.1 h.1, h.2⟩
  · omega
  · omega
  · exact ⟨Char.toNat_inj.1 (by omega), h.2.2⟩

theorem ofString_injective {s t : String} (h : ofString s = ofString t) : s = t := by
  apply String.toList_inj.1
  unfold ofString at h
  generalize s.toList = cs at h ⊢
  generalize t.toList = ds at h ⊢
  have hne (c : Char) : ofChar c ≠ [] := by
    unfold ofChar
    split <;> simp
  induction cs generalizing ds with
  | nil =>
    cases ds with
    | nil => rfl
    | cons d ds => simp [hne] at h
  | cons c cs ih =>
    cases ds with
    | nil => simp [hne] at h
    | cons d ds =>
      obtain ⟨rfl, htail⟩ := ofChar_append_inj h
      rw [ih ds htail]

end Units

/-- A guard as its source states it: the elements of the array that is searched for the name of the
caller, whether only deletions are looked at, and what is thrown. -/
structure Script where
  elements : List Units
  onlyDeletions : Bool
  message : String

namespace Script

/-- The place of the name in the array. The elements are texts, so `null`, the name of an anonymous
caller, is equal to none of them. -/
def indexOf (elements : List Units) : Option Units → Int
  | none => -1
  | some name => (elements.idxOf? name).elim (-1) Int.ofNat

def throws? (s : Script) (name : Option Units) (deleted : Bool) : Option String :=
  if indexOf s.elements name = -1 ∧ (s.onlyDeletions = true → deleted = true) then some s.message
  else none

/-- A line ends here for some engine, within a text too. -/
def endsLine (c : Char) : Bool :=
  c = '\n' || c = '\r' || c.toNat = 0x2028 || c.toNat = 0x2029

def escaped? (c : Char) : Option Nat :=
  if c = 'b' then some 0x08
  else if c = 't' then some 0x09
  else if c = 'n' then some 0x0A
  else if c = 'v' then some 0x0B
  else if c = 'f' then some 0x0C
  else if c = 'r' then some 0x0D
  else if c = '"' ∨ c = '\'' ∨ c = '\\' then some c.toNat
  else none

inductive Place where
  /-- An element is to come. An array may end before its first one. -/
  | before (first : Bool)
  /-- Within an element that has begun with these units. -/
  | within (units : Units)
  /-- There, after a backslash. -/
  | escape (units : Units)
  /-- There, after a backslash and `u`, with so many digits to come after the next one. -/
  | digits (units : Units) (left value : Nat)
  | after

/-- Reads the elements of an array of texts in double quotes, up to its bracket. What is read, every
engine reads so. -/
def readElements : Place → List Units → List Char → Option (List Units × List Char)
  | _, _, [] => none
  | .before first, done, c :: cs =>
    if c = '"' then readElements (.within []) done cs
    else if c = ']' ∧ first = true then some (done, cs)
    else none
  | .within us, done, c :: cs =>
    if c = '"' then readElements .after (done ++ [us]) cs
    else if c = '\\' then readElements (.escape us) done cs
    else if endsLine c then none
    else readElements (.within (us ++ Units.ofChar c)) done cs
  | .escape us, done, c :: cs =>
    if c = 'u' then readElements (.digits us 3 0) done cs
    else match escaped? c with
      | some n => readElements (.within (us ++ [n])) done cs
      | none => none
  | .digits us left value, done, c :: cs =>
    match Text.hexDigit? c, left with
    | none, _ => none
    | some d, 0 => readElements (.within (us ++ [16 * value + d])) done cs
    | some d, left + 1 => readElements (.digits us left (16 * value + d)) done cs
  | .after, done, c :: cs =>
    if c = ',' then readElements (.before false) done cs
    else if c = ']' then some (done, cs)
    else none

def readArray : List Char → Option (List Units × List Char)
  | '[' :: cs => readElements (.before true) [] cs
  | _ => none

/-- Reads the rest of a text in single quotes that holds no escapes. -/
def readMessage : List Char → Option (List Char × List Char)
  | [] => none
  | c :: cs =>
    if c = '\'' then some ([], cs)
    else if c = '\\' || endsLine c then none
    else (readMessage cs).map fun (message, rest) => (c :: message, rest)

def expect (text : String) (cs : List Char) : Option (List Char) := cs.dropPrefix? text.toList

def readEnd (cs : List Char) : Option (Bool × String) := do
  let cs ← expect ".indexOf(userCtx.name) == -1" cs
  let deletions := expect " && newDoc._deleted" cs
  let cs ← expect ") throw(\x7b unauthorized: '" (deletions.getD cs)
  let (message, cs) ← readMessage cs
  let cs ← expect " \x7d);\n\x7d" cs
  if cs.isEmpty then some (deletions.isSome, String.ofList message) else none

def read? (source : String) : Option Script := do
  let cs ← expect "\n    function(newDoc, oldDoc, userCtx, secObj) \x7b\n        if (" source.toList
  let (elements, cs) ← readArray cs
  let (onlyDeletions, message) ← readEnd cs
  return ⟨elements, onlyDeletions, message⟩

end Script

end Permits
