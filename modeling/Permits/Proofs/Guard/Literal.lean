import Permits.Guard.Rule
import Permits.Proofs.Guard.Script
import Permits.Proofs.Text.Digits

namespace Permits

namespace Script

inductive Stage where
  /-- The bracket is to come. -/
  | outside
  /-- An element is to come, or the end. -/
  | between
  /-- In an element that began with these units. -/
  | inside (units : Units)
  /-- There, after a backslash. -/
  | escaping (units : Units)
  /-- There, after a backslash, `u` and these digits. -/
  | numbering (units : Units) (digits : List Nat)
  /-- A comma is to come, or the end. -/
  | after
  | closed

structure Reading where
  elements : List Units
  stage : Stage

/-- The unit that a character stands for after a backslash. -/
def unitOf? : Char → Option Nat
  | '"' => some 0x22
  | '\\' => some 0x5C
  | 'b' => some 0x08
  | 'f' => some 0x0C
  | 'n' => some 0x0A
  | 'r' => some 0x0D
  | 't' => some 0x09
  | _ => none

/-- A character that may stand in an element as it is. -/
def isBare (c : Char) : Bool :=
  c ≠ '"' && c ≠ '\\' && 0x20 ≤ c.toNat && c.toNat ≠ 0x2028 && c.toNat ≠ 0x2029

/-- What may stand between the parts of an array. -/
def isFiller (c : Char) : Bool := Text.isBlank c || c.toNat = 0xFEFF

namespace Reading

def next (r : Reading) (c : Char) : Option Reading :=
  match r.stage with
  | .outside => if c = '[' then some { r with stage := .between } else none
  | .between =>
    if c = '"' then some { r with stage := .inside [] }
    else if c = ']' then some { r with stage := .closed }
    else if isFiller c then some r
    else none
  | .inside us =>
    if c = '"' then some ⟨r.elements ++ [us], .after⟩
    else if c = '\\' then some { r with stage := .escaping us }
    else if isBare c then some { r with stage := .inside (us ++ Units.ofChar c) }
    else none
  | .escaping us =>
    if c = 'u' then some { r with stage := .numbering us [] }
    else (unitOf? c).map fun n => { r with stage := .inside (us ++ [n]) }
  | .numbering us ds =>
    (Text.hexDigit? c).map fun d =>
      let ds := ds ++ [d]
      if ds.length < 4 then { r with stage := .numbering us ds }
      else { r with stage := .inside (us ++ [ds.foldl (fun n d => 16 * n + d) 0]) }
  | .after =>
    if c = ',' then some { r with stage := .between }
    else if c = ']' then some { r with stage := .closed }
    else if isFiller c then some r
    else none
  | .closed => none

def finish? : Reading → List Char → Option (List Units × List Char)
  | ⟨texts, .closed⟩, cs => some (texts, cs)
  | _, [] => none
  | r, c :: cs => (r.next c).bind (finish? · cs)

end Reading

def readLiteral? (text : String) : Option (List Units × List Char) :=
  Reading.finish? ⟨[], .outside⟩ text.toList

/-- How a character may be written in an element: after a backslash, by its number, or as it is. -/
inductive Spelling (c : Char) : List Char → Prop where
  | escaped (e : Char) (h : unitOf? e = some c.toNat) : Spelling c ['\\', e]
  | numbered (h : c.toNat < 0x10000) : Spelling c ('\\' :: 'u' :: Text.hex4 c.toNat)
  | bare (h : isBare c = true) : Spelling c [c]

theorem unitOf?_eq_some {e : Char} {n : Nat} (h : unitOf? e = some n) : e ≠ 'u' ∧ n < 0x10000 := by
  unfold unitOf? at h
  split at h <;> cases h <;> decide

theorem spelling_escape (c : Char) : Spelling c (Guard.escape c) := by
  unfold Guard.escape
  split
  · exact .numbered (by omega)
  next hseparator =>
  unfold Json.escape
  split
  · next hc =>
    subst hc
    exact .escaped '"' rfl
  next hquote =>
  split
  · next hc =>
    subst hc
    exact .escaped '\\' rfl
  next hback =>
  split
  · next hcontrol =>
    split
    · next hc =>
      subst hc
      exact .escaped 'n' rfl
    split
    · next hc =>
      subst hc
      exact .escaped 'r' rfl
    split
    · next hc =>
      subst hc
      exact .escaped 't' rfl
    split
    · next hc => exact .escaped 'b' (by rw [hc]; rfl)
    split
    · next hc => exact .escaped 'f' (by rw [hc]; rfl)
    · exact .numbered (by omega)
  · next hcontrol =>
    apply Spelling.bare
    simp [isBare, hquote, hback]
    omega

namespace Reading

variable {r r' : Reading} {done : List Units} {us : Units} {c : Char} {cs : List Char}

theorem finish?_closed (texts : List Units) (cs : List Char) :
    finish? ⟨texts, .closed⟩ cs = some (texts, cs) := by
  cases cs <;> rfl

theorem finish?_append (h : cs.foldlM next r = some r') (rest : List Char) :
    finish? r (cs ++ rest) = finish? r' rest := by
  induction cs generalizing r with
  | nil =>
    cases h
    rfl
  | cons c cs ih =>
    obtain ⟨r₁, hnext, htail⟩ := Option.bind_eq_some_iff.1 h
    have hopen : r.stage ≠ .closed := by
      intro hclosed
      simp [next, hclosed] at hnext
    rw [List.cons_append, finish?, hnext, Option.bind_some, ih htail]
    rintro texts rfl
    exact hopen rfl

/-- However a character is written, it is read as itself. -/
theorem foldlM_spelling (h : Spelling c cs) :
    cs.foldlM next ⟨done, .inside us⟩ = some ⟨done, .inside (us ++ Units.ofChar c)⟩ := by
  have hunit (h : c.toNat < 0x10000) : Units.ofChar c = [c.toNat] := if_pos h
  cases h with
  | escaped e he =>
    obtain ⟨hu, hsmall⟩ := unitOf?_eq_some he
    simp [next, hu, he, hunit hsmall]
  | numbered h =>
    have hdigit (m : Nat) : Text.hexDigit? (Text.hexChar (m % 16)) = some (m % 16) :=
      Text.hexDigit?_hexChar (Nat.mod_lt m (by decide))
    have hvalue : 16 * (16 * (16 * (c.toNat / 4096 % 16) + c.toNat / 256 % 16) +
        c.toNat / 16 % 16) + c.toNat % 16 = c.toNat := by
      omega
    simp [next, Text.hex4, hdigit, hvalue, hunit h]
  | bare h =>
    obtain ⟨hquote, hback⟩ : c ≠ '"' ∧ c ≠ '\\' := by
      simp only [isBare, Bool.and_eq_true, decide_eq_true_eq] at h
      exact h.1.1.1
    simp [next, hquote, hback, h]

/-- A name is read as one element, which ends at its own closing quote. -/
theorem foldlM_nameChars (name : String) :
    (Guard.nameChars name).foldlM next ⟨done, .between⟩ =
      some ⟨done ++ [Units.ofString name], .after⟩ := by
  have hinside (us : Units) (cs : List Char) :
      (cs.flatMap Guard.escape ++ ['"']).foldlM next ⟨done, .inside us⟩ =
        some ⟨done ++ [us ++ cs.flatMap Units.ofChar], .after⟩ := by
    induction cs generalizing us with
    | nil => simp [next]
    | cons c cs ih =>
      rw [List.flatMap_cons, List.append_assoc, List.foldlM_append,
        foldlM_spelling (spelling_escape c)]
      simpa using ih (us ++ Units.ofChar c)
  simpa [Guard.nameChars, next, Units.ofString] using hinside [] name.toList

/-- Names with commas between them are read one after the other, by induction over them. -/
theorem foldlM_names (name : String) (names : List String) :
    ([','].intercalate ((name :: names).map Guard.nameChars)).foldlM next ⟨done, .between⟩ =
      some ⟨done ++ (name :: names).map Units.ofString, .after⟩ := by
  induction names generalizing name done with
  | nil => simpa using foldlM_nameChars name
  | cons other names ih =>
    rw [List.map_cons, List.map_cons, List.intercalate_cons_cons, List.append_assoc,
      List.foldlM_append, foldlM_nameChars, ← List.map_cons]
    simpa [next] using @ih (done ++ [Units.ofString name]) other

end Reading

theorem foldlM_literalChars (s : IdentitySet) :
    (Guard.literalChars s).foldlM Reading.next ⟨[], .outside⟩ =
      some ⟨s.names.map Units.ofString, .closed⟩ := by
  unfold Guard.literalChars
  cases s.names with
  | nil => rfl
  | cons name names =>
    have hopening : Reading.next ⟨[], .outside⟩ '[' = some ⟨[], .between⟩ := rfl
    rw [List.foldlM_append, List.foldlM_cons, hopening, Option.bind_eq_bind, Option.bind_some,
      Reading.foldlM_names]
    rfl

end Script

namespace Guard

open Script

def lineSeparator : Char := '\u2028'

def paragraphSeparator : Char := '\u2029'

/-- Writes a character by its number wherever it stands. -/
def renumber (sep : Char) (cs : List Char) : List Char :=
  cs.flatMap fun c => if c = sep then '\\' :: 'u' :: Text.hex4 sep.toNat else [c]

def renumbered (cs : List Char) : List Char :=
  renumber paragraphSeparator (renumber lineSeparator cs)

theorem renumber_of_forall_ne {sep : Char} {cs : List Char} (h : ∀ c ∈ cs, c ≠ sep) :
    renumber sep cs = cs := by
  induction cs with
  | nil => rfl
  | cons c cs ih =>
    have hc := h c List.mem_cons_self
    have hrest := ih fun d hd => h d (List.mem_cons_of_mem c hd)
    rw [renumber, List.flatMap_cons, if_neg hc, ← renumber, hrest]
    rfl

theorem renumbered_append (cs ds : List Char) :
    renumbered (cs ++ ds) = renumbered cs ++ renumbered ds := by
  simp only [renumbered, renumber, List.flatMap_append]

/-- No separator of lines is left in what a character is spelled as. -/
theorem spelling_ne_separator {c d : Char} {cs : List Char} (h : Spelling c cs) (hd : d ∈ cs) :
    d ≠ lineSeparator ∧ d ≠ paragraphSeparator := by
  have hdigit : ∀ k : Fin 16,
      Text.hexChar k ≠ lineSeparator ∧ Text.hexChar k ≠ paragraphSeparator := by
    decide
  cases h with
  | escaped e he =>
    rcases List.mem_pair.1 hd with rfl | rfl
    · decide
    · constructor <;> rintro rfl <;> cases he
  | numbered h =>
    have hdigits (n : Nat) := hdigit ⟨n % 16, Nat.mod_lt n (by decide)⟩
    simp only [Text.hex4, List.mem_cons, List.not_mem_nil, or_false] at hd
    rcases hd with rfl | rfl | rfl | rfl | rfl | rfl
    · decide
    · decide
    · exact hdigits _
    · exact hdigits _
    · exact hdigits _
    · exact hdigits _
  | bare h =>
    rw [List.mem_singleton.1 hd]
    constructor <;> rintro rfl <;> cases h

theorem renumbered_escape (c : Char) : renumbered (Json.escape c) = escape c := by
  by_cases hc : c.toNat = 0x2028 ∨ c.toNat = 0x2029
  · have hsep : c = lineSeparator ∨ c = paragraphSeparator :=
      hc.imp (fun h => Char.toNat_inj.1 h) fun h => Char.toNat_inj.1 h
    rcases hsep with rfl | rfl <;> rfl
  · have hescape : escape c = Json.escape c := if_neg hc
    have hplain (d : Char) (hd : d ∈ Json.escape c) :=
      spelling_ne_separator (spelling_escape c) (hescape ▸ hd)
    rw [hescape, renumbered, renumber_of_forall_ne fun d hd => (hplain d hd).1,
      renumber_of_forall_ne fun d hd => (hplain d hd).2]

theorem renumbered_stringChars (name : String) :
    renumbered (Json.stringChars name) = nameChars name := by
  have hall (cs : List Char) : renumbered (cs.flatMap Json.escape) = cs.flatMap escape := by
    induction cs with
    | nil => rfl
    | cons c cs ih => rw [List.flatMap_cons, renumbered_append, renumbered_escape, ih,
        List.flatMap_cons]
  have hquote (cs : List Char) : renumbered ('"' :: cs) = '"' :: renumbered cs :=
    renumbered_append ['"'] cs
  rw [Json.stringChars, nameChars, renumbered_append, hquote, hall]
  rfl

theorem renumbered_itemChars (names : List String) :
    renumbered (Json.itemChars (names.map .string)) = [','].intercalate (names.map nameChars) := by
  induction names with
  | nil => rfl
  | cons name names ih =>
    cases names with
    | nil =>
      rw [List.map_singleton, List.map_singleton, List.intercalate_singleton]
      exact renumbered_stringChars name
    | cons other names =>
      have hitems : Json.itemChars ((name :: other :: names).map .string) =
          Json.stringChars name ++ ([','] ++ Json.itemChars ((other :: names).map .string)) := by
        simp [Json.itemChars, Json.chars]
      rw [hitems, renumbered_append, renumbered_append, renumbered_stringChars, ih, List.map_cons,
        List.map_cons, List.map_cons, List.intercalate_cons_cons, List.append_assoc]
      rfl

/-- The array of a guard is the JSON text of the names in which the separators of lines have been
replaced. -/
theorem literalChars_eq_renumbered (s : IdentitySet) :
    literalChars s = renumbered (Json.texts s.names).chars := by
  have hchars : (Json.texts s.names).chars =
      ['['] ++ (Json.itemChars (s.names.map .string) ++ [']']) := by
    simp [Json.texts, Json.chars]
  rw [hchars, renumbered_append, renumbered_append, renumbered_itemChars]
  rfl

/-- Nothing that a name holds can end the array or the text around it: whatever follows the array, a
strict reader gets the names in their order and leaves just that. -/
theorem literal_read_exactly (s : IdentitySet) (rest : String) :
    Guard.literal s = String.ofList (renumbered (Json.texts s.names).chars) ∧
    ∃ texts, Script.readLiteral? (Guard.literal s ++ rest) = some (texts, rest.toList) ∧
      ∀ names : List String, names.map Units.ofString = texts ↔ names = s.names := by
  refine ⟨congrArg String.ofList (literalChars_eq_renumbered s), s.names.map Units.ofString, ?_, ?_⟩
  · rw [Script.readLiteral?, String.toList_append, literal, String.toList_ofList,
      Reading.finish?_append (foldlM_literalChars s), Reading.finish?_closed]
  · have hinjective : Function.Injective Units.ofString := fun _ _ => Units.ofString_injective
    exact fun names => (List.map_injective_iff.2 hinjective).eq_iff

end Guard

end Permits
