import Permits.Proofs.Guard.Literal
import Permits.Proofs.Policy.Resolution

namespace Permits

open Script

namespace Script

section Elements

variable {us : Units} {done : List Units} {cs : List Char}

theorem readElements_escaped {e : Char} {n : Nat} (he : e ≠ 'u') (hn : escaped? e = some n) :
    readElements (.within us) done ('\\' :: e :: cs) =
      readElements (.within (us ++ [n])) done cs := by
  simp [readElements, he, hn]

theorem readElements_hex4 {n : Nat} (h : n < 0x10000) :
    readElements (.within us) done ('\\' :: 'u' :: Text.hex4 n ++ cs) =
      readElements (.within (us ++ [n])) done cs := by
  have hdigit (m : Nat) : Text.hexDigit? (Text.hexChar (m % 16)) = some (m % 16) :=
    Text.hexDigit?_hexChar (Nat.mod_lt m (by decide))
  have hvalue : 16 * (16 * (16 * (n / 4096 % 16) + n / 256 % 16) + n / 16 % 16) + n % 16 = n := by
    omega
  simp [readElements, Text.hex4, hdigit, hvalue]

theorem escaped?_of_unitOf? {e : Char} {n : Nat} (h : unitOf? e = some n) :
    escaped? e = some n := by
  unfold unitOf? at h
  split at h <;> cases h <;> rfl

theorem readElements_plain {c : Char} (hquote : c ≠ '"') (hback : c ≠ '\\')
    (hline : endsLine c = false) :
    readElements (.within us) done (c :: cs) =
      readElements (.within (us ++ Units.ofChar c)) done cs := by
  simp [readElements, hquote, hback, hline]

/-- However a character is written, it is read as itself. -/
theorem readElements_escape (c : Char) :
    readElements (.within us) done (Guard.escape c ++ cs) =
      readElements (.within (us ++ Units.ofChar c)) done cs := by
  have hunit (h : c.toNat < 0x10000) : Units.ofChar c = [c.toNat] := if_pos h
  have hspelling := spelling_escape c
  generalize Guard.escape c = spelled at hspelling ⊢
  cases hspelling with
  | escaped e he =>
    obtain ⟨hu, hsmall⟩ := unitOf?_eq_some he
    rw [hunit hsmall]
    exact readElements_escaped hu (escaped?_of_unitOf? he)
  | numbered h =>
    rw [hunit h]
    exact readElements_hex4 h
  | bare h =>
    simp only [isBare, Bool.and_eq_true, decide_eq_true_eq] at h
    obtain ⟨⟨⟨⟨hquote, hback⟩, hcontrol⟩, hline⟩, hparagraph⟩ := h
    have hn : c ≠ '\n' := fun hc => absurd hcontrol (hc ▸ by decide)
    have hr : c ≠ '\r' := fun hc => absurd hcontrol (hc ▸ by decide)
    exact readElements_plain hquote hback (by simp [endsLine, hn, hr, hline, hparagraph])

theorem readElements_name (name : String) (first : Bool) :
    readElements (.before first) done (Guard.nameChars name ++ cs) =
      readElements .after (done ++ [Units.ofString name]) cs := by
  have hwithin (us : Units) (chars : List Char) :
      readElements (.within us) done (chars.flatMap Guard.escape ++ ['"'] ++ cs) =
        readElements .after (done ++ [us ++ chars.flatMap Units.ofChar]) cs := by
    induction chars generalizing us with
    | nil => simp [readElements]
    | cons c chars ih =>
      rw [List.flatMap_cons, List.append_assoc, List.append_assoc, readElements_escape,
        ← List.append_assoc, ih, List.flatMap_cons, List.append_assoc]
  simpa [Guard.nameChars, readElements, Units.ofString] using hwithin [] name.toList

theorem readElements_names (first : Bool) (name : String) (names : List String) :
    readElements (.before first) done
        ([','].intercalate ((name :: names).map Guard.nameChars) ++ ']' :: cs) =
      some (done ++ (name :: names).map Units.ofString, cs) := by
  induction names generalizing name first done with
  | nil =>
    rw [List.map_singleton, List.intercalate_singleton, readElements_name]
    rfl
  | cons other names ih =>
    rw [List.map_cons, List.map_cons, List.intercalate_cons_cons, List.append_assoc,
      List.append_assoc, readElements_name, ← List.map_cons]
    have hcomma (rest : List Char) : readElements .after (done ++ [Units.ofString name])
        ([','] ++ rest) = readElements (.before false) (done ++ [Units.ofString name]) rest := rfl
    rw [hcomma, ih, List.append_assoc]
    rfl

/-- The array of a guard is read to its end and no further, whatever follows it. -/
theorem readArray_literal (s : IdentitySet) (rest : List Char) :
    readArray ((Guard.literal s).toList ++ rest) = some (s.names.map Units.ofString, rest) := by
  rw [Guard.literal, String.toList_ofList, Guard.literalChars]
  cases s.names with
  | nil => rfl
  | cons name names =>
    rw [List.append_assoc, List.cons_append]
    exact readElements_names true name names

end Elements

theorem expect_append (text : String) (rest : List Char) :
    expect text (text.toList ++ rest) = some rest :=
  List.dropPrefix?_eq_some_iff.2 ⟨_, rfl, by simp⟩

theorem readEnd_closing (k : GuardKind) :
    readEnd (Guard.closing k).toList = some (decide (k = .delete), k.refusal) := by
  cases k <;> decide +kernel

theorem exists_closing_eq (k : GuardKind) :
    ∃ rest, Guard.closing k = ".indexOf(userCtx.name)" ++ rest := by
  have hsplit : ".indexOf(userCtx.name) == -1" = ".indexOf(userCtx.name)" ++ " == -1" := by
    decide +kernel
  unfold Guard.closing
  rw [hsplit]
  simp only [String.append_assoc]
  exact ⟨_, rfl⟩

/-- The source of a rule is read as the names of the rule, its kind and its message. -/
theorem read?_source (r : GuardRule) :
    read? r.source =
      some ⟨r.allowed.names.map Units.ofString, r.kind = .delete, r.kind.refusal⟩ := by
  have hsource : r.source.toList = Guard.opening.toList ++
      ((Guard.literal r.allowed).toList ++ (Guard.closing r.kind).toList) := by
    simp [GuardRule.source]
  have hopening := expect_append Guard.opening
    ((Guard.literal r.allowed).toList ++ (Guard.closing r.kind).toList)
  rw [← hsource, Guard.opening] at hopening
  simp [read?, hopening, readArray_literal, readEnd_closing]

/-- The search comes back without a place just if the caller is not listed. -/
theorem indexOf_eq_neg_one_iff (s : IdentitySet) (caller : Option String) :
    indexOf (s.names.map Units.ofString) (caller.map Units.ofString) = -1 ↔
      caller.any s.containsName = false := by
  cases caller with
  | none => simp [indexOf]
  | some name =>
    have hmem : Units.ofString name ∈ s.names.map Units.ofString ↔ s.containsName name = true := by
      rw [List.mem_map_of_injective fun _ _ => Units.ofString_injective, IdentitySet.mem_names]
      exact IdentitySet.contains_iff.symm
    simp only [Option.map_some, Option.any_some, indexOf]
    cases hfound : (s.names.map Units.ofString).idxOf? (Units.ofString name) with
    | none =>
      have habsent := List.idxOf?_eq_none_iff.1 hfound
      rw [hmem] at habsent
      simpa using habsent
    | some n =>
      obtain ⟨hlt, hn, -⟩ := List.idxOf?_eq_some_iff.1 hfound
      have hlisted := hmem.1 (hn ▸ List.getElem_mem hlt)
      rw [hlisted]
      constructor
      · intro h
        cases h
      · intro h
        cases h

end Script

def Decision.thrown? : Decision → Option String
  | allow => none
  | deny message => some message

namespace GuardRule

/-- The decision table of both kinds. -/
theorem throws?_eq_evaluate (r : GuardRule) (caller : Option String) (deleting : Bool) :
    Script.throws? ⟨r.allowed.names.map Units.ofString, r.kind = .delete, r.kind.refusal⟩
      (caller.map Units.ofString) deleting = (r.evaluate caller deleting).thrown? := by
  obtain ⟨kind, s⟩ := r
  unfold throws? evaluate
  simp only [indexOf_eq_neg_one_iff]
  cases kind <;> cases caller.any s.containsName <;> cases deleting <;> rfl

/-- The source of a rule is the rule: read as a script, it throws just where the rule refuses, with
the same message. Its array ends where it was closed, whatever the names hold, and rules of one
source have one kind and the same names. -/
theorem source_agrees (r : GuardRule) :
    (∃ script, Script.read? r.source = some script ∧ ∀ caller deleting,
      script.throws? (caller.map Units.ofString) deleting =
        (r.evaluate caller deleting).thrown?) ∧
    (∃ rest, r.source =
      Guard.opening ++ Guard.literal r.allowed ++ (".indexOf(userCtx.name)" ++ rest)) ∧
    (∀ rest, Script.readArray ((Guard.literal r.allowed).toList ++ rest) =
      some (r.allowed.names.map Units.ofString, rest)) ∧
    ∀ r' : GuardRule, r'.source = r.source →
      r'.kind = r.kind ∧ r'.allowed.names = r.allowed.names := by
  refine ⟨⟨_, read?_source r, throws?_eq_evaluate r⟩, ?_, readArray_literal r.allowed, ?_⟩
  · obtain ⟨rest, hrest⟩ := exists_closing_eq r.kind
    exact ⟨rest, by rw [source, hrest]⟩
  · intro r' hsource
    have hread := read?_source r'
    rw [hsource, read?_source r] at hread
    simp only [Option.some.injEq, Script.mk.injEq] at hread
    obtain ⟨hnames, hkind, -⟩ := hread
    constructor
    · cases hr : r.kind <;> cases hr' : r'.kind <;> simp [hr, hr'] at hkind ⊢
    · exact List.map_injective_iff.2 (fun _ _ => Units.ofString_injective) hnames.symm

end GuardRule

end Permits
