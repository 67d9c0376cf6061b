import Permits.Text.Classes
import Permits.Text.Lowercase

namespace Permits.Text

namespace Capitals

/-- The small form of the last capital of a row. -/
def smallLast (k : Capitals) : Nat := k.small + (k.last - k.first)

/-- No small form of one row is a capital of another: the one row ends before the other begins, or
the small forms fall between the capitals. -/
def apart (k k' : Capitals) : Bool :=
  Nat.blt k.smallLast k'.first || Nat.blt k'.last k.small ||
    ((Nat.beq k.stride 2 || Nat.beq k.first k.last) && Nat.beq k'.stride 2 &&
      Nat.beq ((k.small + k'.first) % 2) 1)

/-- The small forms of a row are characters like any other: no blanks, no control characters, and
U+0130 is none of them. -/
def plain (k : Capitals) : Bool :=
  (Nat.ble 0x20 k.small && Nat.blt k.smallLast 0x7F || Nat.blt 0x9F k.small) &&
    (Nat.blt k.smallLast 0xD800 || (Nat.blt 0xDFFF k.small && Nat.blt k.smallLast 0x110000)) &&
    (Nat.blt k.smallLast 0x130 || Nat.blt 0x130 k.small) &&
    blanks.all fun r => Nat.blt k.smallLast r.1 || Nat.blt r.2 k.small

variable {k k' : Capitals} {n m : Nat}

theorem small?_eq_some : k.small? n = some m ↔
    k.first ≤ n ∧ n ≤ k.last ∧ (n - k.first) % k.stride = 0 ∧ k.small + (n - k.first) = m := by
  unfold small?
  split <;> simp_all

theorem small?_eq_none_of_apart (h : k.apart k' = true) (hm : k.small? n = some m) :
    k'.small? m = none := by
  obtain ⟨hfirst, hlast, hstride, rfl⟩ := small?_eq_some.1 hm
  rw [small?, if_neg]
  rintro ⟨hfirst', hlast', hstride'⟩
  simp only [apart, Bool.or_eq_true, Bool.and_eq_true, Nat.blt_eq, Nat.beq_eq, smallLast] at h
  rcases h with (h | h) | ⟨⟨h | h, h2⟩, hodd⟩
  · omega
  · omega
  · rw [h] at hstride
    rw [h2] at hstride'
    omega
  · rw [h2] at hstride'
    omega

end Capitals

theorem capitals_apart : (capitals.all fun k => capitals.all k.apart) = true := by decide +kernel

theorem capitals_plain : capitals.all Capitals.plain = true := by decide +kernel

theorem capitals_ascii :
    ∃ rest, capitals = ⟨0x41, 0x5A, 1, 0x61⟩ :: rest ∧ rest.all (Nat.ble 0x80 ·.first) = true :=
  ⟨capitals.tail, rfl, by decide +kernel⟩

/-- The small form of a capital, both as numbers. -/
def smallForm? (n : Nat) : Option Nat := capitals.findSome? (·.small? n)

/-- What is true of a number that stands for a character neither blank nor a control character. -/
structure Visible (n : Nat) : Prop where
  valid : n.isValidChar
  notBlank : ∀ r ∈ blanks, ¬ (r.1 ≤ n ∧ n ≤ r.2)
  notControl : 0x20 ≤ n ∧ n < 0x7F ∨ 0x9F < n

section Characters

variable {c d : Char} {n m : Nat}

theorem smallForm?_eq_some (h : smallForm? n = some m) :
    smallForm? m = none ∧ m ≠ 0x130 ∧ Visible m := by
  obtain ⟨k, hk, hm⟩ := List.exists_of_findSome?_eq_some h
  obtain ⟨hfirst, hlast, -, heq⟩ := Capitals.small?_eq_some.1 hm
  have hrange : k.small ≤ m ∧ m ≤ k.smallLast := by
    unfold Capitals.smallLast
    omega
  have happart := List.all_eq_true.1 (List.all_eq_true.1 capitals_apart k hk)
  have hplain := List.all_eq_true.1 capitals_plain k hk
  simp only [Capitals.plain, Bool.and_eq_true, Bool.or_eq_true, Nat.ble_eq, Nat.blt_eq,
    List.all_eq_true] at hplain
  obtain ⟨⟨⟨hcontrol, hvalid⟩, hdotted⟩, hblank⟩ := hplain
  refine ⟨?_, by omega, ?_, ?_, by omega⟩
  · rw [smallForm?, List.findSome?_eq_none_iff]
    exact fun k' hk' => Capitals.small?_eq_none_of_apart (happart k' hk') hm
  · unfold Nat.isValidChar
    omega
  · intro r hr
    have := hblank r hr
    omega

theorem smallForm?_ascii (h : n < 0x80) :
    smallForm? n = if 0x41 ≤ n ∧ n ≤ 0x5A then some (n + 32) else none := by
  obtain ⟨rest, hrows, hrest⟩ := capitals_ascii
  have hnone : rest.findSome? (·.small? n) = none := by
    rw [List.findSome?_eq_none_iff]
    intro k hk
    have hfirst := Nat.le_of_ble_eq_true (List.all_eq_true.1 hrest k hk)
    rw [Capitals.small?, if_neg]
    omega
  rw [smallForm?, hrows, List.findSome?_cons, hnone]
  by_cases hn : 0x41 ≤ n ∧ n ≤ 0x5A
  · have hsmall : Capitals.small? ⟨0x41, 0x5A, 1, 0x61⟩ n = some (n + 32) :=
      Capitals.small?_eq_some.2 ⟨hn.1, hn.2, Nat.mod_one _, by show 0x61 + (n - 0x41) = _; omega⟩
    rw [hsmall, if_pos hn]
  · rw [Capitals.small?, if_neg fun hall => hn ⟨hall.1, hall.2.1⟩, if_neg hn]

theorem toNat_ofNat (h : n.isValidChar) : (Char.ofNat n).toNat = n := by
  rw [Char.ofNat, dif_pos h]
  rfl

theorem lowerChar_of_some (h : smallForm? c.toNat = some m) (hdotted : c.toNat ≠ 0x130) :
    lowerChar c = [Char.ofNat m] := by
  unfold lowerChar
  split
  · next hascii =>
    rw [smallForm?_ascii hascii] at h
    split at h
    · next hcapital =>
      cases h
      rw [if_pos hcapital]
    · cases h
  · have hfind : capitals.findSome? (·.small? c.toNat) = some m := h
    rw [hfind]

theorem lowerChar_of_none (h : smallForm? c.toNat = none) (hdotted : c.toNat ≠ 0x130) :
    lowerChar c = [c] := by
  unfold lowerChar
  split
  · next hascii =>
    rw [smallForm?_ascii hascii] at h
    split at h
    · cases h
    · next hcapital => rw [if_neg hcapital]
  · have hfind : capitals.findSome? (·.small? c.toNat) = none := h
    rw [hfind]

theorem not_blank_of_visible (h : Visible c.toNat) : isBlank c = false ∧ isControl c = false := by
  constructor
  · rw [isBlank, inRanges, List.any_eq_false]
    intro r hr hin
    rw [Bool.and_eq_true, decide_eq_true_eq, decide_eq_true_eq] at hin
    exact h.notBlank r hr hin
  · have hcontrol := h.notControl
    simp only [isControl, Bool.or_eq_false_iff, Bool.and_eq_false_iff, decide_eq_false_iff_not]
    omega

/-- What stands for a character in small letters is left alone there, and is visible where the
character is. -/
theorem settled_of_mem_lowerChar (h : d ∈ lowerChar c) : lowerChar d = [d] ∧
    (isBlank c = false → isControl c = false → isBlank d = false ∧ isControl d = false) := by
  by_cases hdotted : c.toNat = 0x130
  · have hc : c = 'İ' := by
      rw [← Char.ofNat_toNat c, hdotted]
    subst hc
    have hletters : d = 'i' ∨ d = '\u0307' := by simpa [lowerChar] using h
    rcases hletters with rfl | rfl
    · exact ⟨rfl, fun _ _ => ⟨rfl, rfl⟩⟩
    · exact ⟨lowerChar_of_none (by decide +kernel) (by decide), fun _ _ => ⟨rfl, rfl⟩⟩
  · cases hsmall : smallForm? c.toNat with
    | some m =>
      rw [lowerChar_of_some hsmall hdotted, List.mem_singleton] at h
      obtain ⟨hsettled, hdotted, hvisible⟩ := smallForm?_eq_some hsmall
      have hd : d.toNat = m := h ▸ toNat_ofNat hvisible.valid
      rw [← hd] at hsettled hdotted hvisible
      exact ⟨lowerChar_of_none hsettled hdotted, fun _ _ => not_blank_of_visible hvisible⟩
    | none =>
      have hkeep := lowerChar_of_none hsmall hdotted
      rw [hkeep, List.mem_singleton] at h
      subst h
      exact ⟨hkeep, fun hblank hcontrol => ⟨hblank, hcontrol⟩⟩

theorem lowerChar_ne_nil (c : Char) : lowerChar c ≠ [] := by
  unfold lowerChar
  split
  · exact List.cons_ne_nil _ _
  split
  · exact List.cons_ne_nil _ _
  split <;> exact List.cons_ne_nil _ _

end Characters

section Texts

variable {c d : Char} {cs rest before : List Char}

theorem ne_sigma_of_settled (h : lowerChar c = [c]) : c ≠ 'Σ' := by
  rintro rfl
  have hsigma : lowerChar 'Σ' = ['σ'] := lowerChar_of_some (by decide +kernel) (by decide)
  rw [hsigma] at h
  exact absurd h (by decide)

/-- Small letters in front of a text stay as they are. -/
theorem lowerFrom_append (h : ∀ c ∈ cs, lowerChar c = [c]) (before rest : List Char) :
    lowerFrom before (cs ++ rest) = cs ++ lowerFrom (cs.reverse ++ before) rest := by
  induction cs generalizing before with
  | nil => rfl
  | cons c cs ih =>
    have hc := h c List.mem_cons_self
    rw [List.cons_append, lowerFrom, if_neg (ne_sigma_of_settled hc), hc,
      ih (fun d hd => h d (List.mem_cons_of_mem c hd)), List.reverse_cons, List.append_assoc]
    rfl

/-- A capital sigma takes one of two forms; every other character is made small on its own. -/
theorem exists_of_mem_lowerFrom (h : d ∈ lowerFrom before cs) :
    ∃ c ∈ cs, d ∈ lowerChar c ∨ c = 'Σ' ∧ (d = 'σ' ∨ d = 'ς') := by
  induction cs generalizing before with
  | nil => exact absurd h List.not_mem_nil
  | cons c cs ih =>
    rw [lowerFrom, List.mem_append] at h
    rcases h with h | h
    · refine ⟨c, List.mem_cons_self, ?_⟩
      by_cases hc : c = 'Σ'
      · rw [if_pos hc, List.mem_singleton] at h
        refine .inr ⟨hc, ?_⟩
        split at h
        · exact .inr h
        · exact .inl h
      · rw [if_neg hc] at h
        exact .inl h
    · obtain ⟨c', hc', h⟩ := ih h
      exact ⟨c', List.mem_cons_of_mem c hc', h⟩

theorem settled_of_mem_lowerFrom (h : d ∈ lowerFrom before cs) : lowerChar d = [d] := by
  obtain ⟨c, -, h | ⟨-, rfl | rfl⟩⟩ := exists_of_mem_lowerFrom h
  · exact (settled_of_mem_lowerChar h).1
  · exact lowerChar_of_none (by decide +kernel) (by decide)
  · exact lowerChar_of_none (by decide +kernel) (by decide)

/-- Small letters bring no blanks and no control characters. -/
theorem visible_of_mem_lowerFrom (hcs : ∀ c ∈ cs, isBlank c = false ∧ isControl c = false)
    (h : d ∈ lowerFrom before cs) : isBlank d = false ∧ isControl d = false := by
  obtain ⟨c, hc, h | ⟨-, rfl | rfl⟩⟩ := exists_of_mem_lowerFrom h
  · exact (settled_of_mem_lowerChar h).2 (hcs c hc).1 (hcs c hc).2
  · exact ⟨rfl, rfl⟩
  · exact ⟨rfl, rfl⟩

theorem lowerFrom_ne_nil (h : cs ≠ []) : lowerFrom before cs ≠ [] := by
  obtain ⟨c, cs, rfl⟩ := List.exists_cons_of_ne_nil h
  rw [lowerFrom]
  apply List.append_ne_nil_of_left_ne_nil
  split
  · exact List.cons_ne_nil _ _
  · exact lowerChar_ne_nil c

/-- The form that a capital sigma has taken is kept, although it depends on what stands around. -/
theorem lowercase_idem (s : String) : lowercase (lowercase s) = lowercase s := by
  have hsettled : ∀ d ∈ lowerFrom [] s.toList, lowerChar d = [d] := fun d hd =>
    settled_of_mem_lowerFrom hd
  have hkeep := lowerFrom_append hsettled [] []
  rw [List.append_nil, lowerFrom, List.append_nil] at hkeep
  rw [lowercase, lowercase, String.toList_ofList, hkeep]

end Texts

end Permits.Text
