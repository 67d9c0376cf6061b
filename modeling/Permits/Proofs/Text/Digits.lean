import Permits.Json.Reader
import Permits.Text.Hex

namespace Permits.Text

theorem hexDigit?_hexChar {n : Nat} (h : n < 16) : hexDigit? (hexChar n) = some n := by
  have hall : ∀ k : Fin 16, hexDigit? (hexChar k) = some k.val := by decide
  exact hall ⟨n, h⟩

theorem hexDigit?_hexUpperChar {n : Nat} (h : n < 16) : hexDigit? (hexUpperChar n) = some n := by
  have hall : ∀ k : Fin 16, hexDigit? (hexUpperChar k) = some k.val := by decide
  exact hall ⟨n, h⟩

theorem hexChar_inj {m n : Nat} (hm : m < 16) (hn : n < 16) (h : hexChar m = hexChar n) :
    m = n := by
  have hread := hexDigit?_hexChar hm
  rw [h, hexDigit?_hexChar hn] at hread
  exact (Option.some.inj hread).symm

theorem hexBytes_cons (b : UInt8) (bs : List UInt8) : hexBytes (b :: bs) =
    hexChar (b.toNat / 16) :: hexChar (b.toNat % 16) :: hexBytes bs := rfl

theorem length_hexBytes (bs : List UInt8) : (hexBytes bs).length = 2 * bs.length := by
  induction bs with
  | nil => rfl
  | cons b bs ih =>
    rw [hexBytes_cons, List.length_cons, List.length_cons, List.length_cons, ih]
    omega

theorem hexChar_mem {n : Nat} (h : n < 16) : hexChar n ∈ "0123456789abcdef".toList := by
  have hall : ∀ k : Fin 16, hexChar k ∈ "0123456789abcdef".toList := by decide
  exact hall ⟨n, h⟩

theorem mem_hexBytes {bs : List UInt8} {c : Char} (h : c ∈ hexBytes bs) :
    c ∈ "0123456789abcdef".toList := by
  obtain ⟨b, -, hc⟩ := List.mem_flatMap.1 h
  have hb := b.toNat_lt
  simp only [List.mem_cons, List.not_mem_nil, or_false] at hc
  rcases hc with rfl | rfl
  · exact hexChar_mem (by omega)
  · exact hexChar_mem (by omega)

/-- Bytes can be read back from their digits. -/
theorem hexBytes_injective {bs cs : List UInt8} (h : hexBytes bs = hexBytes cs) : bs = cs := by
  induction bs generalizing cs with
  | nil =>
    cases cs with
    | nil => rfl
    | cons c cs => cases h
  | cons b bs ih =>
    cases cs with
    | nil => cases h
    | cons c cs =>
      rw [hexBytes_cons, hexBytes_cons] at h
      obtain ⟨hhigh, h⟩ := List.cons.inj h
      obtain ⟨hlow, h⟩ := List.cons.inj h
      have hb := b.toNat_lt
      have hc := c.toNat_lt
      have hdiv := hexChar_inj (by omega) (by omega) hhigh
      have hmod := hexChar_inj (by omega) (by omega) hlow
      have hbyte : b = c := UInt8.toNat_inj.1 (by omega)
      rw [hbyte, ih h]

theorem toNat_of_isDigit {c : Char} (h : c.isDigit = true) : 0x30 ≤ c.toNat ∧ c.toNat ≤ 0x39 := by
  simpa [Char.isDigit, UInt32.le_iff_toNat_le] using h

theorem digit?_of_isDigit {c : Char} (h : c.isDigit = true) : digit? c = some (c.toNat - 0x30) :=
  if_pos (toNat_of_isDigit h)

theorem isDigit_toDigits (n : Nat) : ∀ d ∈ Nat.toDigits 10 n, d.isDigit = true :=
  fun _ hd => Nat.isDigit_of_mem_toDigits (by decide) (by decide) hd

/-- The digits of a text end where something else stands. -/
theorem spanDigits_append {cs : List Char} (h : ∀ c ∈ cs, c.isDigit = true) {c : Char}
    (hc : digit? c = none) (rest : List Char) :
    Json.spanDigits (cs ++ c :: rest) = (cs.map fun d => d.toNat - 0x30, c :: rest) := by
  induction cs with
  | nil => simp [Json.spanDigits, hc]
  | cons d cs ih =>
    have hd := digit?_of_isDigit (h d List.mem_cons_self)
    rw [List.cons_append, Json.spanDigits, hd]
    simp only [ih fun e he => h e (List.mem_cons_of_mem d he), List.map_cons]

/-- The decimal digits of a number spell it. -/
theorem ofDigits_toDigits (n : Nat) :
    ofDigits ((Nat.toDigits 10 n).map fun d => d.toNat - 0x30) = n := by
  rw [ofDigits, List.foldl_map]
  exact Nat.ofDigitChars_toDigits (by decide) (by decide)

end Permits.Text
