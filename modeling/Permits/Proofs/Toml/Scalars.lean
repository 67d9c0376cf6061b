import Permits.Proofs.Toml.Strings
import Permits.Toml.Scalar

namespace Permits.Toml

section Moments

variable {ds cs rest : List Char} {c : Char} {n limit : Nat}

theorem two?_eq_some (h : two? limit cs = some (n, rest)) :
    ∃ a b, cs = a :: b :: rest ∧ (Text.digit? a).isSome = true ∧ (Text.digit? b).isSome = true := by
  unfold two? at h
  split at h
  · next a b after =>
    obtain ⟨x, hx, h⟩ := Option.bind_eq_some_iff.1 h
    obtain ⟨y, hy, h⟩ := Option.bind_eq_some_iff.1 h
    dsimp only at h
    split at h
    · cases h
      exact ⟨a, b, rfl, by rw [hx]; rfl, by rw [hy]; rfl⟩
    · cases h
  · cases h

theorem past?_eq_some (h : past? c cs = some rest) : cs = c :: rest := by
  unfold past? at h
  split at h
  · split at h
    · next hc =>
      cases h
      rw [hc]
    · cases h
  · cases h

/-- Behind some digits of a line stands another digit or the end of the line. -/
theorem digits_ne (hds : ∀ d ∈ ds, d.isDigit = true) (front : List Char)
    (hfront : ∀ d ∈ front, (Text.digit? d).isSome = true) (hc : c.isDigit = false)
    (hend : c ≠ '\n') (after : List Char) : ds ++ '\n' :: rest ≠ front ++ c :: after := by
  intro h
  induction front generalizing ds with
  | nil =>
    cases ds with
    | nil => exact hend (List.cons.inj h).1.symm
    | cons d ds =>
      have hd := hds d List.mem_cons_self
      rw [(List.cons.inj h).1, hc] at hd
      cases hd
  | cons e front ih =>
    cases ds with
    | nil =>
      have he := hfront e List.mem_cons_self
      rw [← (List.cons.inj h).1] at he
      cases he
    | cons d ds =>
      exact ih (fun d' hd' => hds d' (List.mem_cons_of_mem d hd'))
        (fun e' he' => hfront e' (List.mem_cons_of_mem e he')) (List.cons.inj h).2

theorem day?_digits (hds : ∀ d ∈ ds, d.isDigit = true) (rest : List Char) :
    day? (ds ++ '\n' :: rest) = none := by
  rw [Option.eq_none_iff_forall_ne_some]
  intro after hafter
  unfold day? at hafter
  split at hafter
  · next a b cs hcs =>
    simp only [Option.bind_eq_bind, Option.bind_eq_some_iff] at hafter
    obtain ⟨⟨century, left⟩, hcentury, ⟨year, cs'⟩, hyear, cs'', hdash, -⟩ := hafter
    obtain ⟨a', b', hab, ha, hb⟩ := two?_eq_some hcentury
    obtain ⟨c, d, hcd, hc, hd⟩ := two?_eq_some hyear
    -- the fifth character is a dash
    have hdash : cs' = '-' :: cs'' := past?_eq_some hdash
    have hchars : ds ++ '\n' :: rest = [a, b, c, d] ++ '-' :: cs'' := by
      rw [hcs, hcd, hdash]
      rfl
    simp only [List.cons.injEq] at hab
    obtain ⟨rfl, rfl, -⟩ := hab
    exact digits_ne hds [a, b, c, d] (by simp [ha, hb, hc, hd]) (by decide) (by decide) cs'' hchars
  · cases hafter

theorem time?_digits (hds : ∀ d ∈ ds, d.isDigit = true) (rest : List Char) :
    time? (ds ++ '\n' :: rest) = none := by
  rw [Option.eq_none_iff_forall_ne_some]
  intro after hafter
  simp only [time?, Option.bind_eq_bind, Option.bind_eq_some_iff] at hafter
  obtain ⟨⟨hour, cs⟩, hhour, cs', hcolon, -⟩ := hafter
  obtain ⟨a, b, hab, ha, hb⟩ := two?_eq_some hhour
  -- the third character is a colon
  have hcolon : cs = ':' :: cs' := past?_eq_some hcolon
  have hchars : ds ++ '\n' :: rest = [a, b] ++ ':' :: cs' := by
    rw [hab, hcolon]
    rfl
  exact digits_ne hds [a, b] (by simp [ha, hb]) (by decide) (by decide) cs' hchars

theorem moment?_digits (hds : ∀ d ∈ ds, d.isDigit = true) (rest : List Char) :
    moment? (ds ++ '\n' :: rest) = none := by
  rw [moment?, day?_digits hds, time?_digits hds]
  rfl

end Moments

section Numbers

variable {ds : List Char}

theorem moreDigits?_digits (hds : ∀ d ∈ ds, d.isDigit = true) (rest : List Char) :
    moreDigits? Text.digit? (ds ++ '\n' :: rest) =
      some (ds.map fun d => d.toNat - 0x30, '\n' :: rest) := by
  induction ds with
  | nil =>
    rw [List.nil_append, moreDigits?]
    · rfl
    · exact fun h => absurd h (by decide)
    · exact fun _ _ h => absurd h (by decide)
  | cons d ds ih =>
    have hd := hds d List.mem_cons_self
    have hline : d ≠ '_' := by
      rintro rfl
      exact absurd hd (by decide)
    rw [List.cons_append, moreDigits?, Text.digit?_of_isDigit hd,
      ih fun e he => hds e (List.mem_cons_of_mem d he)]
    · rfl
    · exact fun h => absurd h hline
    · exact fun _ _ h => absurd h hline

/-- Only zero has a zero in front. -/
theorem head?_toDigits {n : Nat} (h : 0 < n) : (Nat.toDigits 10 n).head? ≠ some '0' := by
  induction n using Nat.strongRecOn with
  | _ n ih =>
    by_cases hn : n < 10
    · have hall : ∀ k : Fin 10, 0 < k.val → [k.val.digitChar].head? ≠ some '0' := by decide
      rw [Nat.toDigits_of_lt_base hn]
      exact hall ⟨n, hn⟩ h
    · have hpos : 0 < n / 10 := Nat.div_pos (by omega) (by decide)
      obtain ⟨d, ds, hdigits⟩ :=
        List.exists_cons_of_ne_nil (Nat.toDigits_ne_nil (n := n / 10) (b := 10))
      have hhead := ih (n / 10) (Nat.div_lt_self h (by decide)) hpos
      rw [Nat.toDigits_of_base_le (by decide) (by omega), hdigits]
      rwa [hdigits] at hhead

theorem digits?_digits (hds : ∀ d ∈ ds, d.isDigit = true) (hne : ds ≠ []) (rest : List Char) :
    digits? Text.digit? (ds ++ '\n' :: rest) =
      some (ds.map fun d => d.toNat - 0x30, '\n' :: rest) := by
  obtain ⟨d, es, rfl⟩ := List.exists_cons_of_ne_nil hne
  have hmore := moreDigits?_digits (fun e he => hds e (List.mem_cons_of_mem d he)) rest
  rw [List.cons_append, digits?, Text.digit?_of_isDigit (hds d List.mem_cons_self), hmore]
  rfl

theorem single_of_zero {n : Nat}
    (h : ((Nat.toDigits 10 n).map fun d => d.toNat - 0x30).head? = some 0) :
    ((Nat.toDigits 10 n).map fun d => d.toNat - 0x30).length = 1 := by
  by_cases hn : n = 0
  · rw [hn]
    rfl
  · exfalso
    have hhead := head?_toDigits (Nat.pos_of_ne_zero hn)
    obtain ⟨d, ds, hdigits⟩ := List.exists_cons_of_ne_nil (Nat.toDigits_ne_nil (n := n) (b := 10))
    have hbounds := Text.toNat_of_isDigit
      (Text.isDigit_toDigits n d (hdigits ▸ List.mem_cons_self))
    rw [hdigits] at h hhead
    simp only [List.map_cons, List.head?_cons, Option.some.injEq] at h
    have hnat : d.toNat = '0'.toNat := by
      have hcode : '0'.toNat = 0x30 := rfl
      omega
    exact hhead (congrArg some (Char.toNat_inj.1 hnat))

theorem decimal?_toDigits {n : Nat} (h : n < 0x8000000000000000) (rest : List Char) :
    decimal? false (Nat.toDigits 10 n ++ '\n' :: rest) =
      some (.number (some (.whole n)), '\n' :: rest) := by
  have hread := digits?_digits (Text.isDigit_toDigits n) Nat.toDigits_ne_nil rest
  have hzero : ¬ (((Nat.toDigits 10 n).map fun d => d.toNat - 0x30).head? = some 0 ∧
      ((Nat.toDigits 10 n).map fun d => d.toNat - 0x30).length ≠ 1) :=
    fun hzero => hzero.2 (single_of_zero hzero.1)
  have hfits : integer? (n : Int) = some (.number (some (.whole n))) := if_pos (by omega)
  rw [decimal?, hread]
  simp only [Option.bind_eq_bind, Option.bind_some, if_neg hzero]
  rw [Text.ofDigits_toDigits]
  simp [isExponentMark, hfits]

theorem toDigits_ne {n : Nat} {c : Char} (hc : c.isDigit = false) (hend : c ≠ '\n')
    (rest after : List Char) : Nat.toDigits 10 n ++ '\n' :: rest ≠ c :: after :=
  digits_ne (Text.isDigit_toDigits n) [] (by simp) hc hend after

theorem toDigits_ne_zero_cons {n : Nat} {c : Char} (hc : c.isDigit = false) (hend : c ≠ '\n')
    (rest after : List Char) : Nat.toDigits 10 n ++ '\n' :: rest ≠ '0' :: c :: after :=
  digits_ne (Text.isDigit_toDigits n) ['0'] (by simp [Text.digit?]) hc hend after

theorem number?_toDigits {n : Nat} (h : n < 0x8000000000000000) (rest : List Char) :
    number? (Nat.toDigits 10 n ++ '\n' :: rest) =
      some (.number (some (.whole n)), '\n' :: rest) := by
  rw [number?, signed?, decimal?_toDigits h]
  · exact fun after => toDigits_ne rfl (by decide) rest _
  · exact fun after => toDigits_ne rfl (by decide) rest _
  · exact toDigits_ne_zero_cons rfl (by decide) rest
  · exact toDigits_ne_zero_cons rfl (by decide) rest
  · exact toDigits_ne_zero_cons rfl (by decide) rest
  · exact toDigits_ne rfl (by decide) rest
  · exact toDigits_ne rfl (by decide) rest

end Numbers

section Settings

/-- The setting is no number that is too large to be read. -/
def Readable : Setting → Prop
  | .whole n => n < 0x8000000000000000
  | _ => True

theorem stringChars_head (cs : List Char) :
    ∃ q es, stringChars cs = q :: es ∧ (q = '"' ∨ q = '\'') := by
  unfold stringChars
  cases stringForm cs with
  | basic => exact ⟨'"', _, rfl, .inl rfl⟩
  | literal => exact ⟨'\'', _, rfl, .inr rfl⟩
  | multiBasic => exact ⟨'"', _, rfl, .inl rfl⟩
  | multiLiteral => exact ⟨'\'', _, rfl, .inr rfl⟩

/-- A setting is read as it was written, up to the end of the line. -/
theorem scalar_settingChars {s : Setting} (h : Readable s) (rest : List Char) :
    scalar (settingChars s ++ '\n' :: rest) = some (s.datum, '\n' :: rest) := by
  cases s with
  | text s =>
    have hread := string?_stringChars s rest
    obtain ⟨q, es, hes, hq⟩ := stringChars_head s.toList
    rw [hes, List.cons_append] at hread
    rw [settingChars, hes, List.cons_append]
    obtain rfl | rfl := hq
    · rw [scalar, hread]
      rfl
    · rw [scalar, hread]
      rfl
  | whole n =>
    have hread : number? (settingChars (.whole n) ++ '\n' :: rest) =
        some (.number (some (.whole n)), '\n' :: rest) := number?_toDigits h rest
    rw [scalar, hread, settingChars, moment?_digits (Text.isDigit_toDigits n)]
    · rfl
    · exact fun after => toDigits_ne rfl (by decide) rest _
    · exact fun after => toDigits_ne rfl (by decide) rest _
    · exact toDigits_ne rfl (by decide) rest
    · exact toDigits_ne rfl (by decide) rest
  | flag b => cases b <;> rfl

end Settings

end Permits.Toml
