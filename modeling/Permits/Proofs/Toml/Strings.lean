import Permits.Toml.Writer
import Permits.Proofs.Text.Digits

namespace Permits.Toml

section Escapes

theorem scalar?_toNat (c : Char) : scalar? c.toNat = some c := by
  have hvalid : c.toNat.isValidChar := c.valid
  rw [scalar?, dif_pos hvalid]
  rfl

theorem escape?_number {c : Char} (h : c.toNat < 0x10000) (rest : List Char) :
    escape? ('u' :: Text.hexUpper4 c.toNat ++ rest) = some (c, rest) := by
  have hdigit (m : Nat) : Text.hexDigit? (Text.hexUpperChar (m % 16)) = some (m % 16) :=
    Text.hexDigit?_hexUpperChar (Nat.mod_lt m (by decide))
  have hvalue : 16 * (16 * (16 * (16 * 0 + c.toNat / 4096 % 16) + c.toNat / 256 % 16) +
      c.toNat / 16 % 16) + c.toNat % 16 = c.toNat := by omega
  simp only [Text.hexUpper4, List.cons_append, List.nil_append, escape?, hexNumber?, List.mapM_cons,
    List.mapM_nil, hdigit, Option.bind_eq_bind, Option.bind_some, Option.pure_def, Option.map_some,
    List.foldl_cons, List.foldl_nil, hvalue, scalar?_toNat]

theorem newline?_eq_none {e : Char} (hbreak : e ≠ '\n') (hreturn : e ≠ '\r') (es : List Char) :
    newline? (e :: es) = none := by
  rw [newline?]
  · exact fun rest h => hbreak (List.cons.inj h).1
  · exact fun rest h => hreturn (List.cons.inj h).1

theorem joinsLines_eq_false {e : Char} (hspace : isSpace e = false) (hbreak : isBreak e = false)
    (es : List Char) : joinsLines (e :: es) = false := by
  simp only [isBreak, Bool.or_eq_false_iff, decide_eq_false_iff_not] at hbreak
  rw [joinsLines, skipSpace, List.dropWhile_cons_of_neg (by simp [hspace]),
    newline?_eq_none hbreak.1 hbreak.2]
  rfl

/-- How a character may stand inside a form that escapes: behind a backslash, as long as that does
not look like the end of a line, or as it is. -/
inductive Spelled (multi : Bool) (c : Char) : List Char → Prop where
  | escape {e : Char} {es : List Char} (hspace : isSpace e = false) (hbreak : isBreak e = false)
      (read : ∀ rest, escape? (e :: es ++ rest) = some (c, rest)) :
      Spelled multi c ('\\' :: e :: es)
  | plain (hquote : c ≠ '"') (hback : c ≠ '\\') (hreturn : c ≠ '\r')
      (h : isPlain c = true ∨ multi = true ∧ c = '\n') : Spelled multi c [c]

theorem spelled_quote (multi : Bool) : Spelled multi '"' ['\\', '"'] :=
  .escape rfl rfl fun _ => rfl

theorem spelled_escaped (multi : Bool) {c : Char} (hc : c ≠ '"') :
    Spelled multi c (escaped multi c) := by
  unfold escaped
  split
  · next h =>
    subst h
    exact .escape rfl rfl fun _ => rfl
  split
  · next h =>
    subst h
    cases multi with
    | false => exact .escape rfl rfl fun _ => rfl
    | true => exact .plain hc (by decide) (by decide) (.inr ⟨rfl, rfl⟩)
  split
  · next h =>
    subst h
    exact .escape rfl rfl fun _ => rfl
  split
  · next h =>
    subst h
    exact .escape rfl rfl fun _ => rfl
  split
  · next h =>
    have hb : c = '\x08' := Char.toNat_inj.1 h
    exact .escape rfl rfl fun _ => hb ▸ rfl
  split
  · next h =>
    have hf : c = '\x0c' := Char.toNat_inj.1 h
    exact .escape rfl rfl fun _ => hf ▸ rfl
  split
  · next h => exact .escape rfl rfl (escape?_number (by omega))
  · next hback _ _ hreturn _ _ h =>
    refine .plain hc hback hreturn (.inl ?_)
    simp only [isPlain, Bool.or_eq_true, Bool.and_eq_true, decide_eq_true_eq]
    omega

/-- But for a quote that may stand as it is, each character is spelled on its own. -/
theorem spelled_cons (multi : Bool) {bare run : Nat} {c : Char} (h : c = '"' → run = bare)
    (cs : List Char) :
    ∃ es, escapedChars multi bare run (c :: cs) = es ++ escapedChars multi bare 0 cs ∧
      Spelled multi c es := by
  by_cases hc : c = '"'
  · subst hc
    refine ⟨['\\', '"'], ?_, spelled_quote multi⟩
    rw [escapedChars, if_pos rfl, if_pos (h rfl)]
    rfl
  · refine ⟨escaped multi c, ?_, spelled_escaped multi hc⟩
    rw [escapedChars, if_neg hc]

/-- What stands for a character begins with no quote, and with an end of line only if it is one. -/
theorem Spelled.head {multi : Bool} {c : Char} {cs : List Char} (h : Spelled multi c cs) :
    ∃ e es, cs = e :: es ∧ e ≠ '"' ∧ e ≠ '\r' ∧ (e = '\n' → c = '\n') := by
  cases h with
  | escape => exact ⟨'\\', _, rfl, by decide, by decide, fun h => absurd h (by decide)⟩
  | plain hquote hback hreturn => exact ⟨c, [], rfl, hquote, hreturn, id⟩

end Escapes

section Basic

variable {c : Char} {cs : List Char}

theorem basic?_spelled (h : Spelled false c cs) (fuel : Nat) (rest : List Char) :
    basic? (fuel + 1) (cs ++ rest) = consing c (basic? fuel rest) := by
  cases h with
  | escape hspace hbreak read =>
    rw [List.cons_append, basic?, if_neg (by decide), if_pos rfl, read]
    rfl
  | plain hquote hback hreturn h =>
    have hplain : isPlain c = true := by
      obtain h | h := h
      · exact h
      · exact absurd h.1 (by decide)
    rw [List.singleton_append, basic?, if_neg hquote, if_neg hback, if_pos hplain]

theorem Spelled.length_pos {multi : Bool} (h : Spelled multi c cs) : 0 < cs.length := by
  cases h <;> exact Nat.succ_pos _

theorem basic?_escapedChars (cs rest : List Char) {fuel : Nat}
    (hfuel : (escapedChars false 0 0 cs ++ '"' :: rest).length < fuel) :
    basic? fuel (escapedChars false 0 0 cs ++ '"' :: rest) = some (cs, rest) := by
  induction cs generalizing fuel with
  | nil =>
    obtain ⟨fuel, rfl⟩ := Nat.exists_eq_add_one_of_ne_zero (Nat.ne_zero_of_lt hfuel)
    rfl
  | cons c cs ih =>
    obtain ⟨fuel, rfl⟩ := Nat.exists_eq_add_one_of_ne_zero (Nat.ne_zero_of_lt hfuel)
    obtain ⟨es, hes, hspelled⟩ := spelled_cons (c := c) false (fun _ => Eq.refl 0) cs
    have hpos := hspelled.length_pos
    rw [hes, List.append_assoc, List.length_append] at hfuel
    rw [hes, List.append_assoc, basic?_spelled hspelled, ih (by omega)]
    rfl

theorem literal?_append (h : ∀ c ∈ cs, isPlain c = true ∧ c ≠ '\'') (rest : List Char) :
    literal? (cs ++ '\'' :: rest) = some (cs, rest) := by
  induction cs with
  | nil => rfl
  | cons c cs ih =>
    obtain ⟨hplain, hquote⟩ := h c List.mem_cons_self
    rw [List.cons_append, literal?, if_neg hquote, if_pos hplain,
      ih fun e he => h e (List.mem_cons_of_mem c he)]
    rfl

end Basic

section Multi

variable {c : Char} {cs : List Char}

/-- A character is read as it is; of a quote that is so where no two more follow it. -/
theorem multiBasic?_cons (hback : c ≠ '\\') (hreturn : c ≠ '\r')
    (hplain : c = '\n' ∨ isPlain c = true) {rest : List Char}
    (hquotes : c = '"' → ∀ after, rest ≠ '"' :: '"' :: after) (fuel : Nat) :
    multiBasic? (fuel + 1) (c :: rest) = consing c (multiBasic? fuel rest) := by
  rw [multiBasic?, if_pos hplain]
  · exact fun _ h _ => hreturn h
  · exact fun _ h => hquotes h _
  · exact fun _ h => hquotes h _
  · exact fun _ h => hquotes h _
  · exact hback

theorem multiBasic?_spelled (h : Spelled true c cs) (fuel : Nat) (rest : List Char) :
    multiBasic? (fuel + 1) (cs ++ rest) = consing c (multiBasic? fuel rest) := by
  cases h with
  | @escape e es hspace hbreak read =>
    have hjoin := joinsLines_eq_false hspace hbreak (es ++ rest)
    rw [List.cons_append, multiBasic?, List.cons_append, hjoin, if_neg Bool.false_ne_true,
      ← List.cons_append, read]
    rfl
  | plain hquote hback hreturn h =>
    exact multiBasic?_cons hback hreturn (h.symm.imp_left And.right) (fun h => absurd h hquote) fuel

/-- Two quotes stand at the front only if a third does not follow but for the closing ones. -/
theorem cs_of_two_quotes {run : Nat} (hrun : 1 ≤ run) (hrun2 : run ≤ 2) {rest after : List Char}
    (h : escapedChars true 2 run cs ++ '"' :: rest = '"' :: '"' :: after) :
    cs = [] ∨ cs = ['"'] := by
  cases cs with
  | nil => exact .inl rfl
  | cons c cs =>
    right
    by_cases hc : c = '"'
    · subst hc
      rw [escapedChars, if_pos rfl] at h
      split at h
      · exact absurd (List.cons.inj h).1 (by decide)
      · have hnext := (List.cons.inj h).2
        have htwo : run + 1 = 2 := by omega
        rw [htwo] at hnext
        cases cs with
        | nil => rfl
        | cons d ds =>
          by_cases hd : d = '"'
          · subst hd
            rw [escapedChars, if_pos rfl, if_pos rfl] at hnext
            exact absurd (List.cons.inj hnext).1 (by decide)
          · obtain ⟨e, es, hes, hquote, -⟩ := (spelled_escaped true hd).head
            rw [escapedChars, if_neg hd, hes] at hnext
            exact absurd (List.cons.inj hnext).1 hquote
    · obtain ⟨e, es, hes, hquote, -⟩ := (spelled_escaped true hc).head
      rw [escapedChars, if_neg hc, hes] at h
      exact absurd (List.cons.inj h).1 hquote

/-- A quote stands as it is where at most one has stood before it. -/
theorem multiBasic?_bare {run : Nat} (hrun : run < 2) {fuel : Nat} {rest : List Char}
    (hread : multiBasic? fuel
        (escapedChars true 2 (run + 1) cs ++ '"' :: '"' :: '"' :: '\n' :: rest) =
      some (cs, '\n' :: rest)) :
    multiBasic? (fuel + 1)
        ('"' :: (escapedChars true 2 (run + 1) cs ++ '"' :: '"' :: '"' :: '\n' :: rest)) =
      some ('"' :: cs, '\n' :: rest) := by
  by_cases htwo : ∃ after, escapedChars true 2 (run + 1) cs ++ '"' :: '"' :: '"' :: '\n' :: rest =
      '"' :: '"' :: after
  · -- the closing quotes follow, with at most one more in front of them
    obtain ⟨after, htwo⟩ := htwo
    obtain rfl | rfl := cs_of_two_quotes (by omega) (by omega) htwo
    · rfl
    · rw [escapedChars, if_pos rfl] at htwo ⊢
      split at htwo
      · exact absurd (List.cons.inj htwo).1 (by decide)
      · next h =>
        rw [if_neg h]
        rfl
  · rw [multiBasic?_cons (by decide) (by decide) (.inr (by decide))
      (fun _ after h => htwo ⟨after, h⟩), hread]
    rfl

theorem multiBasic?_escapedChars (cs rest : List Char) {run fuel : Nat} (hrun : run ≤ 2)
    (hfuel : (escapedChars true 2 run cs ++ '"' :: '"' :: '"' :: '\n' :: rest).length < fuel) :
    multiBasic? fuel (escapedChars true 2 run cs ++ '"' :: '"' :: '"' :: '\n' :: rest) =
      some (cs, '\n' :: rest) := by
  induction cs generalizing run fuel with
  | nil =>
    obtain ⟨fuel, rfl⟩ := Nat.exists_eq_add_one_of_ne_zero (Nat.ne_zero_of_lt hfuel)
    rfl
  | cons c cs ih =>
    obtain ⟨fuel, rfl⟩ := Nat.exists_eq_add_one_of_ne_zero (Nat.ne_zero_of_lt hfuel)
    by_cases hbare : c = '"' ∧ run ≠ 2
    · obtain ⟨rfl, hrun2⟩ := hbare
      have hes : escapedChars true 2 run ('"' :: cs) = '"' :: escapedChars true 2 (run + 1) cs := by
        rw [escapedChars, if_pos rfl, if_neg hrun2]
      rw [hes, List.cons_append, List.length_cons] at hfuel
      rw [hes, List.cons_append]
      exact multiBasic?_bare (by omega) (ih (by omega) (by omega))
    · have hescaped : c = '"' → run = 2 := fun hc => Decidable.not_not.1 fun h => hbare ⟨hc, h⟩
      obtain ⟨es, hes, hspelled⟩ := spelled_cons true hescaped cs
      have hpos := hspelled.length_pos
      rw [hes, List.append_assoc, List.length_append] at hfuel
      rw [hes, List.append_assoc, multiBasic?_spelled hspelled, ih (by omega) (by omega)]
      rfl

theorem le_longestRun (q : Char) (here : Nat) (cs : List Char) : here ≤ longestRun q here cs := by
  induction cs generalizing here with
  | nil => exact Nat.le_refl here
  | cons c cs ih =>
    unfold longestRun
    split
    · exact Nat.le_of_succ_le (ih (here + 1))
    · exact Nat.le_max_left ..

/-- A character is read as it is; of a quote that is so where no two more follow it. -/
theorem multiLiteral?_cons (hreturn : c ≠ '\r') (hplain : c = '\n' ∨ isPlain c = true)
    {rest : List Char} (hquotes : c = '\'' → ∀ after, rest ≠ '\'' :: '\'' :: after) :
    multiLiteral? (c :: rest) = consing c (multiLiteral? rest) := by
  rw [multiLiteral?, if_pos hplain]
  · exact fun _ h _ => hreturn h
  · exact fun _ h => hquotes h _
  · exact fun _ h => hquotes h _
  · exact fun _ h => hquotes h _

theorem multiLiteral?_append {here : Nat} (hrun : longestRun '\'' here cs ≤ 2)
    (hcs : ∀ c ∈ cs, c ≠ '\r' ∧ (c = '\n' ∨ isPlain c = true)) (rest : List Char) :
    multiLiteral? (cs ++ '\'' :: '\'' :: '\'' :: '\n' :: rest) = some (cs, '\n' :: rest) := by
  induction cs generalizing here with
  | nil => rfl
  | cons c cs ih =>
    obtain ⟨hreturn, hplain⟩ := hcs c List.mem_cons_self
    have hrest := fun e he => hcs e (List.mem_cons_of_mem c he)
    unfold longestRun at hrun
    by_cases hc : c = '\''
    · subst hc
      rw [if_pos rfl] at hrun
      by_cases htwo : ∃ after, cs ++ '\'' :: '\'' :: '\'' :: '\n' :: rest = '\'' :: '\'' :: after
      · -- the closing quotes follow, with at most one more in front of them
        obtain ⟨after, htwo⟩ := htwo
        cases cs with
        | nil => rfl
        | cons d ds =>
          obtain ⟨rfl, hnext⟩ := List.cons.inj htwo
          cases ds with
          | nil => rfl
          | cons e es =>
            obtain ⟨rfl, -⟩ := List.cons.inj hnext
            have hthree := le_longestRun '\'' (here + 1 + 1 + 1) es
            rw [longestRun, if_pos rfl, longestRun, if_pos rfl] at hrun
            omega
      · rw [List.cons_append, multiLiteral?_cons hreturn hplain (fun _ after h => htwo ⟨after, h⟩),
          ih hrun hrest]
        rfl
    · rw [if_neg hc] at hrun
      rw [List.cons_append, multiLiteral?_cons hreturn hplain (fun h => absurd h hc),
        ih (Nat.le_trans (Nat.le_max_right ..) hrun) hrest]
      rfl

end Multi

section Forms

variable {c : Char} {cs : List Char}

theorem plain_of_needsEscape (h : needsEscape c = false) :
    c ≠ '\r' ∧ (c = '\n' ∨ isPlain c = true) := by
  have hchar : 0x20 ≤ c.toNat ∧ c.toNat ≠ 0x7F ∨ c = '\t' ∨ c = '\n' := by
    simp only [needsEscape, Bool.or_eq_false_iff, Bool.and_eq_false_iff, decide_eq_false_iff_not,
      ne_eq, Decidable.not_not] at h
    obtain ⟨h, hdelete⟩ := h
    obtain (h | h) | h := h
    · exact .inl ⟨by omega, hdelete⟩
    · exact .inr (.inl h)
    · exact .inr (.inr h)
  obtain hchar | rfl | rfl := hchar
  · refine ⟨?_, .inr ?_⟩
    · rintro rfl
      exact absurd hchar (by decide)
    · simp only [isPlain, Bool.or_eq_true, Bool.and_eq_true, decide_eq_true_eq]
      omega
  · decide
  · decide

theorem not_needsEscape_of_any (h : cs.any needsEscape = false) (hc : c ∈ cs) :
    needsEscape c = false := by
  simpa using List.any_eq_false.1 h c hc

/-- What a form that writes a text as it is may rely on. -/
def StringForm.Suits (cs : List Char) : StringForm → Prop
  | .literal => cs ≠ [] ∧ ∀ c ∈ cs, isPlain c = true ∧ c ≠ '\''
  | .multiLiteral => longestRun '\'' 0 cs ≤ 2 ∧ ∀ c ∈ cs, c ≠ '\r' ∧ (c = '\n' ∨ isPlain c = true)
  | .basic => True
  | .multiBasic => True

theorem suits_stringForm (cs : List Char) : (stringForm cs).Suits cs := by
  unfold stringForm
  simp only []
  split
  · trivial
  next hbasic =>
  split
  · next hliteral =>
    simp only [Bool.and_eq_true, Bool.not_eq_true', List.contains_eq_mem,
      decide_eq_false_iff_not] at hliteral
    obtain ⟨⟨hplain, hline⟩, hquote⟩ := hliteral
    refine ⟨?_, ?_⟩
    · rintro rfl
      exact hbasic rfl
    · intro c hc
      obtain ⟨-, hbreak | hplain⟩ := plain_of_needsEscape (not_needsEscape_of_any hplain hc)
      · exact absurd (hbreak ▸ hc) hline
      · exact ⟨hplain, fun h => hquote (h ▸ hc)⟩
  split
  · trivial
  split
  · next hliteral =>
    simp only [Bool.and_eq_true, Bool.not_eq_true', decide_eq_true_eq] at hliteral
    obtain ⟨hplain, hrun⟩ := hliteral
    exact ⟨hrun, fun c hc => plain_of_needsEscape (not_needsEscape_of_any hplain hc)⟩
  · split <;> trivial

/-- The end of line below the opening quotes is skipped, and no other. -/
theorem skipFirstBreak_opening {e : Char} {es : List Char} (hreturn : e ≠ '\r')
    (hbreak : e = '\n' → '\n' ∈ cs) : skipFirstBreak (opening cs ++ e :: es) = e :: es := by
  unfold opening
  split
  · rfl
  · next h =>
    have hnone : newline? (e :: es) = none :=
      newline?_eq_none (fun he => h (by simpa using hbreak he)) hreturn es
    rw [List.nil_append, skipFirstBreak, hnone]
    rfl

theorem head_escapedChars (bare : Nat) (multi : Bool) (cs rest : List Char) :
    ∃ e es, escapedChars multi bare 0 cs ++ '"' :: rest = e :: es ∧ e ≠ '\r' ∧
      (e = '\n' → '\n' ∈ cs) ∧ (e = '"' → bare = 0 → cs = []) := by
  cases cs with
  | nil => exact ⟨'"', rest, rfl, by decide, fun h => absurd h (by decide), fun _ _ => rfl⟩
  | cons c cs =>
    rw [escapedChars]
    by_cases hc : c = '"'
    · rw [if_pos hc]
      split
      · exact ⟨'\\', _, rfl, by decide, by simp, by simp⟩
      · next h => exact ⟨'"', _, rfl, by decide, by simp, fun _ hb => absurd hb.symm h⟩
    · obtain ⟨e, es, hes, hquote, hreturn, hbreak⟩ := (spelled_escaped multi hc).head
      rw [if_neg hc, hes]
      exact ⟨e, _, rfl, hreturn, fun h => hbreak h ▸ List.mem_cons_self, fun h => absurd h hquote⟩

/-- A string is read as it was written, whichever form that took. -/
theorem string?_stringChars (s : String) (rest : List Char) :
    string? (stringChars s.toList ++ '\n' :: rest) = some (s, '\n' :: rest) := by
  have hsuits := suits_stringForm s.toList
  unfold stringChars
  cases hform : stringForm s.toList with
  | basic =>
    have hread := basic?_escapedChars s.toList ('\n' :: rest) (Nat.lt_succ_self _)
    simp only [List.cons_append, List.append_assoc, List.nil_append]
    rw [string?]
    · rw [hread]
      simp
    · -- a third quote would follow the first two
      intro after h
      obtain ⟨e, es, hes, -, -, hempty⟩ :=
        head_escapedChars 0 false s.toList ('\n' :: rest)
      have hnil := hempty (List.cons.inj (hes.symm.trans h)).1 rfl
      rw [hnil] at h
      exact absurd (List.cons.inj (List.cons.inj h).2).1 (by decide)
  | literal =>
    obtain ⟨hne, hplain⟩ : StringForm.literal.Suits s.toList := hform ▸ hsuits
    have hread := literal?_append hplain ('\n' :: rest)
    simp only [List.cons_append, List.append_assoc, List.nil_append]
    rw [string?]
    · rw [hread]
      simp
    · intro after h
      obtain ⟨c, cs, hcs⟩ := List.exists_cons_of_ne_nil hne
      rw [hcs] at h
      exact (hplain c (hcs ▸ List.mem_cons_self)).2 (List.cons.inj h).1
  | multiBasic =>
    obtain ⟨e, es, hes, hreturn, hbreak, -⟩ :=
      head_escapedChars 2 true s.toList ('"' :: '"' :: '\n' :: rest)
    have hskip : skipFirstBreak (opening s.toList ++ (escapedChars true 2 0 s.toList ++
        '"' :: '"' :: '"' :: '\n' :: rest)) =
          escapedChars true 2 0 s.toList ++ '"' :: '"' :: '"' :: '\n' :: rest := by
      rw [hes]
      exact skipFirstBreak_opening hreturn hbreak
    simp only [List.cons_append, List.append_assoc, List.nil_append]
    rw [string?, hskip, multiBasic?_escapedChars s.toList rest (Nat.zero_le 2)]
    · simp
    · simp only [List.length_append]
      omega
  | multiLiteral =>
    obtain ⟨hrun, hplain⟩ : StringForm.multiLiteral.Suits s.toList := hform ▸ hsuits
    have hskip : skipFirstBreak (opening s.toList ++ (s.toList ++ '\'' :: '\'' :: '\'' ::
        '\n' :: rest)) = s.toList ++ '\'' :: '\'' :: '\'' :: '\n' :: rest := by
      cases hcs : s.toList with
      | nil => rfl
      | cons c cs =>
        have hc : c ∈ s.toList := hcs ▸ List.mem_cons_self
        exact skipFirstBreak_opening (hplain c hc).1 fun h => h ▸ List.mem_cons_self
    simp only [List.cons_append, List.append_assoc, List.nil_append]
    rw [string?, hskip, multiLiteral?_append hrun hplain]
    simp

end Forms

end Permits.Toml
