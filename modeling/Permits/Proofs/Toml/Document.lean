import Permits.Proofs.Data.Increasing
import Permits.Proofs.Toml.Scalars
import Permits.Toml.Reader

namespace Permits.Toml

section Keys

/-- The name can stand as a key without quotes. -/
def Bare (name : String) : Prop := name.toList ≠ [] ∧ name.toList.all isBareChar = true

instance (name : String) : Decidable (Bare name) :=
  inferInstanceAs (Decidable (name.toList ≠ [] ∧ name.toList.all isBareChar = true))

variable {name : String}

theorem Bare.chars (h : Bare name) : ∀ c ∈ name.toList, isBareChar c = true :=
  List.all_eq_true.1 h.2

theorem Bare.exists_cons (h : Bare name) : ∃ c cs, name.toList = c :: cs ∧ isBareChar c = true := by
  obtain ⟨c, cs, hcs⟩ := List.exists_cons_of_ne_nil h.1
  exact ⟨c, cs, hcs, h.chars c (hcs ▸ List.mem_cons_self)⟩

theorem ne_of_isBareChar {c d : Char} (hc : isBareChar c = true) (hd : isBareChar d = false) :
    c ≠ d := by
  rintro rfl
  rw [hc] at hd
  cases hd

theorem skipSpace_bare {c : Char} (hc : isBareChar c = true) (cs : List Char) :
    skipSpace (c :: cs) = c :: cs := by
  have hspace : isSpace c = false := by
    simp only [isSpace, Bool.or_eq_false_iff, decide_eq_false_iff_not]
    exact ⟨ne_of_isBareChar hc rfl, ne_of_isBareChar hc rfl⟩
  rw [skipSpace, List.dropWhile_cons_of_neg (by simp [hspace])]

theorem keyPart?_bare (h : Bare name) {after : List Char}
    (hafter : ∀ c ∈ after.head?, isBareChar c = false) :
    keyPart? (name.toList ++ after) = some (name, after) := by
  have hstop : after.takeWhile isBareChar = [] ∧ after.dropWhile isBareChar = after := by
    cases after with
    | nil => exact ⟨rfl, rfl⟩
    | cons c cs => simp [hafter c rfl]
  have htake : (name.toList ++ after).takeWhile isBareChar = name.toList := by
    rw [List.takeWhile_append_of_pos h.chars, hstop.1, List.append_nil]
  have hdrop : (name.toList ++ after).dropWhile isBareChar = after := by
    rw [List.dropWhile_append_of_pos h.chars, hstop.2]
  obtain ⟨c, cs, hcs, hc⟩ := h.exists_cons
  rw [keyPart?, htake, hdrop]
  · simp [h.1]
  · intro rest h
    rw [hcs] at h
    exact ne_of_isBareChar hc rfl (List.cons.inj h).1
  · intro rest h
    rw [hcs] at h
    exact ne_of_isBareChar hc rfl (List.cons.inj h).1

/-- A key of one part is read with the blanks behind it. -/
theorem key?_bare (h : Bare name) {after rest : List Char} {c : Char}
    (hafter : ∀ c ∈ after.head?, isBareChar c = false) (hskip : skipSpace after = c :: rest)
    (hpoint : c ≠ '.') : key? (name.toList ++ after) = some ([name], c :: rest) := by
  obtain ⟨e, es, hes, he⟩ := h.exists_cons
  have hname : skipSpace (name.toList ++ after) = name.toList ++ after := by
    rw [hes]
    exact skipSpace_bare he _
  rw [key?, depthLimit, keyParts?, hname, keyPart?_bare h hafter]
  simp only [Option.bind_eq_bind, Option.bind_some, hskip]
  split
  · next rest hrest => exact absurd (List.cons.inj hrest).1 hpoint
  · rfl

end Keys

section Lines

theorem settingChars_head (s : Setting) :
    ∃ c es, settingChars s = c :: es ∧ isSpace c = false ∧ c ≠ '[' ∧ c ≠ '\x7b' := by
  cases s with
  | text s =>
    obtain ⟨q, es, hes, hq⟩ := stringChars_head s.toList
    refine ⟨q, es, hes, ?_⟩
    obtain rfl | rfl := hq <;> decide
  | whole n =>
    obtain ⟨d, ds, hdigits⟩ := List.exists_cons_of_ne_nil (Nat.toDigits_ne_nil (n := n) (b := 10))
    have hd := Text.toNat_of_isDigit (Text.isDigit_toDigits n d (hdigits ▸ List.mem_cons_self))
    have hne {e : Char} (he : ¬ (0x30 ≤ e.toNat ∧ e.toNat ≤ 0x39)) : d ≠ e := fun h => he (h ▸ hd)
    refine ⟨d, ds, hdigits, ?_, hne (by decide), hne (by decide)⟩
    simp only [isSpace, Bool.or_eq_false_iff, decide_eq_false_iff_not]
    exact ⟨hne (by decide), hne (by decide)⟩
  | flag b =>
    cases b with
    | true => exact ⟨'t', _, rfl, by decide⟩
    | false => exact ⟨'f', _, rfl, by decide⟩

/-- The value of a setting is neither a list nor a table. -/
theorem readValue_settingChars {s : Setting} (h : Readable s) (fuel room : Nat)
    (rest : List Char) :
    readValue (fuel + 1) room (skipSpace (' ' :: (settingChars s ++ '\n' :: rest))) =
      some (s.datum, '\n' :: rest) := by
  have hread := scalar_settingChars h rest
  obtain ⟨c, es, hes, hspace, hlist, htable⟩ := settingChars_head s
  have hskip : skipSpace (' ' :: (c :: es ++ '\n' :: rest)) = c :: es ++ '\n' :: rest := by
    rw [skipSpace, List.dropWhile_cons_of_pos rfl, List.cons_append,
      List.dropWhile_cons_of_neg (by simp [hspace])]
  rw [hes] at hread ⊢
  rw [hskip, readValue, hread]
  · exact fun _ h => hlist (List.cons.inj h).1
  · exact fun _ h => htable (List.cons.inj h).1

/-- Whatever fuel is enough for its length, the rest of the document gives these parts. -/
def Reads (current : Section) (cs : List Char) (parts : List Section) : Prop :=
  ∀ fuel, cs.length < fuel → readLines fuel current cs = some parts

def Section.closed (current : Section) : Section := { current with pairs := current.pairs.reverse }

theorem reads_end (current : Section) : Reads current [] [current.closed] := by
  intro fuel hfuel
  obtain ⟨fuel, rfl⟩ := Nat.exists_eq_add_one_of_ne_zero (Nat.ne_zero_of_lt hfuel)
  rfl

variable {current : Section} {rest : List Char} {parts : List Section}

theorem Reads.blank (h : Reads current rest parts) : Reads current ('\n' :: rest) parts := by
  intro fuel hfuel
  obtain ⟨fuel, rfl⟩ := Nat.exists_eq_add_one_of_ne_zero (Nat.ne_zero_of_lt hfuel)
  exact h fuel (Nat.lt_of_succ_lt_succ hfuel)

theorem Reads.header {name : String} (hname : Bare name)
    (h : Reads ⟨some (.table [name]), []⟩ rest parts) :
    Reads current ('[' :: name.toList ++ ']' :: '\n' :: rest) (current.closed :: parts) := by
  intro fuel hfuel
  obtain ⟨fuel, rfl⟩ := Nat.exists_eq_add_one_of_ne_zero (Nat.ne_zero_of_lt hfuel)
  have hkey : key? (name.toList ++ ']' :: '\n' :: rest) = some ([name], ']' :: '\n' :: rest) :=
    key?_bare hname (by rintro _ ⟨⟩; rfl) rfl (by decide)
  have hheader : header? (name.toList ++ ']' :: '\n' :: rest) =
      some (.table [name], '\n' :: rest) := by
    obtain ⟨c, cs, hcs, hc⟩ := hname.exists_cons
    rw [header?, hkey]
    · rfl
    · intro after h
      rw [hcs] at h
      exact ne_of_isBareChar hc rfl (List.cons.inj h).1
  have hread : readLines fuel ⟨some (.table [name]), []⟩ rest = some parts := by
    apply h
    simp only [List.length_cons, List.length_append] at hfuel
    omega
  have hend : lineEnd? ('\n' :: rest) = some rest := rfl
  have hskip : skipSpace ('[' :: name.toList ++ ']' :: '\n' :: rest) =
      '[' :: (name.toList ++ ']' :: '\n' :: rest) := rfl
  rw [readLines, hskip]
  simp only [hheader, Option.bind_eq_bind, Option.bind_some, hend, hread]
  rfl

theorem Reads.line {name : String} (hname : Bare name) {s : Setting} (hs : Readable s)
    (h : Reads { current with pairs := ([name], s.datum) :: current.pairs } rest parts) :
    Reads current (name.toList ++ ' ' :: '=' :: ' ' :: (settingChars s ++ '\n' :: rest))
      parts := by
  intro fuel hfuel
  obtain ⟨fuel, rfl⟩ := Nat.exists_eq_add_one_of_ne_zero (Nat.ne_zero_of_lt hfuel)
  have hkey : key? (name.toList ++ ' ' :: '=' :: ' ' :: (settingChars s ++ '\n' :: rest)) =
      some ([name], '=' :: ' ' :: (settingChars s ++ '\n' :: rest)) :=
    key?_bare hname (by rintro _ ⟨⟩; rfl) rfl (by decide)
  have hread : readLines fuel { current with pairs := ([name], s.datum) :: current.pairs } rest =
      some parts := by
    apply h
    simp only [List.length_cons, List.length_append] at hfuel
    omega
  obtain ⟨c, cs, hcs, hc⟩ := hname.exists_cons
  have hskip : skipSpace (name.toList ++ ' ' :: '=' :: ' ' :: (settingChars s ++ '\n' :: rest)) =
      name.toList ++ ' ' :: '=' :: ' ' :: (settingChars s ++ '\n' :: rest) := by
    rw [hcs]
    exact skipSpace_bare hc _
  have hend : lineEnd? ('\n' :: rest) = some rest := rfl
  have hstart {d : Char} (hd : isBareChar d = false) (after : List Char) :
      name.toList ++ ' ' :: '=' :: ' ' :: (settingChars s ++ '\n' :: rest) ≠ d :: after := by
    intro h
    rw [hcs] at h
    exact ne_of_isBareChar hc hd (List.cons.inj h).1
  rw [readLines, hskip]
  simp only
  split
  · next h => simp [hcs] at h
  · next h => exact absurd h (hstart rfl _)
  · next h => exact absurd h (hstart rfl _)
  · next h => exact absurd h (hstart rfl _)
  · next h => exact absurd h (hstart rfl _)
  · rw [hkey]
    simp only [Option.bind_eq_bind, Option.bind_some, List.length_cons,
      readValue_settingChars hs, hend, hread]

end Lines

section Documents

/-- The table can be read back: its names stand as keys and are told apart. -/
structure ReadableTable (t : SettingsTable) : Prop where
  bare : ∀ name ∈ t.map (·.1), Bare name
  readable : ∀ e ∈ t, Readable e.2
  nodup : (t.map (·.1)).Nodup

def pairsOf (t : SettingsTable) : List (List String × Datum) := t.map fun e => ([e.1], e.2.datum)

def partOf (e : String × SettingsTable) : Section := ⟨some (.table [e.1]), pairsOf e.2⟩

variable {current : Section} {rest : List Char} {parts : List Section}

theorem Reads.table {t : SettingsTable} (hbare : ∀ e ∈ t, Bare e.1)
    (hreadable : ∀ e ∈ t, Readable e.2)
    (h : Reads { current with pairs := (pairsOf t).reverse ++ current.pairs } rest parts) :
    Reads current (tableChars t ++ rest) parts := by
  induction t generalizing current with
  | nil => exact h
  | cons e t ih =>
    have hchars : tableChars (e :: t) ++ rest = e.1.toList ++ ' ' :: '=' :: ' ' ::
        (settingChars e.2 ++ '\n' :: (tableChars t ++ rest)) := by
      simp [tableChars]
    rw [hchars]
    apply Reads.line (hbare e List.mem_cons_self) (hreadable e List.mem_cons_self)
    apply ih (fun e' he' => hbare e' (List.mem_cons_of_mem e he'))
      (fun e' he' => hreadable e' (List.mem_cons_of_mem e he'))
    simpa [pairsOf] using h

theorem Reads.part {e : String × SettingsTable} (hname : Bare e.1) (ht : ReadableTable e.2)
    (h : Reads ⟨some (.table [e.1]), (pairsOf e.2).reverse⟩ rest parts) :
    Reads current (sectionChars e.1 e.2 ++ rest) (current.closed :: parts) := by
  have hchars : sectionChars e.1 e.2 ++ rest =
      '[' :: e.1.toList ++ ']' :: '\n' :: (tableChars e.2 ++ rest) := by
    simp [sectionChars]
  rw [hchars]
  apply Reads.header hname
  apply Reads.table (fun e he => ht.bare e.1 (List.mem_map_of_mem he)) ht.readable
  simpa using h

theorem closed_partOf (e : String × SettingsTable) :
    Section.closed ⟨some (.table [e.1]), (pairsOf e.2).reverse⟩ = partOf e := by
  simp [Section.closed, partOf]

/-- Each section is read as a part, behind the one that ends where it begins. -/
theorem reads_sections (current : Section) : ∀ {sections : List (String × SettingsTable)},
    (∀ e ∈ sections, Bare e.1 ∧ ReadableTable e.2) →
      Reads current (['\n'].intercalate (sections.map fun e => sectionChars e.1 e.2))
        (current.closed :: sections.map partOf)
  | [], _ => reads_end current
  | [e], h => by
    obtain ⟨hname, ht⟩ := h e List.mem_cons_self
    have hend := reads_end ⟨some (.table [e.1]), (pairsOf e.2).reverse⟩
    rw [closed_partOf] at hend
    simpa using Reads.part hname ht hend
  | e :: e' :: sections, h => by
    obtain ⟨hname, ht⟩ := h e List.mem_cons_self
    have hrest := reads_sections ⟨some (.table [e.1]), (pairsOf e.2).reverse⟩
      fun e'' he'' => h e'' (List.mem_cons_of_mem e he'')
    rw [closed_partOf] at hrest
    simpa [List.intercalate_cons_cons] using Reads.part hname ht hrest.blank

end Documents

section Entries

variable {es : Entries} {key : String}

theorem putLast_of_find?_eq_none (h : es.find? key = none) (i : Item) :
    es.putLast key i = es ++ [(key, i)] := by
  induction es with
  | nil => rfl
  | cons e es ih =>
    obtain ⟨k, j⟩ := e
    unfold Keyed.find? at h
    split at h
    · cases h
    · next hk => rw [Keyed.putLast, if_neg hk, ih h, List.cons_append]

/-- Steps that add an entry of a new name each add all entries in their order. -/
theorem foldlM_putLast {β : Type} {step : Entries → β → Option Entries}
    (entry : β → String × Item) (es : Entries) {bs : List β}
    (hstep : ∀ b ∈ bs, ∀ es : Entries, es.find? (entry b).1 = none →
      step es b = some (es.putLast (entry b).1 (entry b).2))
    (hnodup : (bs.map fun b => (entry b).1).Nodup) (hnew : ∀ b ∈ bs, es.find? (entry b).1 = none) :
    bs.foldlM step es = some (es ++ bs.map entry) := by
  induction bs generalizing es with
  | nil => simp
  | cons b bs ih =>
    rw [List.map_cons, List.nodup_cons] at hnodup
    obtain ⟨hb, hnodup⟩ := hnodup
    have hfresh := hnew b List.mem_cons_self
    have hrest : ∀ b' ∈ bs, (es.putLast (entry b).1 (entry b).2).find? (entry b').1 = none := by
      intro b' hb'
      have hne : (entry b').1 ≠ (entry b).1 := by
        intro h
        exact hb (h ▸ List.mem_map_of_mem hb')
      rw [Keyed.find?_putLast_of_ne _ _ hne]
      exact hnew b' (List.mem_cons_of_mem b hb')
    rw [List.foldlM_cons, hstep b List.mem_cons_self es hfresh, Option.bind_eq_bind,
      Option.bind_some, ih _ (fun b' hb' => hstep b' (List.mem_cons_of_mem b hb')) hnodup hrest,
      putLast_of_find?_eq_none hfresh]
    simp

def entriesOf (t : SettingsTable) : Entries := t.map fun e => (e.1, .value e.2.datum)

theorem setPair_new (h : es.find? key = none) (d : Datum) :
    setPair es [key] d = some (es.putLast key (.value d)) := by
  simp [setPair, within, Keyed.contains, h]

theorem setPairs_pairsOf {t : SettingsTable} (h : ReadableTable t) :
    setPairs [] (pairsOf t) = some (entriesOf t) := by
  rw [setPairs, pairsOf, List.foldlM_map]
  exact foldlM_putLast (fun e : String × Setting => (e.1, .value e.2.datum)) []
    (fun e _ es hnew => setPair_new hnew e.2.datum) h.nodup fun _ _ => rfl

theorem addSection_partOf {e : String × SettingsTable} (ht : ReadableTable e.2)
    (h : es.find? e.1 = none) :
    addSection es (partOf e) = some (es.putLast e.1 (.table false false (entriesOf e.2))) := by
  simp [addSection, partOf, within, h, Keyed.erase_of_find?_eq_none h, setPairs_pairsOf ht]

/-- The members of a table as a document gives them. -/
def membersOf (t : SettingsTable) : List (Option String × Datum) :=
  t.map fun e => (some e.1, e.2.datum)

/-- The table that a document of these sections holds. -/
def tableOf (sections : List (String × SettingsTable)) : Datum :=
  .table (sections.map fun e => (some e.1, .table (membersOf e.2)))

theorem entriesData_entriesOf (t : SettingsTable) : entriesData (entriesOf t) = membersOf t := by
  induction t with
  | nil => rfl
  | cons e t ih =>
    rw [entriesOf, List.map_cons, entriesData, Item.datum, ← entriesOf, ih, membersOf, membersOf,
      List.map_cons]

theorem entriesData_sections (sections : List (String × SettingsTable)) :
    .table (entriesData (sections.map fun e => (e.1, .table false false (entriesOf e.2)))) =
      tableOf sections := by
  rw [tableOf]
  congr 1
  induction sections with
  | nil => rfl
  | cons e sections ih =>
    rw [List.map_cons, entriesData, Item.datum, entriesData_entriesOf, ih, List.map_cons]

theorem write_head (sections : List (String × SettingsTable)) (rest : List Char) :
    ['\n'].intercalate (sections.map fun e => sectionChars e.1 e.2) ≠ '\ufeff' :: rest := by
  cases sections with
  | nil => simp [List.intercalate]
  | cons e sections =>
    cases sections with
    | nil => simp [List.intercalate, sectionChars]
    | cons e' sections => simp [List.intercalate_cons_cons, sectionChars]

/-- A document is read as it was written. -/
theorem read?_write {sections : List (String × SettingsTable)}
    (h : ∀ e ∈ sections, Bare e.1 ∧ ReadableTable e.2) (hnodup : (sections.map (·.1)).Nodup) :
    read? (write sections) = some (tableOf sections) := by
  have hlines := reads_sections ⟨none, []⟩ h _ (Nat.lt_succ_self _)
  have hfirst : addSection [] (Section.closed ⟨none, []⟩) = some [] := rfl
  have hadd : (sections.map partOf).foldlM addSection [] =
      some (sections.map fun e => (e.1, .table false false (entriesOf e.2))) := by
    rw [List.foldlM_map]
    exact foldlM_putLast (fun e => (e.1, .table false false (entriesOf e.2))) []
      (fun e he es hnew => addSection_partOf (h e he).2 hnew) hnodup fun _ _ => rfl
  rw [read?, write, String.toList_ofList]
  split
  · next rest hrest => exact absurd hrest (write_head sections rest)
  · rw [hlines]
    simp only [Option.bind_eq_bind, Option.bind_some, List.foldlM_cons, hfirst, hadd,
      entriesData_sections]
    rfl

end Entries

section Sections

def settingOf? : Datum → Option Setting
  | .bool b => some (.flag b)
  | .number (some (.whole (.ofNat n))) => some (.whole n)
  | .string (some s) => some (.text s)
  | _ => none

theorem datum_of_settingOf? {d : Datum} {s : Setting} (h : settingOf? d = some s) :
    s.datum = d := by
  unfold settingOf? at h
  split at h <;> cases h <;> rfl

variable {α : Type} {value? : Datum → Option α} {ms : List (Option String × Datum)}

def entriesOf? (value? : Datum → Option α) :
    List (Option String × Datum) → Option (List (String × α))
  | [] => some []
  | (key, d) :: rest => do return (← key, ← value? d) :: (← entriesOf? value? rest)

theorem map_of_entriesOf? {datum : α → Datum} (hvalue : ∀ {d a}, value? d = some a → datum a = d)
    {es : List (String × α)} (h : entriesOf? value? ms = some es) :
    es.map (fun e => (some e.1, datum e.2)) = ms := by
  induction ms generalizing es with
  | nil =>
    cases h
    rfl
  | cons m ms ih =>
    obtain ⟨key, d⟩ := m
    obtain ⟨name, rfl, h⟩ := Option.bind_eq_some_iff.1 h
    obtain ⟨a, ha, h⟩ := Option.bind_eq_some_iff.1 h
    obtain ⟨rest, hrest, h⟩ := Option.bind_eq_some_iff.1 h
    cases h
    rw [List.map_cons, hvalue ha, ih hrest]

def settingsOf? : Datum → Option SettingsTable
  | .table ms => entriesOf? settingOf? ms
  | _ => none

theorem datum_of_settingsOf? {d : Datum} {t : SettingsTable} (h : settingsOf? d = some t) :
    .table (membersOf t) = d := by
  cases d with
  | table ms => exact congrArg Datum.table (map_of_entriesOf? datum_of_settingOf? h)
  | _ => cases h

/-- The sections of a document that holds nothing else. -/
def sectionsOf? : Datum → Option (List (String × SettingsTable))
  | .table ms => entriesOf? settingsOf? ms
  | _ => none

theorem tableOf_of_sectionsOf? {d : Datum} {sections : List (String × SettingsTable)}
    (h : sectionsOf? d = some sections) : tableOf sections = d := by
  cases d with
  | table ms => exact congrArg Datum.table (map_of_entriesOf? datum_of_settingsOf? h)
  | _ => cases h

end Sections

end Permits.Toml
