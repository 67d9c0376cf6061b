import Permits.Json.Reader
import Permits.Json.Printer
import Permits.Proofs.Data.Increasing
import Permits.Proofs.Text.Digits

namespace Permits

namespace Json

section Strings

/-- A piece stands for one character, whatever follows it. -/
def Piece.Spells (p : Piece) (c : Char) : Prop := ∀ ps, join (p :: ps) = (join ps).map (c :: ·)

theorem spells_char (c : Char) : (Piece.char c).Spells c := fun _ => rfl

theorem spells_unit {c : Char} (h : c.toNat < 0xD800) : (Piece.unit c.toNat).Spells c := by
  intro ps
  -- below the surrogates a unit is a character by itself
  have hhigh : ¬ (0xD800 ≤ c.toNat ∧ c.toNat < 0xDC00) := by omega
  have hlow : ¬ (0xDC00 ≤ c.toNat ∧ c.toNat < 0xE000) := by omega
  rcases ps with _ | ⟨_ | _, ps⟩ <;> simp [join, hhigh, hlow, Char.ofNat_toNat]

theorem readPieces_simple {e c : Char} (he : e ≠ 'u') (hc : simpleEscape? e = some c)
    (rest : List Char) :
    readPieces ('\\' :: e :: rest) =
      (readPieces rest).map fun (ps, rest) => (.char c :: ps, rest) := by
  rw [readPieces]
  · rw [hc]
    cases readPieces rest <;> rfl
  · simp [he]

theorem readPieces_hex4 {n : Nat} (h : n < 0x10000) (rest : List Char) :
    readPieces ('\\' :: 'u' :: Text.hex4 n ++ rest) =
      (readPieces rest).map fun (ps, rest) => (.unit n :: ps, rest) := by
  have hdigit (m : Nat) : Text.hexDigit? (Text.hexChar (m % 16)) = some (m % 16) :=
    Text.hexDigit?_hexChar (Nat.mod_lt m (by decide))
  have hvalue : ((n / 4096 % 16 * 16 + n / 256 % 16) * 16 + n / 16 % 16) * 16 + n % 16 = n := by
    omega
  simp only [Text.hex4, List.cons_append, List.nil_append, readPieces, hdigit, Option.bind_eq_bind,
    Option.bind_some, hvalue]
  cases readPieces rest <;> rfl

theorem readPieces_plain {c : Char} (hquote : c ≠ '"') (hback : c ≠ '\\') (h : ¬ c.toNat < 0x20)
    (rest : List Char) :
    readPieces (c :: rest) = (readPieces rest).map fun (ps, rest) => (.char c :: ps, rest) := by
  rw [readPieces]
  · rw [if_neg (by simp [h, hback])]
    cases readPieces rest <;> rfl
  · exact hquote
  · simp [hback]
  · simp [hback]

/-- However a character is written, one piece that spells it is read. -/
theorem readPieces_escape (c : Char) : ∃ p : Piece, p.Spells c ∧ ∀ rest,
    readPieces (escape c ++ rest) = (readPieces rest).map fun (ps, rest) => (p :: ps, rest) := by
  unfold escape
  split
  · next h =>
    subst h
    exact ⟨_, spells_char _, readPieces_simple (by decide) rfl⟩
  next hquote =>
  split
  · next h =>
    subst h
    exact ⟨_, spells_char _, readPieces_simple (by decide) rfl⟩
  next hback =>
  split
  · next hcontrol =>
    split
    · next h => exact ⟨_, spells_char c, readPieces_simple (by decide) (h ▸ rfl)⟩
    split
    · next h => exact ⟨_, spells_char c, readPieces_simple (by decide) (h ▸ rfl)⟩
    split
    · next h => exact ⟨_, spells_char c, readPieces_simple (by decide) (h ▸ rfl)⟩
    split
    · next h =>
      have hc : c = '\x08' := Char.toNat_inj.1 h
      exact ⟨_, spells_char c, readPieces_simple (by decide) (hc ▸ rfl)⟩
    split
    · next h =>
      have hc : c = '\x0c' := Char.toNat_inj.1 h
      exact ⟨_, spells_char c, readPieces_simple (by decide) (hc ▸ rfl)⟩
    · exact ⟨_, spells_unit (by omega), readPieces_hex4 (by omega)⟩
  · next hcontrol => exact ⟨_, spells_char c, readPieces_plain hquote hback hcontrol⟩

/-- A text is read up to its own closing quote. -/
theorem readPieces_escaped (cs rest : List Char) : ∃ ps,
    readPieces (cs.flatMap escape ++ '"' :: rest) = some (ps, rest) ∧ join ps = some cs := by
  induction cs with
  | nil => exact ⟨[], rfl, rfl⟩
  | cons c cs ih =>
    obtain ⟨p, hspells, hread⟩ := readPieces_escape c
    obtain ⟨ps, hps, hjoin⟩ := ih
    refine ⟨p :: ps, ?_, ?_⟩
    · rw [List.flatMap_cons, List.append_assoc, hread, hps]
      rfl
    · rw [hspells, hjoin]
      rfl

theorem readString_escaped (s : String) (rest : List Char) :
    readString (s.toList.flatMap escape ++ '"' :: rest) = some (some s, rest) := by
  obtain ⟨ps, hread, hjoin⟩ := readPieces_escaped s.toList rest
  simp only [readString, hread, Option.map_some, hjoin, String.ofList_toList]

end Strings

section Values

mutual

/-- No number stands in the value. -/
def numberFree : Json → Bool
  | .number _ => false
  | .array items => itemsNumberFree items
  | .object members => membersNumberFree members
  | _ => true

def itemsNumberFree : List Json → Bool
  | [] => true
  | v :: rest => numberFree v && itemsNumberFree rest

def membersNumberFree : List (String × Json) → Bool
  | [] => true
  | (_, v) :: rest => numberFree v && membersNumberFree rest

end

theorem itemsNumberFree_iff {items : List Json} :
    itemsNumberFree items = true ↔ ∀ v ∈ items, v.numberFree = true := by
  induction items with
  | nil => simp [itemsNumberFree]
  | cons v rest ih => simp [itemsNumberFree, ih]

theorem membersNumberFree_iff {members : Members} :
    membersNumberFree members = true ↔ ∀ e ∈ members, e.2.numberFree = true := by
  induction members with
  | nil => simp [membersNumberFree]
  | cons e rest ih => simp [membersNumberFree, ih]

theorem numberFree_texts (ss : List String) : (texts ss).numberFree = true := by
  rw [texts, numberFree, itemsNumberFree_iff]
  intro v hv
  obtain ⟨s, -, rfl⟩ := List.mem_map.1 hv
  rfl

/-- No blank stands in front of a value, nor what would end a list of values. -/
theorem exists_chars_eq_cons {v : Json} (h : v.numberFree = true) :
    ∃ c cs, v.chars = c :: cs ∧ isSpace c = false ∧ c ≠ ']' := by
  cases v with
  | null => exact ⟨_, _, rfl, rfl, by decide⟩
  | bool b => cases b <;> exact ⟨_, _, rfl, rfl, by decide⟩
  | number n => cases h
  | string s => exact ⟨_, _, rfl, rfl, by decide⟩
  | array items => exact ⟨_, _, rfl, rfl, by decide⟩
  | object members => exact ⟨_, _, rfl, rfl, by decide⟩

theorem skipSpace_cons {c : Char} (h : isSpace c = false) (cs : List Char) :
    skipSpace (c :: cs) = c :: cs := by
  simp [skipSpace, h]

theorem exists_itemChars_eq_cons {v : Json} (h : v.numberFree = true) (items : List Json) :
    ∃ c cs, itemChars (v :: items) = c :: cs ∧ isSpace c = false ∧ c ≠ ']' := by
  obtain ⟨c, cs, hchars, hc⟩ := exists_chars_eq_cons h
  cases items with
  | nil => exact ⟨c, cs, hchars, hc⟩
  | cons w rest => exact ⟨c, _, by rw [itemChars, hchars]; rfl; simp, hc⟩

theorem exists_memberChars_eq_cons (e : String × Json) (members : Members) :
    ∃ cs, memberChars (e :: members) = '"' :: cs := by
  cases members <;> exact ⟨_, rfl⟩

theorem readValue_items {c : Char} (hspace : isSpace c = false) (hend : c ≠ ']') (fuel : Nat)
    (cs : List Char) : readValue (fuel + 1) ('[' :: c :: cs) =
      (readItems fuel (c :: cs)).map fun (ds, rest) => (.list ds, rest) := by
  have hopen : skipSpace ('[' :: c :: cs) = '[' :: c :: cs := rfl
  simp [readValue, hopen, skipSpace_cons hspace, hend]

theorem readValue_members (fuel : Nat) (cs : List Char) :
    readValue (fuel + 1) ('\x7b' :: '"' :: cs) =
      (readMembers fuel ('"' :: cs)).map fun (ms, rest) => (.table ms, rest) := rfl

/-- Enough fuel to read back what is no longer than the fuel, values and what stands within lists
and objects. -/
structure ReadsBack (fuel : Nat) : Prop where
  value : ∀ v : Json, v.numberFree = true → v.chars.length ≤ fuel → ∀ rest,
    readValue fuel (v.chars ++ rest) = some (Datum.ofJson v, rest)
  items : ∀ v items, itemsNumberFree (v :: items) = true → (itemChars (v :: items)).length < fuel →
    ∀ rest, readItems fuel (itemChars (v :: items) ++ ']' :: rest) =
      some (Datum.ofItems (v :: items), rest)
  members : ∀ e members, membersNumberFree (e :: members) = true →
    (memberChars (e :: members)).length < fuel →
    ∀ rest, readMembers fuel (memberChars (e :: members) ++ '\x7d' :: rest) =
      some (Datum.ofMembers (e :: members), rest)

section Steps

variable {fuel : Nat} (h : ReadsBack fuel)

include h

theorem ReadsBack.succ_value {v : Json} (hv : v.numberFree = true)
    (hlen : v.chars.length ≤ fuel + 1) (rest : List Char) :
    readValue (fuel + 1) (v.chars ++ rest) = some (Datum.ofJson v, rest) := by
  cases v with
  | null => rfl
  | bool b => cases b <;> rfl
  | number n => cases hv
  | string s =>
    have hread := readString_escaped s rest
    simp [chars, stringChars, readValue, skipSpace, isSpace, hread, Datum.ofJson]
  | array items =>
    cases items with
    | nil => rfl
    | cons v items =>
      obtain ⟨c, cs, hchars, hspace, hend⟩ :=
        exists_itemChars_eq_cons (itemsNumberFree_iff.1 hv v List.mem_cons_self) items
      have hfuel : (itemChars (v :: items)).length < fuel := by
        simp only [chars, List.length_cons, List.length_append, List.length_nil] at hlen
        omega
      have hitems := h.items v items hv hfuel rest
      rw [hchars, List.cons_append] at hitems
      rw [chars, hchars, List.append_assoc, List.cons_append, List.cons_append,
        List.singleton_append, readValue_items hspace hend, hitems]
      rfl
  | object members =>
    cases members with
    | nil => rfl
    | cons e members =>
      obtain ⟨cs, hchars⟩ := exists_memberChars_eq_cons e members
      have hfuel : (memberChars (e :: members)).length < fuel := by
        simp only [chars, List.length_cons, List.length_append, List.length_nil] at hlen
        omega
      have hmembers := h.members e members hv hfuel rest
      rw [hchars, List.cons_append] at hmembers
      rw [chars, hchars, List.append_assoc, List.cons_append, List.cons_append,
        List.singleton_append, readValue_members, hmembers]
      rfl

theorem ReadsBack.succ_items {v : Json} {items : List Json}
    (hv : itemsNumberFree (v :: items) = true) (hlen : (itemChars (v :: items)).length ≤ fuel)
    (rest : List Char) : readItems (fuel + 1) (itemChars (v :: items) ++ ']' :: rest) =
      some (Datum.ofItems (v :: items), rest) := by
  have hfirst := itemsNumberFree_iff.1 hv v List.mem_cons_self
  cases items with
  | nil =>
    have hvalue := h.value v hfirst hlen (']' :: rest)
    simp [itemChars, readItems, hvalue, skipSpace, isSpace, Datum.ofItems]
  | cons w items =>
    have hsize : v.chars.length + 1 + (itemChars (w :: items)).length ≤ fuel := by
      simp only [itemChars, List.length_append, List.length_cons] at hlen
      omega
    have hvalue := h.value v hfirst (by omega) (',' :: (itemChars (w :: items) ++ ']' :: rest))
    have hothers : itemsNumberFree (w :: items) = true :=
      itemsNumberFree_iff.2 fun x hx => itemsNumberFree_iff.1 hv x (List.mem_cons_of_mem v hx)
    have hitems := h.items w items hothers (by omega) rest
    simp [itemChars, readItems, hvalue, hitems, skipSpace, isSpace, Datum.ofItems]

/-- One member: its name, a colon and its value, with what follows it. -/
theorem ReadsBack.succ_members {e : String × Json} {members : Members}
    (hv : membersNumberFree (e :: members) = true)
    (hlen : (memberChars (e :: members)).length ≤ fuel) (rest : List Char) :
    readMembers (fuel + 1) (memberChars (e :: members) ++ '\x7d' :: rest) =
      some (Datum.ofMembers (e :: members), rest) := by
  obtain ⟨k, v⟩ := e
  have hfirst : v.numberFree = true := membersNumberFree_iff.1 hv (k, v) List.mem_cons_self
  cases members with
  | nil =>
    have hsize : v.chars.length ≤ fuel := by
      simp only [memberChars, List.length_append, List.length_cons] at hlen
      omega
    have hvalue := h.value v hfirst hsize ('\x7d' :: rest)
    have hkey := readString_escaped k (':' :: (v.chars ++ '\x7d' :: rest))
    simp [memberChars, stringChars, readMembers, hkey, hvalue, skipSpace, isSpace, Datum.ofMembers]
  | cons e members =>
    have hsize : v.chars.length + 1 + (memberChars (e :: members)).length ≤ fuel := by
      simp only [memberChars, List.length_append, List.length_cons] at hlen
      omega
    have hothers : membersNumberFree (e :: members) = true :=
      membersNumberFree_iff.2 fun x hx => membersNumberFree_iff.1 hv x (List.mem_cons_of_mem _ hx)
    let others := memberChars (e :: members) ++ '\x7d' :: rest
    have hmembers := h.members e members hothers (by omega) rest
    have hvalue := h.value v hfirst (by omega) (',' :: others)
    have hkey := readString_escaped k (':' :: (v.chars ++ ',' :: others))
    simp [memberChars, stringChars, readMembers, hkey, hvalue, hmembers, skipSpace, isSpace,
      Datum.ofMembers, others]

end Steps

/-- By induction on the fuel, of which every value, element and member takes one. -/
theorem readsBack (fuel : Nat) : ReadsBack fuel := by
  induction fuel with
  | zero =>
    -- no value has an empty text
    refine ⟨fun v hv hlen => ?_, fun _ _ _ hlen => ?_, fun _ _ _ hlen => ?_⟩
    · obtain ⟨c, cs, hchars, -⟩ := exists_chars_eq_cons hv
      simp [hchars] at hlen
    · exact absurd hlen (Nat.not_lt_zero _)
    · exact absurd hlen (Nat.not_lt_zero _)
  | succ fuel ih =>
    exact ⟨fun v hv hlen => ih.succ_value hv hlen,
      fun v items hv hlen => ih.succ_items hv (Nat.le_of_lt_succ hlen),
      fun e members hv hlen => ih.succ_members hv (Nat.le_of_lt_succ hlen)⟩

/-- The compact text of a value holds that value. -/
theorem read?_compact {v : Json} (hv : v.numberFree = true) :
    read? v.compact = some (Datum.ofJson v) := by
  have hread := (readsBack (v.chars.length + 1)).value v hv (Nat.le_succ _) []
  rw [List.append_nil] at hread
  simp only [read?, compact, String.toList_ofList, hread]
  rfl

end Values

section Values

mutual

/-- The names of every object stand in increasing order, and at most `depth` lists and objects lie
within each other. -/
def Regular : Nat → Json → Prop
  | 0, .array _ => False
  | 0, .object _ => False
  | depth + 1, .array items => RegularItems depth items
  | depth + 1, .object members => Keyed.Increasing members ∧ RegularMembers depth members
  | _, _ => True

def RegularItems : Nat → List Json → Prop
  | _, [] => True
  | depth, v :: rest => Regular depth v ∧ RegularItems depth rest

def RegularMembers : Nat → List (String × Json) → Prop
  | _, [] => True
  | depth, (_, v) :: rest => Regular depth v ∧ RegularMembers depth rest

end

@[simp] theorem regular_bool (depth : Nat) (b : Bool) : Regular depth (.bool b) := by
  cases depth <;> trivial

@[simp] theorem regular_string (depth : Nat) (s : String) : Regular depth (.string s) := by
  cases depth <;> trivial

theorem regular_texts (depth : Nat) (ss : List String) : Regular (depth + 1) (.texts ss) := by
  rw [texts, Regular]
  induction ss with
  | nil => trivial
  | cons s rest ih => exact ⟨regular_string depth s, ih⟩

theorem regularMembers_iff {depth : Nat} {members : Members} :
    RegularMembers depth members ↔ ∀ e ∈ members, Regular depth e.2 := by
  induction members with
  | nil => simp [RegularMembers]
  | cons e rest ih => simp [RegularMembers, ih]

section Nested

variable {depth : Nat} (h : ∀ v, Regular depth v → (Datum.ofJson v).json? depth = some v)

include h

theorem items?_ofItems {items : List Json} (hitems : RegularItems depth items) :
    Datum.items? depth (Datum.ofItems items) = some items := by
  induction items with
  | nil => rfl
  | cons v rest ih =>
    have hvalue := h v hitems.1
    have hrest := ih hitems.2
    simp [Datum.ofItems, Datum.items?, hvalue, hrest]

/-- Members that come in order are put one behind the other. -/
theorem members?_ofMembers {done members : Members}
    (hordered : Keyed.Increasing (done ++ members)) (hmembers : RegularMembers depth members) :
    Datum.members? depth (Datum.ofMembers members) done = some (done ++ members) := by
  induction members generalizing done with
  | nil => simp [Datum.ofMembers, Datum.members?]
  | cons e rest ih =>
    obtain ⟨k, v⟩ := e
    have hvalue := h v hmembers.1
    have hless : ∀ x ∈ done, x.1 < k := fun x hx =>
      (List.pairwise_append.1 hordered).2.2 x hx (k, v) List.mem_cons_self
    have hordered : Keyed.Increasing ((done ++ [(k, v)]) ++ rest) := by simpa using hordered
    have hrest := ih hordered hmembers.2
    simpa [Datum.ofMembers, Datum.members?, hvalue, Keyed.put_of_forall_lt hless] using hrest

end Nested

/-- A value is had back from how it is written, by induction on the depth. -/
theorem json?_ofJson {depth : Nat} {v : Json} (h : Regular depth v) :
    (Datum.ofJson v).json? depth = some v := by
  induction depth generalizing v with
  | zero =>
    cases v with
    | array items => exact h.elim
    | object members => exact h.elim
    | _ => rfl
  | succ depth ih =>
    cases v with
    | array items =>
      have hitems := items?_ofItems (fun _ => ih) h
      simp [Datum.ofJson, Datum.json?, hitems]
    | object members =>
      have hordered : Keyed.Increasing ([] ++ members) := h.1
      have hmembers := members?_ofMembers (fun _ => ih) hordered h.2
      simp [Datum.ofJson, Datum.json?, hmembers]
    | _ => rfl

/-- A regular value without numbers survives being sent as text. -/
theorem parse?_compact {v : Json} (hfree : v.numberFree = true) (hregular : Regular 127 v) :
    parse? v.compact = some v := by
  rw [parse?, read?_compact hfree, Option.bind_some, json?_ofJson hregular]

end Values

end Json

end Permits
