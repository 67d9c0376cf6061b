import Permits.Proofs.Policy.Username
import Permits.Proofs.Text.Lowercase

namespace Permits.Did

/-- A method of small letters and digits, and an identifier without blanks and control characters,
where colons may stand. -/
structure Shaped (did method id : String) : Prop where
  text : did = "did:" ++ method ++ ":" ++ id
  named : method ≠ ""
  plain : ∀ c ∈ method.toList, c.isLower ∨ c.isDigit
  identified : id ≠ ""
  visible : ∀ c ∈ id.toList, Text.isBlank c = false ∧ Text.isControl c = false

/-- The same of characters, as they are checked. -/
structure ShapedRest (cs front rest : List Char) : Prop where
  parts : cs = front ++ ':' :: rest
  named : front ≠ []
  plain : ∀ c ∈ front, isMethodChar c = true
  identified : rest ≠ []
  visible : ∀ c ∈ rest, isIdChar c = true

section Grammar

variable {did method id : String} {cs front rest : List Char} {c : Char}

theorem isMethodChar_iff : isMethodChar c = true ↔ c.isLower ∨ c.isDigit := by
  have hlower : c.isLower = (decide (0x61 ≤ c.toNat) && decide (c.toNat ≤ 0x7A)) := rfl
  have hdigit : c.isDigit = (decide (0x30 ≤ c.toNat) && decide (c.toNat ≤ 0x39)) := rfl
  simp [isMethodChar, hlower, hdigit]

theorem isIdChar_iff :
    isIdChar c = true ↔ Text.isBlank c = false ∧ Text.isControl c = false := by
  simp [isIdChar]

theorem splitColon_append (h : ':' ∉ front) (rest : List Char) :
    splitColon (front ++ ':' :: rest) = some (front, rest) := by
  induction front with
  | nil => rfl
  | cons c front ih =>
    rw [List.mem_cons, not_or] at h
    rw [List.cons_append, splitColon, ih h.2]
    · rfl
    · exact fun heq => h.1 heq.symm

theorem eq_of_splitColon (h : splitColon cs = some (front, rest)) :
    cs = front ++ ':' :: rest := by
  induction cs generalizing front with
  | nil => cases h
  | cons c cs ih =>
    by_cases hc : c = ':'
    · subst hc
      cases h
      rfl
    · rw [splitColon] at h
      · obtain ⟨⟨method, id⟩, hrest, heq⟩ := Option.map_eq_some_iff.1 h
        cases heq
        rw [ih hrest, List.cons_append]
      · exact hc

/-- No colon belongs to a method, so the first one ends it. -/
theorem ShapedRest.splitColon_eq (h : ShapedRest cs front rest) :
    splitColon cs = some (front, rest) := by
  rw [h.parts]
  exact splitColon_append (fun hmem => absurd (h.plain ':' hmem) (by decide)) rest

theorem checkRest_eq_ok : checkRest cs = .ok () ↔ ∃ front rest, ShapedRest cs front rest := by
  constructor
  · intro h
    unfold checkRest at h
    cases hsplit : splitColon cs with
    | none =>
      rw [hsplit] at h
      cases h
    | some parts =>
      obtain ⟨front, rest⟩ := parts
      simp only [hsplit] at h
      split at h
      · cases h
      split at h
      · cases h
      split at h
      · cases h
      split at h
      · cases h
      next hnamed hplain hidentified hvisible =>
        exact ⟨front, rest, eq_of_splitColon hsplit, by simpa using hnamed, by simpa using hplain,
          by simpa using hidentified, by simpa using hvisible⟩
  · rintro ⟨front, rest, h⟩
    have hplain : front.all isMethodChar = true := List.all_eq_true.2 h.plain
    have hvisible : rest.all isIdChar = true := List.all_eq_true.2 h.visible
    simp only [checkRest, h.splitColon_eq]
    simp [h.named, hplain, h.identified, hvisible]

theorem validate_eq_ok : validate did = .ok () ↔ check did = .ok () := by
  unfold validate
  cases check did with
  | ok => exact iff_of_true rfl rfl
  | error fault => exact iff_of_false (fun h => by cases h) (fun h => by cases h)

theorem Shaped.toList_eq (h : Shaped did method id) :
    did.toList = 'd' :: 'i' :: 'd' :: ':' :: (method.toList ++ ':' :: id.toList) := by
  rw [h.text]
  simp [String.toList_append]

theorem Shaped.shapedRest (h : Shaped did method id) :
    ShapedRest (method.toList ++ ':' :: id.toList) method.toList id.toList where
  parts := rfl
  named hnil := h.named (String.toList_inj.1 hnil)
  plain c hc := isMethodChar_iff.2 (h.plain c hc)
  identified hnil := h.identified (String.toList_inj.1 hnil)
  visible c hc := isIdChar_iff.2 (h.visible c hc)

theorem shaped_of_rest (hdid : did.toList = 'd' :: 'i' :: 'd' :: ':' :: cs)
    (h : ShapedRest cs front rest) : Shaped did (String.ofList front) (String.ofList rest) where
  text := by
    apply String.toList_inj.1
    rw [hdid, h.parts]
    simp [String.toList_append]
  named hempty := h.named (by simpa using hempty)
  plain c hc := isMethodChar_iff.1 (h.plain c (by simpa using hc))
  identified hempty := h.identified (by simpa using hempty)
  visible c hc := isIdChar_iff.1 (h.visible c (by simpa using hc))

theorem validate_eq_ok_iff : validate did = .ok () ↔ ∃ method id, Shaped did method id := by
  rw [validate_eq_ok, check]
  constructor
  · intro h
    split at h
    · next cs hdid =>
      obtain ⟨front, rest, hrest⟩ := checkRest_eq_ok.1 h
      exact ⟨_, _, shaped_of_rest hdid hrest⟩
    · cases h
  · rintro ⟨method, id, h⟩
    rw [h.toList_eq]
    exact checkRest_eq_ok.2 ⟨_, _, h.shapedRest⟩

/-- A DID has one method and one identifier. -/
theorem Shaped.unique {method' id' : String} (h : Shaped did method id)
    (h' : Shaped did method' id') : method = method' ∧ id = id' := by
  have hlists := h.toList_eq.symm.trans h'.toList_eq
  simp only [List.cons.injEq, true_and] at hlists
  have hsplit := h.shapedRest.splitColon_eq
  rw [hlists, h'.shapedRest.splitColon_eq, Option.some.injEq, Prod.mk.injEq] at hsplit
  exact ⟨String.toList_inj.1 hsplit.1.symm, String.toList_inj.1 hsplit.2.symm⟩

end Grammar

section Lowercase

variable {did method id : String}

theorem lowerChar_of_isMethodChar {c : Char} (h : isMethodChar c = true) :
    Text.lowerChar c = [c] := by
  have hascii : c.toNat < 0x80 ∧ ¬ (0x41 ≤ c.toNat ∧ c.toNat ≤ 0x5A) := by
    simp only [isMethodChar, Bool.or_eq_true, Bool.and_eq_true, decide_eq_true_eq] at h
    omega
  rw [Text.lowerChar, if_pos hascii.1, if_neg hascii.2]

/-- Small letters make no difference to the scheme and the method, and nothing worse of the
identifier. -/
theorem Shaped.lowercase (h : Shaped did method id) :
    ∃ id', Shaped (Text.lowercase did) method id' := by
  have hscheme : ∀ c ∈ "did:".toList, Text.lowerChar c = [c] := by simp [Text.lowerChar]
  have hfront : ∀ c ∈ "did:".toList ++ method.toList ++ [':'], Text.lowerChar c = [c] := by
    intro c hc
    rw [List.mem_append, List.mem_append, List.mem_singleton] at hc
    rcases hc with (hc | hc) | rfl
    · exact hscheme c hc
    · exact lowerChar_of_isMethodChar (h.shapedRest.plain c hc)
    · rfl
  have hsplit : did.toList = ("did:".toList ++ method.toList ++ [':']) ++ id.toList := by
    rw [h.toList_eq]
    simp
  refine ⟨String.ofList (Text.lowerFrom ("did:".toList ++ method.toList ++ [':']).reverse id.toList),
    ?_, h.named, h.plain, ?_, ?_⟩
  · apply String.toList_inj.1
    rw [Text.lowercase, hsplit, String.toList_ofList, Text.lowerFrom_append hfront, List.append_nil]
    simp [String.toList_append]
  · intro hempty
    have hnil := congrArg String.toList hempty
    rw [String.toList_ofList] at hnil
    exact Text.lowerFrom_ne_nil h.shapedRest.identified hnil
  · intro c hc
    rw [String.toList_ofList] at hc
    exact Text.visible_of_mem_lowerFrom h.visible hc

/-- A principal has one name, in whatever case its DID is written. -/
theorem username_lowercase {space : String} (h : Shaped did method id) (hs : space ≠ "") :
    ∃ i, username did space = .ok i ∧ username (Text.lowercase did) space = .ok i := by
  obtain ⟨id', hlower⟩ := h.lowercase
  have hsubject : subject (Text.lowercase did) space = subject did space := by
    rw [subject, Text.lowercase_idem, subject]
  refine ⟨_, username_eq (validate_eq_ok_iff.2 ⟨method, id, h⟩) hs, ?_⟩
  rw [username_eq (validate_eq_ok_iff.2 ⟨method, id', hlower⟩) hs, message, hsubject, message]

end Lowercase

/-- Just the texts of the one shape are accepted as DIDs, each in one way, and lowercasing an
accepted DID neither costs it the acceptance nor the name. -/
theorem accepted_by_shape (did : String) :
    (validate did = .ok () ↔ ∃ method id, Shaped did method id) ∧
    (∀ method id method' id', Shaped did method id → Shaped did method' id' →
      method = method' ∧ id = id') ∧
    (validate did = .ok () → validate (Text.lowercase did) = .ok () ∧
      ∀ space, space ≠ "" →
        ∃ i, username did space = .ok i ∧ username (Text.lowercase did) space = .ok i) := by
  refine ⟨validate_eq_ok_iff, fun _ _ _ _ h h' => h.unique h', ?_⟩
  intro h
  obtain ⟨method, id, hshaped⟩ := validate_eq_ok_iff.1 h
  obtain ⟨id', hlower⟩ := hshaped.lowercase
  exact ⟨validate_eq_ok_iff.2 ⟨method, id', hlower⟩, fun _ hs => username_lowercase hshaped hs⟩

/-- A capital that becomes two characters, a colon in the identifier, and a capital sigma at the end
of a word. -/
theorem accepted_by_shape_greek :
    Shaped "did:key:İ:ΟΔΟΣ" "key" "İ:ΟΔΟΣ" ∧
      Text.lowercase "did:key:İ:ΟΔΟΣ" = "did:key:i\u0307:οδος" ∧
      validate "did:key:i\u0307:οδος" = .ok () ∧
      ∃ i, username "did:key:İ:ΟΔΟΣ" "app" = .ok i ∧
        username "did:key:i\u0307:οδος" "app" = .ok i := by
  have hvisible : "İ:ΟΔΟΣ".toList.all isIdChar = true := by decide +kernel
  have hshaped : Shaped "did:key:İ:ΟΔΟΣ" "key" "İ:ΟΔΟΣ" :=
    ⟨by decide, by decide, by simp, by decide, fun c hc =>
      isIdChar_iff.1 (List.all_eq_true.1 hvisible c hc)⟩
  have hlower : Text.lowercase "did:key:İ:ΟΔΟΣ" = "did:key:i\u0307:οδος" := by decide +kernel
  obtain ⟨hiff, -, hstable⟩ := accepted_by_shape "did:key:İ:ΟΔΟΣ"
  obtain ⟨hvalid, hname⟩ := hstable (hiff.2 ⟨_, _, hshaped⟩)
  rw [hlower] at hvalid hname
  exact ⟨hshaped, hlower, hvalid, hname "app" (by decide)⟩

end Permits.Did
