import Permits.Duration.Parse
import Permits.Proofs.Text.Digits

namespace Permits

namespace TimeUnit

variable {u : TimeUnit}

theorem size_pos (u : TimeUnit) : 0 < u.size.1 ∨ 0 < u.size.2 := by cases u <;> decide

/-- A unit is worth something, so a count of it is no larger than what it is worth. -/
theorem count_lt {n : Nat} (hs : n * u.size.1 < 0x10000000000000000)
    (hn : n * u.size.2 < 1000000000) : n < 0x10000000000000000 := by
  obtain hpos | hpos := u.size_pos
  · have hle := Nat.le_mul_of_pos_right n hpos
    omega
  · have hle := Nat.le_mul_of_pos_right n hpos
    omega

theorem ofName?_chars {name : String} (h : ofName? name = some u) :
    name ≠ "" ∧ ∀ c ∈ name.toList, Duration.isUnitChar c = true := by
  have hchars : name ≠ "" ∧ name.toList.all Duration.isUnitChar = true := by
    unfold ofName? at h
    split at h <;> first | cases h; done | decide
  exact ⟨hchars.1, List.all_eq_true.1 hchars.2⟩

end TimeUnit

namespace Duration

section Adding

variable {d : Duration} {secs nanos : Nat}

theorem fit_eq {n : Nat} (h : n < 0x10000000000000000) : fit n = .ok n := if_pos h

/-- Nothing is carried as long as the nanoseconds stay below a second. -/
theorem add_eq (hs : d.secs + secs < 0x10000000000000000) (hn : d.nanos + nanos < 1000000000) :
    d.add secs nanos = .ok ⟨d.secs + secs, d.nanos + nanos, hs, hn⟩ := by
  have hfit : fit (d.nanos + nanos) = .ok (d.nanos + nanos) := fit_eq (by omega)
  have hsmall : ¬ 1000000000 < d.nanos + nanos := by omega
  have hdiv : (d.nanos + nanos) / 1000000000 = 0 := Nat.div_eq_of_lt hn
  have hmod : (d.nanos + nanos) % 1000000000 = d.nanos + nanos := Nat.mod_eq_of_lt hn
  have hparts : ofParts? (d.secs + secs) (d.nanos + nanos) =
      some ⟨d.secs + secs, d.nanos + nanos, hs, hn⟩ := dif_pos ⟨hs, hn⟩
  simp only [add, hfit, bind, Except.bind, if_neg hsmall, pure, Except.pure, fit_eq hs, hdiv, hmod,
    Nat.add_zero, hparts]

theorem addUnits_eq {n : Nat} {name : List Char} {u : TimeUnit}
    (hname : TimeUnit.ofName? (String.ofList name) = some u)
    (hs : d.secs + n * u.size.1 < 0x10000000000000000)
    (hn : d.nanos + n * u.size.2 < 1000000000) :
    d.addUnits n none name = .ok ⟨d.secs + n * u.size.1, d.nanos + n * u.size.2, hs, hn⟩ := by
  have hsecs : fit (n * u.size.1) = .ok (n * u.size.1) := fit_eq (by omega)
  have hnanos : fit (n * u.size.2) = .ok (n * u.size.2) := fit_eq (by omega)
  simp only [addUnits, hname, hsecs, hnanos, add_eq hs hn, bind, Except.bind, pure, Except.pure]

end Adding

section Reading

theorem digit?_of_isUnitChar {c : Char} (h : isUnitChar c = true) : Text.digit? c = none := by
  simp only [isUnitChar, Text.isAsciiLetter, Bool.or_eq_true, Bool.and_eq_true,
    decide_eq_true_eq] at h
  obtain h | rfl := h
  · exact if_neg (by omega)
  · decide

theorem isBlank_of_isUnitChar {c : Char} (h : isUnitChar c = true) : Text.isBlank c = false := by
  simp only [isUnitChar, Text.isAsciiLetter, Bool.or_eq_true, Bool.and_eq_true,
    decide_eq_true_eq] at h
  obtain h | rfl := h
  · have hranges : ∀ r ∈ Text.blanks, r.2 < 0x41 ∨ 0x7A < r.1 := by decide
    rw [Text.isBlank, Text.inRanges, List.any_eq_false]
    intro r hr
    have hrange := hranges r hr
    simp only [Bool.and_eq_true, decide_eq_true_eq]
    omega
  · decide

theorem toDigits_eq_cons (n : Nat) : ∃ first ds, Nat.toDigits 10 n = first :: ds ∧
    (∀ e ∈ first :: ds, e.isDigit = true) ∧
    (ds.map fun e => e.toNat - 0x30).foldl (fun n e => 10 * n + e) (first.toNat - 0x30) = n := by
  obtain ⟨first, ds, hdigits⟩ :=
    List.exists_cons_of_ne_nil (Nat.toDigits_ne_nil (n := n) (b := 10))
  have hvalue := Text.ofDigits_toDigits n
  rw [hdigits, Text.ofDigits, List.map_cons, List.foldl_cons] at hvalue
  exact ⟨first, ds, hdigits, hdigits ▸ Text.isDigit_toDigits n, by simpa using hvalue⟩

/-- Reading on makes a number no smaller, so no number on the way is too large. -/
theorem le_foldl_digits (n : Nat) (ds : List Nat) : n ≤ ds.foldl (fun n d => 10 * n + d) n := by
  induction ds generalizing n with
  | nil => exact Nat.le_refl n
  | cons d ds ih =>
    have hnext := ih (10 * n + d)
    rw [List.foldl_cons]
    omega

theorem wholePart_digits {cs : List Char} (hcs : ∀ c ∈ cs, c.isDigit = true) {c : Char}
    (hc : isUnitChar c = true) {n m : Nat}
    (hm : (cs.map fun d => d.toNat - 0x30).foldl (fun n d => 10 * n + d) n = m)
    (hfit : m < 0x10000000000000000) (offset : Nat) (rest : List Char) :
    ∃ place, wholePart n offset (cs ++ c :: rest) =
      .ok (m, .unit c, place, .past c place rest) := by
  induction cs generalizing n offset with
  | nil =>
    refine ⟨offset, ?_⟩
    rw [List.nil_append, wholePart, digit?_of_isUnitChar hc]
    simp only [isBlank_of_isUnitChar hc, hc, Bool.false_eq_true, if_false, if_true]
    rw [← hm]
    rfl
  | cons d cs ih =>
    have hd := Text.digit?_of_isDigit (hcs d List.mem_cons_self)
    have hnext : fit (10 * n + (d.toNat - 0x30)) = .ok (10 * n + (d.toNat - 0x30)) := by
      have hle := le_foldl_digits (10 * n + (d.toNat - 0x30)) (cs.map fun d => d.toNat - 0x30)
      rw [List.map_cons, List.foldl_cons] at hm
      exact fit_eq (by omega)
    obtain ⟨place, hplace⟩ :=
      ih (fun e he => hcs e (List.mem_cons_of_mem d he)) hm (offset + d.utf8Size)
    refine ⟨place, ?_⟩
    rw [List.cons_append, wholePart, hd]
    simp only [hnext, bind, Except.bind, hplace]

/-- The name of a unit ends with the text or with a blank. -/
theorem unitPart_name {name : List Char} (hname : ∀ c ∈ name, isUnitChar c = true)
    {after : List Char} (hafter : ∀ c ∈ after.head?, c = ' ') (offset : Nat) :
    ∃ place, unitPart offset (name ++ after) = .ok (name, none, ⟨place, after.tail⟩) := by
  induction name generalizing offset with
  | nil =>
    cases after with
    | nil => exact ⟨offset, rfl⟩
    | cons c rest =>
      have hc : c = ' ' := hafter c rfl
      subst hc
      exact ⟨offset + Char.utf8Size ' ', rfl⟩
  | cons c name ih =>
    have hc := hname c List.mem_cons_self
    obtain ⟨place, hplace⟩ :=
      ih (fun e he => hname e (List.mem_cons_of_mem c he)) (offset + c.utf8Size)
    refine ⟨place, ?_⟩
    rw [List.cons_append, unitPart, digit?_of_isUnitChar hc]
    simp only [isBlank_of_isUnitChar hc, hc, Bool.false_eq_true, if_false, if_true, hplace, bind,
      Except.bind, pure, Except.pure]

end Reading

section Items

/-- What a count of units is worth: of its seconds or of its nanoseconds, `part` takes one. -/
def worth (part : Nat × Nat → Nat) (x : Nat × String) : Nat :=
  match TimeUnit.ofName? x.2 with
  | some u => x.1 * part u.size
  | none => 0

def total (part : Nat × Nat → Nat) : List (Nat × String) → Nat
  | [] => 0
  | x :: xs => worth part x + total part xs

def itemChars (x : Nat × String) : List Char := Nat.toDigits 10 x.1 ++ x.2.toList

variable {d : Duration} {x : Nat × String}

/-- One item is read and added, and the search for the next number goes on behind the blank. -/
theorem spans_item (hnamed : (TimeUnit.ofName? x.2).isSome = true)
    (hs : d.secs + worth Prod.fst x < 0x10000000000000000)
    (hn : d.nanos + worth Prod.snd x < 1000000000) {after : List Char}
    (hafter : ∀ c ∈ after.head?, c = ' ') (fuel began offset : Nat) :
    ∃ n k place, firstDigit began offset (itemChars x ++ after) = .ok (some (n, k)) ∧
      spans (fuel + 1) n k d = (do
        match ← firstDigit place place after.tail with
        | some (n, k) => spans fuel n k ⟨_, _, hs, hn⟩
        | none => return ⟨_, _, hs, hn⟩) := by
  obtain ⟨u, hname⟩ := Option.isSome_iff_exists.1 hnamed
  simp only [worth, hname] at hs hn ⊢
  obtain ⟨hne, hletters⟩ := TimeUnit.ofName?_chars hname
  obtain ⟨c, name, hcname⟩ := List.exists_cons_of_ne_nil (mt String.toList_eq_nil_iff.1 hne)
  obtain ⟨first, ds, hdigits, hall, hcount⟩ := toDigits_eq_cons x.1
  have hfirst := Text.digit?_of_isDigit (hall first List.mem_cons_self)
  have hfit : x.1 < 0x10000000000000000 := TimeUnit.count_lt (u := u) (by omega) (by omega)
  have hc : isUnitChar c = true := hletters c (hcname ▸ List.mem_cons_self)
  obtain ⟨middle, hwhole⟩ := wholePart_digits (fun e he => hall e (List.mem_cons_of_mem first he))
    hc hcount hfit (offset + first.utf8Size) (name ++ after)
  obtain ⟨place, hunit⟩ := unitPart_name
    (fun e he => hletters e (hcname ▸ List.mem_cons_of_mem c he)) hafter (middle + c.utf8Size)
  have hunitName : TimeUnit.ofName? (String.ofList (c :: name)) = some u := by
    rw [← hcname, String.ofList_toList, hname]
  have hadd := addUnits_eq hunitName hs hn
  refine ⟨first.toNat - 0x30, .past first offset (ds ++ c :: (name ++ after)), place, ?_, ?_⟩
  · rw [itemChars, hdigits, hcname]
    simp only [List.cons_append, List.append_assoc, firstDigit, hfirst]
  · simp only [spans, Cursor.past] at hwhole hunit ⊢
    rcases hnext : firstDigit place place after.tail with e | _ | ⟨n, k⟩ <;>
      simp only [hwhole, unitName, hunit, hadd, hnext, bind, Except.bind, pure, Except.pure]

theorem total_cons (part : Nat × Nat → Nat) (x : Nat × String) (xs : List (Nat × String)) :
    total part (x :: xs) = worth part x + total part xs := rfl

/-- All items are read, each of which takes some fuel. -/
theorem spans_items {d : Duration} {x : Nat × String} {xs : List (Nat × String)}
    (hnamed : ∀ y ∈ x :: xs, (TimeUnit.ofName? y.2).isSome = true)
    (hs : d.secs + total Prod.fst (x :: xs) < 0x10000000000000000)
    (hn : d.nanos + total Prod.snd (x :: xs) < 1000000000) {fuel : Nat} (hfuel : xs.length < fuel)
    (began offset : Nat) :
    ∃ n k d', firstDigit began offset (itemChars x ++ xs.flatMap fun y => ' ' :: itemChars y) =
        .ok (some (n, k)) ∧
      spans fuel n k d = .ok d' ∧ d'.secs = d.secs + total Prod.fst (x :: xs) ∧
        d'.nanos = d.nanos + total Prod.snd (x :: xs) := by
  rw [total_cons] at hs ⊢
  rw [total_cons] at hn ⊢
  have hsecs : d.secs + worth Prod.fst x < 0x10000000000000000 := by omega
  have hnanos : d.nanos + worth Prod.snd x < 1000000000 := by omega
  obtain ⟨fuel, rfl⟩ := Nat.exists_eq_add_one_of_ne_zero (Nat.ne_zero_of_lt hfuel)
  have hafter : ∀ c ∈ (xs.flatMap fun y => ' ' :: itemChars y).head?, c = ' ' := by
    cases xs <;> simp
  obtain ⟨n, k, place, hfirst, hspans⟩ :=
    spans_item (hnamed x List.mem_cons_self) hsecs hnanos hafter fuel began offset
  cases xs with
  | nil => exact ⟨n, k, ⟨_, _, hsecs, hnanos⟩, hfirst, hspans, rfl, rfl⟩
  | cons y ys =>
    rw [List.length_cons] at hfuel
    obtain ⟨n', k', d', hfirst', hspans', hsecs', hnanos'⟩ :=
      spans_items (d := ⟨_, _, hsecs, hnanos⟩) (fun z hz => hnamed z (List.mem_cons_of_mem x hz))
        (by rwa [Nat.add_assoc]) (by rwa [Nat.add_assoc]) (Nat.lt_of_succ_lt_succ hfuel) place place
    refine ⟨n, k, d', hfirst, ?_, ?_, ?_⟩
    · rw [hspans]
      simp only [List.flatMap_cons, List.cons_append, List.tail_cons, hfirst', bind, Except.bind,
        hspans']
    · rw [hsecs', Nat.add_assoc]
    · rw [hnanos', Nat.add_assoc]
termination_by xs

end Items

section Whole

theorem ofName?_plural {name : String} {u : TimeUnit} (hone : TimeUnit.ofName? name = some u)
    (hmany : TimeUnit.ofName? (name ++ "s") = some u) (n : Nat) :
    TimeUnit.ofName? (if 1 < n then name ++ "s" else name) = some u := by
  split
  · exact hmany
  · exact hone

/-- The units of the items, in their order. -/
def shownUnits : List TimeUnit :=
  [.year, .month, .day, .hour, .minute, .second, .millisecond, .microsecond, .nanosecond]

theorem units_items (d : Duration) :
    d.items.map (fun x => TimeUnit.ofName? x.2) = shownUnits.map some := by
  simp only [items, List.map_cons, List.map_nil, shownUnits,
    @ofName?_plural "year" .year rfl rfl, @ofName?_plural "month" .month rfl rfl,
    @ofName?_plural "day" .day rfl rfl]
  rfl

/-- What counts of these units are worth together. -/
def totalIn (part : Nat × Nat → Nat) : List TimeUnit → List Nat → Nat
  | u :: us, n :: ns => n * part u.size + totalIn part us ns
  | _, _ => 0

theorem totalIn_cons (part : Nat × Nat → Nat) (u : TimeUnit) (us : List TimeUnit) (n : Nat)
    (ns : List Nat) :
    totalIn part (u :: us) (n :: ns) = n * part u.size + totalIn part us ns := by
  rw [totalIn]

/-- Of an item, its unit matters and not how that is named. -/
theorem total_eq {part : Nat × Nat → Nat} {xs : List (Nat × String)} {us : List TimeUnit}
    (h : xs.map (fun x => TimeUnit.ofName? x.2) = us.map some) :
    total part xs = totalIn part us (xs.map (·.1)) := by
  induction xs generalizing us with
  | nil =>
    cases us with
    | nil => rfl
    | cons u us => cases h
  | cons x xs ih =>
    cases us with
    | nil => cases h
    | cons u us =>
      simp only [List.map_cons, List.cons.injEq] at h
      rw [total_cons, ih h.2, List.map_cons, totalIn_cons, worth, h.1]

/-- The counts are left open here: they are quotients of large numbers, which no step should
evaluate. -/
theorem totalIn_shown (a b c d e f g h i : Nat) :
    totalIn Prod.fst shownUnits [a, b, c, d, e, f, g, h, i] =
        a * year + (b * month + (c * day + (d * 3600 + (e * 60 + f)))) ∧
      totalIn Prod.snd shownUnits [a, b, c, d, e, f, g, h, i] =
        g * 1000000 + (h * 1000 + i) := by
  have hnil (part : Nat × Nat → Nat) : totalIn part [] [] = 0 := by rw [totalIn]; simp
  constructor
  · simp only [shownUnits, totalIn_cons, hnil, TimeUnit.size, Nat.mul_zero, Nat.mul_one,
      Nat.add_zero]
  · simp only [shownUnits, totalIn_cons, hnil, TimeUnit.size, Nat.mul_zero, Nat.mul_one,
      Nat.zero_add, Nat.add_zero]

/-- What is left of each unit is shown in smaller ones. -/
theorem sum_of_units (n y m d : Nat) :
    n / y * y + (n % y / m * m + (n % y % m / d * d + (n % y % m % d / 3600 * 3600 +
      (n % y % m % d % 3600 / 60 * 60 + n % y % m % d % 60)))) = n := by
  have hday : n % y % m % d / 3600 * 3600 + (n % y % m % d % 3600 / 60 * 60 + n % y % m % d % 60) =
      n % y % m % d := by omega
  rw [hday, Nat.div_add_mod', Nat.div_add_mod', Nat.div_add_mod']

theorem total_items (d : Duration) :
    total Prod.fst d.items = d.secs ∧ total Prod.snd d.items = d.nanos := by
  have hnanos : d.nanos / 1000000 * 1000000 + (d.nanos / 1000 % 1000 * 1000 + d.nanos % 1000) =
      d.nanos := by omega
  rw [total_eq d.units_items, total_eq d.units_items]
  simp only [items, List.map_cons, List.map_nil]
  rw [(totalIn_shown ..).1, (totalIn_shown ..).2, hnanos, sum_of_units]
  exact ⟨rfl, rfl⟩

theorem named_items {d : Duration} {x : Nat × String} (hx : x ∈ d.items) :
    (TimeUnit.ofName? x.2).isSome = true := by
  have hall : ∀ o ∈ d.items.map fun x => TimeUnit.ofName? x.2, o.isSome = true := by
    rw [units_items]
    simp
  exact hall _ (List.mem_map_of_mem hx)

/-- Items that count nothing are worth nothing. -/
theorem total_filter (part : Nat × Nat → Nat) (xs : List (Nat × String)) :
    total part (xs.filter (·.1 ≠ 0)) = total part xs := by
  induction xs with
  | nil => rfl
  | cons x xs ih =>
    by_cases hx : x.1 = 0
    · have hworth : worth part x = 0 := by
        unfold worth
        split <;> simp [hx]
      rw [List.filter_cons_of_neg (by simp [hx]), total_cons, hworth, ih, Nat.zero_add]
    · rw [List.filter_cons_of_pos (by simp [hx]), total_cons, total_cons, ih]

theorem intercalate_blank (f : Nat × String → List Char) (x : Nat × String)
    (xs : List (Nat × String)) :
    [' '].intercalate ((x :: xs).map f) = f x ++ xs.flatMap fun y => ' ' :: f y := by
  induction xs generalizing x with
  | nil => simp [List.intercalate]
  | cons y ys ih =>
    rw [List.map_cons, List.map_cons, List.intercalate_cons_cons, ← List.map_cons, ih]
    simp

theorem toList_item (x : Nat × String) : (s!"{x.1}{x.2}").toList = itemChars x := by
  have hparts : s!"{x.1}{x.2}" = x.1.repr ++ x.2 := rfl
  rw [hparts, String.toList_append, Nat.toList_repr, itemChars]

/-- The text is the items that count something. -/
theorem toList_text {d : Duration} (h : d.isZero = false) :
    ∃ x xs, d.items.filter (·.1 ≠ 0) = x :: xs ∧
      d.text.toList = itemChars x ++ xs.flatMap fun y => ' ' :: itemChars y := by
  obtain ⟨hsecs, hnanos⟩ := d.total_items
  cases hshown : d.items.filter (·.1 ≠ 0) with
  | nil =>
    rw [← total_filter, hshown] at hsecs hnanos
    simp [isZero, ← hsecs, ← hnanos, total] at h
  | cons x xs =>
    refine ⟨x, xs, rfl, ?_⟩
    rw [text, h, if_neg Bool.false_ne_true, hshown, String.toList_intercalate, List.map_map,
      ← intercalate_blank]
    congr 1
    exact List.map_congr_left fun y _ => toList_item y

theorem ext_parts {d e : Duration} (hsecs : d.secs = e.secs) (hnanos : d.nanos = e.nanos) :
    d = e := by
  cases d
  cases e
  cases hsecs
  cases hnanos
  rfl

theorem two_le_length_itemChars {x : Nat × String}
    (hnamed : (TimeUnit.ofName? x.2).isSome = true) : 2 ≤ (itemChars x).length := by
  obtain ⟨u, hname⟩ := Option.isSome_iff_exists.1 hnamed
  have hletters := mt String.toList_eq_nil_iff.1 (TimeUnit.ofName?_chars hname).1
  have hdigits := List.length_pos_iff.2 (Nat.toDigits_ne_nil (n := x.1) (b := 10))
  have hname := List.length_pos_iff.2 hletters
  rw [itemChars, List.length_append]
  omega

theorem length_le_flatMap (xs : List (Nat × String)) :
    xs.length ≤ (xs.flatMap fun y => ' ' :: itemChars y).length := by
  induction xs with
  | nil => exact Nat.le_refl 0
  | cons x xs ih =>
    rw [List.flatMap_cons, List.length_append, List.length_cons, List.length_cons]
    omega

/-- A duration is read from its text. -/
theorem parse_text (d : Duration) : parse d.text = .ok d := by
  cases h : d.isZero with
  | true =>
    have hzero : d = zero := by
      simp only [isZero, Bool.and_eq_true, beq_iff_eq] at h
      exact ext_parts h.1 h.2
    rw [hzero]
    rfl
  | false =>
    obtain ⟨x, xs, hshown, hchars⟩ := toList_text h
    have hnamed : ∀ y ∈ x :: xs, (TimeUnit.ofName? y.2).isSome = true := by
      rw [← hshown]
      exact fun y hy => named_items (List.mem_filter.1 hy).1
    have hlength : d.text.length = (itemChars x).length +
        (xs.flatMap fun y => ' ' :: itemChars y).length := by
      rw [← String.length_toList, hchars, List.length_append]
    have hitem := two_le_length_itemChars (hnamed x List.mem_cons_self)
    have hrest := length_le_flatMap xs
    have hfuel : xs.length < d.text.length + 1 := by omega
    have hsecs : total Prod.fst (x :: xs) = d.secs := by
      rw [← hshown, total_filter, d.total_items.1]
    have hnanos : total Prod.snd (x :: xs) = d.nanos := by
      rw [← hshown, total_filter, d.total_items.2]
    obtain ⟨n, k, e, hfirst, hspans, hesecs, henanos⟩ := spans_items (d := zero) hnamed
      (by rw [hsecs, zero, Nat.zero_add]; exact d.secs_lt)
      (by rw [hnanos, zero, Nat.zero_add]; exact d.nanos_lt)
      hfuel 0 0
    have hne : d.text ≠ "0" := by
      intro h0
      rw [h0] at hlength
      have hone : "0".length = 1 := rfl
      omega
    have he : e = d := by
      rw [hsecs, zero, Nat.zero_add] at hesecs
      rw [hnanos, zero, Nat.zero_add] at henanos
      exact ext_parts hesecs henanos
    rw [parse, if_neg hne, hchars, hfirst]
    simp only [bind, Except.bind, hspans, he]

end Whole

end Duration

end Permits
