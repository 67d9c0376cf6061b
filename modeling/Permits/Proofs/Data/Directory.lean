import Mathlib.Tactic.SplitIfs
import Permits.Data.Directory
import Permits.Proofs.Data.Fallible
import Permits.Proofs.Text.Utf8

namespace Permits

theorem textOf_toUTF8 (s : String) : textOf s.toUTF8 = .ok s := by
  rw [textOf, fromUTF8?_toUTF8]

namespace Directory

variable {d d' : Directory} {place here found : List String} {bytes : ByteArray}

theorem find?_put_self (d : Directory) (place : List String) (bytes : ByteArray) :
    List.find? (·.1 = place) (d.put place bytes) = some (place, .file bytes) := by
  have hnone : List.find? (·.1 = place) (d.filter (·.1 ≠ place)) = none := by
    rw [List.find?_eq_none]
    intro e he
    simpa using (List.mem_filter.1 he).2
  rw [put, List.find?_append, hnone]
  simp

theorem find?_put_of_ne (d : Directory) (h : here ≠ place) (bytes : ByteArray) :
    List.find? (·.1 = here) (d.put place bytes) = List.find? (·.1 = here) d := by
  have hlast : List.find? (·.1 = here) [(place, Entry.file bytes)] = none := by
    simp [h.symm]
  rw [put, List.find?_append, List.find?_filter, hlast, Option.or_none]
  congr 1
  funext e
  by_cases he : e.1 = here
  · simp [he, h]
  · simp [he]

/-- A place that is no directory is none of those that every directory knows. -/
theorem isAround_eq_false (h : d.entry? place ≠ some .directory) : isAround place = false := by
  cases haround : isAround place with
  | true => exact absurd (if_pos haround) h
  | false => rfl

theorem entry?_put_self (h : d.entry? place ≠ some .directory) (bytes : ByteArray) :
    Directory.entry? (d.put place bytes) place = some (.file bytes) := by
  unfold entry?
  rw [isAround_eq_false h, if_neg Bool.false_ne_true, find?_put_self]
  rfl

theorem entry?_put_of_ne (h : here ≠ place) (bytes : ByteArray) :
    Directory.entry? (d.put place bytes) here = d.entry? here := by
  unfold entry?
  rw [find?_put_of_ne d h]

/-- A file that takes no directory's place is in nobody's way. -/
theorem follow_put (hplace : d.entry? place ≠ some .directory) {names : List String}
    (h : d.follow here names = .ok found) (bytes : ByteArray) :
    (d.put place bytes).follow here names = .ok found := by
  induction names generalizing here with
  | nil => exact h
  | cons part rest ih =>
    rw [follow] at h ⊢
    cases hentry : d.entry? here with
    | none => simp [hentry] at h
    | some e =>
      cases e with
      | file bytes' => simp [hentry] at h
      | directory =>
        have hne : here ≠ place := fun hp => hplace (hp ▸ hentry)
        rw [hentry] at h
        rw [entry?_put_of_ne hne, hentry]
        simp only at h ⊢
        split_ifs at h ⊢ with hlength hdot hup
        · exact ih h
        · exact ih h
        · exact ih h

/-- What has been written is read. -/
theorem read_write {path : String} (h : d.write path bytes = .ok d') :
    d'.read path = .ok bytes := by
  obtain ⟨names, hnames, h⟩ := bind_eq_ok.1 h
  split at h
  · obtain ⟨_, -, h⟩ := bind_eq_ok.1 h
    cases h
  · next hslash =>
    obtain ⟨place, hfollow, h⟩ := bind_eq_ok.1 h
    split at h
    · cases h
    · next hplace =>
      cases h
      rw [read, hnames, ok_bind, if_neg hslash, follow_put hplace hfollow, ok_bind,
        entry?_put_self hplace]
      rfl

end Directory

end Permits
