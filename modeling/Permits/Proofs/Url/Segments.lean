import Permits.Proofs.Text.Digits
import Permits.Proofs.Text.Utf8
import Permits.Url.Basic

namespace Permits.Url

section Encoding

variable {set : Char → Bool}

theorem decode_percentByte (b : UInt8) (rest : List Char) :
    decode (percentByte b ++ rest) = b :: decode rest := by
  have hbyte := b.toNat_lt
  have hhigh := Text.hexDigit?_hexUpperChar (n := b.toNat / 16) (by omega)
  have hlow := Text.hexDigit?_hexUpperChar (n := b.toNat % 16) (by omega)
  have hvalue : 16 * (b.toNat / 16) + b.toNat % 16 = b.toNat := by omega
  simp [percentByte, decode, hhigh, hlow, hvalue]

theorem decode_percentBytes (bs : List UInt8) (rest : List Char) :
    decode (bs.flatMap percentByte ++ rest) = bs ++ decode rest := by
  induction bs with
  | nil => rfl
  | cons b bs ih =>
    rw [List.flatMap_cons, List.append_assoc, decode_percentByte, ih]
    rfl

theorem decode_plain {c : Char} (h : c ≠ '%') (rest : List Char) :
    decode (c :: rest) = String.utf8EncodeChar c ++ decode rest := by
  rw [decode, toList_toUTF8_singleton]
  simp [h]

/-- Encoded characters stand for their bytes, if percent signs are encoded too. -/
theorem decode_encode (hset : set '%' = true) (cs : List Char) :
    decode (encode set cs) = cs.flatMap String.utf8EncodeChar := by
  induction cs with
  | nil => rfl
  | cons c cs ih =>
    have hcons : encode set (c :: cs) = (if set c then percentChar c else [c]) ++ encode set cs :=
      List.flatMap_cons
    rw [hcons, List.flatMap_cons]
    cases hc : set c with
    | true =>
      rw [if_pos rfl, percentChar, decode_percentBytes, toList_toUTF8_singleton, ih]
    | false =>
      have hne : c ≠ '%' := by
        rintro rfl
        rw [hset] at hc
        cases hc
      rw [if_neg Bool.false_ne_true, List.singleton_append, decode_plain hne, ih]

theorem encode_ne_nil (hset : set '%' = true) {cs : List Char} (h : cs ≠ []) :
    encode set cs ≠ [] := by
  intro hnil
  have hbytes := decode_encode hset cs
  rw [hnil] at hbytes
  cases cs with
  | nil => exact h rfl
  | cons c cs =>
    have hfirst := (List.append_eq_nil_iff.1 hbytes.symm).1
    exact String.utf8EncodeChar_ne_nil hfirst

end Encoding

/-- The text that an encoded segment stands for, if its bytes are UTF-8. -/
def segmentText? (cs : List Char) : Option String := String.fromUTF8? ⟨(decode cs).toArray⟩

theorem inSegment_percent (special : Bool) : inSegment special '%' = true := by
  cases special <;> rfl

theorem segmentText?_encode (special : Bool) (s : String) :
    segmentText? (encode (inSegment special) s.toList) = some s := by
  rw [segmentText?, decode_encode (inSegment_percent special), ← toList_toUTF8, toArray_toList,
    fromUTF8?_toUTF8]

/-- A text that can be a segment of a path: it is not one of the names that lead elsewhere, and
nothing of it is left out. -/
structure Ordinary (s : String) : Prop where
  nonempty : s ≠ ""
  notHere : s ≠ "."
  notAbove : s ≠ ".."
  whole : s.toList.any isIgnored = false

/-- The path that segments are added to: that of the root is empty. -/
def ground (path : List (List Char)) : List (List Char) := if path = [[]] then [] else path

theorem pushSegment_of_ordinary {s : String} (h : Ordinary s) (special : Bool)
    (path : List (List Char)) : pushSegment special path s.toList =
      ground path ++ [encode (inSegment special) s.toList] := by
  have hdot : s.toList ≠ ['.'] := fun heq => h.notHere (String.toList_inj.1 heq)
  have hdots : s.toList ≠ ['.', '.'] := fun heq => h.notAbove (String.toList_inj.1 heq)
  have hwhole : s.toList.filter (!isIgnored ·) = s.toList :=
    List.filter_eq_self.2 fun c hc => by simpa using List.any_eq_false.1 h.whole c hc
  simp [pushSegment, hdot, hdots, hwhole, ground]

theorem ground_append_segment {s : String} (h : Ordinary s) (special : Bool)
    (path : List (List Char)) : ground (path ++ [encode (inSegment special) s.toList]) =
      path ++ [encode (inSegment special) s.toList] := by
  have hs : s.toList ≠ [] := fun hnil => h.nonempty (String.toList_eq_nil_iff.1 hnil)
  have hencoded := encode_ne_nil (inSegment_percent special) hs
  apply if_neg
  intro heq
  cases path with
  | nil => exact hencoded (List.cons.inj heq).1
  | cons c cs => simp at heq

/-- Segments are added one behind the other, by induction over them. -/
theorem foldl_pushSegment {segments : List String} (h : ∀ s ∈ segments, Ordinary s) (special : Bool)
    {path : List (List Char)} (hpath : ground path = path) :
    (segments.map String.toList).foldl (pushSegment special) path =
      path ++ segments.map fun s => encode (inSegment special) s.toList := by
  induction segments generalizing path with
  | nil => simp
  | cons s rest ih =>
    have hs := h s List.mem_cons_self
    have hrest := ih (fun t ht => h t (List.mem_cons_of_mem s ht))
      (ground_append_segment hs special path)
    rw [List.map_cons, List.foldl_cons, pushSegment_of_ordinary hs, hpath, hrest]
    simp

/-- The segments in front of whatever is put below a URL. -/
def mount (u : Url) : List (List Char) := ground (dropEmptyEnd u.path)

theorem path_below (u : Url) {s : String} {segments : List String}
    (h : ∀ t ∈ s :: segments, Ordinary t) : (u.below (s :: segments)).path =
      u.mount ++ (s :: segments).map fun t => encode (inSegment u.isSpecialUrl) t.toList := by
  have hs := h s List.mem_cons_self
  have hrest := foldl_pushSegment (fun t ht => h t (List.mem_cons_of_mem s ht)) u.isSpecialUrl
    (ground_append_segment hs u.isSpecialUrl u.mount)
  rw [below, List.map_cons, List.foldl_cons, pushSegment_of_ordinary hs]
  change List.foldl _ (u.mount ++ _) _ = _
  rw [hrest]
  simp

end Permits.Url
