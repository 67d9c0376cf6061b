import Mathlib.Data.List.Induction
import Permits.Proofs.Http.Server

namespace Permits

namespace Url

section Segments

variable {special : Bool} {path : List (List Char)}

theorem length_ground_le (path : List (List Char)) : (ground path).length ≤ path.length := by
  unfold ground
  split <;> simp

theorem ground_ne_root (path : List (List Char)) : ground path ≠ [[]] := by
  unfold ground
  split
  · exact nofun
  · assumption

theorem ground_concat {front : List (List Char)} {e : List Char} (h : ground (front ++ [e]) ≠ []) :
    ground (front ++ [e]) = front ++ [e] := by
  unfold ground at h ⊢
  split
  · next hroot => simp [hroot] at h
  · rfl

theorem length_leave_le (path : List (List Char)) : (leave path).length ≤ path.length := by
  unfold leave
  split <;> simp

/-- What becomes of a path when a segment is added: nothing, or it ends in what is written for the
segment. Only an ordinary one is written as it is. -/
inductive Pushed (special : Bool) (path : List (List Char)) (s : String) : List (List Char) → Prop
  | skipped (name : s = "." ∨ s = "..") : Pushed special path s path
  | emptied (front : List (List Char)) (fits : front.length ≤ (ground path).length) :
      Pushed special path s (front ++ [[]])
  | written (others : s ≠ "." ∧ s ≠ "..") : Pushed special path s
      (ground path ++ [encode (inSegment special) (s.toList.filter (!isIgnored ·))])

theorem pushed (special : Bool) (path : List (List Char)) (s : String) :
    Pushed special path s (pushSegment special path s.toList) := by
  have hname : s.toList = ['.'] ∨ s.toList = ['.', '.'] ↔ s = "." ∨ s = ".." := by
    rw [← String.toList_inj, ← @String.toList_inj s ".."]
    rfl
  unfold pushSegment
  split
  · next h => exact .skipped (hname.1 h)
  · next h =>
    dsimp only
    split
    · exact .emptied (ground path) (Nat.le_refl _)
    · exact .emptied (leave (ground path)) (length_leave_le _)
    · exact .written (not_or.1 (mt hname.2 h))

theorem Pushed.length_le {s : String} {after : List (List Char)}
    (h : Pushed special path s after) : after.length ≤ (ground path).length + 1 := by
  cases h with
  | skipped =>
    unfold ground
    split
    · next hroot => simp [hroot]
    · exact Nat.le_succ _
  | emptied front fits => simpa using fits
  | written => simp

/-- A segment that makes a path no longer and leaves no empty one at its end is skipped. -/
theorem Pushed.skips {s : String} {after front : List (List Char)} {e : List Char}
    (h : Pushed special path s after) (hafter : after = front ++ [e]) (he : e ≠ [])
    (hlength : after.length ≤ (ground path).length) : (s = "." ∨ s = "..") ∧ after = path := by
  cases h with
  | skipped name => exact ⟨name, rfl⟩
  | emptied base =>
    obtain ⟨-, hlast⟩ := List.append_inj' hafter rfl
    exact absurd (List.cons.inj hlast).1.symm he
  | written => exact absurd hlength (by simp)

theorem length_foldl_pushSegment_le (special : Bool) (path : List (List Char))
    (segments : List String) :
    (ground ((segments.map String.toList).foldl (pushSegment special) path)).length ≤
      (ground path).length + segments.length := by
  induction segments generalizing path with
  | nil => simp
  | cons s rest ih =>
    have hfirst := (pushed special path s).length_le
    have hground := length_ground_le (pushSegment special path s.toList)
    have hrest := ih (pushSegment special path s.toList)
    rw [List.map_cons, List.foldl_cons, List.length_cons]
    omega

theorem segmentText?_nil : segmentText? [] = some "" := by decide

/-- A segment that is read back from the end of a longer path is ordinary. -/
theorem Pushed.ordinary {s : String} {after front : List (List Char)} {e : List Char}
    (h : Pushed special path s after) (hs : s ≠ "") (hafter : ground after = front ++ [e])
    (hlength : (ground path).length ≤ front.length) (he : segmentText? e = some s) :
    Ordinary s ∧ ground path = front := by
  cases h with
  | skipped =>
    rw [hafter, List.length_append] at hlength
    exact absurd hlength (by simp)
  | emptied base =>
    rw [ground_concat (by simp [hafter])] at hafter
    obtain ⟨-, hlast⟩ := List.append_inj' hafter rfl
    rw [← (List.cons.inj hlast).1, segmentText?_nil, Option.some.injEq] at he
    exact absurd he.symm hs
  | written others =>
    rw [ground_concat (by simp [hafter])] at hafter
    obtain ⟨hfront, hlast⟩ := List.append_inj' hafter rfl
    have hkept : String.ofList (s.toList.filter (!isIgnored ·)) = s := by
      have htext := segmentText?_encode special (String.ofList (s.toList.filter (!isIgnored ·)))
      rw [String.toList_ofList, (List.cons.inj hlast).1, he] at htext
      exact (Option.some.inj htext).symm
    have hwhole : s.toList.filter (!isIgnored ·) = s.toList := by
      rw [← String.toList_inj, String.toList_ofList] at hkept
      exact hkept
    refine ⟨⟨hs, others.1, others.2, ?_⟩, hfront⟩
    exact List.any_eq_false.2 fun c hc => by simpa using List.filter_eq_self.1 hwhole c hc

/-- Only ordinary segments are read back from where they were put, by induction over them from the
last one on. -/
theorem ordinary_of_foldl_pushSegment {segments : List String} (hs : ∀ s ∈ segments, s ≠ "")
    {es : List (List Char)}
    (hpath : ground ((segments.map String.toList).foldl (pushSegment special) path) =
      ground path ++ es)
    (hes : es.map segmentText? = segments.map some) : ∀ s ∈ segments, Ordinary s := by
  induction segments using List.reverseRecOn generalizing es with
  | nil => exact nofun
  | append_singleton init s ih =>
    rw [List.map_append, List.map_eq_append_iff] at hes
    obtain ⟨before, last, rfl, hbefore, hlast⟩ := hes
    obtain ⟨e, rest, rfl, he, hrest⟩ := List.map_eq_cons_iff.1 hlast
    obtain rfl := List.map_eq_nil_iff.1 hrest
    rw [List.map_append, List.foldl_append, ← List.append_assoc] at hpath
    have hcount : before.length = init.length := by simpa using congrArg List.length hbefore
    have hlength := length_foldl_pushSegment_le special path init
    obtain ⟨hordinary, hfront⟩ := (pushed special _ s).ordinary (hs s (by simp)) hpath
      (by rw [List.length_append]; omega) he
    have hinit := ih (fun t ht => hs t (by simp [ht])) hfront hbefore
    intro t ht
    rcases List.mem_append.1 ht with ht | ht
    · exact hinit t ht
    · exact List.mem_singleton.1 ht ▸ hordinary

end Segments

section Targets

theorem slash_not_mem_encode (special : Bool) (cs : List Char) :
    '/' ∉ encode (inSegment special) cs := by
  have hdigit : ∀ k : Fin 16, Text.hexUpperChar k ≠ '/' := by decide
  have hbyte (b : UInt8) : '/' ∉ percentByte b := by
    have hb := b.toNat_lt
    have hhigh := hdigit ⟨b.toNat / 16, by omega⟩
    have hlow := hdigit ⟨b.toNat % 16, by omega⟩
    simp [percentByte, hhigh.symm, hlow.symm]
  intro hmem
  obtain ⟨c, -, hc⟩ := List.mem_flatMap.1 hmem
  split at hc
  · obtain ⟨b, -, hb⟩ := List.mem_flatMap.1 hc
    exact hbyte b hb
  · next hplain =>
    obtain rfl := List.mem_singleton.1 hc
    exact hplain (by cases special <;> decide)

theorem append_pathChars (e : List Char) (es : List (List Char)) :
    e ++ pathChars es = ['/'].intercalate (e :: es) := by
  induction es generalizing e with
  | nil => simp [pathChars]
  | cons f rest ih =>
    rw [List.intercalate_cons_cons, ← ih]
    simp [pathChars]

/-- Segments without slashes can be told from the text of their path. -/
theorem pathChars_inj {es es' : List (List Char)} (h : ∀ e ∈ es, '/' ∉ e) (h' : ∀ e ∈ es', '/' ∉ e)
    (heq : pathChars es = pathChars es') : es = es' := by
  have hsplit {es : List (List Char)} (h : ∀ e ∈ es, '/' ∉ e) :
      (pathChars es).splitOn '/' = [] :: es := by
    have hroot := append_pathChars [] es
    rw [List.nil_append] at hroot
    rw [hroot]
    exact List.splitOn_intercalate '/' (by simpa using h) (List.cons_ne_nil [] es)
  have hsame := hsplit h
  rw [heq, hsplit h'] at hsame
  exact (List.cons.inj hsame).2.symm

/-- What is asked for tells the ordinary segments that have been put below a URL. -/
theorem target_below_inj {u : Url} {s s' : String} {segments segments' : List String}
    (h : ∀ t ∈ s :: segments, Ordinary t) (h' : ∀ t ∈ s' :: segments', Ordinary t)
    (heq : (u.below (s :: segments)).target = (u.below (s' :: segments')).target) :
    s :: segments = s' :: segments' := by
  let encoded (ts : List String) := ts.map fun t => encode (inSegment u.isSpecialUrl) t.toList
  have htarget {t : String} {ts : List String} (hts : ∀ x ∈ t :: ts, Ordinary x) :
      (u.below (t :: ts)).target.toList =
        pathChars u.mount ++ pathChars (encoded (t :: ts)) ++ (u.query.map ('?' :: ·)).getD [] := by
    have hpath : (u.below (t :: ts)).path = u.mount ++ encoded (t :: ts) := path_below u hts
    have hquery : (u.below (t :: ts)).query = u.query := rfl
    simp [target, hpath, hquery, encoded, pathChars]
  have hplain (ts : List String) : ∀ e ∈ encoded ts, '/' ∉ e := by
    intro e he
    obtain ⟨t, -, rfl⟩ := List.mem_map.1 he
    exact slash_not_mem_encode _ _
  have hchars := congrArg String.toList heq
  rw [htarget h, htarget h'] at hchars
  have hencoded := pathChars_inj (hplain _) (hplain _)
    (List.append_cancel_left (List.append_cancel_right hchars))
  have htexts := Http.mapM_segmentText?_encode u.isSpecialUrl (s :: segments)
  change (encoded (s :: segments)).mapM segmentText? = _ at htexts
  rw [hencoded, Http.mapM_segmentText?_encode] at htexts
  exact (Option.some.inj htexts).symm

end Targets

end Url

namespace Http

section Addresses

variable {c : Client} {db id : String}

theorem ordinary_of_segments? {u : Url} {segments : List String} (hs : ∀ s ∈ segments, s ≠ "")
    (h : Server.segments? u.mount (u.below segments).path = some segments) :
    ∀ s ∈ segments, Url.Ordinary s := by
  unfold Server.segments? at h
  split at h
  · next hmount =>
    obtain ⟨es, hpath⟩ := List.isPrefixOf_iff_prefix.1 hmount
    rw [← hpath, List.drop_left] at h
    have hes := mapM_eq_some_iff.1 h
    have hground : Url.ground (u.below segments).path = u.mount ++ es := by
      rw [← hpath]
      refine if_neg fun hroot => ?_
      rcases List.append_eq_singleton_iff.1 hroot with ⟨-, rfl⟩ | ⟨hmounted, -⟩
      · obtain ⟨s, rest, rfl, hempty, -⟩ := List.map_eq_cons_iff.1 hes.symm
        rw [Url.segmentText?_nil] at hempty
        exact hs s List.mem_cons_self (Option.some.inj hempty)
      · exact Url.ground_ne_root _ hmounted
    exact Url.ordinary_of_foldl_pushSegment hs hground hes
  · cases h

/-- A server at the URL of a client reads what lies below it as these segments. -/
def Client.Tells (c : Client) (url : Except StoreError Url) (segments : List String) : Prop :=
  ∃ u, url = .ok u ∧ Server.segments? c.base.mount u.path = some segments

theorem Client.tells_below_iff {s : String} {rest : List String} (hs : ∀ t ∈ s :: rest, t ≠ "") :
    c.Tells (.ok (c.base.below (s :: rest))) (s :: rest) ↔ ∀ t ∈ s :: rest, Url.Ordinary t := by
  constructor
  · rintro ⟨u, hu, h⟩
    obtain rfl := Except.ok.inj hu
    exact ordinary_of_segments? hs h
  · exact fun h => ⟨_, rfl, segments?_below c.base h⟩

theorem Client.not_tells_error (c : Client) (e : StoreError) (segments : List String) :
    ¬ c.Tells (.error e) segments := by
  rintro ⟨u, hu, -⟩
  cases hu

theorem Client.tells_databaseUrl_iff (c : Client) (db : String) :
    c.Tells (c.databaseUrl db) [db] ↔ Url.Ordinary db := by
  unfold Client.databaseUrl
  split
  · next hempty =>
    refine iff_of_false (not_tells_error c _ _) fun h => ?_
    exact h.nonempty hempty
  · next hdb =>
    rw [Client.tells_below_iff (List.forall_mem_singleton.2 hdb), List.forall_mem_singleton]

theorem idSegments_design {name : String} (h : name ≠ "") :
    Client.idSegments ("_design/" ++ name) = ["_design", name] := by
  have hmark : "_design/".toList.isPrefixOf ("_design/" ++ name).toList = true := by
    rw [String.toList_append]
    exact List.isPrefixOf_iff_prefix.2 (List.prefix_append _ _)
  have hname : ("_design/" ++ name).toList.drop "_design/".toList.length = name.toList := by
    rw [String.toList_append, List.drop_left]
  have hnamed : name.toList.isEmpty = false :=
    List.isEmpty_eq_false_iff.2 (mt String.toList_eq_nil_iff.1 h)
  have hdesign : Client.designName? ("_design/" ++ name) = some name := by
    simp only [Client.designName?, hmark, hname, hnamed, Bool.not_false, Bool.and_self, if_true,
      String.ofList_toList]
  simp only [Client.idSegments, hdesign]

theorem ne_empty_of_designName? {name : String} (h : Client.designName? id = some name) :
    name ≠ "" := by
  unfold Client.designName? at h
  dsimp only at h
  split at h
  · next hdesign =>
    rintro rfl
    have hempty := congrArg String.toList (Option.some.inj h)
    rw [String.toList_ofList] at hempty
    rw [hempty] at hdesign
    simp at hdesign
  · cases h

theorem idSegments_plain (h : ∀ name, name ≠ "" → id ≠ "_design/" ++ name) :
    Client.idSegments id = [id] := by
  unfold Client.idSegments
  cases hname : Client.designName? id with
  | none => rfl
  | some name => exact absurd (eq_of_designName? hname) (h name (ne_empty_of_designName? hname))

theorem ne_empty_of_mem_idSegments (h : id ≠ "") : ∀ s ∈ Client.idSegments id, s ≠ "" := by
  unfold Client.idSegments
  cases hname : Client.designName? id with
  | none => exact List.forall_mem_singleton.2 h
  | some name =>
    have hnamed := ne_empty_of_designName? hname
    exact List.forall_mem_cons.2 ⟨by decide, List.forall_mem_singleton.2 hnamed⟩

theorem Client.tells_documentUrl_iff (c : Client) (db id : String) :
    c.Tells (c.documentUrl db id) (db :: Client.idSegments id) ↔
      Url.Ordinary db ∧ Addressable id := by
  by_cases hnamed : db = "" ∨ id = ""
  · rw [Client.documentUrl, if_pos hnamed]
    refine iff_of_false (not_tells_error c _ _) fun h => ?_
    exact hnamed.elim h.1.nonempty (ne_empty_of_addressable h.2)
  · obtain ⟨hdb, hid⟩ := not_or.1 hnamed
    rw [documentUrl_of_ne hdb hid, Client.tells_below_iff
      (List.forall_mem_cons.2 ⟨hdb, ne_empty_of_mem_idSegments hid⟩), List.forall_mem_cons]
    rfl

theorem ordinary_mark : Url.Ordinary "_design" := ⟨by decide, by decide, by decide, by decide⟩

/-- Only a document whose name leads nowhere adds nothing to a path. -/
theorem foldl_idSegments_eq_iff {special : Bool} {front : List (List Char)} {e : List Char}
    (he : e ≠ []) (hground : Url.ground (front ++ [e]) = front ++ [e]) :
    ((Client.idSegments id).map String.toList).foldl (Url.pushSegment special) (front ++ [e]) =
      front ++ [e] ↔ id = "." ∨ id = ".." := by
  constructor
  · intro h
    unfold Client.idSegments at h
    cases hname : Client.designName? id with
    | none =>
      rw [hname] at h
      change Url.pushSegment special (front ++ [e]) id.toList = front ++ [e] at h
      have hlength := congrArg List.length (h.trans hground.symm)
      exact ((Url.pushed special (front ++ [e]) id).skips h he (Nat.le_of_eq hlength)).1
    | some name =>
      rw [hname] at h
      -- The mark has been added, and the name cannot take it away.
      let mark := Url.encode (Url.inSegment special) "_design".toList
      have hmarked : Url.pushSegment special (front ++ [e]) "_design".toList =
          front ++ [e] ++ [mark] := by
        rw [Url.pushSegment_of_ordinary ordinary_mark, hground]
      change Url.pushSegment special (Url.pushSegment special (front ++ [e]) "_design".toList)
        name.toList = front ++ [e] at h
      rw [hmarked] at h
      have hlength : (front ++ [e]).length ≤ (Url.ground (front ++ [e] ++ [mark])).length := by
        rw [Url.ground_append_segment ordinary_mark]
        simp
      obtain ⟨-, hsame⟩ := (Url.pushed special (front ++ [e] ++ [mark]) name).skips h he
        (by rw [h]; exact hlength)
      rw [h] at hsame
      exact absurd (congrArg List.length hsame) (by simp)
  · rintro (rfl | rfl) <;> rfl

/-- The documents that have the URL of their database. -/
theorem documentUrl_eq_databaseUrl_iff (hdb : Url.Ordinary db) :
    c.documentUrl db id = c.databaseUrl db ↔ id = "." ∨ id = ".." := by
  rw [databaseUrl_eq hdb]
  by_cases hid : id = ""
  · rw [Client.documentUrl, if_pos (.inr hid), hid]
    refine iff_of_false (fun h => ?_) (by decide)
    cases h
  have hpath : (c.base.below [db]).path = _ := Url.pushSegment_of_ordinary hdb _ _
  have hbelow : c.base.below (db :: Client.idSegments id) = c.base.below [db] ↔
      ((Client.idSegments id).map String.toList).foldl (Url.pushSegment c.base.isSpecialUrl)
        (c.base.below [db]).path = (c.base.below [db]).path :=
    ⟨congrArg Url.path, fun h => congrArg (fun path => { c.base with path }) h⟩
  rw [documentUrl_of_ne hdb.nonempty hid, Except.ok.injEq, hbelow, hpath]
  have hencoded := Url.encode_ne_nil (Url.inSegment_percent c.base.isSpecialUrl)
    (mt String.toList_eq_nil_iff.1 hdb.nonempty)
  exact foldl_idSegments_eq_iff hencoded (Url.ground_append_segment hdb _ _)

/-- What the URLs of a client tell of the databases and documents that they are for. A server reads
what was meant just where all that is named is ordinary, and there no two things are asked for in
one way. A document with another name may have the URL of its database. -/
structure Client.Addressing (c : Client) : Prop where
  database : ∀ db, c.Tells (c.databaseUrl db) [db] ↔ Url.Ordinary db
  design : ∀ db name, name ≠ "" → (c.Tells (c.documentUrl db ("_design/" ++ name))
    [db, "_design", name] ↔ Url.Ordinary db ∧ Url.Ordinary name)
  plain : ∀ db id, (∀ name, name ≠ "" → id ≠ "_design/" ++ name) →
    (c.Tells (c.documentUrl db id) [db, id] ↔ Url.Ordinary db ∧ Url.Ordinary id)
  databases : ∀ db db' u u', Url.Ordinary db → Url.Ordinary db' → c.databaseUrl db = .ok u →
    c.databaseUrl db' = .ok u' → u.target = u'.target → db = db'
  documents : ∀ db id db' id' u u', Url.Ordinary db → Addressable id → Url.Ordinary db' →
    Addressable id' → c.documentUrl db id = .ok u → c.documentUrl db' id' = .ok u' →
    u.target = u'.target → db = db' ∧ id = id'
  apart : ∀ db id db' u u', Url.Ordinary db → Addressable id → Url.Ordinary db' →
    c.documentUrl db id = .ok u → c.databaseUrl db' = .ok u' → u.target ≠ u'.target
  astray : ∀ db id, Url.Ordinary db → (c.documentUrl db id = c.databaseUrl db ↔
    id = "." ∨ id = "..")

end Addresses

theorem Client.addressing (c : Client) : c.Addressing where
  database := tells_databaseUrl_iff c
  design db name h := by
    have htells := tells_documentUrl_iff c db ("_design/" ++ name)
    rw [Addressable, idSegments_design h, List.forall_mem_cons, List.forall_mem_singleton] at htells
    rw [htells, and_iff_right ordinary_mark]
  plain db id h := by
    have htells := tells_documentUrl_iff c db id
    rwa [Addressable, idSegments_plain h, List.forall_mem_singleton] at htells
  databases db db' u u' hdb hdb' hu hu' h := by
    cases (databaseUrl_eq hdb).symm.trans hu
    cases (databaseUrl_eq hdb').symm.trans hu'
    have hsame := Url.target_below_inj (List.forall_mem_singleton.2 hdb)
      (List.forall_mem_singleton.2 hdb') h
    exact (List.cons.inj hsame).1
  documents db id db' id' u u' hdb hid hdb' hid' hu hu' h := by
    cases (documentUrl_eq hdb hid).symm.trans hu
    cases (documentUrl_eq hdb' hid').symm.trans hu'
    have hsame := Url.target_below_inj (List.forall_mem_cons.2 ⟨hdb, hid⟩)
      (List.forall_mem_cons.2 ⟨hdb', hid'⟩) h
    obtain ⟨hbases, hids⟩ := List.cons.inj hsame
    refine ⟨hbases, ?_⟩
    rw [← intercalate_idSegments id, ← intercalate_idSegments id', hids]
  apart db id db' u u' hdb hid hdb' hu hu' h := by
    cases (documentUrl_eq hdb hid).symm.trans hu
    cases (databaseUrl_eq hdb').symm.trans hu'
    have hsame := Url.target_below_inj (List.forall_mem_cons.2 ⟨hdb, hid⟩)
      (List.forall_mem_singleton.2 hdb') h
    obtain ⟨s, rest, hsegments⟩ := exists_idSegments_eq_cons id
    rw [hsegments] at hsame
    exact List.cons_ne_nil s rest (List.cons.inj hsame).2
  astray db id hdb := documentUrl_eq_databaseUrl_iff hdb

/-- With the usual settings a client writes a document where it makes the database, and puts two
documents in one place. -/
theorem Client.document_astray : ∃ c u v, Client.ofSettings {} = .ok c ∧
    c.databaseUrl "db" = .ok u ∧ c.documentUrl "db" "." = .ok u ∧
    c.documentUrl "db" "ab" = .ok v ∧ c.documentUrl "db" "a\tb" = .ok v := by
  have hreads : (Client.ofSettings {}).toBool = true := by decide +kernel
  cases hc : Client.ofSettings {} with
  | error e =>
    rw [hc] at hreads
    cases hreads
  | ok c => exact ⟨c, c.base.below ["db"], c.base.below ["db", "ab"], rfl, rfl, rfl, rfl, rfl⟩

end Http

end Permits
