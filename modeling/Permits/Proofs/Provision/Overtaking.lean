import Permits.Provision.Install
import Permits.Proofs.Store.Harmless
import Permits.Proofs.Store.ReadBack
import Permits.Proofs.Store.Revisions

namespace Permits

open MemoryStore

namespace MemoryStore

/-- Members have been written to one document, where this is left of them, and nothing waits. -/
structure Replaced (db id : String) (ms : Members) (left : Option Members) (s t : MemoryStore) :
    Prop where
  quiet : t.Quiet
  document : t.document db id = left
  change : Overtaken db id ms s t

variable {s : MemoryStore} {db id : String} {rival ms : Members} {rev : Option String}

theorem successor_rev_ne {doc : Stored} (h : doc.rev = revision doc.generation doc.body doc.deleted)
    (ms : Members) : (successor (some doc) ms).rev ≠ doc.rev := by
  have hnext : revisionNumber (successor (some doc) ms).rev = doc.generation + 1 :=
    revisionNumber_revision ..
  have hnow : revisionNumber doc.rev = doc.generation := by
    rw [h]
    exact revisionNumber_revision ..
  intro heq
  rw [heq, hnow] at hnext
  omega

theorem serve_get_unrivalled (hcalm : (s.unrivalled db id).faults = []) :
    serve (.get db id) s = ((serve (.get db id) (s.unrivalled db id)).1, s) := by
  have hsame : (s.unrivalled db id).databases = s.databases := rfl
  have hfaults : s.faults = [] := hcalm
  rw [serve, faulty, hfaults, serve, faulty, hcalm]
  simp only [popFault, get, hsame]
  cases s.databases.find? db <;> rfl

theorem serve_get_rev (hquiet : (s.unrivalled db id).Quiet) :
    (∃ body, s.document db id = some body ∧
      serve (.get db id) s = (.ok ⟨id, s.currentRev db id, body⟩, s)) ∨
    ∃ text, s.document db id = none ∧ serve (.get db id) s = (.error (.notFound text), s) := by
  have hdocument : (s.unrivalled db id).document db id = s.document db id := rfl
  have hrev : (s.unrivalled db id).currentRev db id = s.currentRev db id := rfl
  rw [serve_get_unrivalled hquiet.faults]
  cases hb : s.document db id with
  | some body =>
    rw [serve_get_live hquiet (hdocument.trans hb), hrev]
    exact .inl ⟨body, rfl, rfl⟩
  | none =>
    obtain ⟨text, hget⟩ := serve_get_missing hquiet (hdocument.trans hb)
    rw [hget]
    exact .inr ⟨text, rfl, rfl⟩

/-- The competitor writes over what is there, so it is let ahead, and the insertion that it came
before finds the document as the competitor left it. -/
theorem serve_insert_raced (hfaults : s.faults = []) (hraces : s.races = [((db, id), .object rival)])
    (hahead : s.accepts db id (s.liveRevision db id) (deletes rival) = true) (ms : Members)
    (rev : Option String) :
    serve (.insert db id (.object ms) rev) s =
      ((s.unrivalled db id).written db id rival).writeOrStay db id ms rev := by
  have hfind : s.races.find? (·.1 = (db, id)) = some ((db, id), .object rival) := by
    simp [hraces]
  have hserve : serve (.insert db id (.object ms) rev) s = insertRaced db id ms rev s := by
    simp only [serve, insert, stamped, faulty, hfaults, popFault]
  rw [hserve, insertRaced_of_waiting hfind, if_pos hahead]

/-- A revision that was read before a competitor wrote is out of date: the document was missing or
deleted and is there now, or it has been written once more. -/
theorem accepts_overtaken (h : Reachable s) (hex : s.databaseExists db = true)
    (hid : id ≠ securityId) (hrival : deletes rival = false) (deleting : Bool) :
    ((s.unrivalled db id).written db id rival).accepts db id (s.currentRev db id) deleting =
      false := by
  have hstored := stored_written_self (s := s.unrivalled db id) hex hid rival
  have hsame : (s.unrivalled db id).stored db id = s.stored db id := rfl
  rw [hsame] at hstored
  have hlive : (successor (s.stored db id) rival).deleted = false := hrival
  rw [accepts, hstored]
  simp only [admits, hlive, hid, Bool.false_eq_true, if_false, decide_false, Bool.false_or]
  rw [Bool.and_eq_false_imp]
  intro _
  rw [decide_eq_false_iff_not, currentRev, if_neg hid]
  intro hrev
  obtain ⟨d, hd⟩ := exists_database hex
  cases hdoc : d.documents.find? id with
  | none => simp [liveRevision, hd, hdoc] at hrev
  | some doc =>
    rw [stored_of_find? hd, hdoc] at hrev
    have hdoc' : s.stored db id = some doc := (stored_of_find? hd).trans hdoc
    have hne := successor_rev_ne (rev_eq_of_reachable h hdoc') rival
    cases hdel : doc.deleted with
    | true => simp [liveRevision, hd, hdoc, hdel] at hrev
    | false => simp [liveRevision, hd, hdoc, hdel, hne.symm] at hrev

theorem serve_insert_loses (h : Reachable s) (hfaults : s.faults = [])
    (hraces : s.races = [((db, id), .object rival)]) (hex : s.databaseExists db = true)
    (hid : id ≠ securityId) (hrival : deletes rival = false) (ms : Members) :
    serve (.insert db id (.object ms) (s.currentRev db id)) s =
      (.error stale, (s.unrivalled db id).written db id rival) := by
  have hahead : s.accepts db id (s.liveRevision db id) (deletes rival) = true := by
    have hcurrent : s.accepts db id (s.currentRev db id) false = true := accepts_currentRev hex
    rwa [currentRev, if_neg hid, ← hrival] at hcurrent
  have hexist : ((s.unrivalled db id).written db id rival).databaseExists db = true := by
    rw [databaseExists_written]
    exact hex
  rw [serve_insert_raced hfaults hraces hahead, writeOrStay_eq,
    accepts_overtaken h hex hid hrival, hexist]
  rfl

/-- A write to one document of a store where nothing waits for another. -/
theorem replaced_written (hquiet : (s.unrivalled db id).Quiet) (hex : s.databaseExists db = true)
    (hid : id ≠ securityId) (ms : Members) :
    Replaced db id ms (if deletes ms then none else some (ms.filter (·.1 ∉ metadata))) s
      ((s.unrivalled db id).written db id ms) := by
  refine ⟨quiet_written hquiet db id ms, ?_, overtaken_written hex hid ms⟩
  rw [document_written_self (s := s.unrivalled db id) hex hid, content_eq_filter]

theorem unrivalled_of_quiet (hq : s.Quiet) : s.unrivalled db id = s := by
  have hraces := hq.races
  unfold unrivalled
  rw [hraces]
  cases s
  cases hraces
  rfl

end MemoryStore

section Alone

variable {s t : MemoryStore} {db id : String} {body : Json} {rev : Option String}
  {answer : Except StoreError (Option String)}

theorem run_upsert (hquiet : (s.unrivalled db id).Quiet)
    (hinsert : serve (.insert db id body (s.currentRev db id)) s = (answer, t)) :
    (Task.upsert db id body).run serve s =
      (match answer with
        | .ok _ => .ok (if (s.currentRev db id).isSome then .updated else .created)
        | .error e => if e.isConflict then .ok .converged else .error e, t, []) := by
  have hread : (Task.currentRevision db id).run serve s = (.ok (s.currentRev db id), s, []) := by
    rcases serve_get_rev hquiet with ⟨b, -, hget⟩ | ⟨text, hnone, hget⟩
    · simp [Task.currentRevision, Task.get, Bind.bind, Task.bind, Task.run, hget, pure]
    · simp [Task.currentRevision, Task.get, Bind.bind, Task.bind, Task.run, hget, pure,
        StoreError.isNotFound, currentRev_of_missing hnone]
  unfold Task.upsert
  simp only [Bind.bind, Task.run_bind, hread, Task.insert, Task.run, Task.bind, hinsert]
  cases answer with
  | ok r => rfl
  | error e => cases he : e.isConflict <;> simp [he, pure, Task.run]

theorem run_retire (hquiet : (s.unrivalled db id).Quiet) (hlive : (s.document db id).isSome)
    {r : String} (hrev : s.currentRev db id = some r)
    (hinsert : serve (.insert db id tombstone (some r)) s = (answer, t)) :
    (Task.retire db id).run serve s =
      (match answer with
        | .ok _ => .ok .removed
        | .error e => if e.isConflict then .ok .converged else .error e, t, []) := by
  rcases serve_get_rev hquiet with ⟨b, -, hget⟩ | ⟨text, hnone, -⟩
  · rw [hrev] at hget
    unfold Task.retire
    simp only [Bind.bind, Task.get, Task.insert, Task.run, Task.bind, hget, hinsert]
    cases answer with
    | ok r => rfl
    | error e => cases he : e.isConflict <;> simp [he, pure, Task.run]
  · rw [hnone] at hlive
    cases hlive

end Alone

section Races

variable {s : MemoryStore} {db id : String} {rival : Members}

/-- A task on one document whose write comes after that of a competitor, whose members stand then.
Done once more, it goes through. -/
structure Delayed {α : Type} (db id : String) (rival ms : Members) (left : Option Members)
    (task : Task (Except StoreError α)) (lost won : α) (s t u : MemoryStore) : Prop where
  lost : task.run serve s = (.ok lost, t, [])
  stands : Replaced db id rival (some (rival.filter (·.1 ∉ metadata))) s t
  won : task.run serve t = (.ok won, u, [])
  replaces : Replaced db id ms left t u

/-- A writer that has read the document before a competitor writes it takes the work for done, with
the members of the competitor in place, whether the document was live, deleted or never there. Nobody
else notices, and the same work goes through afterwards. -/
theorem raced_write_loses (h : Reachable s) (hfaults : s.faults = [])
    (hraces : s.races = [((db, id), .object rival)]) (hex : s.databaseExists db = true)
    (hid : id ≠ securityId) (hrival : Keyed.find? rival "_deleted" ≠ some (.bool true)) :
    (∀ ms, Keyed.find? ms "_deleted" ≠ some (.bool true) →
      ∃ t u, Delayed db id rival ms (some (ms.filter (·.1 ∉ metadata)))
        (Task.upsert db id (.object ms)) .converged .updated s t u) ∧
    ((s.document db id).isSome → ∃ t u, Delayed db id rival [("_deleted", .bool true)] none
      (Task.retire db id) .converged .removed s t u) := by
  have hkept := deletes_eq_false_iff.2 hrival
  have hquiet : (s.unrivalled db id).Quiet := ⟨hfaults, by simp [unrivalled, hraces]⟩
  have hinsert := serve_insert_loses h hfaults hraces hex hid hkept
  have hstands := replaced_written hquiet hex hid rival
  rw [hkept] at hstands
  -- the competitor is gone now, and what it wrote is live
  generalize (s.unrivalled db id).written db id rival = t at hinsert hstands
  have hq := hstands.quiet
  have hsame : t.unrivalled db id = t := unrivalled_of_quiet hq
  have hexist : t.databaseExists db = true := (hstands.change.exist db).trans hex
  have hlive : (t.document db id).isSome := by
    rw [hstands.document]
    rfl
  have hagain (ms : Members) := replaced_written (hsame.symm ▸ hq) hexist hid ms
  rw [hsame] at hagain
  refine ⟨fun ms hms => ?_, fun hfound => ?_⟩
  · have hown := deletes_eq_false_iff.2 hms
    have haccepts : t.accepts db id (t.currentRev db id) false = true := accepts_currentRev hexist
    rw [← hown] at haccepts
    have hreplaces := hagain ms
    rw [hown] at hreplaces
    have hrev : (t.currentRev db id).isSome = true := by
      rw [isSome_currentRev]
      exact decide_eq_true ⟨hid, hlive⟩
    refine ⟨t, _, run_upsert hquiet (hinsert ms), hstands, ?_, hreplaces⟩
    rw [run_upsert (hsame.symm ▸ hq) (serve_insert_of_accepts hq haccepts), if_pos hrev]
  · obtain ⟨body, hbody⟩ := Option.isSome_iff_exists.1 hfound
    obtain ⟨r, hr, -⟩ := accepts_delete hid hbody
    obtain ⟨own, hown⟩ := Option.isSome_iff_exists.1 hlive
    obtain ⟨r', hr', haccepts⟩ := accepts_delete hid hown
    have hfirst := hinsert [("_deleted", .bool true)]
    rw [hr] at hfirst
    refine ⟨t, _, run_retire hquiet hfound hr hfirst, hstands, ?_, hagain _⟩
    exact run_retire (hsame.symm ▸ hq) hlive hr' (serve_insert_of_accepts hq haccepts)

/-- What a competitor brings along: names of the store's own, and a mark of deletion that is none. -/
def bold : Members := [("_deleted", .string "no"), ("_rev", .null), ("text", .string "theirs")]

def revived : MemoryStore :=
  let made := (serve (.create "db") empty).2
  let live := (serve (.insert "db" "doc" (.object []) none) made).2
  let gone := (serve (.insert "db" "doc" tombstone (live.revisionOf "db" "doc")) live).2
  (serve (.insert "db" "doc" (.object []) none) gone).2

theorem raced_write_loses_revived :
    let beset := revived.raceNext "db" "doc" (.object bold)
    let theirs : Members := [("text", .string "theirs")]
    let ours : Members := [("text", .string "ours")]
    (revived.revisionOf "db" "doc").map revisionNumber = some 3 ∧
      (∃ t u, Delayed "db" "doc" bold ours (some ours)
        (Task.upsert "db" "doc" (.object ours)) .converged .updated beset t u ∧
        t.document "db" "doc" = some theirs ∧ t.writes = 4 ∧ u.writes = 5) ∧
      ∃ t u, Delayed "db" "doc" bold [("_deleted", .bool true)] none (Task.retire "db" "doc")
        .converged .removed beset t u ∧ u.document "db" "doc" = none := by
  intro beset theirs ours
  have h : Reachable beset := .raceNext _ _ _ (.call _ (.call _ (.call _ (.call _ .empty))))
  have hcount : beset.writes = 3 := by decide +kernel
  have hfaults : beset.faults = [] := List.isEmpty_iff.1 (by decide +kernel)
  have hraces : beset.races = [(("db", "doc"), .object bold)] := by
    have hnone : revived.races = [] := List.isEmpty_iff.1 (by decide +kernel)
    show revived.races.filter _ ++ _ = _
    rw [hnone]
    rfl
  obtain ⟨hupsert, hretire⟩ := raced_write_loses h hfaults hraces (by decide +kernel) (by decide)
    (deletes_eq_false_iff.1 (by decide +kernel))
  obtain ⟨t, u, hours⟩ := hupsert ours (deletes_eq_false_iff.1 (by decide +kernel))
  obtain ⟨t', u', hgone⟩ := hretire (by decide +kernel)
  have hfirst := hours.stands.change.writes
  have hsecond := hours.replaces.change.writes
  exact ⟨by decide +kernel, ⟨t, u, hours, hours.stands.document, by omega, by omega⟩, t', u', hgone,
    hgone.replaces.document⟩

end Races

end Permits
