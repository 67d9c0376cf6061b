import Permits.Guard.Artifacts
import Permits.Proofs.Json.RoundTrip

namespace Permits

namespace Datum

theorem texts?_ofJson (ss : List String) : texts? (ofJson (.texts ss)) = some ss := by
  change (ofItems (ss.map .string)).mapM text? = some ss
  induction ss with
  | nil => rfl
  | cons s rest ih =>
    rw [List.map_cons, ofItems, List.mapM_cons, ih]
    rfl

theorem lookup_ofMembers (ms : Members) (name : String) :
    lookup (ofMembers ms) name = (Keyed.find? ms name).map ofJson := by
  induction ms with
  | nil => rfl
  | cons e rest ih =>
    obtain ⟨k, v⟩ := e
    by_cases h : k = name
    · simp [ofMembers, lookup, Keyed.find?, h]
    · simp [ofMembers, lookup, Keyed.find?, h, ih]

theorem filterMap_ofMembers (ms : Members) : (ofMembers ms).filterMap (·.1) = Keyed.keys ms := by
  induction ms with
  | nil => rfl
  | cons e rest ih => simp [ofMembers, Keyed.keys, ih]

theorem length_ofMembers (ms : Members) : (ofMembers ms).length = ms.length := by
  induction ms with
  | nil => rfl
  | cons e rest ih => simp [ofMembers, ih]

/-- A structure that is written with all its fields once gives each of them by its name. -/
theorem fields?_ofMembers (f : Format) {names : List String} {ms : Members}
    (h : Keyed.keys ms = names) (nodup : names.Nodup) :
    fields? f names (.table (ofMembers ms)) =
      some fun name => (Keyed.find? ms name).map ofJson := by
  have hlength : names.length = ms.length := by
    rw [← h]
    exact List.length_map ..
  have hcount : (names.all fun name => decide (names.count name ≤ 1)) = true := by
    rw [List.all_eq_true]
    intro name _
    exact decide_eq_true (List.nodup_iff_count.1 nodup name)
  have hlookup : lookup (ofMembers ms) = fun name => (Keyed.find? ms name).map ofJson :=
    funext (lookup_ofMembers ms)
  simp [fields?, filterMap_ofMembers, length_ofMembers, hlength, h, hcount, hlookup]

end Datum

theorem Scope.ofDatum?_word (c : Scope) : ofDatum? (.string (some c.word)) = some c := by
  cases c <;> rfl

namespace Policy

theorem numberFree_json (p : Policy) : p.json.numberFree = true := by
  simp [json, Json.numberFree, Json.membersNumberFree, Json.numberFree_texts]

theorem ofDatum?_json (p : Policy) : ofDatum? (.ofJson p.json) = some p := by
  have hread := Scope.ofDatum?_word p.read
  have hwrite := Scope.ofDatum?_word p.write
  rw [json, ofDatum?, Datum.ofJson, Datum.fields?_ofMembers]
  · simp [Datum.field, Keyed.find?, Datum.ofJson, hread, hwrite, Datum.texts?_ofJson]
  · rfl
  · decide

theorem parse?_compact (p : Policy) : parse? p.json.compact = some p := by
  rw [parse?, Json.read?_compact p.numberFree_json, Option.bind_some, ofDatum?_json]

end Policy

namespace DatabaseOptions

theorem numberFree_json (o : DatabaseOptions) : o.json.numberFree = true := by
  obtain ⟨_ | p⟩ := o
  · rfl
  · simp [json, Json.numberFree, Json.membersNumberFree, p.numberFree_json]

theorem ofDatum?_json (o : DatabaseOptions) : ofDatum? (.ofJson o.json) = some o := by
  rw [json, ofDatum?, Datum.ofJson, Datum.fields?_ofMembers]
  · obtain ⟨_ | p⟩ := o
    · rfl
    · -- the policy is a table, so it is not taken for none
      have hpolicy := p.ofDatum?_json
      simp only [Policy.json, Datum.ofJson] at hpolicy
      simp [Datum.field, Keyed.find?, Policy.json, Datum.ofJson, hpolicy]
  · rfl
  · decide

theorem parse?_compact (o : DatabaseOptions) : parse? o.json.compact = some o := by
  rw [parse?, Json.read?_compact o.numberFree_json, Option.bind_some, ofDatum?_json]

end DatabaseOptions

namespace SecurityGroup

theorem numberFree_json (g : SecurityGroup) : g.json.numberFree = true := by
  simp [json, Json.numberFree, Json.membersNumberFree, Json.numberFree_texts]

theorem ofDatum?_json (g : SecurityGroup) : ofDatum? (.ofJson g.json) = some g := by
  rw [json, ofDatum?, Datum.ofJson, Datum.fields?_ofMembers]
  · simp [Datum.field, Keyed.find?, Datum.texts?_ofJson]
  · rfl
  · decide

end SecurityGroup

namespace SecurityDescriptor

theorem numberFree_json (d : SecurityDescriptor) : d.json.numberFree = true := by
  simp [json, body, Json.numberFree, Json.membersNumberFree, SecurityGroup.numberFree_json]

theorem ofDatum?_json (d : SecurityDescriptor) : ofDatum? (.ofJson d.json) = some d := by
  rw [json, body, ofDatum?, Datum.ofJson, Datum.fields?_ofMembers]
  · simp [Keyed.find?, SecurityGroup.ofDatum?_json]
  · rfl
  · decide

theorem parse?_compact (d : SecurityDescriptor) : parse? d.json.compact = some d := by
  rw [parse?, Json.read?_compact d.numberFree_json, Option.bind_some, ofDatum?_json]

end SecurityDescriptor

namespace IdentitySet

theorem items_extend {s : IdentitySet} {is : List Identity} (h : (s.items ++ is).Nodup) :
    (s.extend is).items = s.items ++ is := by
  induction is generalizing s with
  | nil => exact (List.append_nil _).symm
  | cons i rest ih =>
    have hnew : i ∉ s.items := fun hmem =>
      (List.nodup_append.1 h).2.2 i hmem i List.mem_cons_self rfl
    have hinsert : (s.insert i).items = s.items ++ [i] := by simp [insert, hnew]
    have hrest : ((s.insert i).items ++ rest).Nodup := by
      rw [hinsert, List.append_assoc]
      exact h
    have hextend := ih hrest
    rw [hinsert, List.append_assoc] at hextend
    exact hextend

/-- A set is made again from its identities, in their order. -/
theorem ofList_items (s : IdentitySet) : ofList s.items = s := by
  have hitems : (ofList s.items).items = s.items := items_extend (s := empty) s.nodup
  obtain ⟨items, nodup⟩ := s
  generalize ofList items = t at hitems
  obtain ⟨others, nodup'⟩ := t
  cases hitems
  rfl

theorem numberFree_json (s : IdentitySet) : s.json.numberFree = true :=
  Json.numberFree_texts s.names

theorem ofDatum?_json (s : IdentitySet) : ofDatum? (.ofJson s.json) = some s := by
  have hnames : s.names.map Identity.mk = s.items := by
    rw [names, List.map_map]
    exact List.map_id s.items
  rw [json, ofDatum?, Datum.texts?_ofJson, Option.map_some, hnames, ofList_items]

theorem parse?_compact (s : IdentitySet) : parse? s.json.compact = some s := by
  rw [parse?, Json.read?_compact s.numberFree_json, Option.bind_some, ofDatum?_json]

end IdentitySet

/-- Whatever names, principals and lists they hold, the texts of policies, options, security objects
and identity sets are read as what was written; options that ask for the default policy are not
written as options that ask for none. -/
theorem wire_forms_round_trip :
    (∀ p : Policy, Policy.parse? p.json.compact = some p) ∧
    (∀ o : DatabaseOptions, DatabaseOptions.parse? o.json.compact = some o) ∧
    (∀ d : SecurityDescriptor, SecurityDescriptor.parse? d.json.compact = some d) ∧
    (∀ s : IdentitySet, IdentitySet.parse? s.json.compact = some s) ∧
    (DatabaseOptions.mk (some {})).json.compact ≠ (DatabaseOptions.mk none).json.compact := by
  refine ⟨Policy.parse?_compact, DatabaseOptions.parse?_compact,
    SecurityDescriptor.parse?_compact, IdentitySet.parse?_compact, fun h => ?_⟩
  have hparsed := congrArg DatabaseOptions.parse? h
  rw [DatabaseOptions.parse?_compact, DatabaseOptions.parse?_compact] at hparsed
  cases hparsed

end Permits
