import ThreatAnalysis.Proofs.Record.RoundTrip

/-!
What is written for a record that was read, key by key. A field is written under one of its two
keys, wherever it was given; a member under the other key moves there if nothing stood under the
first, and stays if something did. Members that belong to no field stay. So from an object that is
accepted no member is lost and none is added (`Schema.rewritten`): only the values of fields change,
each to what is written for what was read.
-/
namespace ThreatAnalysis

namespace Fields
variable {fields : Fields} {key : String}

/-- What stands under a key once the members are renamed. Each of the `aliases` is a key with
another one that stands for it. -/
def renamed (aliases : List (String × String)) (fields : Fields) (key : String) : Option Json :=
  match aliases.lookup key with
  | some other => (fields.get? key).or (fields.get? other)
  | none =>
    match aliases.find? fun pair => pair.2 == key with
    | some (name, _) => if (fields.get? name).isSome then fields.get? key else none
    | none => fields.get? key

/-- One object is another one with its members renamed and its values changed as `value` says. No
member is lost, none is added, and no key comes to stand twice. -/
structure Rewritten (aliases : List (String × String)) (value : String → Json → Json → Prop)
    (before after : Fields) : Prop where
  members : ∀ key, Option.Rel (value key) (before.renamed aliases key) (after.get? key)
  distinct : (before.map Prod.fst).Nodup → (after.map Prod.fst).Nodup

end Fields

namespace Schema
variable {schema : Schema} {fields : Fields} {key : String}

/-- The keys of the fields that have two. -/
def aliases (schema : Schema) : List (String × String) :=
  schema.fields.filterMap fun field => (schema.otherKey field).map (schema.key field, ·)

theorem mem_aliases (lawful : schema.Lawful) {pair : String × String} :
    pair ∈ schema.aliases ↔
      ∃ field other, schema.otherKey field = some other ∧ pair = (schema.key field, other) := by
  unfold aliases
  constructor
  · intro listed
    obtain ⟨field, _, found⟩ := List.mem_filterMap.mp listed
    obtain ⟨other, second, rfl⟩ := Option.map_eq_some_iff.mp found
    exact ⟨field, other, second, rfl⟩
  · rintro ⟨field, other, second, rfl⟩
    refine List.mem_filterMap.mpr ⟨field, lawful.complete field, ?_⟩
    rw [second, Option.map_some]

/-- Only the key of a field has another one that stands for it. -/
theorem lookup_aliases_key (lawful : schema.Lawful) (field : schema.Field) :
    schema.aliases.lookup (schema.key field) = schema.otherKey field := by
  cases found : schema.aliases.lookup (schema.key field) with
  | none =>
    cases second : schema.otherKey field with
    | none => rfl
    | some other =>
      have listed := (mem_aliases lawful).mpr ⟨field, other, second, rfl⟩
      have apart := List.lookup_eq_none_iff.mp found _ listed
      simp only [bne_self_eq_false, Bool.false_eq_true] at apart
  | some other =>
    obtain ⟨front, back, whole, _⟩ := List.lookup_eq_some_iff.mp found
    have listed : (schema.key field, other) ∈ schema.aliases := by
      rw [whole]
      exact List.mem_append_right _ List.mem_cons_self
    obtain ⟨known, second, given, same⟩ := (mem_aliases lawful).mp listed
    rw [Prod.mk.injEq] at same
    cases lawful.key_injective same.1
    rw [given, same.2]

/-- A field is read from what stands under its key once the members are renamed. -/
theorem renamed_key (lawful : schema.Lawful) (fields : Fields) (field : schema.Field) :
    fields.renamed schema.aliases (schema.key field) =
      (schema.locate fields field).map Prod.snd := by
  unfold Fields.renamed
  rw [lookup_aliases_key lawful, locate_value]
  cases schema.otherKey field with
  | some other => rfl
  | none =>
    have unmatched : schema.aliases.find? (fun pair => pair.2 == schema.key field) = none := by
      refine List.find?_eq_none.mpr fun pair listed same => ?_
      obtain ⟨known, other, second, rfl⟩ := (mem_aliases lawful).mp listed
      rw [beq_iff_eq] at same
      exact lawful.otherKey_ne_key known field (second.trans (congrArg some same))
    rw [unmatched]
    exact (Option.or_none).symm

theorem mem_keysUsed (lawful : schema.Lawful) :
    key ∈ schema.keysUsed fields ↔
      ∃ field value, schema.locate fields field = some (key, value) := by
  unfold keysUsed
  constructor
  · intro listed
    obtain ⟨field, _, found⟩ := List.mem_filterMap.mp listed
    obtain ⟨⟨name, value⟩, located, rfl⟩ := Option.map_eq_some_iff.mp found
    exact ⟨field, value, located⟩
  · rintro ⟨field, value, located⟩
    exact List.mem_filterMap.mpr ⟨field, lawful.complete field, by rw [located, Option.map_some]⟩

/-- A key that is not that of a field is used up only in place of one. -/
theorem locate_other {field : schema.Field}
    (unknown : ∀ field, schema.key field ≠ key) :
    (∃ value, schema.locate fields field = some (key, value)) ↔
      schema.otherKey field = some key ∧ fields.get? (schema.key field) = none ∧
        fields.get? key ≠ none := by
  unfold locate
  constructor
  · rintro ⟨value, located⟩
    cases first : fields.get? (schema.key field) with
    | some found =>
      simp only [first, Option.some.injEq, Prod.mk.injEq] at located
      exact absurd located.1 (unknown field)
    | none =>
      cases second : schema.otherKey field with
      | none => simp only [first, second, reduceCtorEq] at located
      | some other =>
        simp only [first, second, Option.map_eq_some_iff, Prod.mk.injEq] at located
        obtain ⟨found, there, rfl, rfl⟩ := located
        exact ⟨rfl, rfl, by rw [there]; exact Option.some_ne_none found⟩
  · rintro ⟨second, first, there⟩
    obtain ⟨value, found⟩ := Option.ne_none_iff_exists'.mp there
    exact ⟨value, by simp only [first, second, found, Option.map_some]⟩

/-- Under a key that is not that of a field stands a member that was not moved. -/
theorem renamed_extra (lawful : schema.Lawful) (single : (schema.aliases.map Prod.snd).Nodup)
    (fields : Fields) (unknown : ∀ field, schema.key field ≠ key) :
    fields.renamed schema.aliases key = (schema.accept fields).extras.get? key := by
  have noFirst : schema.aliases.lookup key = none := by
    refine List.lookup_eq_none_iff.mpr fun pair listed => ?_
    obtain ⟨field, other, _, rfl⟩ := (mem_aliases lawful).mp listed
    exact bne_iff_ne.mpr fun same => unknown field same.symm
  have extra : (schema.accept fields).extras.get? key =
      if (schema.keysUsed fields).contains key then none else fields.get? key := by
    have filtered := fields.get?_filter (fun name => !(schema.keysUsed fields).contains name) key
    refine Eq.trans filtered ?_
    cases (schema.keysUsed fields).contains key <;> rfl
  unfold Fields.renamed
  rw [noFirst, extra]
  cases second : schema.aliases.find? fun pair => pair.2 == key with
  | none =>
    have unused : (schema.keysUsed fields).contains key = false := by
      rw [Bool.eq_false_iff, ne_eq, List.contains_iff_mem, mem_keysUsed lawful]
      rintro ⟨field, value, located⟩
      have stands := (locate_other unknown).mp ⟨value, located⟩
      have listed := (mem_aliases lawful).mpr ⟨field, key, stands.1, rfl⟩
      exact List.find?_eq_none.mp second _ listed (beq_self_eq_true key)
    simp only [unused, Bool.false_eq_true, if_false]
  | some pair =>
    have listed := List.mem_of_find?_eq_some second
    have matched := List.find?_some second
    obtain ⟨field, other, stands, rfl⟩ := (mem_aliases lawful).mp listed
    obtain rfl : other = key := beq_iff_eq.mp matched
    have used : other ∈ schema.keysUsed fields ↔
        fields.get? (schema.key field) = none ∧ fields.get? other ≠ none := by
      rw [mem_keysUsed lawful]
      constructor
      · rintro ⟨known, value, located⟩
        obtain ⟨alsoStands, first, there⟩ := (locate_other unknown).mp ⟨value, located⟩
        have alsoListed := (mem_aliases lawful).mpr ⟨known, other, alsoStands, rfl⟩
        have same := List.inj_on_of_nodup_map single listed alsoListed rfl
        rw [Prod.mk.injEq] at same
        rw [same.1]
        exact ⟨first, there⟩
      · rintro ⟨first, there⟩
        exact ⟨field, (locate_other unknown).mpr ⟨stands, first, there⟩⟩
    cases first : fields.get? (schema.key field) with
    | some value => simp [used, first]
    | none => cases there : fields.get? other <;> simp [used, first, there]

variable {value : String → Json → Json → Prop}

/-- The object written for a record that was read is the object it was read from, renamed, with
what was read in place of the values of fields. -/
theorem rewritten (lawful : schema.Lawful) (single : (schema.aliases.map Prod.snd).Nodup)
    (accepted : schema.issues fields = [])
    (held : ∀ field document known, schema.read field document = .ok known →
      value (schema.key field) document (schema.write .given field known))
    (kept : ∀ key document, (∀ field, schema.key field ≠ key) → value key document document) :
    fields.Rewritten schema.aliases value ((schema.accept fields).fields .given) where
  members key := by
    have faithful := faithful_of_accept lawful accepted
    by_cases known : ∃ field, schema.key field = key
    · obtain ⟨field, rfl⟩ := known
      rw [renamed_key lawful, faithful.get?_key lawful]
      cases located : schema.locate fields field with
      | none =>
        have absent : (schema.accept fields).given field = none := by
          rw [given_accept, located, Option.map_none, Option.bind_none]
        rw [absent]
        exact .none
      | some member =>
        obtain ⟨known, read, given⟩ := given_of_locate lawful accepted located
        rw [given]
        exact .some (held field member.2 known read)
    · have unknown : ∀ field, schema.key field ≠ key := fun field same => known ⟨field, same⟩
      rw [renamed_extra lawful single fields unknown, Record.fields_given, Fields.get?_append,
        Record.members_get?_unknown lawful unknown, Option.none_or]
      cases (schema.accept fields).extras.get? key with
      | none => exact .none
      | some document => exact .some (kept key document unknown)
  distinct once := by
    have faithful := faithful_of_accept lawful accepted
    have ofField : ∀ field name, name ∈ ((schema.accept fields).member .given field).map Prod.fst →
        name = schema.key field := by
      intro field name found
      obtain ⟨member, written, rfl⟩ := Option.map_eq_some_iff.mp found
      obtain ⟨_, _, rfl⟩ := Option.map_eq_some_iff.mp written
      rfl
    have members : ((schema.accept fields).members.map Prod.fst).Nodup := by
      rw [Record.members, List.map_filterMap]
      refine List.Nodup.filterMap (fun field other name first second => ?_)
        (List.Nodup.of_map _ lawful.keys)
      exact lawful.key_injective ((ofField field name first).symm.trans (ofField other name second))
    have extras : ((schema.accept fields).extras.map Prod.fst).Nodup :=
      once.sublist (List.filter_sublist.map Prod.fst)
    rw [Record.fields_given, List.map_append]
    refine members.append extras (List.disjoint_left.mpr fun name written extra => ?_)
    obtain ⟨member, listed, rfl⟩ := List.mem_map.mp written
    obtain ⟨field, known, _, rfl⟩ := (Record.mem_members lawful).mp listed
    obtain ⟨other, present, same⟩ := List.mem_map.mp extra
    exact Fields.get?_eq_none_iff.mp (faithful.notKey field) other present same

end Schema
end ThreatAnalysis
