import Mathlib.Data.List.Nodup
import ThreatAnalysis.Proofs.Record.Fields
import ThreatAnalysis.Proofs.Record.Update

/-!
Reading back what was written. A schema is lawful if its keys tell its fields apart and a value
that was read is read again from what is written for it. A record is faithful if reading can tell
its fields from its extras: no extra stands under the key of a field, and none under the other key
of a field that was not given; under the other key of a field that was given an extra may stand.
Records that were read are faithful (`Schema.faithful_of_decode`), and faithful records are read
back as they are (`Record.Faithful.decode_encode`), with the same fields given and the same extras.
-/
namespace ThreatAnalysis
variable {schema : Schema} {record : Record schema}

/-- The fields of a schema can be told apart, and their values survive writing. -/
structure Schema.Lawful (schema : Schema) : Prop where
  complete : ∀ field, field ∈ schema.fields
  keys : (schema.fields.map schema.key).Nodup
  otherKeys : ∀ key ∈ schema.fields.filterMap schema.otherKey, key ∉ schema.fields.map schema.key
  reread : ∀ field document value, schema.read field document = .ok value →
    schema.read field (schema.write .given field value) = .ok value
  /-- A value that is refused is refused for a reason. -/
  explained : ∀ field document, schema.read field document ≠ .error []

/-- The document written for a record gives its fields and nothing else. -/
structure Record.Faithful (record : Record schema) : Prop where
  reread : ∀ field value, record.given field = some value →
    schema.read field (schema.write .given field value) = .ok value
  required : ∀ field, record.given field = none → schema.required field = false
  notKey : ∀ field, record.extras.get? (schema.key field) = none
  notOtherKey : ∀ field, record.given field = none → ∀ key, schema.otherKey field = some key →
    record.extras.get? key = none

namespace Schema.Lawful

theorem key_injective (lawful : schema.Lawful) {field other : schema.Field}
    (same : schema.key field = schema.key other) : field = other :=
  List.inj_on_of_nodup_map lawful.keys (lawful.complete field) (lawful.complete other) same

theorem otherKey_ne_key (lawful : schema.Lawful) (field other : schema.Field) :
    schema.otherKey field ≠ some (schema.key other) := fun same =>
  lawful.otherKeys _ (List.mem_filterMap.mpr ⟨field, lawful.complete field, same⟩)
    (List.mem_map_of_mem (lawful.complete other))

end Schema.Lawful

namespace Record

/-- The members written for the fields that were given. -/
def members (record : Record schema) : Fields := schema.fields.filterMap (record.member .given)

theorem fields_given (record : Record schema) :
    record.fields .given = record.members ++ record.extras := rfl

theorem mem_members (lawful : schema.Lawful) {member : String × Json} :
    member ∈ record.members ↔ ∃ field value, record.given field = some value ∧
      member = (schema.key field, schema.write .given field value) := by
  constructor
  · intro listed
    obtain ⟨field, _, found⟩ := List.mem_filterMap.mp listed
    obtain ⟨value, given, rfl⟩ := Option.map_eq_some_iff.mp found
    exact ⟨field, value, given, rfl⟩
  · rintro ⟨field, value, given, rfl⟩
    exact List.mem_filterMap.mpr ⟨field, lawful.complete field, congrArg (Option.map _) given⟩

theorem members_get?_key (lawful : schema.Lawful) (field : schema.Field) :
    record.members.get? (schema.key field) =
      (record.given field).map (schema.write .given field) := by
  cases given : record.given field with
  | none =>
    refine Fields.get?_eq_none_iff.mpr fun member listed same => ?_
    obtain ⟨other, value, present, rfl⟩ := (mem_members lawful).mp listed
    cases lawful.key_injective same
    rw [given] at present
    cases present
  | some value =>
    refine Fields.get?_of_mem ((mem_members lawful).mpr ⟨field, value, given, rfl⟩) ?_
    intro written listed
    obtain ⟨other, otherValue, present, same⟩ := (mem_members lawful).mp listed
    rw [Prod.mk.injEq] at same
    cases lawful.key_injective same.1
    rw [given] at present
    cases present
    exact same.2

/-- Fields are written under their own keys only. -/
theorem members_get?_unknown (lawful : schema.Lawful) {key : String}
    (unknown : ∀ field, schema.key field ≠ key) : record.members.get? key = none := by
  refine Fields.get?_eq_none_iff.mpr fun member listed same => ?_
  obtain ⟨field, _, _, rfl⟩ := (mem_members lawful).mp listed
  exact unknown field same

/-- Nothing is written under the other key of a field. -/
theorem members_get?_otherKey (lawful : schema.Lawful) {field : schema.Field} {key : String}
    (other : schema.otherKey field = some key) : record.members.get? key = none := by
  refine members_get?_unknown lawful fun written same => ?_
  exact lawful.otherKey_ne_key field written (other.trans (congrArg some same.symm))

theorem locate_given (lawful : schema.Lawful) {field : schema.Field} {value : schema.Value field}
    (given : record.given field = some value) :
    schema.locate (record.fields .given) field =
      some (schema.key field, schema.write .given field value) := by
  unfold Schema.locate
  rw [fields_given, Fields.get?_append, members_get?_key lawful, given]
  rfl

theorem Faithful.locate_absent (lawful : schema.Lawful) (faithful : record.Faithful)
    {field : schema.Field} (absent : record.given field = none) :
    schema.locate (record.fields .given) field = none := by
  unfold Schema.locate
  rw [fields_given, Fields.get?_append, members_get?_key lawful, absent, faithful.notKey]
  cases other : schema.otherKey field with
  | none => rfl
  | some key =>
    simp only [Option.map_none, Option.or_none, Fields.get?_append,
      members_get?_otherKey lawful other, faithful.notOtherKey field absent key other]

/-- Under the key of a field stands what is written for it. -/
theorem Faithful.get?_key (lawful : schema.Lawful) (faithful : record.Faithful)
    (field : schema.Field) : (record.fields .given).get? (schema.key field) =
      (record.given field).map (schema.write .given field) := by
  rw [fields_given, Fields.get?_append, members_get?_key lawful, faithful.notKey, Option.or_none]

theorem Faithful.issues (lawful : schema.Lawful) (faithful : record.Faithful) :
    schema.issues (record.fields .given) = [] := by
  refine List.flatMap_eq_nil_iff.mpr fun field _ => ?_
  unfold Schema.issuesAt
  cases given : record.given field with
  | none => simp only [faithful.locate_absent lawful given, faithful.required field given,
      Bool.false_eq_true, if_false]
  | some value =>
    simp only [locate_given lawful given, faithful.reread field value given]
    rfl

/-- Exactly the written fields are used up, so that all extras stay. -/
theorem Faithful.extras_of_fields (lawful : schema.Lawful) (faithful : record.Faithful) :
    (schema.accept (record.fields .given)).extras = record.extras := by
  have used : ∀ key, key ∈ schema.keysUsed (record.fields .given) ↔
      ∃ field value, record.given field = some value ∧ key = schema.key field := by
    intro key
    constructor
    · intro listed
      obtain ⟨field, _, found⟩ := List.mem_filterMap.mp listed
      cases given : record.given field with
      | none =>
        rw [faithful.locate_absent lawful given] at found
        cases found
      | some value =>
        rw [locate_given lawful given] at found
        exact ⟨field, value, given, (Option.some.inj found).symm⟩
    · rintro ⟨field, value, given, rfl⟩
      refine List.mem_filterMap.mpr ⟨field, lawful.complete field, ?_⟩
      rw [locate_given lawful given]
      rfl
  have dropped : record.members.filter (fun member =>
      !(schema.keysUsed (record.fields .given)).contains member.1) = [] := by
    refine List.filter_eq_nil_iff.mpr fun member listed => ?_
    obtain ⟨field, value, given, rfl⟩ := (mem_members lawful).mp listed
    simp only [List.contains_iff_mem.mpr ((used _).mpr ⟨field, value, given, rfl⟩), Bool.not_true,
      Bool.false_eq_true, not_false_eq_true]
  have stays : record.extras.filter (fun member =>
      !(schema.keysUsed (record.fields .given)).contains member.1) = record.extras := by
    refine List.filter_eq_self.mpr fun member listed => ?_
    rw [Bool.not_eq_true', Bool.eq_false_iff]
    intro taken
    obtain ⟨field, _, _, same⟩ := (used _).mp (List.contains_iff_mem.mp taken)
    exact Fields.get?_eq_none_iff.mp (faithful.notKey field) member listed same
  unfold Schema.accept
  simp only [fields_given, List.filter_append] at dropped stays ⊢
  rw [dropped, stays, List.nil_append]

theorem Faithful.accept_fields (lawful : schema.Lawful) (faithful : record.Faithful) :
    schema.accept (record.fields .given) = record := by
  refine eq_of_given (fun field => ?_) (faithful.extras_of_fields lawful)
  unfold Schema.accept
  cases given : record.given field with
  | none => simp only [faithful.locate_absent lawful given, Option.bind_none]
  | some value =>
    simp only [locate_given lawful given, Option.bind_some, faithful.reread field value given]
    rfl

/-- Reading what was written gives the record back. -/
theorem Faithful.decode_encode (lawful : schema.Lawful) (faithful : record.Faithful) :
    schema.decode (record.encode .given) = .ok record := by
  simp only [Record.encode, Schema.decode, faithful.issues lawful, faithful.accept_fields lawful]

theorem given_of_set_absent {field other : schema.Field} {value : schema.Value field}
    (absent : (record.set field value).given other = none) : record.given other = none := by
  cases schema.decEq other field with
  | isTrue same =>
    subst same
    rw [given_set_self] at absent
    cases absent
  | isFalse different => rwa [given_set_other record value different] at absent

/-- A faithful record stays so when a field gets a value that survives writing. -/
theorem Faithful.set (faithful : record.Faithful) {field : schema.Field}
    {value : schema.Value field}
    (reread : schema.read field (schema.write .given field value) = .ok value) :
    (record.set field value).Faithful where
  reread other otherValue given := by
    cases schema.decEq other field with
    | isTrue same =>
      subst same
      rw [given_set_self] at given
      cases given
      exact reread
    | isFalse different =>
      rw [given_set_other record value different] at given
      exact faithful.reread other otherValue given
  required other absent := faithful.required other (given_of_set_absent absent)
  notKey := faithful.notKey
  notOtherKey other absent := faithful.notOtherKey other (given_of_set_absent absent)

end Record

namespace Schema

/-- The value a field is read from: the one under its key, else the one under its other key. -/
theorem locate_value (schema : Schema) (fields : Fields) (field : schema.Field) :
    (schema.locate fields field).map Prod.snd =
      (fields.get? (schema.key field)).or ((schema.otherKey field).bind fields.get?) := by
  unfold locate
  cases fields.get? (schema.key field) with
  | some _ => rfl
  | none =>
    cases schema.otherKey field with
    | none => rfl
    | some key => cases found : fields.get? key <;> simp [found]

/-- A field of a record that was read has the value read from where the field is located. -/
theorem given_accept (schema : Schema) (fields : Fields) (field : schema.Field) :
    (schema.accept fields).given field = ((schema.locate fields field).map Prod.snd).bind
      fun value => (schema.read field value).toOption := by
  cases located : schema.locate fields field <;> simp [accept, located]

/-- A field that was not located stands under neither of its keys. -/
theorem get?_of_locate_none {fields : Fields} {field : schema.Field}
    (absent : schema.locate fields field = none) :
    fields.get? (schema.key field) = none ∧
      ∀ key, schema.otherKey field = some key → fields.get? key = none := by
  unfold locate at absent
  cases found : fields.get? (schema.key field) with
  | some _ =>
    rw [found] at absent
    cases absent
  | none =>
    refine ⟨rfl, fun key other => ?_⟩
    simp only [found, other, Option.map_eq_none_iff] at absent
    exact absent

/-- The extras of a record that was read are members that gave no field. -/
theorem extras_get?_of_used {fields : Fields} {key : String}
    (used : fields.get? key ≠ none → key ∈ schema.keysUsed fields) :
    (schema.accept fields).extras.get? key = none := by
  refine Fields.get?_eq_none_iff.mpr fun member listed same => ?_
  obtain ⟨inFields, unused⟩ := List.mem_filter.mp listed
  have taken : (schema.keysUsed fields).contains member.1 = true := by
    rw [same, List.contains_iff_mem]
    exact used fun absent => Fields.get?_eq_none_iff.mp absent member inFields same
  simp only [taken, Bool.not_true, Bool.false_eq_true] at unused

/-- In an object that is accepted, every field that was located can be read. -/
theorem given_of_locate (lawful : schema.Lawful) {fields : Fields}
    (accepted : schema.issues fields = []) {field : schema.Field} {member : String × Json}
    (located : schema.locate fields field = some member) :
    ∃ value, schema.read field member.2 = .ok value ∧
      (schema.accept fields).given field = some value := by
  have silent := List.flatMap_eq_nil_iff.mp accepted field (lawful.complete field)
  simp only [issuesAt, located] at silent
  cases read : schema.read field member.2 with
  | ok value => exact ⟨value, rfl, by simp only [accept, located, Option.bind_some, read]; rfl⟩
  | error found =>
    rw [read] at silent
    rw [List.map_eq_nil_iff.mp silent] at read
    exact absurd read (lawful.explained field member.2)

theorem locate_of_absent (lawful : schema.Lawful) {fields : Fields}
    (accepted : schema.issues fields = []) {field : schema.Field}
    (absent : (schema.accept fields).given field = none) : schema.locate fields field = none := by
  cases located : schema.locate fields field with
  | none => rfl
  | some member =>
    obtain ⟨value, _, given⟩ := given_of_locate lawful accepted located
    rw [absent] at given
    cases given

theorem faithful_of_accept (lawful : schema.Lawful) {fields : Fields}
    (accepted : schema.issues fields = []) : (schema.accept fields).Faithful where
  reread field value given := by
    cases located : schema.locate fields field with
    | none =>
      simp only [accept, located, Option.bind_none, reduceCtorEq] at given
    | some member =>
      obtain ⟨other, read, present⟩ := given_of_locate lawful accepted located
      rw [given] at present
      cases present
      exact lawful.reread field member.2 value read
  required field absent := by
    have silent := List.flatMap_eq_nil_iff.mp accepted field (lawful.complete field)
    simp only [issuesAt, locate_of_absent lawful accepted absent] at silent
    cases needed : schema.required field with
    | false => rfl
    | true =>
      rw [needed] at silent
      cases silent
  notKey field := by
    refine extras_get?_of_used fun present => ?_
    obtain ⟨document, found⟩ := Option.ne_none_iff_exists'.mp present
    refine List.mem_filterMap.mpr ⟨field, lawful.complete field, ?_⟩
    simp only [locate, found, Option.map_some]
  notOtherKey field absent key other :=
    extras_get?_of_used fun present => absurd
      ((get?_of_locate_none (locate_of_absent lawful accepted absent)).2 key other) present

/-- A record is read from an object without issues. -/
theorem of_decode {document : Json} (read : schema.decode document = .ok record) :
    ∃ fields : Fields, document = .object fields ∧ schema.issues fields = [] ∧
      schema.accept fields = record := by
  cases document with
  | object fields =>
    unfold decode at read
    cases accepted : schema.issues fields with
    | nil =>
      simp only [accepted, Except.ok.injEq] at read
      exact ⟨fields, rfl, accepted, read⟩
    | cons issue issues => simp only [accepted, reduceCtorEq] at read
  | _ => cases read

/-- A record that was read is faithful. -/
theorem faithful_of_decode (lawful : schema.Lawful) {document : Json}
    (read : schema.decode document = .ok record) : record.Faithful := by
  obtain ⟨fields, rfl, accepted, rfl⟩ := of_decode read
  exact faithful_of_accept lawful accepted

/-- A record that was read is read again from what is written for it. -/
theorem Lawful.decode_again (lawful : schema.Lawful) {document : Json}
    (read : schema.decode document = .ok record) :
    schema.decode (record.encode .given) = .ok record :=
  (faithful_of_decode lawful read).decode_encode lawful

/-- A reader that refuses a document says why. -/
theorem decode_explained (document : Json) : schema.decode document ≠ .error [] := by
  intro refused
  cases document with
  | object fields =>
    unfold decode at refused
    cases found : schema.issues fields with
    | nil => simp only [found, reduceCtorEq] at refused
    | cons issue issues => simp only [found, Except.error.injEq, reduceCtorEq] at refused
  | _ => cases refused

end Schema
end ThreatAnalysis
