import ThreatAnalysis.Record.Schema

/-! Giving fields their values. Records are equal if they give the same values and have the same
extras, and a field has the last value it was given. -/
namespace ThreatAnalysis.Record
variable {schema : Schema}

theorem eq_of_given {a b : Record schema} (given : ∀ field, a.given field = b.given field)
    (extras : a.extras = b.extras) : a = b := by
  cases a
  cases b
  congr
  exact funext given

/-- A field has the value it was given, or its default. -/
theorem get_cases (record : Record schema) (field : schema.Field) :
    record.get field = schema.default field ∨ record.given field = some (record.get field) := by
  unfold get
  cases record.given field with
  | none => exact .inl rfl
  | some value => exact .inr rfl

theorem get_set_self (record : Record schema) (field : schema.Field) (value : schema.Value field) :
    (record.set field value).get field = value := by
  rw [get, given_set_self, Option.getD_some]

theorem get_set_other (record : Record schema) {field other : schema.Field}
    (value : schema.Value field) (different : other ≠ field) :
    (record.set field value).get other = record.get other := by
  rw [get, get, given_set_other record value different]

theorem set_set (record : Record schema) (field : schema.Field)
    (first second : schema.Value field) :
    (record.set field first).set field second = record.set field second := by
  refine eq_of_given (fun other => ?_) rfl
  cases schema.decEq other field with
  | isTrue same =>
    subst same
    rw [given_set_self, given_set_self]
  | isFalse different =>
    rw [given_set_other _ _ different, given_set_other _ _ different,
      given_set_other _ _ different]

end ThreatAnalysis.Record
