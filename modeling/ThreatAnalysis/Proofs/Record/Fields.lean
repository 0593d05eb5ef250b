import Mathlib.Data.List.Basic
import ThreatAnalysis.Json.Value

/-!
Members of an object. A key gives the first value that stands under it. What is put under a key
stands there and leaves the other keys alone (`get?_put_self`, `get?_put_of_ne`), and a new key comes
behind all others (`keys_put`).
-/
namespace ThreatAnalysis.Fields
variable {fields : Fields} {key other : String} {value : Json}

theorem get?_cons (first : String) (held : Json) (rest : Fields) (key : String) :
    Fields.get? ((first, held) :: rest) key =
      if first = key then some held else Fields.get? rest key := by
  rw [get?, List.lookup_cons]
  by_cases same : first = key
  · simp [same]
  · have different : (key == first) = false := beq_false_of_ne (Ne.symm same)
    simp [same, different, get?]

theorem get?_eq_none_iff : fields.get? key = none ↔ ∀ member ∈ fields, member.1 ≠ key := by
  simp only [get?, List.lookup_eq_none_iff, bne_iff_ne, ne_comm]

theorem mem_of_get? (found : fields.get? key = some value) : (key, value) ∈ fields := by
  obtain ⟨front, back, rfl, _⟩ := List.lookup_eq_some_iff.mp found
  exact List.mem_append_right _ List.mem_cons_self

/-- A key that stands for one value only gives that value. -/
theorem get?_of_mem (member : (key, value) ∈ fields)
    (only : ∀ other, (key, other) ∈ fields → other = value) : fields.get? key = some value := by
  cases found : fields.get? key with
  | none => exact absurd rfl (get?_eq_none_iff.mp found _ member)
  | some other => rw [only other (mem_of_get? found)]

theorem get?_append (fields others : Fields) (key : String) :
    get? (fields ++ others) key = (fields.get? key).or (others.get? key) :=
  List.lookup_append

theorem get?_filter (fields : Fields) (keep : String → Bool) (key : String) :
    get? (fields.filter fun member => keep member.1) key =
      if keep key then fields.get? key else none := by
  induction fields with
  | nil => simp [get?]
  | cons member rest ih =>
    obtain ⟨name, value⟩ := member
    rw [List.filter_cons, get?_cons]
    by_cases same : name = key
    · subst same
      cases kept : keep name <;> simp [kept, get?_cons, ih]
    · cases keep name <;> simp [get?_cons, same, ih]

theorem get?_put_self : (fields.put key value).get? key = some value := by
  induction fields with
  | nil => simp [put, get?_cons]
  | cons field rest ih =>
    obtain ⟨first, held⟩ := field
    rw [put]
    split
    · simp [get?_cons, *]
    · rw [get?_cons, if_neg ‹_›, ih]

theorem get?_put_of_ne (different : other ≠ key) :
    (fields.put key value).get? other = fields.get? other := by
  induction fields with
  | nil => rw [put, get?_cons, if_neg (Ne.symm different)]
  | cons field rest ih =>
    obtain ⟨first, held⟩ := field
    rw [put]
    split
    case isTrue same =>
      have elsewhere : first ≠ other := fun here => different (here ▸ same)
      rw [get?_cons, get?_cons, if_neg elsewhere, if_neg elsewhere]
    case isFalse => rw [get?_cons, get?_cons, ih]

/-- A key that is put stays where it stands, or comes last. -/
theorem keys_put : (fields.put key value).map Prod.fst =
    fields.map Prod.fst ++ if key ∈ fields.map Prod.fst then [] else [key] := by
  induction fields with
  | nil => rfl
  | cons field rest ih =>
    obtain ⟨first, held⟩ := field
    rw [put]
    split
    case isTrue same => simp [same]
    case isFalse different =>
      have same : key ∈ first :: rest.map Prod.fst ↔ key ∈ rest.map Prod.fst := by
        simp [Ne.symm different]
      simp only [List.map_cons, ih, same, List.cons_append]

end ThreatAnalysis.Fields
