import ThreatAnalysis.Proofs.Expression.Composition

/-!
Attribute tests. The value of a test is no expression but the text behind the first comma,
whatever commas and parentheses there are in it; the arguments are cut at their commas as well,
only to see whether there is a value at all. So a test can be written for every attribute that has
a text with balanced parentheses, and it holds where the attribute has this text up to the blanks
around it (`attribute_test_exact`).
-/
namespace ThreatAnalysis
open Text

section Tests
variable [Platform]

/-- The text that stands for an attribute: a flag is written as in a document, a string stands for
itself, every other value for its literal, and findings for the list of theirs. -/
inductive Attribute.Spells : Attribute → String → Prop
  | true : Spells (.plain (.bool true)) "true"
  | false : Spells (.plain (.bool false)) "false"
  | string (text : String) : Spells (.plain (.string text)) text
  | value (flagless : ∀ flag, value ≠ .bool flag) (written : value.text? = some text) :
    Spells (.plain value) text
  | threats (written : findings.mapM Finding.literal? = some texts) :
    Spells (.threats findings) ("[" ++ ", ".intercalate texts ++ "]")

theorem Attribute.text?_eq_some_iff {found : Attribute} :
    found.text? = some text ↔ found.Spells text := by
  constructor
  · intro given
    match found with
    | .plain (.bool true) => cases given; exact .true
    | .plain (.bool false) => cases given; exact .false
    | .plain .null | .plain (.int _) | .plain (.double _) | .plain (.string _) | .plain (.array _)
    | .plain (.object _) => exact .value nofun given
    | .threats findings =>
      obtain ⟨texts, written, rfl⟩ := Option.map_eq_some_iff.mp given
      exact .threats written
  · intro spells
    cases spells with
    | true | false => rfl
    | string text => rfl
    | @value given _ flagless written =>
      cases given with
      | bool flag => exact absurd rfl (flagless flag)
      | _ => exact written
    | threats written => rw [text?, written]; rfl

namespace Expression

/-- A call means what is derived from it without the blanks around it. -/
theorem means_written {call : Call} {layout : Layout} {arguments : List String}
    (derived : Derives (callText call.name.toList layout.gap.val.toList
      (layout.inside.val.toList ++ [','].intercalate (arguments.map String.toList))) tree)
    (shallow : tree.nesting < Platform.deepestExpression) :
    Means (call.written layout arguments) tree := by
  apply means_of_parse
  rw [call.parse_bare]
  exact derived.read _ shallow

variable {name value : String} {cell : Cell}

/-- A test is no call around others, for which there is always room. -/
theorem hasProperty_nesting_lt (name : String) (value : Option String) :
    (hasProperty name value).nesting < Platform.deepestExpression := by
  rw [nesting]
  exact Nat.lt_trans (by decide) Platform.sixty_lt_deepestExpression

/-- With a value, an attribute test is read as one for the two texts without the blanks around
them. -/
theorem means_value (layout : Layout) (slot : Slot name.toList) (named : ¬ Blank name.toList)
    (balanced : Balanced value.toList) (given : ¬ Blank value.toList) :
    Means (Call.hasProperty.written layout [name, value])
      (.hasProperty (Text.trimmed name) (some (Text.trimmed value))) := by
  have front := layout.inside.property
  have solid : ¬ Blank (layout.inside.val.toList ++ name.toList) :=
    fun blank => named (Blank.behind blank)
  have opened : Slot (layout.inside.val.toList ++ name.toList) := front.plain.slot.append slot
  have derived := Derives.value layout.gap.property opened solid balanced given
  rw [trim_blank_append front] at derived
  exact means_written (by simpa [Text.trimmed] using derived) (hasProperty_nesting_lt _ _)

theorem means_existence (layout : Layout) (slot : Slot name.toList) (named : ¬ Blank name.toList) :
    Means (Call.hasProperty.written layout [name]) (.hasProperty (Text.trimmed name) none) := by
  have front := layout.inside.property
  have solid : ¬ Blank (layout.inside.val.toList ++ name.toList) :=
    fun blank => named (Blank.behind blank)
  have opened : Slot (layout.inside.val.toList ++ name.toList) := front.plain.slot.append slot
  have derived := Derives.existence layout.gap.property opened solid (.inl rfl)
  rw [trim_blank_append front] at derived
  exact means_written (by simpa [Text.trimmed] using derived) (hasProperty_nesting_lt _ _)

/-- The usual way to write a test has one blank, in front of the value. -/
theorem evaluate_value (slot : Slot name.toList) (named : ¬ Blank name.toList)
    (balanced : Balanced value.toList) (given : ¬ Blank value.toList) (cells : Cells)
    (cell : Cell) : evaluate cells cell ("hasProperty(" ++ name ++ ", " ++ value ++ ")") =
      propertyHolds cell (Text.trimmed name) (some (Text.trimmed value)) := by
  have written : "hasProperty(" ++ name ++ ", " ++ value ++ ")" =
      Call.hasProperty.written .dense [name, " " ++ value] := by
    simp [Call.written, Call.name, Layout.dense, ← String.toList_inj]
  have space : Blank [' '] := by decide
  have spaced : (" " ++ value).toList = [' '] ++ value.toList := String.toList_append
  have behind : Balanced (" " ++ value).toList := by
    rw [spaced]
    exact space.plain.balanced.append balanced
  have solid : ¬ Blank (" " ++ value).toList := by
    rw [spaced]
    exact fun blank => given (Blank.behind blank)
  have trimmed : Text.trimmed (" " ++ value) = Text.trimmed value := by
    rw [Text.trimmed, spaced, trim_blank_append space, Text.trimmed]
  rw [written, means_value .dense slot named behind solid, holds, trimmed]

theorem evaluate_existence (slot : Slot name.toList) (named : ¬ Blank name.toList) (cells : Cells)
    (cell : Cell) : evaluate cells cell ("hasProperty(" ++ name ++ ")") =
      propertyHolds cell (Text.trimmed name) none := by
  have written : "hasProperty(" ++ name ++ ")" = Call.hasProperty.written .dense [name] := by
    simp [Call.written, Call.name, Layout.dense]
  rw [written, means_existence .dense slot named, holds]

theorem propertyHolds_value_iff : propertyHolds cell name (some value) = true ↔
    ∃ found text, cell.attribute? name = some found ∧ found.Spells text ∧
      Text.trimmed text = value := by
  unfold propertyHolds
  cases cell.attribute? name with
  | none => simp
  | some found => simp [Option.any_eq_true, ← Attribute.text?_eq_some_iff]

theorem propertyHolds_existence_iff :
    propertyHolds cell name none = true ↔ ∃ found, cell.attribute? name = some found := by
  unfold propertyHolds
  cases cell.attribute? name with
  | none => simp
  | some found => simp

/-- A test can be written for every name that is trimmed and can stand as an argument. It holds if
the attribute is given and has the text of the test, up to the blanks around it; whatever text an
attribute has, if it balances its parentheses, the test with this text finds it. -/
theorem attribute_test_exact (slot : Slot name.toList) (given : name ≠ "")
    (bare : Text.trimmed name = name) (cells : Cells) (cell : Cell) :
    (∀ value : String, Balanced value.toList → ¬ Blank value.toList →
      (evaluate cells cell ("hasProperty(" ++ name ++ ", " ++ value ++ ")") = true ↔
        ∃ found text, cell.attribute? name = some found ∧ found.Spells text ∧
          Text.trimmed text = Text.trimmed value)) ∧
    (evaluate cells cell ("hasProperty(" ++ name ++ ")") = true ↔
      ∃ found, cell.attribute? name = some found) ∧
    (∀ found text, cell.attribute? name = some found → found.Spells text →
      Balanced text.toList → ¬ Blank text.toList →
      evaluate cells cell ("hasProperty(" ++ name ++ ", " ++ text ++ ")") = true) := by
  have named : ¬ Blank name.toList := by
    intro blank
    apply given
    rw [← bare, Text.trimmed, trim_eq_nil.mpr blank, String.ofList_nil]
  refine ⟨?_, ?_, ?_⟩
  · intro value balanced solid
    rw [evaluate_value slot named balanced solid, bare, propertyHolds_value_iff]
  · rw [evaluate_existence slot named, bare, propertyHolds_existence_iff]
  · intro found text present spells balanced solid
    rw [evaluate_value slot named balanced solid, bare, propertyHolds_value_iff]
    exact ⟨found, text, present, spells, rfl⟩

end Expression
end Tests

namespace Expression

open scoped Platform

/-- A flag, a number, and an attribute with parentheses and a comma in its name, in whose text there
are also an empty slot, a comma at the end, and blanks around it all. -/
def noted : Cell :=
  { sender.set (.flag .encrypted) (some true) with
    extras := [("p(a, b)", .string " f(x),, y, "), ("port", .int 443)] }

theorem noted_test_exact :
    (Slot "p(a, b)".toList ∧ "p(a, b)" ≠ "" ∧ Text.trimmed "p(a, b)" = "p(a, b)" ∧
      (Balanced "f(x),, y,".toList ∧ ¬ Blank "f(x),, y,".toList ∧
        evaluate [] noted ("hasProperty(" ++ "p(a, b)" ++ ", " ++ "f(x),, y," ++ ")") = true) ∧
      evaluate [] noted ("hasProperty(" ++ "p(a, b)" ++ ")") = true ∧
      ∃ found text, noted.attribute? "p(a, b)" = some found ∧ found.Spells text ∧
        Balanced text.toList ∧ ¬ Blank text.toList ∧
        evaluate [] noted ("hasProperty(" ++ "p(a, b)" ++ ", " ++ text ++ ")") = true) ∧
    (Slot "isEncrypted".toList ∧
      evaluate [] noted ("hasProperty(" ++ "isEncrypted" ++ ", " ++ "true" ++ ")") = true ∧
      ¬ evaluate [] noted ("hasProperty(" ++ "isEncrypted" ++ ", " ++ "True" ++ ")") = true) ∧
    (Slot "port".toList ∧
      evaluate [] noted ("hasProperty(" ++ "port" ++ ", " ++ "443" ++ ")") = true ∧
      ¬ evaluate [] noted ("hasProperty(" ++ "port" ++ ", " ++ "443.0" ++ ")") = true) := by
  refine ⟨?named, ?flag, ?number⟩
  case named =>
    have slot : Slot "p(a, b)".toList := by decide
    have given : "p(a, b)" ≠ "" := by decide
    have bare : Text.trimmed "p(a, b)" = "p(a, b)" := by decide
    have present : noted.attribute? "p(a, b)" = some (.plain (.string " f(x),, y, ")) := rfl
    have spells := Attribute.Spells.string " f(x),, y, "
    have inner : Balanced "f(x),, y,".toList := by decide
    have whole : Balanced " f(x),, y, ".toList := by decide
    have same : Text.trimmed " f(x),, y, " = Text.trimmed "f(x),, y," := by decide
    obtain ⟨valued, existence, own⟩ := attribute_test_exact slot given bare [] noted
    refine ⟨slot, given, bare, ⟨inner, by decide, ?_⟩, ?_, _, _, present, spells, whole,
      by decide, ?_⟩
    · exact (valued _ inner (by decide)).mpr ⟨_, _, present, spells, same⟩
    · exact existence.mpr ⟨_, present⟩
    · exact own _ _ present spells whole (by decide)
  case flag =>
    have slot : Slot "isEncrypted".toList := by decide
    have present : noted.attribute? "isEncrypted" = some (.plain (.bool true)) := rfl
    obtain ⟨valued, -, own⟩ := attribute_test_exact slot (by decide) (by decide) [] noted
    refine ⟨slot, own _ _ present .true (by decide) (by decide), fun holds => ?_⟩
    obtain ⟨found, text, found?, spells, same⟩ := (valued _ (by decide) (by decide)).mp holds
    cases present.symm.trans found?
    cases spells with
    | true => exact absurd same (by decide)
    | value flagless => exact flagless true rfl
  case number =>
    have slot : Slot "port".toList := by decide
    have present : noted.attribute? "port" = some (.plain (.int 443)) := rfl
    have written : (Json.int 443).text? = some "443" := by decide +kernel
    obtain ⟨valued, -, own⟩ := attribute_test_exact slot (by decide) (by decide) [] noted
    refine ⟨slot, own _ _ present (.value nofun written) (by decide) (by decide), fun holds => ?_⟩
    obtain ⟨found, text, found?, spells, same⟩ := (valued _ (by decide) (by decide)).mp holds
    cases present.symm.trans found?
    cases spells with
    | value _ spelled =>
      cases written.symm.trans spelled
      exact absurd same (by decide)

end Expression
end ThreatAnalysis
