import ThreatAnalysis.Proofs.Expression.Grammar
import ThreatAnalysis.Proofs.Traversal

/-! The reader of match expressions accepts exactly the language of the grammar and builds the tree
that is derived. Soundness is an induction over the depth limit, which bounds how far a text is
taken apart; completeness is an induction over derivations. Both go through the same description of
what reading a call amounts to. -/
namespace ThreatAnalysis.Expression
open Text Arguments

/-- Each text of a list is read as the tree in its place. -/
abbrev ReadsAll (limit : Nat) (texts : List (List Char)) (trees : List Expression) : Prop :=
  List.Forall₂ (fun text tree => parseWithin limit text = .ok tree) texts trees

theorem parseWithin_padded (front : Blank before) (back : Blank after) (limit : Nat)
    (text : List Char) :
    parseWithin limit (before ++ text ++ after) = parseWithin limit text := by
  cases limit with
  | zero => rfl
  | succ limit => simp only [parseWithin, trim_padded front back]

theorem parseWithin_trim (limit : Nat) (text : List Char) :
    parseWithin limit (trim text) = parseWithin limit text := by
  obtain ⟨before, after, front, back, split⟩ := trim_split text
  exact ((congrArg (parseWithin limit) split).trans (parseWithin_padded front back limit _)).symm

/-- Blanks in front of what is left of a trimmed text make no difference either. -/
theorem parseWithin_of_spelled {text before inner : List Char} (front : Blank before)
    (spelled : trim text = before ++ inner) :
    parseWithin limit text = parseWithin limit inner := by
  have padded := parseWithin_padded front Blank.nil limit inner
  rwa [List.append_nil, ← spelled, parseWithin_trim] at padded

theorem Call.ofName?_name (call : Call) :
    Call.ofName? (String.ofList call.name.toList) = some call := by
  cases call <;> decide

theorem Call.name_of_ofName? (found : Call.ofName? text = some call) : text = call.name := by
  have named := List.find?_some found
  simpa using (beq_iff_eq.mp named).symm

theorem form_callText (blank : Blank gap) (inner : Balanced arguments) (call : Call) :
    form (callText call.name.toList gap arguments) = (call.form? arguments).getD
      (.leaf (.unknown (String.ofList (callText call.name.toList gap arguments)))) := by
  simp only [form, isName_callText, Bool.false_eq_true, ↓reduceIte,
    splitCall?_callText (isName_call call) blank inner, Call.ofName?_name]

/-- What a trimmed text can be: a predicate, a call, or neither. -/
theorem form_cases (text : List Char) :
    (∃ predicate : Predicate, text = predicate.name.toList ∧
      form text = .leaf (.primitive predicate)) ∨
    (∃ call : Call, ∃ before gap arguments, Blank before ∧ Blank gap ∧ Balanced arguments ∧
      text = before ++ callText call.name.toList gap arguments) ∨
    form text = .leaf (.unknown (String.ofList text)) := by
  by_cases named : isName text
  · cases found : Predicate.ofName? (String.ofList text) with
    | none => exact .inr (.inr (by simp [form, named, found]))
    | some predicate =>
      have same := List.find?_some found
      have spelled : text = predicate.name.toList := by
        rw [beq_iff_eq.mp same, String.toList_ofList]
      exact .inl ⟨predicate, spelled, by simp [form, named, found]⟩
  · cases cut : splitCall? text with
    | none => exact .inr (.inr (by simp [form, named, cut]))
    | some parts =>
      obtain ⟨name, arguments⟩ := parts
      obtain ⟨-, inner, before, gap, front, blank, split⟩ := splitCall?_eq_some cut
      cases found : Call.ofName? (String.ofList name) with
      | none => exact .inr (.inr (by simp [form, named, cut, found]))
      | some call =>
        have spelled := congrArg String.toList (Call.name_of_ofName? found)
        rw [String.toList_ofList] at spelled
        exact .inr (.inl ⟨call, before, gap, arguments, front, blank, inner, spelled ▸ split⟩)

/-- The texts that are read for a form. -/
def Form.arguments : Form → List (List Char)
  | .leaf _ => []
  | .unary _ argument => [argument]
  | .binary _ first second => [first, second]
  | .variadic _ arguments => arguments

/-- The tree of a form from the trees of its arguments. -/
def Form.tree? : Form → List Expression → Option Expression
  | .leaf expression, [] => some expression
  | .unary build _, [operand] => some (build operand)
  | .binary build _ _, [first, second] => some (build first second)
  | .variadic build _, operands => some (build operands)
  | _, _ => none

private theorem map_ok_iff {reading : Except ParseError α} {f : α → Expression} :
    f <$> reading = .ok tree ↔ ∃ value, reading = .ok value ∧ f value = tree := by
  cases reading <;> simp [Functor.map, Except.map]

/-- A text is read by reading the arguments of its form one level further in. -/
theorem parseWithin_succ :
    parseWithin (limit + 1) text = .ok tree ↔
      ∃ trees, ReadsAll limit (form (trim text)).arguments trees ∧
        (form (trim text)).tree? trees = some tree := by
  rw [parseWithin]
  cases form (trim text) with
  | leaf expression => simp [Form.arguments, Form.tree?]
  | unary build argument =>
    simp [Form.arguments, Form.tree?, map_ok_iff, List.forall₂_cons_left_iff]
  | binary build first second =>
    simp only [Form.arguments, List.forall₂_cons_left_iff, List.forall₂_nil_left_iff]
    cases parseWithin limit first with
    | error error => simp [bind, Except.bind]
    | ok a =>
      cases parseWithin limit second with
      | error error => simp [bind, Except.bind]
      | ok b => simp [bind, Except.bind, pure, Except.pure, Form.tree?]
  | variadic build arguments =>
    simp [Form.arguments, Form.tree?, map_ok_iff, ← mapM_ok_iff]

/-- A call that takes expressions reads all its arguments. -/
theorem Call.form?_arguments (call : Call) (different : call ≠ .hasProperty)
    (found : call.form? text = some shape) : shape.arguments = split text := by
  unfold Call.form? at found
  rcases parts : split text with _ | ⟨first, _ | ⟨second, _ | ⟨third, rest⟩⟩⟩ <;>
    cases call <;> simp only [parts, Option.some.injEq, reduceCtorEq] at found <;>
    first | (subst found; rfl) | exact absurd rfl different

/-- A call that takes expressions builds of them what the grammar builds. -/
theorem Call.form?_tree? (call : Call) (different : call ≠ .hasProperty) (text : List Char)
    (trees : List Expression) (length : (split text).length = trees.length) :
    (call.form? text).bind (·.tree? trees) = call.tree? trees := by
  -- Calls differ only in whether they take none, one, two or more arguments.
  rcases parts : split text with _ | ⟨first, _ | ⟨second, _ | ⟨third, rest⟩⟩⟩ <;>
    rcases trees with _ | ⟨a, _ | ⟨b, _ | ⟨c, later⟩⟩⟩ <;>
    simp only [parts, List.length_cons, List.length_nil] at length <;>
    first
    | omega
    | cases call <;> simp [Call.form?, Call.tree?, Form.tree?, parts] at different ⊢

theorem form?_existence (slot : Slot name) (named : ¬ Blank name)
    (rest : behind = [] ∨ ∃ blanks, Blank blanks ∧ behind = ',' :: blanks) :
    Call.hasProperty.form? (name ++ behind) =
      some (.leaf (.hasProperty (String.ofList (trim name)) none)) := by
  have kept : trim name ≠ [] := fun gone => named (trim_eq_nil.mp gone)
  have parts : split (name ++ behind) = [trim name] := by
    rcases rest with rfl | ⟨blanks, blank, rfl⟩
    · rw [List.append_nil, split_slot slot named]
    · rw [split_more slot, split_blank blank]
  simp [Call.form?, parts, kept]

theorem form?_value (slot : Slot name) (named : ¬ Blank name) (balanced : Balanced value)
    (given : ¬ Blank value) :
    Call.hasProperty.form? (name ++ ',' :: value) = some (.leaf
      (.hasProperty (String.ofList (trim name)) (some (String.ofList (trim value))))) := by
  have kept : trim name ≠ [] := fun gone => named (trim_eq_nil.mp gone)
  have behind : afterFirstComma 0 (name ++ ',' :: value) = value :=
    afterFirstComma_slot slot.balanced slot.noOuterComma value
  simp [Call.form?, split_more slot, split_ne_nil balanced given, kept, behind]

/-- The test of an attribute is read exactly as the grammar has it, or not at all. -/
theorem property_derives (balanced : Balanced arguments) (blank : Blank gap)
    (found : Call.hasProperty.form? arguments = some shape) : ∃ tree, shape = .leaf tree ∧
      Derives (callText Call.hasProperty.name.toList gap arguments) tree := by
  rcases balanced.outer_comma with inside | ⟨name, value, rfl, closes, inside, balancedValue⟩
  · have slot : Slot arguments := ⟨balanced, inside⟩
    by_cases named : Blank arguments
    · simp [Call.form?, split_blank named] at found
    · have existence := form?_existence slot named (.inl rfl)
      rw [List.append_nil, found] at existence
      have derived := Derives.existence blank slot named (.inl rfl)
      rw [List.append_nil] at derived
      exact ⟨_, Option.some.inj existence, derived⟩
  · have slot : Slot name := ⟨closes, inside⟩
    by_cases named : Blank name
    · simp [Call.form?, split_more slot, trim_eq_nil.mpr named] at found
    · by_cases given : Blank value
      · have existence := form?_existence slot named (.inr ⟨value, given, rfl⟩)
        rw [found] at existence
        exact ⟨_, Option.some.inj existence,
          .existence blank slot named (.inr ⟨value, given, rfl⟩)⟩
      · have tested := form?_value slot named balancedValue given
        rw [found] at tested
        exact ⟨_, Option.some.inj tested, .value blank slot named balancedValue given⟩

theorem Derives.of_trim (derived : Derives (trim text) tree) : Derives text tree := by
  obtain ⟨before, after, front, back, split⟩ := trim_split text
  rw [split]
  exact .padded front back derived

/-- What the slots of a balanced text derive, the text derives as an argument list. -/
theorem derivesAll_of_split (balanced : Balanced text)
    (derived : List.Forall₂ Derives (split text) trees) : DerivesAll text trees := by
  refine slot_induction (motive := fun text => ∀ trees, List.Forall₂ Derives (split text) trees →
    DerivesAll text trees) ?_ ?_ text balanced trees derived
  · intro slot closed trees derived
    by_cases blank : Blank slot
    · rw [split_blank blank] at derived
      cases derived
      exact .none blank
    · rw [split_slot closed blank] at derived
      cases derived with
      | cons first rest =>
        cases rest
        exact .last first.of_trim
  · intro slot rest closed balancedRest ih trees derived
    rw [split_more closed] at derived
    cases derived with
    | cons first later => exact .more first.of_trim (ih _ later)

theorem Call.known_operands (call : Call) (taken : call.tree? trees = some tree)
    (known : Known tree) : ∀ operand ∈ trees, Known operand := by
  rcases trees with _ | ⟨a, _ | ⟨b, _ | ⟨c, rest⟩⟩⟩ <;> cases call <;>
    simp only [Call.tree?, Option.some.injEq, reduceCtorEq] at taken <;> subst taken <;>
    cases known <;> simp_all

private theorem callText_sound (blank : Blank gap) (inner : Balanced arguments) (call : Call)
    (deeper : ∀ text tree, parseWithin limit text = .ok tree → Known tree → Derives text tree)
    (read : parseWithin (limit + 1) (callText call.name.toList gap arguments) = .ok tree)
    (known : Known tree) : Derives (callText call.name.toList gap arguments) tree := by
  obtain ⟨trees, reads, built⟩ := parseWithin_succ.mp read
  rw [trim_callText (isName_call call), form_callText blank inner] at reads built
  cases found : call.form? arguments with
  | none =>
    rw [found] at reads built
    cases reads
    cases built
    cases known
  | some shape =>
    simp only [found, Option.getD_some] at reads built
    by_cases property : call = .hasProperty
    · subst property
      obtain ⟨leaf, rfl, derived⟩ := property_derives inner blank found
      cases reads
      cases built
      exact derived
    · rw [call.form?_arguments property found] at reads
      have builds := call.form?_tree? property arguments trees reads.length_eq
      rw [found, Option.bind_some, built] at builds
      have operands := call.known_operands builds.symm known
      have derived : List.Forall₂ Derives (split arguments) trees :=
        ((List.forall₂_and_left _ _).mpr ⟨operands, reads.flip⟩).flip.imp
          fun text operand facts => deeper text operand facts.2 facts.1
      exact .call blank (derivesAll_of_split inner derived) builds.symm

/-- Every tree that is read without unknown parts is derived, whatever the limit. -/
theorem parseWithin_sound (limit : Nat) (read : parseWithin limit text = .ok tree)
    (known : Known tree) : Derives text tree := by
  induction limit generalizing text tree with
  | zero => cases read
  | succ limit ih =>
    refine Derives.of_trim ?_
    rcases form_cases (trim text) with ⟨word, spelled, formed⟩ | whole | formed
    · obtain ⟨trees, reads, built⟩ := parseWithin_succ.mp read
      rw [formed] at reads built
      cases reads
      cases built
      exact spelled ▸ .predicate word
    · obtain ⟨call, before, gap, arguments, front, blank, inner, spelled⟩ := whole
      have whole := (parseWithin_of_spelled front spelled).symm.trans read
      have derived := callText_sound blank inner call (fun _ _ => ih) whole known
      rw [spelled]
      simpa using Derives.padded front Blank.nil derived
    · obtain ⟨trees, reads, built⟩ := parseWithin_succ.mp read
      rw [formed] at reads built
      cases reads
      cases built
      cases known

theorem form_predicate (word : Predicate) :
    form (trim word.name.toList) = .leaf (.primitive word) := by
  have found : Predicate.ofName? (String.ofList word.name.toList) = some word := by
    cases word <;> decide
  simp only [trim_name (isName_predicate word), form, isName_predicate word, ↓reduceIte, found]

theorem Call.nesting_tree? (call : Call) (taken : call.tree? trees = some tree) :
    tree.nesting = nestingOfAll trees + 1 := by
  rcases trees with _ | ⟨a, _ | ⟨b, _ | ⟨c, rest⟩⟩⟩ <;> cases call <;>
    simp only [Call.tree?, Option.some.injEq, reduceCtorEq] at taken <;> subst taken <;>
    simp [nesting, nestingOfAll]

/-- A call that takes expressions is read from what is read for its arguments. -/
theorem parseWithin_call {call : Call} (blank : Blank gap) (inner : Balanced arguments)
    (reads : ReadsAll limit (split arguments) trees) (taken : call.tree? trees = some tree) :
    parseWithin (limit + 1) (callText call.name.toList gap arguments) = .ok tree := by
  have property : call ≠ .hasProperty := by
    rintro rfl
    cases taken
  have builds := call.form?_tree? property arguments trees reads.length_eq
  rw [taken] at builds
  obtain ⟨shape, found, built⟩ := Option.bind_eq_some_iff.mp builds
  rw [parseWithin_succ, trim_callText (isName_call call), form_callText blank inner, found]
  exact ⟨trees, (call.form?_arguments property found).symm ▸ reads, built⟩

mutual

/-- What is derived is read, if the limit leaves room for its calls. -/
theorem Derives.read : Derives text tree → ∀ limit, tree.nesting < limit →
    parseWithin limit text = .ok tree
  | .predicate word, limit + 1, _ => parseWithin_succ.mpr <| by
    rw [form_predicate]
    exact ⟨[], .nil, rfl⟩
  | @Derives.call call gap inner operands tree blank arguments taken, limit + 1, room => by
    have deeper := call.nesting_tree? taken
    exact parseWithin_call blank arguments.balanced (arguments.read limit (by omega)) taken
  | .existence blank slot named rest, limit + 1, _ => parseWithin_succ.mpr <| by
    rw [trim_callText (isName_call _), form_callText blank (balanced_existence slot rest),
      form?_existence slot named rest]
    exact ⟨[], .nil, rfl⟩
  | .value blank slot named balanced given, limit + 1, _ => parseWithin_succ.mpr <| by
    rw [trim_callText (isName_call _), form_callText blank (balanced_comma slot.balanced balanced),
      form?_value slot named balanced given]
    exact ⟨[], .nil, rfl⟩
  | .padded front back inside, limit, room =>
    (parseWithin_padded front back limit _).trans (inside.read limit room)

theorem DerivesAll.read : DerivesAll text trees → ∀ limit, nestingOfAll trees < limit →
    ReadsAll limit (split text) trees
  | .none blank, _, _ => by
    rw [split_blank blank]
    exact .nil
  | .last argument, limit, room => by
    have single := Nat.lt_of_le_of_lt (nesting_le_ofAll List.mem_cons_self) room
    rw [split_slot argument.slot argument.not_blank]
    exact .cons ((parseWithin_trim limit _).trans (argument.read limit single)) .nil
  | .more argument rest, limit, room => by
    rw [nestingOfAll] at room
    rw [split_more argument.slot]
    exact .cons ((parseWithin_trim limit _).trans (argument.read limit (by omega)))
      (rest.read limit (by omega))

end

/-- The reader accepts exactly the language of the grammar and builds exactly the tree that is
derived, for calls nested as deep as the platform allows, which is sixty deep at least; what it
reads is derived however deep it is. -/
theorem parse_exactly_derived [Platform] :
    (∀ text tree, parse text = .ok tree → Known tree → Derives text.toList tree) ∧
    (∀ text tree, Derives text.toList tree → tree.nesting < Platform.deepestExpression →
      parse text = .ok tree) ∧
    60 < Platform.deepestExpression := by
  refine ⟨fun text tree read known => parseWithin_sound _ read known, ?_,
    Platform.sixty_lt_deepestExpression⟩
  intro text tree derived shallow
  exact derived.read _ shallow

open scoped Platform

/-- An extra comma, blanks around a name, and commas in a value. -/
def zonedText : String := " and ( isFlow, not(hasProperty( zone , a, b)), )"

def zonedTree : Expression := .and [.primitive .isFlow, .not (.hasProperty "zone" (some "a, b"))]

theorem zoned_exactly_derived : Known zonedTree ∧ zonedTree.nesting < Platform.deepestExpression ∧
    Derives zonedText.toList zonedTree ∧ parse zonedText = .ok zonedTree := by
  have known : Known zonedTree := by
    refine .and fun operand member => ?_
    rcases List.mem_pair.mp member with rfl | rfl
    · exact .primitive _
    · exact .not (.hasProperty _ _)
  have shallow : zonedTree.nesting < Platform.deepestExpression := by decide
  have derived : Derives zonedText.toList zonedTree := parse_exactly_derived.1 _ _ rfl known
  exact ⟨known, shallow, derived, parse_exactly_derived.2.1 _ _ derived shallow⟩

end ThreatAnalysis.Expression
