import ThreatAnalysis.Proofs.Expression.Parsing

/-!
How far a text is taken apart. Every call that is accepted opens a parenthesis around its arguments,
so a text whose parentheses nest less deep than the limit is read to the end, whatever is in it
(`parseWithin_of_nested`). What was read is read alike with every higher limit
(`parseWithin_mono`), so that the limit does not matter to such a text.
-/
namespace ThreatAnalysis
open Text Arguments Expression
variable {bound limit : Nat} {text : List Char}

namespace Text

/-- At no point of the text are more than `bound` of its parentheses open. -/
def NestedWithin (bound : Nat) (text : List Char) : Prop :=
  ∀ front, front <+: text → front.count '(' ≤ bound + front.count ')'

instance : Decidable (NestedWithin bound text) :=
  decidable_of_iff (∀ front ∈ text.inits, front.count '(' ≤ bound + front.count ')') <| by
    simp only [List.mem_inits, NestedWithin]

theorem NestedWithin.front {front back : List Char} (nested : NestedWithin bound (front ++ back)) :
    NestedWithin bound front :=
  fun start shorter => nested start (shorter.trans (List.prefix_append front back))

/-- Behind balanced text as many parentheses are open as in front of it. -/
theorem NestedWithin.back {front back : List Char} (closes : Balanced front)
    (nested : NestedWithin bound (front ++ back)) : NestedWithin bound back := by
  intro start shorter
  have within := nested (front ++ start) ((List.prefix_append_right_inj front).mpr shorter)
  have total := closes.total
  rw [List.count_append, List.count_append] at within
  omega

theorem nestedWithin_append {front back : List Char} (closes : Balanced front) :
    NestedWithin bound (front ++ back) ↔ NestedWithin bound front ∧ NestedWithin bound back := by
  refine ⟨fun nested => ⟨nested.front, nested.back closes⟩, ?_⟩
  rintro ⟨first, second⟩ start ⟨rest, whole⟩
  rcases List.append_eq_append_iff.mp whole with ⟨more, split, -⟩ | ⟨more, split, behind⟩
  · exact first start ⟨more, split.symm⟩
  · have within := second more ⟨rest, behind.symm⟩
    have total := closes.total
    rw [split, List.count_append, List.count_append]
    omega

theorem NestedWithin.mono (nested : NestedWithin bound text) (less : bound ≤ limit) :
    NestedWithin limit text := by
  intro front shorter
  have within := nested front shorter
  omega

theorem nestedWithin_of_notMem (none : '(' ∉ text) (bound : Nat) : NestedWithin bound text := by
  intro front shorter
  have flat : front.count '(' = 0 := List.count_eq_zero.mpr fun member =>
    none (shorter.subset member)
  omega

theorem Plain.nestedWithin (plain : Plain text) (bound : Nat) : NestedWithin bound text :=
  nestedWithin_of_notMem (fun member => (plain '(' member).1 rfl) bound

/-- Parentheses around balanced text nest one level deeper than it does. -/
theorem nestedWithin_parenthesised (inner : Balanced text) (nested : NestedWithin bound text) :
    NestedWithin (bound + 1) ('(' :: text ++ [')']) := by
  intro front shorter
  cases front with
  | nil => simp
  | cons c front =>
    obtain ⟨rfl, rest⟩ := List.cons_prefix_cons.mp shorter
    rcases List.prefix_concat_iff.mp rest with rfl | within
    · have total := inner.total
      simp
      omega
    · have bounded := nested front within
      simp
      omega

theorem NestedWithin.trim (nested : NestedWithin bound text) : NestedWithin bound (trim text) := by
  obtain ⟨before, after, front, _, split⟩ := trim_split text
  rw [split] at nested
  exact nested.front.back front.plain.balanced

end Text

/-- The arguments of a call nest less deep than the call. -/
theorem Text.NestedWithin.arguments {name gap arguments : List Char}
    (named : isName name = true) (blank : Blank gap)
    (nested : NestedWithin bound (callText name gap arguments)) :
    ∃ inner, bound = inner + 1 ∧ NestedWithin inner arguments := by
  have head : Balanced (name ++ gap) :=
    ((isName_plain named).slot.append blank.plain.slot).balanced
  have whole : callText name gap arguments = (name ++ gap) ++ ('(' :: arguments ++ [')']) := by
    simp [callText]
  rw [whole] at nested
  have opened := (nested.back head).front
  have deeper : ∀ front, front <+: arguments → front.count '(' + 1 ≤ bound + front.count ')' := by
    intro front shorter
    have within := opened ('(' :: front) ((List.prefix_cons_inj '(').mpr shorter)
    simpa using within
  have positive := deeper [] List.nil_prefix
  refine ⟨bound - 1, by simp at positive; omega, fun front shorter => ?_⟩
  have within := deeper front shorter
  omega

theorem nestedWithin_callText {name gap arguments : List Char} (named : isName name = true)
    (blank : Blank gap) (inner : Balanced arguments) :
    NestedWithin (bound + 1) (callText name gap arguments) ↔ NestedWithin bound arguments := by
  constructor
  · intro nested
    obtain ⟨depth, same, deeper⟩ := nested.arguments named blank
    obtain rfl : bound = depth := by omega
    exact deeper
  · intro nested
    have head := ((isName_plain named).slot.append blank.plain.slot).balanced
    have flat := (nestedWithin_append (isName_plain named).balanced).mpr
      ⟨(isName_plain named).nestedWithin (bound + 1), blank.plain.nestedWithin (bound + 1)⟩
    have whole := (nestedWithin_append head).mpr ⟨flat, nestedWithin_parenthesised inner nested⟩
    simpa [callText] using whole

/-- The parts of a list nest as deep as the whole list does. -/
theorem nestedWithin_intercalate (each : ∀ text ∈ texts, Balanced text) :
    NestedWithin bound ([','].intercalate texts) ↔ ∀ text ∈ texts, NestedWithin bound text := by
  have comma : Balanced [','] := by decide
  have flat : NestedWithin bound [','] := nestedWithin_of_notMem (by decide) bound
  induction texts with
  | nil => simp [NestedWithin]
  | cons text rest ih =>
    rw [List.forall_mem_cons] at each ⊢
    cases rest with
    | nil => simp
    | cons next rest =>
      rw [List.intercalate_cons_cons, List.append_assoc, nestedWithin_append each.1,
        nestedWithin_append comma]
      exact and_congr_right fun _ => (and_iff_right flat).trans (ih each.2)

theorem Text.NestedWithin.split (balanced : Balanced text) (nested : NestedWithin bound text) :
    ∀ argument ∈ split text, NestedWithin bound argument := by
  refine slot_induction (motive := fun text => NestedWithin bound text →
    ∀ argument ∈ Arguments.split text, NestedWithin bound argument) ?_ ?_ text balanced nested
  · intro slot closed nested argument member
    by_cases blank : Blank slot
    · rw [split_blank blank] at member
      cases member
    · rw [split_slot closed blank] at member
      rw [List.mem_singleton.mp member]
      exact nested.trim
  · intro slot rest closed _ ih nested argument member
    have comma : Balanced (slot ++ [',']) := balanced_comma closed.balanced (closes_nil.mpr rfl)
    rw [split_more closed] at member
    rcases List.mem_cons.mp member with rfl | later
    · exact nested.front.trim
    · have behind : slot ++ ',' :: rest = (slot ++ [',']) ++ rest := List.append_cons slot ',' rest
      rw [behind] at nested
      exact ih (nested.back comma) argument later

namespace Expression

/-- What was read within a limit is read within every higher one. -/
theorem parseWithin_mono (read : parseWithin limit text = .ok tree) (more : Nat) :
    parseWithin (limit + more) text = .ok tree := by
  induction limit generalizing text tree with
  | zero => cases read
  | succ limit ih =>
    rw [Nat.succ_add, parseWithin_succ]
    obtain ⟨trees, reads, built⟩ := parseWithin_succ.mp read
    exact ⟨trees, reads.imp fun _ _ => ih, built⟩

/-- A form builds a tree of any trees of its arguments. -/
theorem Form.exists_tree (shape : Form) (length : shape.arguments.length = trees.length) :
    ∃ tree, shape.tree? trees = some tree := by
  cases shape with
  | leaf expression =>
    cases trees with
    | nil => exact ⟨_, rfl⟩
    | cons _ _ => cases length
  | unary build _ =>
    rcases trees with _ | ⟨operand, _ | _⟩
    · cases length
    · exact ⟨_, rfl⟩
    · cases length
  | binary build _ _ =>
    rcases trees with _ | ⟨first, _ | ⟨second, _ | _⟩⟩
    · cases length
    · cases length
    · exact ⟨_, rfl⟩
    · cases length
  | variadic build _ => exact ⟨_, rfl⟩

/-- Texts that can be read one by one can be read together. -/
theorem exists_readsAll (each : ∀ text ∈ texts, ∃ tree, parseWithin limit text = .ok tree) :
    ∃ trees, ReadsAll limit texts trees :=
  (exists_mapM_iff.mpr each).imp fun _ => mapM_ok_iff.mp

/-- The texts that a call has read are arguments of it; the others are kept as they are. -/
theorem Call.mem_arguments (call : Call) (inner : Balanced arguments)
    (found : call.form? arguments = some shape) :
    ∀ argument ∈ shape.arguments, argument ∈ split arguments := by
  intro argument member
  by_cases property : call = .hasProperty
  · subst property
    obtain ⟨tree, rfl, _⟩ := property_derives inner Blank.nil found
    cases member
  · rwa [call.form?_arguments property found] at member

/-- A call is read one level further out than all its arguments. -/
theorem exists_parse_callText (blank : Blank gap) (inner : Balanced arguments) (call : Call)
    (each : ∀ argument ∈ split arguments, ∃ tree, parseWithin limit argument = .ok tree) :
    ∃ tree, parseWithin (limit + 1) (callText call.name.toList gap arguments) = .ok tree := by
  simp only [parseWithin_succ, trim_callText (isName_call call), form_callText blank inner]
  cases found : call.form? arguments with
  | none => exact ⟨_, [], .nil, rfl⟩
  | some shape =>
    obtain ⟨trees, reads⟩ := exists_readsAll fun argument member =>
      each argument (call.mem_arguments inner found argument member)
    obtain ⟨tree, built⟩ := shape.exists_tree reads.length_eq
    exact ⟨tree, trees, reads, built⟩

/-- A text is read if its parentheses nest less deep than the limit. -/
theorem parseWithin_of_nested (nested : NestedWithin limit text) :
    ∃ tree, parseWithin (limit + 1) text = .ok tree := by
  -- The arguments of a call nest less deep than the call, which carries the induction.
  induction limit using Nat.strong_induction_on generalizing text with
  | _ limit ih =>
    rcases form_cases (trim text) with ⟨word, _, formed⟩ | whole | formed
    · exact ⟨_, parseWithin_succ.mpr (by rw [formed]; exact ⟨[], .nil, rfl⟩)⟩
    · obtain ⟨call, before, gap, arguments, front, blank, inner, spelled⟩ := whole
      have trimmed := nested.trim
      rw [spelled] at trimmed
      obtain ⟨depth, rfl, deeper⟩ :=
        (trimmed.back front.plain.balanced).arguments (isName_call call) blank
      obtain ⟨tree, read⟩ := exists_parse_callText blank inner call fun argument member =>
        ih depth (Nat.lt_succ_self depth) (deeper.split inner argument member)
      exact ⟨tree, (parseWithin_of_spelled front spelled).trans read⟩
    · exact ⟨_, parseWithin_succ.mpr (by rw [formed]; exact ⟨[], .nil, rfl⟩)⟩

end Expression
end ThreatAnalysis
