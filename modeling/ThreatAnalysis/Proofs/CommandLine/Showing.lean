import ThreatAnalysis.CommandLine.Run
import ThreatAnalysis.Proofs.CommandLine.Escaping

/-!
Lines that can be shown. The program puts at most one tag of its own into a line and switches it off
again; as long as the texts around it are silent, the line can be shown (`shown_line`). So a report
can be shown whatever its findings say, since they are escaped, as long as no tag is made up by the
texts that are not, or by the names of a cell and of a category that stand side by side
(`shown_report`).
-/
namespace ThreatAnalysis

namespace Markup
variable {text front back more rest : List Char} {style : String}

/-- The styles that the program uses. -/
def ownStyles : List String := ["bold", "dim", "red", "green", "yellow", "blue", "cyan", "white"]

/-- The tag that switches a style on, in front of a text. -/
def switchOn (style : String) (rest : List Char) : List Char :=
  '[' :: style.toList ++ ']' :: rest

/-- The tag that switches it off. -/
def switchOff (style : String) (rest : List Char) : List Char :=
  '[' :: ('/' :: style.toList) ++ ']' :: rest

/-- A text without brackets has no bracket among its characters. -/
theorem unbracketed {text : List Char} (absent : ']' ∉ text ∧ '[' ∉ text) :
    ∀ c ∈ text, c ≠ ']' ∧ c ≠ '[' := by
  intro c member
  constructor
  · rintro rfl
    exact absent.1 member
  · rintro rfl
    exact absent.2 member

theorem tag?_switchOn (own : style ∈ ownStyles) (rest : List Char) :
    tag? (switchOn style rest) = some style.toList := by
  have shape : ∀ style ∈ ownStyles, (style.toList.head?.any startsTag) = true ∧
      ']' ∉ style.toList.tail ∧ '[' ∉ style.toList.tail := by decide +kernel
  obtain ⟨starts, bare⟩ := shape style own
  cases characters : style.toList with
  | nil => simp [characters] at starts
  | cons c later =>
    rw [characters] at starts bare
    rw [switchOn, characters]
    exact tag?_eq_some_iff.mpr
      ⟨c, later, rest, rfl, by simpa using starts, unbracketed (by simpa using bare), rfl⟩

theorem tag?_switchOff (own : style ∈ ownStyles) (rest : List Char) :
    tag? (switchOff style rest) = some ('/' :: style.toList) := by
  have shape : ∀ style ∈ ownStyles, ']' ∉ style.toList ∧ '[' ∉ style.toList := by decide +kernel
  exact tag?_eq_some_iff.mpr
    ⟨'/', style.toList, rest, rfl, by decide, unbracketed (shape style own), rfl⟩

theorem canonicalName?_own (own : style ∈ ownStyles) :
    Style.canonicalName? style.toList = some style := by
  have each : ∀ style ∈ ownStyles, Style.canonicalName? style.toList = some style := by
    decide +kernel
  exact each style own

/-- The style of its own that a line has, up to some position. -/
def ownSpan (style : String) (span : Span) : Prop :=
  span.style = style.toList ++ [' ']

theorem ofName_own (own : style ∈ ownStyles) :
    Style.ofName (style.toList ++ [' ']) ≠ .error .missingNumber := by
  have each : ∀ style ∈ ownStyles,
      Style.ofName (style.toList ++ [' ']) ≠ .error .missingNumber := by decide +kernel
  exact each style own

theorem takeWhile_own (own : style ∈ ownStyles) :
    style.toList.takeWhile (· ≠ '=') = style.toList ∧
      style.toList.dropWhile (· ≠ '=') = [] ∧ (Text.trim style.toList).isEmpty = false ∧
      Text.trim style.toList = style.toList ∧ style.toList.head? ≠ some '/' := by
  have each : ∀ style ∈ ownStyles, style.toList.takeWhile (· ≠ '=') = style.toList ∧
      style.toList.dropWhile (· ≠ '=') = [] ∧ (Text.trim style.toList).isEmpty = false ∧
      Text.trim style.toList = style.toList ∧ style.toList.head? ≠ some '/' := by decide +kernel
  exact each style own

theorem ofTag_own (own : style ∈ ownStyles) (position : Nat) :
    Opening.ofTag position style.toList = .ok ⟨position, style, []⟩ := by
  obtain ⟨whole, none, -⟩ := takeWhile_own own
  unfold Opening.ofTag
  rw [whole, none, canonicalName?_own own]
  rfl

section
variable [Platform]

theorem close_own (own : style ∈ ownStyles) (position : Nat) :
    close style.toList [⟨position, style, []⟩] = .ok (⟨position, style, []⟩, []) := by
  obtain ⟨-, -, given, trimmed, -⟩ := takeWhile_own own
  have mine : meant style.toList = .ok fun opening => opening.name = style := by
    unfold meant
    rw [given, trimmed, canonicalName?_own own]
    rfl
  unfold close
  rw [mine]
  simp [bind, Except.bind, pure, Except.pure, Opening.canClose]

/-- A part without tags has no bearing on the styles. -/
theorem ofParts_text {openings : List Opening} {position : Nat} {text : List Char}
    {rest : List Part} {styled : Styled}
    (read : Styled.ofParts openings (position + (shownText text).length) rest = .ok styled) :
    Styled.ofParts openings position (.text text :: rest) =
      .ok { styled with text := shownText text ++ styled.text } := by
  rw [Styled.ofParts, read]
  rfl

/-- Parts without a tag leave on what is on. -/
theorem ofParts_silent {parts : List Part} (silent : parts.filterMap Part.inside? = [])
    (openings : List Opening) (position : Nat) :
    ∃ styled, Styled.ofParts openings position parts = .ok styled ∧
      ∀ span ∈ styled.spans, ∃ opening ∈ openings, ∃ stop, span = opening.span stop := by
  induction parts generalizing position with
  | nil =>
    refine ⟨_, rfl, fun span listed => ?_⟩
    obtain ⟨opening, on, rfl⟩ := List.mem_map.mp listed
    exact ⟨opening, on, position, rfl⟩
  | cons part rest ih =>
    cases part with
    | tag inside => cases silent
    | text text =>
      obtain ⟨styled, read, spans⟩ := ih silent (position + (shownText text).length)
      exact ⟨_, ofParts_text read, spans⟩

/-- What is on can be switched off once. -/
theorem ofParts_on (own : style ∈ ownStyles) {parts : List Part}
    (once : parts.filterMap Part.inside? = [] ∨
      parts.filterMap Part.inside? = ['/' :: style.toList]) (start position : Nat) :
    ∃ styled, Styled.ofParts [⟨start, style, []⟩] position parts = .ok styled ∧
      ∀ span ∈ styled.spans, ownSpan style span := by
  induction parts generalizing position with
  | nil => exact ⟨_, rfl, by simp [ownSpan, Opening.span]⟩
  | cons part rest ih =>
    cases part with
    | text text =>
      obtain ⟨styled, read, spans⟩ := ih once (position + (shownText text).length)
      exact ⟨_, ofParts_text read, spans⟩
    | tag inside =>
      have tagged : (Part.tag inside :: rest).filterMap Part.inside? =
          inside :: rest.filterMap Part.inside? := rfl
      rw [tagged] at once
      obtain ⟨rfl, silent⟩ := List.cons.inj (once.resolve_left (by simp))
      obtain ⟨styled, read, spans⟩ := ofParts_silent silent [] position
      have none : styled.spans = [] := by
        rw [List.eq_nil_iff_forall_not_mem]
        intro span listed
        obtain ⟨opening, on, -⟩ := spans span listed
        cases on
      refine ⟨{ styled with spans := Opening.span position ⟨start, style, []⟩ :: styled.spans },
        ?_, ?_⟩
      · rw [Styled.ofParts, (takeWhile_own own).1, close_own own]
        simp [bind, Except.bind, read, pure, Except.pure]
      · simp [none, ownSpan, Opening.span]

/-- A line with one tag of its own, which may be switched off again. -/
def OwnTags (style : String) (tags : List (List Char)) : Prop :=
  tags = [] ∨ tags = [style.toList] ∨ tags = [style.toList, '/' :: style.toList]

theorem ofParts_own (own : style ∈ ownStyles) {parts : List Part}
    (once : OwnTags style (parts.filterMap Part.inside?)) (position : Nat) :
    ∃ styled, Styled.ofParts [] position parts = .ok styled ∧
      ∀ span ∈ styled.spans, ownSpan style span := by
  induction parts generalizing position with
  | nil => exact ⟨_, rfl, by simp⟩
  | cons part rest ih =>
    cases part with
    | text text =>
      obtain ⟨styled, read, spans⟩ := ih once (position + (shownText text).length)
      exact ⟨_, ofParts_text read, spans⟩
    | tag inside =>
      have tagged : (Part.tag inside :: rest).filterMap Part.inside? =
          inside :: rest.filterMap Part.inside? := rfl
      rw [tagged] at once
      obtain ⟨rfl, later⟩ : inside = style.toList ∧ (rest.filterMap Part.inside? = [] ∨
          rest.filterMap Part.inside? = ['/' :: style.toList]) := by
        rcases once with none | one | both
        · cases none
        · obtain ⟨same, silent⟩ := List.cons.inj one
          exact ⟨same, .inl silent⟩
        · obtain ⟨same, closing⟩ := List.cons.inj both
          exact ⟨same, .inr closing⟩
      obtain ⟨styled, read, spans⟩ := ofParts_on own later position position
      refine ⟨styled, ?_, spans⟩
      have opening : style.toList.head? ≠ some '/' := (takeWhile_own own).2.2.2.2
      rw [Styled.ofParts, ofTag_own own]
      · exact read
      · intro later same
        rw [same] at opening
        exact opening rfl

/-- A text with one tag of its own can be shown. -/
theorem shown_own {text : String} (own : style ∈ ownStyles) (once : OwnTags style (tags text.toList)) :
    ∃ shown, Markup.shown text = .ok shown := by
  obtain ⟨styled, read, spans⟩ := ofParts_own own once 0
  have checked : styled.check styled.isInUse = .ok () := by
    unfold Styled.check
    rw [if_neg]
    intro some
    obtain ⟨span, listed, unreadable⟩ := List.any_eq_true.mp some
    have drawn := ofName_own own
    rw [← spans span listed] at drawn
    rw [Bool.and_eq_true] at unreadable
    split at unreadable
    · exact drawn ‹_›
    · cases unreadable.2
  refine ⟨String.ofList styled.text, ?_⟩
  have reading : Styled.read text = .ok styled := read
  unfold shown Styled.shown
  rw [reading]
  simp [bind, Except.bind, checked, pure, Except.pure]

/-- A silent text can be shown. -/
theorem shown_silent {text : String} (silent : Silent text.toList) :
    ∃ shown, Markup.shown text = .ok shown := by
  have own : "bold" ∈ ownStyles := by decide
  exact shown_own own (.inl silent.tags_eq)

end

/-! Lines. -/

/-- Characters that are no brackets and no backslashes are passed over. -/
theorem tags_plain (plain : '\\' ∉ front ∧ '[' ∉ front) (rest : List Char) :
    tags (front ++ rest) = tags rest := by
  induction front with
  | nil => rfl
  | cons c later ih =>
    obtain ⟨noEscape, noEscapes⟩ : '\\' ≠ c ∧ '\\' ∉ later := by simpa using plain.1
    obtain ⟨noBracket, noBrackets⟩ : '[' ≠ c ∧ '[' ∉ later := by simpa using plain.2
    have none : tag? ((c :: (later ++ rest)).dropWhile (· = '\\')) = Option.none := by
      rw [List.dropWhile_cons_of_neg (by simpa using Ne.symm noEscape)]
      exact tag?_cons_of_ne (Ne.symm noBracket) _
    rw [List.cons_append, tags_cons none, ih ⟨noEscapes, noBrackets⟩]

/-- A line in which the program switches a style on and off. -/
theorem shown_line [Platform] {text : String} (own : style ∈ ownStyles) (front middle back : List Char)
    (written : text.toList = front ++ switchOn style (middle ++ switchOff style back))
    (plain : '\\' ∉ front ∧ '[' ∉ front) (silent : Silent middle) (ending : Silent back) :
    ∃ shown, Markup.shown text = .ok shown := by
  refine shown_own own ?_
  have opened := tags_backslashes 0 (tag?_switchOn own (middle ++ switchOff style back))
  have left (rest : List Char) :
      (switchOn style rest).drop (style.toList.length + 2) = rest := by
    simp [switchOn, List.drop_append]
  have gone (rest : List Char) :
      (switchOff style rest).drop (('/' :: style.toList).length + 2) = rest := by
    simp [switchOff, List.drop_append]
  rw [List.replicate_zero, List.nil_append, if_pos (by rfl), left] at opened
  obtain ⟨kept, closed⟩ := silent.tags_append (tag?_switchOff own back)
  rw [gone, ending.tags_eq, List.append_nil] at closed
  rw [written, tags_plain plain, opened, closed]
  cases kept with
  | true => exact .inr (.inr rfl)
  | false => exact .inr (.inl rfl)

theorem Silent.cons_plain (silent : Silent text) {c : Char} (plain : c ≠ '\\' ∧ c ≠ '[') :
    Silent (c :: text) := by
  refine silent.cons ?_
  rw [List.dropWhile_cons_of_neg (by simpa using plain.1)]
  exact tag?_cons_of_ne plain.2 text

/-! Texts side by side. -/

theorem tagless_of_notMem (absent : '[' ∉ text) : Tagless text := by
  intro back ending
  cases back with
  | nil => rfl
  | cons c rest =>
    apply tag?_cons_of_ne
    rintro rfl
    exact absent (ending.mem List.mem_cons_self)

theorem silent_of_notMem (absent : '[' ∉ text) : Silent text :=
  (tagless_of_notMem absent).silent

theorem Tagless.cons (tagless : Tagless text) {c : Char} (none : tag? (c :: text) = none) :
    Tagless (c :: text) := by
  intro back ending
  rcases List.suffix_cons_iff.mp ending with rfl | within
  · exact none
  · exact tagless back within

theorem Tagless.append_left (tagless : Tagless text) (absent : '[' ∉ front) :
    Tagless (front ++ text) := by
  induction front with
  | nil => exact tagless
  | cons c rest ih =>
    obtain ⟨different, others⟩ : '[' ≠ c ∧ '[' ∉ rest := by simpa using absent
    exact (ih others).cons (tag?_cons_of_ne (Ne.symm different) _)

theorem upToBracket?_of_notMem (absent : ']' ∉ text) : upToBracket? text = none := by
  induction text with
  | nil => rfl
  | cons c rest ih =>
    obtain ⟨different, others⟩ : ']' ≠ c ∧ ']' ∉ rest := by simpa using absent
    have later := ih others
    unfold upToBracket?
    rw [if_neg (Ne.symm different), later]
    split <;> rfl

theorem upToBracket?_append_plain (text : List Char) (absent : ']' ∉ back) :
    upToBracket? (text ++ back) = upToBracket? text := by
  induction text with
  | nil => exact upToBracket?_of_notMem absent
  | cons c rest ih => rw [List.cons_append, upToBracket?, upToBracket?, ih]

/-- Behind a text without tags, a text without brackets makes up none. -/
theorem Tagless.append_right (tagless : Tagless text) (absent : '[' ∉ back)
    (unclosed : ']' ∉ back) : Tagless (text ++ back) := by
  induction text with
  | nil => exact tagless_of_notMem absent
  | cons c rest ih =>
    refine (ih tagless.of_cons).cons ?_
    have alone := tagless (c :: rest) List.suffix_rfl
    by_cases opened : c = '['
    · subst opened
      cases rest with
      | nil =>
        cases back with
        | nil => rfl
        | cons d later =>
          have none : upToBracket? later = Option.none :=
            upToBracket?_of_notMem fun member => unclosed (List.mem_cons_of_mem d member)
          simp [tag?, none]
      | cons d later =>
        simpa only [List.cons_append, tag?, upToBracket?_append_plain later unclosed] using alone
    · exact tag?_cons_of_ne opened _

/-- A part of a text without tags has none. -/
theorem Tagless.of_append_left (tagless : Tagless (text ++ more)) : Tagless text := by
  intro back ending
  cases found : tag? back with
  | none => rfl
  | some inside =>
    obtain ⟨c, later, rest, same, starts, bare, rfl⟩ := tag?_eq_some_iff.mp found
    obtain ⟨front, rfl⟩ := ending
    have longer : tag? ('[' :: inside ++ ']' :: (rest ++ more)) = none :=
      tagless _ ⟨front, by simp⟩
    have still : tag? ('[' :: inside ++ ']' :: (rest ++ more)) = some inside :=
      tag?_eq_some_iff.mpr ⟨c, later, rest ++ more, same, starts, bare, rfl⟩
    rw [still] at longer
    cases longer

theorem Tagless.of_append_right (tagless : Tagless (more ++ text)) : Tagless text :=
  fun back ending => tagless back (ending.trans (List.suffix_append more text))

theorem upToBracket?_insert (opened : upToBracket? (text ++ more) = none) :
    upToBracket? (text ++ '\\' :: more) = none := by
  induction text with
  | nil =>
    rw [List.nil_append] at opened ⊢
    rw [upToBracket?, if_neg (by decide), if_neg (by decide), opened]
    rfl
  | cons c rest ih =>
    rw [List.cons_append, upToBracket?] at opened ⊢
    split
    · rename_i closing
      rw [if_pos closing] at opened
      cases opened
    · rename_i notClosing
      rw [if_neg notClosing] at opened
      split
      · rfl
      · rename_i notOpening
        rw [if_neg notOpening, Option.map_eq_none_iff] at opened
        rw [ih opened]
        rfl

/-- A backslash that is put into a text makes up no tag. -/
theorem Tagless.insert_backslash (tagless : Tagless (text ++ more)) :
    Tagless (text ++ '\\' :: more) := by
  induction text with
  | nil => exact Tagless.cons tagless (tag?_cons_of_ne (by decide) more)
  | cons c rest ih =>
    refine (ih tagless.of_cons).cons ?_
    have alone := tagless (c :: (rest ++ more)) List.suffix_rfl
    by_cases opened : c = '['
    · subst opened
      cases rest with
      | nil => rfl
      | cons d later =>
        rw [List.cons_append, tag?] at alone ⊢
        split at alone
        · rename_i starts
          rw [if_pos starts, upToBracket?_insert (Option.map_eq_none_iff.mp alone)]
          rfl
        · rename_i notStarting
          rw [if_neg notStarting]
    · exact tag?_cons_of_ne opened _

theorem escapeTags_of_tagless (tagless : Tagless text) : escapeTags text = text := by
  induction text with
  | nil => rfl
  | cons c rest ih =>
    have calm : leadsToTag (c :: rest) = false := by
      rw [leadsToTag, tagless.dropWhile]
      rfl
    rw [escapeTags_cons_of_not calm, ih tagless.of_cons]

theorem doubleLast_cases (text : List Char) :
    doubleLast text = text ∨ doubleLast text = text ++ ['\\'] := by
  unfold doubleLast
  split
  · exact .inl rfl
  · exact .inr rfl
  · exact .inl rfl

theorem escape_cases {text : String} (tagless : Tagless text.toList) :
    (escape text).toList = text.toList ∨ (escape text).toList = text.toList ++ ['\\'] := by
  rw [escape, String.toList_ofList, escapeTags_of_tagless tagless]
  exact doubleLast_cases text.toList

/-- Two texts that make up no tag side by side are silent once both are escaped. -/
theorem silent_escaped_pair {first second : String} {between : List Char}
    (tagless : Tagless (first.toList ++ (between ++ second.toList))) :
    Silent ((escape first).toList ++ (between ++ (escape second).toList)) := by
  have front : Tagless ((escape first).toList ++ (between ++ second.toList)) := by
    rcases escape_cases tagless.of_append_left with same | longer
    · rwa [same]
    · rw [longer, List.append_assoc, List.singleton_append]
      exact tagless.insert_backslash
  rcases escape_cases tagless.of_append_right.of_append_right with same | longer
  · rw [same]
    exact front.silent
  · rw [longer, ← List.append_assoc between, ← List.append_assoc]
    exact front.silent.backslash

end Markup

namespace CommandLine
open Markup

theorem colorOf_own (severity : String) : colorOf severity ∈ ownStyles := by
  unfold colorOf
  split <;> decide

/-- The texts of a report that are not escaped have no tags. -/
structure Unmarked (report : Report) : Prop where
  title : Tagless report.diagram.displayTitle.toList
  names : ∀ cell finding, (cell, finding) ∈ report.findings →
    Tagless ((cell.nameOr cell.id).toList ++ (" - ".toList ++ finding.category.toList))

/-- The digits of a number are no brackets. -/
theorem bracket_notMem (count : Nat) :
    '[' ∉ Nat.toDigits 10 count ∧ ']' ∉ Nat.toDigits 10 count := by
  have digits : ∀ c ∈ Nat.toDigits 10 count, c.isDigit = true :=
    fun c member => Nat.isDigit_of_mem_toDigits (by decide) (by decide) member
  constructor
  · intro member
    have digit := digits '[' member
    revert digit
    decide
  · intro member
    have digit := digits ']' member
    revert digit
    decide

theorem describe_notMem (info : EngineInfo) :
    '[' ∉ info.describe.toList ∧ ']' ∉ info.describe.toList := by
  obtain ⟨baseline, baselineClosed⟩ := bracket_notMem info.baselineRules
  obtain ⟨supplemental, supplementalClosed⟩ := bracket_notMem info.supplementalRules
  unfold EngineInfo.describe
  constructor
  · split <;> simp [baseline, supplemental]
  · split <;> simp [baselineClosed, supplementalClosed]

variable [Platform]

/-- The heading of an analysis. -/
theorem shown_heading {name : String} (tagless : Tagless name.toList) :
    ∀ text ∈ ["\n[bold]Threat Map[/bold] v" ++ version ++ "\n",
      "Analyzing: [cyan]" ++ name ++ "[/cyan]\n"], ∃ shown, Markup.shown text = .ok shown := by
  have title : ∃ shown, Markup.shown ("\n[bold]Threat Map[/bold] v" ++ version ++ "\n") =
      .ok shown := by
    apply shown_line (show "bold" ∈ ownStyles by decide) ['\n'] "Threat Map".toList
      " v0.1.0\n".toList
    · decide
    · decide
    · exact silent_of_notMem (by decide)
    · exact silent_of_notMem (by decide)
  have analyzed : ∃ shown, Markup.shown ("Analyzing: [cyan]" ++ name ++ "[/cyan]\n") =
      .ok shown := by
    apply shown_line (show "cyan" ∈ ownStyles by decide) "Analyzing: ".toList name.toList ['\n']
    · simp [switchOn, switchOff]
    · decide
    · exact tagless.silent
    · exact silent_of_notMem (by decide)
  simp [title, analyzed]

/-- The line for the severity and the title of a finding. -/
theorem shown_label (finding : Finding) :
    ∃ shown, Markup.shown ("[" ++ colorOf finding.severity ++ "]" ++
      escape ("[" ++ finding.severity ++ "]") ++ "[/" ++ colorOf finding.severity ++ "] " ++
        escape finding.title) = .ok shown := by
  apply shown_line (colorOf_own finding.severity) [] (escape ("[" ++ finding.severity ++ "]")).toList
    (' ' :: (escape finding.title).toList)
  · simp [switchOn, switchOff]
  · simp
  · exact silent_escape _
  · exact (silent_escape _).cons_plain (by decide)

/-- The line for the names of a cell and a category, unless they make up a tag side by side. -/
theorem shown_names {cell category : String}
    (tagless : Tagless (cell.toList ++ (" - ".toList ++ category.toList))) :
    ∃ shown, Markup.shown ("  [dim]" ++ escape cell ++ " - " ++ escape category ++ "[/dim]") =
      .ok shown := by
  apply shown_line (show "dim" ∈ ownStyles by decide) "  ".toList
    ((escape cell).toList ++ (" - ".toList ++ (escape category).toList)) []
  · simp [switchOn, switchOff]
  · decide
  · exact silent_escaped_pair tagless
  · exact Silent.nil

theorem shown_advice (mitigation : String) :
    ∃ shown, Markup.shown ("  [green]Mitigation:[/green] " ++ escape mitigation) = .ok shown := by
  apply shown_line (show "green" ∈ ownStyles by decide) "  ".toList "Mitigation:".toList
    (' ' :: (escape mitigation).toList)
  · simp [switchOn, switchOff]
  · decide
  · exact silent_of_notMem (by decide)
  · exact (silent_escape _).cons_plain (by decide)

/-- The lines for a finding can be shown, whatever the finding says, unless the names of its cell
and its category make up a tag side by side. -/
theorem shown_finding {cell : Cell} {finding : Finding}
    (tagless : Tagless ((cell.nameOr cell.id).toList ++ (" - ".toList ++ finding.category.toList))) :
    ∀ text ∈ findingMarkup cell finding, ∃ shown, Markup.shown text = .ok shown := by
  have names := shown_names tagless
  have empty : ∃ shown, Markup.shown "" = .ok shown := shown_silent Silent.nil
  unfold findingMarkup
  by_cases none : finding.mitigation.isEmpty
  · simp only [none, if_true, List.append_nil, List.cons_append, List.nil_append,
      List.forall_mem_cons, List.not_mem_nil, false_implies, implies_true, and_true]
    exact ⟨shown_label finding, names, empty⟩
  · simp only [none, Bool.false_eq_true, if_false, List.cons_append, List.nil_append,
      List.forall_mem_cons, List.not_mem_nil, false_implies, implies_true, and_true]
    exact ⟨shown_label finding, names, shown_advice finding.mitigation, empty⟩

theorem shown_summary {report : Report} (unmarked : Unmarked report) :
    ∃ shown, Markup.shown (summaryMarkup report) = .ok shown := by
  obtain ⟨cells, cellsClosed⟩ := bracket_notMem report.diagram.cells.length
  obtain ⟨rules, rulesClosed⟩ := describe_notMem report.engine
  let back := "\nCells: ".toList ++ (toString report.diagram.cells.length).toList ++
    ("\nRules: ".toList ++ report.engine.describe.toList)
  have absent : '[' ∉ back := by simp [back, cells, rules]
  have unclosed : ']' ∉ back := by simp [back, cellsClosed, rulesClosed]
  have behind : Tagless (report.diagram.displayTitle.toList ++ back) :=
    unmarked.title.append_right absent unclosed
  have plain : '[' ∉ "Summary\nDiagram: ".toList := by decide
  have whole := behind.append_left plain
  have written : (summaryMarkup report).toList =
      "Summary\nDiagram: ".toList ++ (report.diagram.displayTitle.toList ++ back) := by
    simp [summaryMarkup, back]
  apply shown_silent
  rw [written]
  exact whole.silent

theorem shown_threats {report : Report} (unmarked : Unmarked report) :
    ∀ text ∈ threatMarkup report, ∃ shown, Markup.shown text = .ok shown := by
  intro text listed
  unfold threatMarkup at listed
  split at listed
  · obtain rfl := List.mem_singleton.mp listed
    apply shown_line (show "green" ∈ ownStyles by decide) ['\n'] "No threats generated.".toList []
    · decide
    · decide
    · exact silent_of_notMem (by decide)
    · exact Silent.nil
  · rcases List.mem_append.mp listed with heading | listed
    · obtain rfl := List.mem_singleton.mp heading
      apply shown_line (show "bold" ∈ ownStyles by decide) ['\n']
        ("Threats (" ++ toString report.diagram.threatCount ++ " total)").toList ['\n']
      · simp [switchOn, switchOff]
      · decide
      · apply silent_of_notMem
        have digits := (bracket_notMem report.diagram.threatCount).1
        simpa using digits
      · exact silent_of_notMem (by decide)
    · obtain ⟨⟨cell, finding⟩, ranked, shown⟩ := List.mem_flatMap.mp listed
      have found : (cell, finding) ∈ report.findings := by
        rwa [Report.ranked, Severity.sortBy, List.mem_mergeSort] at ranked
      exact shown_finding (unmarked.names cell finding found) text shown

/-- A report can be shown, whatever its findings say. -/
theorem shown_report {report : Report} (unmarked : Unmarked report) :
    ∀ text ∈ summaryMarkup report :: threatMarkup report,
      ∃ shown, Markup.shown text = .ok shown := by
  rw [List.forall_mem_cons]
  exact ⟨shown_summary unmarked, shown_threats unmarked⟩

/-- The line for a report that was written. -/
theorem shown_saved {name : String} (tagless : Tagless name.toList) :
    ∀ text ∈ ["\n[green]Report saved to:[/green] " ++ name],
      ∃ shown, Markup.shown text = .ok shown := by
  rw [List.forall_mem_singleton]
  apply shown_line (show "green" ∈ ownStyles by decide) ['\n'] "Report saved to:".toList
    (' ' :: name.toList)
  · simp [switchOn, switchOff]
  · decide
  · exact silent_of_notMem (by decide)
  · exact tagless.silent.cons_plain (by decide)

end CommandLine
end ThreatAnalysis
