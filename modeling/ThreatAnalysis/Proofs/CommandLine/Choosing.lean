import Mathlib.Tactic.SplitIfs
import ThreatAnalysis.CommandLine.Run
import ThreatAnalysis.Proofs.Files.Spelling

/-!
Choices on the command line of an analysis. Words ask for a choice however its options are spelled
and ordered (`Asks`), and there are words for each choice (`asks_words`). Words that ask for a choice
are refused if its diagram is no file (`read_refused`), and otherwise read as the choice
(`read_accepted`). The settings that are chosen so are those of the environment under the values
that are chosen (`ofEnvironment_overrides`).
-/
namespace ThreatAnalysis

namespace FileTree

/-- A name without null characters is looked up. -/
theorem named_ne_nullInPath (tree : FileTree) {name : String} (clean : '\x00' ∉ name.toList) :
    tree.named name ≠ .error .nullInPath := by
  have followed (start : Location) (names : List String) :
      tree.follow start names ≠ .error .nullInPath := by
    induction names generalizing start with
    | nil => nofun
    | cons name rest ih =>
      unfold follow
      split
      · split
        · nofun
        · exact ih _
      · nofun
      · nofun
  unfold named
  split
  · nofun
  · dsimp only
    unfold followText textFault?
    rw [if_neg (by simpa using clean)]
    split_ifs with long
    · nofun
    · dsimp only
      cases reached : tree.follow (start (Path.anchorOf name.toList)) (Path.steps name) with
      | error cause =>
        intro null
        have same : cause = .nullInPath := by simpa [bind, Except.bind] using null
        exact followed _ _ (same ▸ reached)
      | ok location =>
        simp only [bind, Except.bind]
        split <;> nofun

end FileTree

namespace Scan
variable {α : Type} {spellings : List (Spelling α)} {scan : Scan α} {word : String}
  {rest : List String} {among : Bool}

/-- A word is an option that takes the next word. -/
structure TakesNext (spellings : List (Spelling α)) (word : String) (option : α) : Prop where
  isOption : isOption word.toList = true
  notEnd : word ≠ "--"
  read : readOption spellings word.toList = .ok ⟨[], some ⟨word, option, .argument⟩⟩

/-- A word is an option that is complete: it is switched, or has its argument in the word. -/
structure Completes (spellings : List (Spelling α)) (word : String) (occurrence : Occurrence α) :
    Prop where
  isOption : isOption word.toList = true
  notEnd : word ≠ "--"
  read : readOption spellings word.toList = .ok ⟨[occurrence], none⟩

/-- The next word is the argument, whatever it is. -/
theorem TakesNext.ofWords_eq {option : α} (takes : TakesNext spellings word option)
    (scanned : ofWords spellings among rest = .ok scan) (argument : String) :
    ofWords spellings among (word :: argument :: rest) =
      .ok (scan.after [⟨option, .argument argument⟩]) := by
  rw [ofWords, if_neg takes.notEnd, if_pos takes.isOption, takes.read]
  simp only [bind, Except.bind, scanned, List.nil_append]
  rfl

theorem Completes.ofWords_eq {occurrence : Occurrence α}
    (completes : Completes spellings word occurrence)
    (scanned : ofWords spellings among rest = .ok scan) :
    ofWords spellings among (word :: rest) = .ok (scan.after [occurrence]) := by
  rw [ofWords, if_neg completes.notEnd, if_pos completes.isOption, completes.read]
  simp only [bind, Except.bind, scanned]
  rfl

variable [DecidableEq α] {option : α} {text : String}

theorem mem_options_of_argument? (given : scan.argument? option = some text) :
    option ∈ scan.occurrences.map (·.option) := by
  unfold argument? value? at given
  cases last : (scan.occurrences.filter fun occurrence => occurrence.option = option).getLast? with
  | none =>
    rw [last] at given
    cases given
  | some occurrence =>
    obtain ⟨listed, same⟩ := List.mem_filter.mp (List.mem_of_getLast? last)
    exact List.mem_map.mpr ⟨occurrence, listed, by simpa using same⟩

/-- If nothing but one option can have a problem, and that option occurs, its problem is found. -/
theorem firstProblem?_of_one {π : Type} {check : α → Option π}
    (given : scan.argument? option = some text)
    (others : ∀ other, other ≠ option → check other = none) :
    scan.firstProblem? check = check option := by
  have occurs := mem_options_of_argument? given
  unfold firstProblem?
  generalize scan.occurrences.map (·.option) = options at occurs
  induction options with
  | nil => cases occurs
  | cons other rest ih =>
    rw [List.findSome?_cons]
    by_cases same : other = option
    · subst same
      cases checked : check other with
      | some problem => rfl
      | none =>
        dsimp only
        rw [List.findSome?_eq_none_iff]
        intro later _
        by_cases again : later = other
        · rw [again, checked]
        · exact others later again
    · rw [others other same]
      exact ih ((List.mem_cons.mp occurs).resolve_left (Ne.symm same))

end Scan

namespace Settings

/-- The named values for a path and a switch, null for what is not chosen. -/
def chosenValues (rulesDirectory : Option String) (supplemental : Option Bool) : Fields := [
  ("rules_dir", match rulesDirectory with
    | some text => .string text
    | none => .null),
  ("supplemental_enabled", match supplemental with
    | some on => .bool on
    | none => .null)]

/-- What is chosen wins over the environment. -/
theorem ofEnvironment_chosen (environment : Environment) (rulesDirectory : Option String)
    (supplemental : Option Bool) :
    ofEnvironment environment (chosenValues rulesDirectory supplemental) =
      .ok ((inEnvironment environment).withChoices (rulesDirectory.map Path.ofString)
        supplemental) := by
  unfold ofEnvironment environmentValues inEnvironment environmentSwitch
  cases environment.value? "THREAT_MAP_RULES_DIR" <;>
    cases environment.lookup "THREAT_MAP_SUPPLEMENTAL_RULES" <;>
    cases rulesDirectory <;> cases supplemental <;> rfl

end Settings

/-- What is chosen for an analysis on a command line. The paths stand as they are written. -/
structure AnalyzeChoice where
  diagram : String
  rulesDirectory : Option String
  supplemental : Option Bool
  format : Option ReportFormat
  out : Option String
deriving DecidableEq, Repr

namespace AnalyzeChoice

/-- The names of files and directories. -/
def names (choice : AnalyzeChoice) : List String :=
  choice.diagram :: (choice.rulesDirectory.toList ++ choice.out.toList)

/-- The request for a choice. -/
def request (choice : AnalyzeChoice) : AnalyzeRequest where
  diagram := .ofString choice.diagram
  rulesDirectory := choice.rulesDirectory.map .ofString
  supplemental := choice.supplemental
  out := choice.out.map .ofString
  format := choice.format

/-- The named values of the settings that are chosen. -/
def overrides (choice : AnalyzeChoice) : Fields :=
  Settings.chosenValues (choice.rulesDirectory.map fun name => (Path.ofString name).toString)
    choice.supplemental

/-- The words for an option with an argument, if there is one. -/
def optionWords (spelling : String) : Option String → List String
  | some argument => [spelling, argument]
  | none => []

/-- The words for the switch, if it is chosen. -/
def switchWords : Option Bool → List String
  | some true => ["--supplemental"]
  | some false => ["--no-supplemental"]
  | none => []

/-- Words for a choice. -/
def words (choice : AnalyzeChoice) : List String :=
  "-d" :: choice.diagram :: (optionWords "--rules-dir" choice.rulesDirectory ++
    (switchWords choice.supplemental ++
      (optionWords "--format" (choice.format.map ReportFormat.name) ++
        (optionWords "--out" choice.out ++ []))))

end AnalyzeChoice

namespace Invocation
variable {choice : AnalyzeChoice} {words : List String} {files : FileTree} {scan : Scan AnalyzeOption}

/-- A scan holds a choice. -/
structure Holds (scan : Scan AnalyzeOption) (choice : AnalyzeChoice) : Prop where
  diagram : scan.argument? .diagram = some choice.diagram
  rulesDirectory : scan.argument? .rulesDirectory = choice.rulesDirectory
  supplemental : scan.switch? .supplemental = choice.supplemental
  format : scan.argument? .format = choice.format.map ReportFormat.name
  out : scan.argument? .out = choice.out
  noHelp : scan.mentions .help = false
  noWords : scan.words = []

/-- Words ask for a choice, in whatever way. -/
def Asks (words : List String) (choice : AnalyzeChoice) : Prop :=
  ∃ scan, Scan.ofWords analyzeSpellings true words = .ok scan ∧ Holds scan choice

/-- The occurrence of an option with an argument, if there is one. -/
def argumentOf (option : AnalyzeOption) : Option String → List (Occurrence AnalyzeOption)
  | some argument => [⟨option, .argument argument⟩]
  | none => []

/-- The occurrence of the switch, if it is chosen. -/
def switchOf : Option Bool → List (Occurrence AnalyzeOption)
  | some on => [⟨.supplemental, .switch on⟩]
  | none => []

theorem scan_optionWords {word : String} {option : AnalyzeOption} {rest : List String}
    (takes : Scan.TakesNext analyzeSpellings word option)
    (scanned : Scan.ofWords analyzeSpellings true rest = .ok scan) (argument : Option String) :
    Scan.ofWords analyzeSpellings true (AnalyzeChoice.optionWords word argument ++ rest) =
      .ok (scan.after (argumentOf option argument)) := by
  cases argument with
  | none => exact scanned
  | some argument => exact takes.ofWords_eq scanned argument

theorem scan_switchWords {rest : List String}
    (scanned : Scan.ofWords analyzeSpellings true rest = .ok scan) (chosen : Option Bool) :
    Scan.ofWords analyzeSpellings true (AnalyzeChoice.switchWords chosen ++ rest) =
      .ok (scan.after (switchOf chosen)) := by
  have positive : Scan.Completes analyzeSpellings "--supplemental" ⟨.supplemental, .switch true⟩ :=
    ⟨by decide, by decide, by with_unfolding_all rfl⟩
  have negative : Scan.Completes analyzeSpellings "--no-supplemental"
      ⟨.supplemental, .switch false⟩ :=
    ⟨by decide, by decide, by with_unfolding_all rfl⟩
  cases chosen with
  | none => exact scanned
  | some on =>
    cases on with
    | true => exact positive.ofWords_eq scanned
    | false => exact negative.ofWords_eq scanned

/-- There are words for each choice. -/
theorem asks_words (choice : AnalyzeChoice) : Asks choice.words choice := by
  have takesDiagram : Scan.TakesNext analyzeSpellings "-d" .diagram :=
    ⟨by decide, by decide, by with_unfolding_all rfl⟩
  have takesDirectory : Scan.TakesNext analyzeSpellings "--rules-dir" .rulesDirectory :=
    ⟨by decide, by decide, by with_unfolding_all rfl⟩
  have takesFormat : Scan.TakesNext analyzeSpellings "--format" .format :=
    ⟨by decide, by decide, by with_unfolding_all rfl⟩
  have takesOut : Scan.TakesNext analyzeSpellings "--out" .out :=
    ⟨by decide, by decide, by with_unfolding_all rfl⟩
  have nothing : Scan.ofWords analyzeSpellings true [] = .ok ⟨[], []⟩ := rfl
  have withOut := scan_optionWords takesOut nothing choice.out
  have withFormat := scan_optionWords takesFormat withOut (choice.format.map ReportFormat.name)
  have switched := scan_switchWords withFormat choice.supplemental
  have withDirectory := scan_optionWords takesDirectory switched choice.rulesDirectory
  refine ⟨_, takesDiagram.ofWords_eq withDirectory choice.diagram, ?_⟩
  clear withOut withFormat switched withDirectory
  obtain ⟨diagram, rulesDirectory, supplemental, format, out⟩ := choice
  cases rulesDirectory <;> cases supplemental <;> cases format <;> cases out <;>
    exact ⟨rfl, rfl, rfl, rfl, rfl, rfl, rfl⟩

/-! Reading the words. -/

/-- A command line that starts with the word for a command is read as that command. -/
theorem read_command (files : FileTree) (command : CommandName) (words : List String) :
    Invocation.read files (command.word :: words) = readCommand files command.word words := by
  have scanned : Scan.ofWords programSpellings false (command.word :: words) =
      .ok ⟨[], command.word :: words⟩ := by
    cases command <;> rw [Scan.ofWords, if_neg (by decide), if_neg (by decide), if_neg (by decide)]
  unfold Invocation.read
  rw [if_neg (by simp), scanned]
  rfl

theorem read_analyze (files : FileTree) (words : List String) :
    Invocation.read files ("analyze" :: words) = readAnalyze files words := by
  have known : CommandName.ofWord? "analyze" = some .analyze := by decide
  refine (read_command files .analyze words).trans ?_
  rw [readCommand, CommandName.word, known]

theorem read_templates (files : FileTree) (words : List String) :
    Invocation.read files ("templates" :: words) = readTemplates files words := by
  have known : CommandName.ofWord? "templates" = some .templates := by decide
  refine (read_command files .templates words).trans ?_
  rw [readCommand, CommandName.word, known]

/-- What is wrong with a name without null characters goes by what it leads to. -/
theorem pathProblem?_eq {name : String} (clean : '\x00' ∉ name.toList)
    (fault? : String → Except FileCause Entry → Option ValueFault) :
    pathProblem? files fault? name = (fault? name (files.named name)).map .fault := by
  have looked := files.named_ne_nullInPath clean
  unfold pathProblem?
  split
  · contradiction
  · rfl

theorem formatProblem?_name (format : ReportFormat) : formatProblem? format.name = none := by
  cases format <;> rfl

/-- Nothing but the diagram of a choice can be refused. -/
theorem problem_of_holds (holds : Holds scan choice)
    (clean : ∀ name ∈ choice.names, '\x00' ∉ name.toList)
    (outFree : ∀ out, choice.out = some out → files.named out ≠ .ok .directory)
    (option : AnalyzeOption) :
    (scan.argument? option).bind (analyzeProblem? files option) =
      if option = .diagram then
        (existingFileFault? choice.diagram (files.named choice.diagram)).map .fault
      else none := by
  cases option with
  | diagram =>
    rw [holds.diagram, if_pos rfl]
    exact pathProblem?_eq (clean _ List.mem_cons_self) existingFileFault?
  | rulesDirectory =>
    rw [holds.rulesDirectory, if_neg (by decide)]
    cases chosen : choice.rulesDirectory with
    | none => rfl
    | some name =>
      have named : name ∈ choice.names := by simp [AnalyzeChoice.names, chosen]
      exact pathProblem?_eq (clean name named) fun _ _ => none
  | out =>
    rw [holds.out, if_neg (by decide)]
    cases chosen : choice.out with
    | none => rfl
    | some name =>
      have free := outFree name chosen
      have checked : (fileFault? name (files.named name)).map ValueProblem.fault = none := by
        unfold fileFault?
        split
        · contradiction
        · rfl
      have named : name ∈ choice.names := by simp [AnalyzeChoice.names, chosen]
      rw [← checked]
      exact pathProblem?_eq (clean name named) fileFault?
  | format =>
    rw [holds.format, if_neg (by decide)]
    cases choice.format with
    | none => rfl
    | some format => exact formatProblem?_name format
  | supplemental =>
    rw [if_neg (by decide)]
    exact Option.bind_fun_none _
  | help =>
    rw [if_neg (by decide)]
    exact Option.bind_fun_none _

/-- The words of a choice are read as it, unless its diagram is refused. -/
theorem read_of_asks (asks : Asks words choice)
    (clean : ∀ name ∈ choice.names, '\x00' ∉ name.toList)
    (outFree : ∀ out, choice.out = some out → files.named out ≠ .ok .directory) :
    Invocation.read files ("analyze" :: words) =
      match existingFileFault? choice.diagram (files.named choice.diagram) with
      | some fault => .error (.usage (.invalidValue ["--diagram", "-d"] fault))
      | none => .ok (.analyze choice.request) := by
  obtain ⟨scan, scanned, holds⟩ := asks
  have problems := problem_of_holds holds clean outFree
  have first : scan.firstProblem? (fun option =>
      ((scan.argument? option).bind (analyzeProblem? files option)).map
        (valueError analyzeSpellings option)) =
      (existingFileFault? choice.diagram (files.named choice.diagram)).map fun fault =>
        .usage (.invalidValue ["--diagram", "-d"] fault) := by
    rw [Scan.firstProblem?_of_one holds.diagram]
    · rw [problems, if_pos rfl, Option.map_map]
      rfl
    · intro other different
      rw [problems, if_neg different]
      rfl
  have requested : analyzeRequest scan = .ok choice.request := by
    unfold analyzeRequest AnalyzeChoice.request
    rw [holds.diagram, holds.rulesDirectory, holds.supplemental, holds.format, holds.out]
    cases choice.format with
    | none => rfl
    | some format => cases format <;> rfl
  rw [read_analyze, readAnalyze, scanned]
  simp only [Except.mapError, bind, Except.bind, holds.noHelp, finish, first, requested]
  cases existingFileFault? choice.diagram (files.named choice.diagram) with
  | some fault => rfl
  | none =>
    simp only [Option.map_none, holds.noWords]
    rfl

end Invocation

namespace CommandLine

/-- The settings that are chosen are those of the environment, under the values that are chosen. -/
theorem ofEnvironment_overrides (environment : Environment) (choice : AnalyzeChoice) :
    Settings.ofEnvironment environment choice.overrides =
      .ok (settingsOf environment choice.request) := by
  have again : (choice.rulesDirectory.map fun name => (Path.ofString name).toString).map
      Path.ofString = choice.rulesDirectory.map Path.ofString := by
    rw [Option.map_map]
    exact congrArg (choice.rulesDirectory.map ·) (funext Path.ofString_toString_ofString)
  rw [AnalyzeChoice.overrides, Settings.ofEnvironment_chosen, again]
  rfl

end CommandLine
end ThreatAnalysis
