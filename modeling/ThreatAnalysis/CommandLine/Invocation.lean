import ThreatAnalysis.CommandLine.Scan

/-!
Invocations: what the words of a command line ask for. Options of the program stand before the
name of a command, and those of the command among the words behind it. A word that cannot be
scanned is reported first. Then `--version` and `--help` answer, whatever else is wrong. After that
come the values of the options in the order in which the options occur first, an option that is
missing, and at last words that belong to nothing. Each value that is a path is looked up at once,
as it is written.
-/
namespace ThreatAnalysis

/-- How a report is written to a file. -/
inductive ReportFormat where
  | json
  | text
deriving DecidableEq, Repr

namespace ReportFormat

/-- The name of a format. -/
def name : ReportFormat → String
  | .json => "json"
  | .text => "text"

/-- Every format. -/
def all : List ReportFormat := [.json, .text]

/-- The format with a name. -/
def ofName? (name : String) : Option ReportFormat :=
  all.find? fun format => format.name == name

end ReportFormat

/-- The commands. -/
inductive CommandName where
  | analyze
  | info
  | templates
deriving DecidableEq, Repr

namespace CommandName

/-- The word for a command. -/
def word : CommandName → String
  | .analyze => "analyze"
  | .info => "info"
  | .templates => "templates"

/-- Every command. -/
def all : List CommandName := [.analyze, .info, .templates]

/-- The command for a word. -/
def ofWord? (word : String) : Option CommandName :=
  all.find? fun command => command.word == word

end CommandName

/-- What an analysis is asked for. -/
structure AnalyzeRequest where
  diagram : Path
  rulesDirectory : Option Path
  supplemental : Option Bool
  out : Option Path
  format : Option ReportFormat
deriving DecidableEq, Repr

/-- What a command line asks for. -/
inductive Invocation where
  | help (command : Option CommandName)
  | version
  | analyze (request : AnalyzeRequest)
  | info (rulesDirectory : Option Path)
  | templates (directory : Option Path) (asJson : Bool)
deriving DecidableEq, Repr

/-- Why the words of a command line ask for nothing. -/
inductive InvocationError where
  | usage (error : UsageError)
  | broken (breakdown : Breakdown)
deriving DecidableEq, Repr

namespace Invocation

/-! The options of the program. -/

/-- The options in front of a command. -/
inductive ProgramOption where
  | version
  | verbose
  | help
deriving DecidableEq, Repr

/-- Their spellings. -/
def programSpellings : List (Spelling ProgramOption) := [
  ⟨"--version", .version, .switch true⟩,
  ⟨"--verbose", .verbose, .switch true⟩,
  ⟨"-v", .verbose, .switch true⟩,
  ⟨"--help", .help, .switch true⟩]

/-- The option that answers at once, the first one that occurs. -/
def immediate? (scan : Scan ProgramOption) : Option Invocation :=
  scan.occurrences.findSome? fun occurrence => match occurrence.option with
    | .version => some .version
    | .help => some (.help none)
    | .verbose => none

/-! Checks of values. -/

/-- Why a value cannot be used. -/
inductive ValueProblem where
  | fault (fault : ValueFault)
  | broken (breakdown : Breakdown)
deriving DecidableEq, Repr

/-- What is wrong with the name of a file, by what it leads to. -/
def fileFault? (name : String) : Except FileCause Entry → Option ValueFault
  | .ok .directory => some (.directory name)
  | _ => none

/-- What is wrong with the name of a file that has to exist, by what it leads to. -/
def existingFileFault? (name : String) : Except FileCause Entry → Option ValueFault
  | .error _ => some (.noFile name)
  | found => fileFault? name found

/-- What is wrong with the name of a directory, by what it leads to. -/
def directoryFault? (name : String) : Except FileCause Entry → Option ValueFault
  | .ok (.file _) => some (.file name)
  | _ => none

/-- The problem with a name, of which a fault is found by what it leads to. -/
def pathProblem? (tree : FileTree)
    (fault? : String → Except FileCause Entry → Option ValueFault) (name : String) :
    Option ValueProblem :=
  match tree.named name with
  | .error .nullInPath => some (.broken (.file ⟨.nullInPath, .ofString name⟩))
  | found => (fault? name found).map .fault

/-- The problem with the name of a format. -/
def formatProblem? (name : String) : Option ValueProblem :=
  match ReportFormat.ofName? name with
  | some _ => none
  | none => some (.fault (.notAmong name (ReportFormat.all.map ReportFormat.name)))

/-- The error for a problem with the value of an option. -/
def valueError {α : Type} [DecidableEq α] (spellings : List (Spelling α)) (option : α) :
    ValueProblem → InvocationError
  | .fault fault => .usage (.invalidValue (Spelling.namesOf spellings option) fault)
  | .broken breakdown => .broken breakdown

/-- Refuses a scan whose values have a problem, and then words that belong to nothing. -/
def finish {α β : Type} [DecidableEq α] (spellings : List (Spelling α)) (scan : Scan α)
    (problem? : α → String → Option ValueProblem) (result : Except UsageError β) :
    Except InvocationError β := do
  let check (option : α) : Option InvocationError :=
    ((scan.argument? option).bind (problem? option)).map (valueError spellings option)
  match scan.firstProblem? check with
  | some error => .error error
  | none =>
    let value ← result.mapError .usage
    if scan.words.isEmpty then return value else .error (.usage (.extraWords scan.words))

/-! The command `analyze`. -/

/-- The options of an analysis. -/
inductive AnalyzeOption where
  | diagram
  | rulesDirectory
  | supplemental
  | out
  | format
  | help
deriving DecidableEq, Repr

/-- Their spellings. -/
def analyzeSpellings : List (Spelling AnalyzeOption) := [
  ⟨"--diagram", .diagram, .argument⟩,
  ⟨"-d", .diagram, .argument⟩,
  ⟨"--rules-dir", .rulesDirectory, .argument⟩,
  ⟨"-r", .rulesDirectory, .argument⟩,
  ⟨"--supplemental", .supplemental, .switch true⟩,
  ⟨"--no-supplemental", .supplemental, .switch false⟩,
  ⟨"--out", .out, .argument⟩,
  ⟨"-o", .out, .argument⟩,
  ⟨"--format", .format, .argument⟩,
  ⟨"-f", .format, .argument⟩,
  ⟨"--help", .help, .switch true⟩]

/-- The problem with the argument of an option of an analysis. -/
def analyzeProblem? (tree : FileTree) : AnalyzeOption → String → Option ValueProblem
  | .diagram, name => pathProblem? tree existingFileFault? name
  | .rulesDirectory, name => pathProblem? tree (fun _ _ => none) name
  | .out, name => pathProblem? tree fileFault? name
  | .format, name => formatProblem? name
  | _, _ => none

/-- The request of a scan whose values have no fault. -/
def analyzeRequest (scan : Scan AnalyzeOption) : Except UsageError AnalyzeRequest :=
  match scan.argument? .diagram with
  | none => .error (.missingOption (Spelling.namesOf analyzeSpellings .diagram))
  | some diagram => .ok {
      diagram := .ofString diagram
      rulesDirectory := (scan.argument? .rulesDirectory).map .ofString
      supplemental := scan.switch? .supplemental
      out := (scan.argument? .out).map .ofString
      format := (scan.argument? .format).bind ReportFormat.ofName? }

/-- Reads the words behind `analyze`. -/
def readAnalyze (tree : FileTree) (words : List String) : Except InvocationError Invocation := do
  let scan ← (Scan.ofWords analyzeSpellings true words).mapError .usage
  if scan.mentions .help then return .help (some .analyze)
  finish analyzeSpellings scan (analyzeProblem? tree) (analyze <$> analyzeRequest scan)

/-! The command `info`. -/

/-- The options of the engine's description. -/
inductive InfoOption where
  | rulesDirectory
  | help
deriving DecidableEq, Repr

/-- Their spellings. -/
def infoSpellings : List (Spelling InfoOption) := [
  ⟨"--rules-dir", .rulesDirectory, .argument⟩,
  ⟨"-r", .rulesDirectory, .argument⟩,
  ⟨"--help", .help, .switch true⟩]

/-- The problem with the argument of an option of the engine's description. -/
def infoProblem? (tree : FileTree) : InfoOption → String → Option ValueProblem
  | .rulesDirectory, name => pathProblem? tree (fun _ _ => none) name
  | _, _ => none

/-- Reads the words behind `info`. -/
def readInfo (tree : FileTree) (words : List String) : Except InvocationError Invocation := do
  let scan ← (Scan.ofWords infoSpellings true words).mapError .usage
  if scan.mentions .help then return .help (some .info)
  finish infoSpellings scan (infoProblem? tree)
    (.ok (.info ((scan.argument? .rulesDirectory).map .ofString)))

/-! The command `templates`. -/

/-- The options of the list of templates. -/
inductive TemplatesOption where
  | directory
  | json
  | help
deriving DecidableEq, Repr

/-- Their spellings. -/
def templatesSpellings : List (Spelling TemplatesOption) := [
  ⟨"--dir", .directory, .argument⟩,
  ⟨"--json", .json, .switch true⟩,
  ⟨"--help", .help, .switch true⟩]

/-- The problem with the argument of an option of the list of templates. -/
def templatesProblem? (tree : FileTree) : TemplatesOption → String → Option ValueProblem
  | .directory, name => pathProblem? tree directoryFault? name
  | _, _ => none

/-- Reads the words behind `templates`. -/
def readTemplates (tree : FileTree) (words : List String) : Except InvocationError Invocation := do
  let scan ← (Scan.ofWords templatesSpellings true words).mapError .usage
  if scan.mentions .help then return .help (some .templates)
  finish templatesSpellings scan (templatesProblem? tree)
    (.ok (.templates ((scan.argument? .directory).map .ofString) (scan.mentions .json)))

/-! Command lines. -/

/-- Reads the name of a command and the words behind it. A name that is none may be an option that
comes too late. -/
def readCommand (tree : FileTree) (name : String) (words : List String) :
    Except InvocationError Invocation :=
  match CommandName.ofWord? name with
  | some .analyze => readAnalyze tree words
  | some .info => readInfo tree words
  | some .templates => readTemplates tree words
  | none => do
    let late ← (Scan.ofWords programSpellings false (name :: words)).mapError .usage
    match immediate? late with
    | some invocation => return invocation
    | none =>
      let names := CommandName.all.map CommandName.word
      .error (.usage (.unknownCommand name (Similarity.closest names name)))

/-- Reads the words of a command line. -/
def read (tree : FileTree) (words : List String) : Except InvocationError Invocation := do
  if words.isEmpty then return .help none
  let scan ← (Scan.ofWords programSpellings false words).mapError .usage
  match immediate? scan, scan.words with
  | some invocation, _ => return invocation
  | none, [] => .error (.usage .noCommand)
  | none, name :: rest => readCommand tree name rest

end Invocation
end ThreatAnalysis
