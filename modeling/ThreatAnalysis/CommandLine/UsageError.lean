import ThreatAnalysis.Diagram.Load
import ThreatAnalysis.Text.Quoted

/-!
Usage errors: what can be wrong with the words of a command line, and with the files that they
name.
-/
namespace ThreatAnalysis

/-- What is wrong with the value of an option. -/
inductive ValueFault where
  | noFile (name : String)
  /-- A directory is named where a file is wanted. -/
  | directory (name : String)
  /-- A file is named where a directory is wanted. -/
  | file (name : String)
  | notAmong (value : String) (choices : List String)
deriving DecidableEq, Repr

/-- The text of a fault. -/
def ValueFault.message : ValueFault → String
  | .noFile name => "File " ++ Text.quoted name ++ " does not exist."
  | .directory name => "File " ++ Text.quoted name ++ " is a directory."
  | .file name => "Directory " ++ Text.quoted name ++ " is a file."
  | .notAmong value choices =>
    Text.quoted value ++ " is not one of " ++ ", ".intercalate (choices.map Text.quoted) ++ "."

/-- What is wrong with a command line. An option or command that is unknown comes with the known
names that are similar to its own; any other option is named by all of its spellings. -/
inductive UsageError where
  | unknownOption (spelling : String) (similar : List String)
  | noArgument (spelling : String)
  | needlessArgument (spelling : String)
  | invalidValue (spellings : List String) (fault : ValueFault)
  | missingOption (spellings : List String)
  | extraWords (words : List String)
  | unknownCommand (name : String) (similar : List String)
  | noCommand
  | noTemplatesDirectory
  | diagram (error : Diagram.LoadError)
deriving DecidableEq, Repr

namespace UsageError

/-- The spellings of an option. -/
def spelled (spellings : List String) : String :=
  " / ".intercalate (spellings.map fun spelling => "'" ++ spelling ++ "'")

/-- The hint at similar names. -/
def hint : List String → String
  | [] => ""
  | [name] => " Did you mean " ++ Text.quoted name ++ "?"
  | names => " (Did you mean one of: " ++ ", ".intercalate (names.map Text.quoted) ++ "?)"

/-- The text for a diagram that cannot be read; an invalid one is followed by the number of its
issues. -/
def diagramMessage : Diagram.LoadError → String
  | .format (.invalid issues) =>
    (Diagram.FormatError.invalid issues).message ++ ": " ++ toString issues.length ++
      (if issues.length = 1 then " validation error" else " validation errors") ++ " for Diagram"
  | error => error.message

/-- The text of an error. -/
def message : UsageError → String
  | .unknownOption spelling similar =>
    "No such option " ++ Text.quoted spelling ++ "." ++ hint similar
  | .noArgument spelling => "Option " ++ Text.quoted spelling ++ " requires an argument."
  | .needlessArgument spelling => "Option " ++ Text.quoted spelling ++ " does not take a value."
  | .invalidValue spellings fault =>
    "Invalid value for " ++ spelled spellings ++ ": " ++ fault.message
  | .missingOption spellings => "Missing option " ++ spelled spellings ++ "."
  | .extraWords words =>
    "Got unexpected extra argument" ++ (if words.length = 1 then "" else "s") ++
      " (" ++ " ".intercalate words ++ ")"
  | .unknownCommand name similar =>
    "No such command " ++ Text.quoted name ++ "." ++ hint similar
  | .noCommand => "Missing command."
  | .noTemplatesDirectory => "Pass --dir or set THREAT_MAP_TEMPLATES_DIR"
  | .diagram error => diagramMessage error

end UsageError
end ThreatAnalysis
