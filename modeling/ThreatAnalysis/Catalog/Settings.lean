import ThreatAnalysis.Files.Path
import ThreatAnalysis.Record.Readers
import ThreatAnalysis.Record.Schema

/-!
Settings: where rules are loaded from and whether the supplemental ones apply. They are read from
named values, of which unknown ones are ignored, and from the environment, whose values yield to
named ones that are not null.
-/
namespace ThreatAnalysis

/-- Reads a switch: null stands for the default, and only true and the words `true` and `1` turn
it on. -/
def readSwitch (default : Bool) : Json → Bool
  | .null => default
  | .bool value => value
  | .string word => word == "true" || word == "1"
  | _ => false

/-- Where rules come from and whether the supplemental ones apply. -/
structure Settings where
  rulesDirectory : Path
  /-- The file of the supplemental rules, from the rules directory. -/
  supplementalFile : String
  /-- Files whose names start with this do not belong to the baseline. -/
  reservedPrefix : String
  supplementalEnabled : Bool
deriving DecidableEq, Repr

/-- The values of variables. -/
abbrev Environment := List (String × String)

/-- The value of a variable that is set and not empty. -/
def Environment.value? (environment : Environment) (name : String) : Option String :=
  (environment.lookup name).filter fun value => !value.isEmpty

/-- The directory of the templates, if the environment names one. -/
def Environment.templatesDirectory? (environment : Environment) : Option Path :=
  (environment.value? "THREAT_MAP_TEMPLATES_DIR").map Path.ofString

namespace Settings

/-- The named values. -/
inductive Field where
  | rulesDirectory
  | supplementalFile
  | reservedPrefix
  | supplementalEnabled
deriving DecidableEq, Repr

/-- The values of a field. -/
abbrev Value : Field → Type
  | .rulesDirectory => Path
  | .supplementalFile => String
  | .reservedPrefix => String
  | .supplementalEnabled => Bool

/-- Reads a path. -/
def readPath : Json → Reading Path
  | .string text => .ok (Path.ofString text)
  | _ => .error [.here .notPath]

/-- The named values of settings, their keys and defaults. -/
def schema : Schema where
  Field := Field
  decEq := inferInstance
  fields := [.rulesDirectory, .supplementalFile, .reservedPrefix, .supplementalEnabled]
  Value := Value
  key
    | .rulesDirectory => "rules_dir"
    | .supplementalFile => "supplemental_file"
    | .reservedPrefix => "supplemental_prefix"
    | .supplementalEnabled => "supplemental_enabled"
  otherKey _ := none
  required _ := false
  default
    | .rulesDirectory => .bundled
    | .supplementalFile => "enhanced-generic.json"
    | .reservedPrefix => "enhanced-"
    | .supplementalEnabled => true
  read
    | .rulesDirectory => readPath
    | .supplementalFile => Readers.text
    | .reservedPrefix => Readers.text
    | .supplementalEnabled => fun value => .ok (readSwitch true value)
  write
    | _, .rulesDirectory, path => .string path.toString
    | _, .supplementalFile, text => .string text
    | _, .reservedPrefix, text => .string text
    | _, .supplementalEnabled, flag => .bool flag

/-- The settings of a record of named values. -/
def ofRecord (record : Record schema) : Settings where
  rulesDirectory := record.get .rulesDirectory
  supplementalFile := record.get .supplementalFile
  reservedPrefix := record.get .reservedPrefix
  supplementalEnabled := record.get .supplementalEnabled

/-- Reads settings from named values. -/
def read (values : Json) : Reading Settings :=
  (schema.decode values).map ofRecord

/-- The settings in which nothing is named. -/
def default : Settings := ofRecord .empty

/-- The file of the supplemental rules. -/
def supplementalPath (settings : Settings) : Path :=
  settings.rulesDirectory.join (.ofString settings.supplementalFile)

/-- The switch of an environment, null if its variable is not set. -/
def environmentSwitch (environment : Environment) : Json :=
  match environment.lookup "THREAT_MAP_SUPPLEMENTAL_RULES" with
  | some word => .string word
  | none => .null

/-- The named values of an environment. The switch is named even if its variable is not set. -/
def environmentValues (environment : Environment) : Fields :=
  let directory := match environment.value? "THREAT_MAP_RULES_DIR" with
    | some path => [("rules_dir", Json.string path)]
    | none => []
  directory ++ [("supplemental_enabled", environmentSwitch environment)]

/-- Reads settings from an environment and named values, which win unless they are null. -/
def ofEnvironment (environment : Environment) (overrides : Fields) : Reading Settings :=
  read (.object (overrides.foldl (fun values (key, value) =>
    match value with
    | .null => values
    | value => Fields.put values key value) (environmentValues environment)))

/-- The settings of an environment. -/
def inEnvironment (environment : Environment) : Settings :=
  { default with
    rulesDirectory :=
      ((environment.value? "THREAT_MAP_RULES_DIR").map Path.ofString).getD default.rulesDirectory
    supplementalEnabled := readSwitch true (environmentSwitch environment) }

/-- The settings with some of them chosen otherwise. -/
def withChoices (settings : Settings) (rulesDirectory : Option Path) (supplemental : Option Bool) :
    Settings :=
  { settings with
    rulesDirectory := rulesDirectory.getD settings.rulesDirectory
    supplementalEnabled := supplemental.getD settings.supplementalEnabled }

end Settings
end ThreatAnalysis
