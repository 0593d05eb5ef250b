import ThreatAnalysis.CommandLine.Similarity
import ThreatAnalysis.CommandLine.UsageError

/-!
Scanning a command line. A word that starts with a dash and goes on is an option, or several: one
with a long spelling, whose argument may follow an equals sign, or a cluster of options with
spellings of one letter, of which the first that takes an argument takes the rest of the word. An
option whose argument is not within its word takes the next word, whatever it is. Two dashes end
the options. Where options may not stand among the other words, the first of those ends them too.
-/
namespace ThreatAnalysis

/-- What a spelling of an option asks for. -/
inductive Effect where
  /-- It takes an argument. -/
  | argument
  /-- It switches the option on or off. -/
  | switch (on : Bool)
deriving DecidableEq, Repr

/-- A spelling of an option. -/
structure Spelling (α : Type) where
  name : String
  option : α
  effect : Effect

/-- The value that an occurrence of an option gives it. -/
inductive OptionValue where
  | argument (text : String)
  | switch (on : Bool)
deriving DecidableEq, Repr

/-- An occurrence of an option. -/
structure Occurrence (α : Type) where
  option : α
  value : OptionValue

/-- The options and the other words of a command line, in order. -/
structure Scan (α : Type) where
  occurrences : List (Occurrence α)
  words : List String

namespace Spelling
variable {α : Type}

/-- The spelling with a name. -/
def find? (spellings : List (Spelling α)) (name : String) : Option (Spelling α) :=
  spellings.find? fun spelling => spelling.name == name

/-- Whether the spelling is a long one, which starts with two dashes. -/
def isLong (spelling : Spelling α) : Bool :=
  "--".isPrefixOf spelling.name

/-- The names of the long spellings. -/
def longNames (spellings : List (Spelling α)) : List String :=
  (spellings.filter isLong).map (·.name)

/-- The names of an option. -/
def namesOf [DecidableEq α] (spellings : List (Spelling α)) (option : α) : List String :=
  (spellings.filter fun spelling => spelling.option = option).map (·.name)

end Spelling

namespace Scan
variable {α : Type}

/-- What a word says: the options that are complete, and one that takes the next word. -/
structure Reading (α : Type) where
  complete : List (Occurrence α)
  pending : Option (Spelling α)

/-- A cluster of options. -/
def readCluster (spellings : List (Spelling α)) : List Char → Except UsageError (Reading α)
  | [] => .ok ⟨[], none⟩
  | letter :: rest =>
    let name := String.ofList ['-', letter]
    match Spelling.find? spellings name with
    | none => .error (.unknownOption name [])
    | some spelling =>
      match spelling.effect with
      | .argument =>
        if rest.isEmpty then .ok ⟨[], some spelling⟩
        else .ok ⟨[⟨spelling.option, .argument (String.ofList rest)⟩], none⟩
      | .switch on => do
        let reading ← readCluster spellings rest
        return { reading with complete := ⟨spelling.option, .switch on⟩ :: reading.complete }

/-- A word divided at its first equals sign, if it has one. -/
def divide (word : List Char) : String × Option String :=
  match word.dropWhile (· ≠ '=') with
  | [] => (String.ofList word, none)
  | _ :: argument => (String.ofList (word.takeWhile (· ≠ '=')), some (String.ofList argument))

/-- An option with a long spelling. -/
def readLong (spelling : Spelling α) (argument : Option String) : Except UsageError (Reading α) :=
  match spelling.effect, argument with
  | .argument, some text => .ok ⟨[⟨spelling.option, .argument text⟩], none⟩
  | .argument, none => .ok ⟨[], some spelling⟩
  | .switch _, some _ => .error (.needlessArgument spelling.name)
  | .switch on, none => .ok ⟨[⟨spelling.option, .switch on⟩], none⟩

/-- A word that is an option, or several. -/
def readOption (spellings : List (Spelling α)) (word : List Char) : Except UsageError (Reading α) :=
  let (name, argument) := divide word
  match Spelling.find? (spellings.filter Spelling.isLong) name, word with
  | some spelling, _ => readLong spelling argument
  | none, '-' :: '-' :: _ =>
    .error (.unknownOption name (Similarity.closest (Spelling.longNames spellings) name))
  | none, _ => readCluster (spellings.filter fun spelling => !spelling.isLong) word.tail

/-- Whether a word is an option. -/
def isOption : List Char → Bool
  | '-' :: _ :: _ => true
  | _ => false

/-- Puts occurrences in front. -/
def after (occurrences : List (Occurrence α)) (scan : Scan α) : Scan α :=
  { scan with occurrences := occurrences ++ scan.occurrences }

/-- Puts a word in front. -/
def afterWord (word : String) (scan : Scan α) : Scan α :=
  { scan with words := word :: scan.words }

/-- Scans a command line, in which options may stand among the other words or only before them. -/
def ofWords (spellings : List (Spelling α)) (among : Bool) :
    List String → Except UsageError (Scan α)
  | [] => .ok ⟨[], []⟩
  | word :: rest =>
    if word = "--" then .ok ⟨[], rest⟩
    else if isOption word.toList then do
      let reading ← readOption spellings word.toList
      match reading.pending with
      | none => return (← ofWords spellings among rest).after reading.complete
      | some spelling =>
        match rest with
        | [] => .error (.noArgument spelling.name)
        | argument :: rest =>
          let taken := ⟨spelling.option, .argument argument⟩
          return (← ofWords spellings among rest).after (reading.complete ++ [taken])
    else if among then return (← ofWords spellings among rest).afterWord word
    else .ok ⟨[], word :: rest⟩

variable [DecidableEq α]

/-- The value that the last occurrence of an option gives it. -/
def value? (scan : Scan α) (option : α) : Option OptionValue :=
  ((scan.occurrences.filter fun occurrence => occurrence.option = option).getLast?).map (·.value)

/-- The argument of an option. -/
def argument? (scan : Scan α) (option : α) : Option String :=
  match scan.value? option with
  | some (.argument text) => some text
  | _ => none

/-- Whether an option is switched on or off. -/
def switch? (scan : Scan α) (option : α) : Option Bool :=
  match scan.value? option with
  | some (.switch on) => some on
  | _ => none

/-- Whether an option occurs. -/
def mentions (scan : Scan α) (option : α) : Bool :=
  (scan.value? option).isSome

/-- The first problem that a check finds, which looks at the options in the order in which they
occur first. -/
def firstProblem? {π : Type} (scan : Scan α) (check : α → Option π) : Option π :=
  (scan.occurrences.map (·.option)).findSome? check

end Scan
end ThreatAnalysis
