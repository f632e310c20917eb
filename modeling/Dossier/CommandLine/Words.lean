import Dossier.CommandLine.Setting
import Dossier.Run

/-!
The words of the command line.

The words are read one after the other.  An option whose value is still to come waits until the next
option, or the end of the words, shows that there is nothing more to it; only then is it looked at.
Words which are no options are the value of an option which has none yet, or else the name of a
command, whose own words follow.
-/

namespace Dossier.CommandLine

inductive Word where
  /-- Two dashes, after which there are no options. -/
  | separator
  | long (name : String) (attached : Option String)
  | short (letter : Char) (attached : Option String)
  | plain (text : String)
deriving DecidableEq, Repr

namespace Word

/-- A name, and what stands after its equals sign. -/
def ofLong (cs : List Char) : Word :=
  let name := cs.takeWhile (· != '=')
  match cs.drop name.length with
  | _ :: value => .long (String.ofList name) (some (String.ofList value))
  | [] => .long (String.ofList name) none

/-- A letter, and what stands after it, with or without an equals sign. -/
def ofShort (letter : Char) : List Char → Word
  | [] => .short letter none
  | '=' :: value => .short letter (some (String.ofList value))
  | value => .short letter (some (String.ofList value))

def ofString (word : String) : Word :=
  match word.toList with
  | ['-', '-'] => .separator
  | '-' :: '-' :: cs => ofLong cs
  | '-' :: letter :: cs => ofShort letter cs
  | _ => .plain word

end Word

structure Reading where
  settings : List Setting
  /-- The option which waits, and its value if it has come. -/
  pending : Option (OptionKey × Option String)

namespace Reading

def start : Reading := ⟨[], none⟩

/-- Nothing more comes to the option which waits. -/
def settle (reading : Reading) : Except UsageError Reading :=
  match reading.pending with
  | none => .ok reading
  | some (_, none) => .error .invalidValue
  | some (key, some value) =>
      if reading.settings.any (·.key == key) then .error .conflict
      else
        match key.setting value with
        | .ok setting => .ok ⟨reading.settings ++ [setting], none⟩
        | .error error => .error error

/-- The next option, with its value if that is attached.  It is looked at at once if so. -/
def take (reading : Reading) (key : OptionKey) (attached : Option String) :
    Except UsageError Reading := do
  let settled ← reading.settle
  match key.inquiry?, attached with
  | some answer, _ => .error answer
  | none, none => return { settled with pending := some (key, none) }
  | none, some value => settle { settled with pending := some (key, some value) }

def long (options : List OptionKey) (reading : Reading) (name : String)
    (attached : Option String) : Except UsageError Reading :=
  match options.find? (·.name == name) with
  | none => .error .unknownArgument
  | some key =>
      if key.inquiry?.isSome && attached.isSome then .error .surplusValue
      else reading.take key attached

/-- An option by its letter.  What is attached to one without a value is not looked at. -/
def short (options : List OptionKey) (reading : Reading) (letter : Char)
    (attached : Option String) : Except UsageError Reading :=
  match options.find? (·.letter? == some letter) with
  | none => .error .unknownArgument
  | some key => reading.take key attached

end Reading

/-- Reads words up to the name of a command, and gives back that name with the words after it.  A
word which is neither is unknown; where it could have been a command, it is an unknown one. -/
def readWords (options : List OptionKey) (commands : List String) (reading : Reading) :
    List String → Except UsageError (Reading × Option (String × List String))
  | [] => .ok (reading, none)
  | word :: rest =>
      match Word.ofString word with
      | .separator =>
          match rest with
          | [] => .ok (reading, none)
          | next :: _ =>
              if commands.isEmpty || commands.contains next then .error .unknownArgument
              else .error .unknownCommand
      | .long name attached => do
          readWords options commands (← reading.long options name attached) rest
      | .short letter attached => do
          readWords options commands (← reading.short options letter attached) rest
      | .plain text =>
          match reading.pending with
          | some (key, none) =>
              readWords options commands { reading with pending := some (key, some text) } rest
          | _ =>
              if commands.contains text then .ok (reading, some (text, rest))
              else if commands.isEmpty then .error .unknownArgument
              else .error .unknownCommand

def settings (options : List OptionKey) (words : List String) :
    Except UsageError (List Setting) := do
  let (reading, _) ← readWords options [] .start words
  return (← reading.settle).settings

section Values

variable (settings : List Setting)

def configPath : Except UsageError String :=
  match settings.findSome? fun | .config path => some path | _ => none with
  | some path => .ok path
  | none => .error .missingOption

def outputFormat? : Option OutputFormat :=
  settings.findSome? fun | .output format => some format | _ => none

def isGiven (key : OptionKey) : Bool :=
  settings.any (·.key == key)

def runRequest : Except UsageError RunRequest := do
  if isGiven settings .fixture && isGiven settings .instanceUrl then throw .conflict
  return {
    config := ← configPath settings
    ids := settings.findSome? fun | .ids text => some text | _ => none
    idsFile := settings.findSome? fun | .idsFile path => some path | _ => none
    fixture := settings.findSome? fun | .fixture path => some path | _ => none
    instanceUrl := settings.findSome? fun | .instanceUrl url => some url | _ => none
    accessToken := settings.findSome? fun | .accessToken token => some token | _ => none
    concurrency := (settings.findSome? fun | .concurrency n => some n | _ => none).getD 8
    timeout := (settings.findSome? fun | .timeout duration => some duration | _ => none).getD
      Run.defaultTimeout }

end Values

def runOptions : List OptionKey :=
  [.config, .ids, .idsFile, .fixture, .instanceUrl, .accessToken, .concurrency, .timeout, .output,
    .help]

def alertsOptions : List OptionKey := [.config, .output, .help]

def schemaOptions : List OptionKey := [.output, .help]

def topOptions : List OptionKey := [.output, .help, .version]

def commandNames : List String := ["run", "alerts", "json-schema", "help"]

/-- What the command of a name does, and the format if its words say one. -/
def readCommand (name : String) (words : List String) :
    Except UsageError (Command × Option OutputFormat) := do
  match name with
  | "run" =>
      let settings ← settings runOptions words
      return (.run (← runRequest settings), outputFormat? settings)
  | "alerts" =>
      let settings ← settings alertsOptions words
      return (.alerts (← configPath settings), outputFormat? settings)
  | "json-schema" =>
      let settings ← settings schemaOptions words
      return (.schema, outputFormat? settings)
  | _ =>
      match words with
      | [] => throw .help
      | [topic] => if commandNames.contains topic then throw .help else throw .unknownCommand
      | _ => throw .unknownCommand

/-- What the words say.  The format may be said before the command and after it; the latter
counts. -/
def Invocation.ofWords (words : List String) : Except UsageError Invocation := do
  let (reading, found) ← readWords topOptions commandNames .start words
  match found with
  | none =>
      if (← reading.settle).settings.isEmpty then throw .nothing else throw .noCommand
  | some (name, rest) =>
      let (command, format) ← readCommand name rest
      let before ← reading.settle
      return ⟨command, (format.or (outputFormat? before.settings)).getD .json⟩

end Dossier.CommandLine
