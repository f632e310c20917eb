import Dossier.CommandLine.Invocation
import Dossier.Number.Digits

/-!
Options of the command line, and the settings which they make.
-/

namespace Dossier.CommandLine

/-- Why a command line does not say what to do. -/
inductive UsageError where
  | help
  | version
  | nothing
  | noCommand
  | unknownCommand
  | unknownArgument
  /-- A value is absent, empty, or none of those which can be chosen. -/
  | invalidValue
  | malformedValue
  /-- A value is given to an option which has none. -/
  | surplusValue
  /-- An option is repeated, or excluded by another one. -/
  | conflict
  | missingOption
deriving DecidableEq, Repr

inductive OptionKey where
  | config
  | ids
  | idsFile
  | fixture
  | instanceUrl
  | accessToken
  | concurrency
  | timeout
  | output
  | help
  | version
deriving DecidableEq, Repr

inductive Setting where
  | config (path : String)
  | ids (text : String)
  | idsFile (path : String)
  | fixture (path : String)
  | instanceUrl (url : Remote.Url)
  | accessToken (token : String)
  | concurrency (count : Nat)
  | timeout (duration : Duration)
  | output (format : OutputFormat)
deriving DecidableEq, Repr

namespace Setting

def key : Setting → OptionKey
  | config _ => .config
  | ids _ => .ids
  | idsFile _ => .idsFile
  | fixture _ => .fixture
  | instanceUrl _ => .instanceUrl
  | accessToken _ => .accessToken
  | concurrency _ => .concurrency
  | timeout _ => .timeout
  | output _ => .output

end Setting

namespace OptionKey

def name : OptionKey → String
  | config => "config"
  | ids => "ids"
  | idsFile => "ids-file"
  | fixture => "fixture"
  | instanceUrl => "instance-url"
  | accessToken => "access-token"
  | concurrency => "concurrency"
  | timeout => "timeout"
  | output => "output"
  | help => "help"
  | version => "version"

def letter? : OptionKey → Option Char
  | output => some 'o'
  | help => some 'h'
  | version => some 'V'
  | _ => none

/-- Options which are asked as they stand, and what is answered. -/
def inquiry? : OptionKey → Option UsageError
  | help => some .help
  | version => some .version
  | _ => none

def count? (text : String) : Option Nat :=
  let digits :=
    match text.toList with
    | '+' :: rest => rest
    | cs => cs
  let value := Digits.decimal digits
  if !digits.isEmpty && digits.all Char.isDigit && value < wordSize 64 then some value else none

def path (setting : String → Setting) (value : String) : Except UsageError Setting :=
  if value == "" then .error .invalidValue else .ok (setting value)

def wellFormed (setting : α → Setting) (value : Option α) : Except UsageError Setting :=
  match value with
  | some value => .ok (setting value)
  | none => .error .malformedValue

def setting (key : OptionKey) (value : String) : Except UsageError Setting :=
  match key with
  | config => path .config value
  | ids => .ok (.ids value)
  | idsFile => path .idsFile value
  | fixture => path .fixture value
  | instanceUrl => wellFormed .instanceUrl (Remote.Url.parse value).toOption
  | accessToken => .ok (.accessToken value)
  | concurrency => wellFormed .concurrency (count? value)
  | timeout => wellFormed .timeout (Duration.parse? value)
  | output =>
      match OutputFormat.parse? value with
      | some format => .ok (.output format)
      | none => .error .invalidValue
  | help | version => .error .surplusValue

end OptionKey

end Dossier.CommandLine
