import Dossier.CommandLine.Outcome
import Dossier.Json.Block

/-!
The program: `run`, `alerts` and `json-schema`.

Reads the files which a command names, lets the command do its work, and prints what comes of it.
Remote instances are out of reach from here; exploring one ends in an error of its store.
-/

namespace Dossier.CommandLine

def Command.paths : Command → List String
  | .run request => request.config :: request.idsFile.toList ++ request.fixture.toList
  | .alerts path => [path]
  | .schema => []

def Invocation.print (invocation : Invocation) (json : Json) : String :=
  match invocation.format with
  | .json => json.compact
  | .yaml => json.block

def helpText : String :=
  "Explore CRM accounts, their related records, and the alerts they trigger.\n\n" ++
  "Usage: account-explorer [-o json|yaml] <COMMAND>\n\n" ++
  "Commands:\n" ++
  "  run --config <PATH> [--ids <IDS>] [--ids-file <PATH>]\n" ++
  "      [--fixture <PATH> | --instance-url <URL> --access-token <TOKEN>]\n" ++
  "      [--concurrency <N>] [--timeout <DURATION>]\n" ++
  "                          Explore accounts and evaluate the configured alerts against them\n" ++
  "  alerts --config <PATH>  Print the sanitized alert definitions of a configuration\n" ++
  "  json-schema             Print the JSON schema of the explorer configuration"

def UsageError.message : UsageError → String
  | .help | .nothing => helpText
  | .version => "account-explorer"
  | .noCommand => "a command is required"
  | .unknownCommand => "there is no such command"
  | .unknownArgument => "unexpected argument"
  | .invalidValue => "invalid value for an option"
  | .malformedValue => "malformed value for an option"
  | .surplusValue => "unexpected value for an option"
  | .conflict => "options cannot be used together"
  | .missingOption => "--config is required"

def UsageError.isAnswer : UsageError → Bool
  | .help | .version => true
  | _ => false

/-- An instance to which there is no connection. -/
def unconnected (client : Remote.Client) : Store Unit where
  org := client.org
  responsive := true
  describe _ _ := (.error (.transport ("no connection to " ++ client.org)), ())
  query _ _ := (.error (.transport ("no connection to " ++ client.org)), ())

def readFiles (paths : List String) : IO Files := do
  let contents ← paths.mapM fun (path : String) => do
    let content : Except String String ←
      try
        let content ← IO.FS.readFile path
        pure (.ok content)
      catch error => pure (.error (toString error))
    pure (path, content)
  return fun path => (contents.lookup path).getD (.error "not read")

def padded (length n : Nat) : String :=
  let digits := Nat.toDigits 16 n
  String.ofList (Number.zeros (length - digits.length) ++ digits)

/-- Identifiers of one random stem, told apart by their last digits. -/
def freshIds : IO (Nat → String) := do
  let stem ← IO.rand 0 (wordSize 32 - 1)
  let branch ← IO.rand 0 (wordSize 16 - 1)
  return fun n => padded 8 stem ++ "-" ++ padded 4 branch ++ "-4000-8000-" ++ padded 12 n

/-- Without a token among the options, that of the surroundings is used. -/
def Command.withToken (token : Option String) : Command → Command
  | .run request => .run { request with accessToken := request.accessToken.or token }
  | command => command

def Invocation.perform (invocation : Invocation) : IO UInt32 := do
  let token ← IO.getEnv "ACCOUNT_EXPLORER_ACCESS_TOKEN"
  let command := invocation.command.withToken token
  let files ← readFiles command.paths
  match (execute files (← freshIds) unconnected command ()).1 with
  | .ok json =>
      IO.println (invocation.print json)
      return 0
  | .error error =>
      let cause := if error.rejectsDocument then ["malformed document"] else []
      IO.eprintln ("Error: " ++ ": ".intercalate (error.messages ++ cause))
      return 1

end Dossier.CommandLine

open Dossier.CommandLine in
def main (args : List String) : IO UInt32 := do
  match Invocation.ofWords args with
  | .ok invocation => invocation.perform
  | .error error =>
      if error.isAnswer then
        IO.println error.message
        return 0
      else
        IO.eprintln error.message
        return 2
