import Dossier.CommandLine.Words
import Dossier.Config.Schema
import Dossier.Remote.Client
import Dossier.Store.Fixture
import Dossier.Store.Outage
import Dossier.Text.Quoted

/-!
What comes of commands: a document to print, or an error.

Files are read through `Files`, and remote instances are reached through whatever store is made of a
client, so that a command is a function of both.
-/

namespace Dossier.CommandLine

/-- The content of the file at a path, or why it cannot be read. -/
abbrev Files := String → Except String String

inductive CommandError where
  | unreadable (content path reason : String)
  | config (path : String) (error : ConfigError)
  | fixture (path : String)
  | noAccounts
  | noToken
  | noStore
  | run (error : RunError)

namespace CommandError

def messages : CommandError → List String
  | unreadable content path reason =>
      ["failed to read " ++ content ++ " " ++ Text.quoted path, reason]
  | config path error =>
      ("failed to load configuration " ++ Text.quoted path) :: error.messages
  | fixture path => ["failed to parse fixture " ++ Text.quoted path]
  | noAccounts => ["one of --ids or --ids-file is required"]
  | noToken => ["--access-token is required with --instance-url"]
  | noStore => ["one of --fixture or --instance-url is required"]
  | run error => error.messages

/-- Is a document at fault, whose reader would have more to say? -/
def rejectsDocument : CommandError → Bool
  | config _ .parse => true
  | fixture _ => true
  | _ => false

end CommandError

def readFile (files : Files) (content path : String) : Except CommandError String :=
  (files path).mapError (.unreadable content path)

def loadConfig (files : Files) (path : String) : Except CommandError Config := do
  (Config.ofText (← readFile files "configuration" path)).mapError (.config path)

inductive Source where
  | fixture (fixture : Fixture)
  | remote (client : Remote.Client)

namespace RunRequest

variable (files : Files) (request : RunRequest)

def accountIds : Except CommandError (List String) := do
  match request.ids, request.idsFile with
  | none, none => throw .noAccounts
  | given, none => return AccountId.parse (given.getD "")
  | given, some path =>
      let content ← readFile files "account identifiers" path
      return AccountId.parse (given.getD "" ++ "\n" ++ content)

def source : Except CommandError Source := do
  match request.fixture, request.instanceUrl with
  | some path, _ =>
      match Fixture.ofText? (← readFile files "fixture" path) with
      | some fixture => return .fixture fixture
      | none => throw (.fixture path)
  | none, some url =>
      match request.accessToken with
      | some token => return .remote (Remote.Client.make url token)
      | none => throw .noToken
  | none, none => throw .noStore

end RunRequest

section Execution

variable {σ : Type} (files : Files) (fresh : Nat → String) (connect : Remote.Client → Store σ)

/-- A remote instance takes its time, so that it does not respond within none at all. -/
def connected (client : Remote.Client) (timeout : Duration) : Store σ :=
  if timeout.nanoseconds = 0 then (connect client).stalled else connect client

/-- What a run reads before it asks a store: all that is needed, one after the other. -/
def prepare (request : RunRequest) : Except CommandError (Config × List String × Source) := do
  let config ← loadConfig files request.config
  let accountIds ← request.accountIds files
  return (config, accountIds, ← request.source files)

def execute (command : Command) (state : σ) : Except CommandError Json × σ :=
  match command with
  | .schema => (.ok Config.schema, state)
  | .alerts path =>
      ((loadConfig files path).map fun config =>
        .array ((config.loadAlerts fresh).map AlertDefinition.toJson), state)
  | .run request =>
      let report (result : Except RunError RunResult) : Except CommandError Json :=
        (result.map RunResult.toJson).mapError .run
      match prepare files request with
      | .error error => (.error error, state)
      | .ok (config, accountIds, .fixture fixture) =>
          let alerts := config.loadAlerts fresh
          let (result, _) := run fixture.store config alerts accountIds request.timeout ()
          (report result, state)
      | .ok (config, accountIds, .remote client) =>
          let alerts := config.loadAlerts fresh
          let (result, state) :=
            run (connected connect client request.timeout) config alerts accountIds
              request.timeout state
          (report result, state)

end Execution

end Dossier.CommandLine
