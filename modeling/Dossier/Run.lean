import Dossier.Alert.Document
import Dossier.Alert.Evaluate
import Dossier.Alert.Sanitize
import Dossier.Duration
import Dossier.Fetch.Basic
import Dossier.Graph.Resolver
import Dossier.Payload.Annotate
import Dossier.Payload.Render

/-!
Runs: exploring a list of accounts.

A run fetches the records of its accounts, resolves the graph of each account, evaluates the alerts
on it, and renders what it found.  Degraded types and alerts which cannot be evaluated are told in
warnings; a failing store, or one which keeps the run waiting, ends it.
-/

namespace Dossier

structure ExplorerData where
  accounts : List AccountPayload
  objects : List ObjectView
  summary : List (String × Nat)
  alerts : List AlertDefinition
  warnings : Warnings

structure RunResult where
  accountIds : List String
  missingAccountIds : List String
  data : ExplorerData

inductive RunError where
  | timedOut (timeout : Duration)
  | fetch (error : FetchError)
deriving DecidableEq, Repr

namespace RunError

def messages : RunError → List String
  | timedOut timeout => ["fetching account records timed out after " ++ timeout.text]
  | fetch error => "failed to fetch account records" :: error.messages

end RunError

namespace Config

def loadAlerts (config : Config) (fresh : Nat → String) : List AlertDefinition :=
  (sanitizeAlerts fresh config.alerts).alerts

end Config

namespace Run

/-- How long a run waits for its records where nothing else is said. -/
def defaultTimeout : Duration := .ofSeconds 300

def triggered (alerts : List AlertDefinition) (graph : AccountGraph) : List Triggered :=
  alerts.filterMap fun alert =>
    match alert.evaluate graph with
    | .ok outcome => if outcome.passed then some (Triggered.ofAlert alert outcome.found) else none
    | .error _ => none

/-- Alerts which cannot be evaluated are told about under keys of their own. -/
def alertWarnings (alerts : List AlertDefinition) (warnings : Warnings) : Warnings :=
  alerts.foldl (fun warnings alert =>
    match alert.rule.check with
    | .ok () => warnings
    | .error error =>
        warnings.insert ("alert:" ++ alert.id) (alert.label ++ ": " ++ error.message)) warnings

def exploreAccount (layout : Layout) (resolver : Resolver) (alerts : List AlertDefinition)
    (accountId : String) : AccountPayload :=
  let graph := resolver.resolve accountId
  (layout.render graph).attachAlerts (triggered alerts graph)

def explore (config : Config) (alerts : List AlertDefinition) (fetched : Fetched) : RunResult :=
  let layout := Layout.make config fetched.plans
  let resolver := Resolver.make config.registry fetched.records fetched.linkSources
  { accountIds := fetched.accountIds
    missingAccountIds := fetched.missingAccountIds
    data := {
      accounts := fetched.accountIds.map (exploreAccount layout resolver alerts)
      objects := layout.views
      summary := layout.summary resolver.pools
      alerts
      warnings := alertWarnings alerts fetched.warnings } }

/-- Without an account there is nothing to fetch. -/
def nothing (config : Config) (alerts : List AlertDefinition) : RunResult where
  accountIds := []
  missingAccountIds := []
  data := {
    accounts := []
    objects := (Layout.make config []).views
    summary := []
    alerts
    warnings := Warnings.empty }

end Run

/-- Explores the accounts among the candidates.  The cache is empty: nothing is known of the store's
types before the run. -/
def run (store : Store σ) (config : Config) (alerts : List AlertDefinition)
    (candidates : List String) (timeout : Duration) (state : σ) :
    Except RunError RunResult × σ :=
  let accountIds := AccountId.sanitize candidates
  if accountIds.isEmpty then (.ok (Run.nothing config alerts), state)
  else if !store.responsive then (.error (.timedOut timeout), state)
  else
    match fetch store config accountIds FieldCache.empty state with
    | (.ok fetched, _, state) => (.ok (Run.explore config alerts fetched), state)
    | (.error error, _, state) => (.error (.fetch error), state)

namespace ExplorerData

def toJson (data : ExplorerData) : Json :=
  .object ([("accounts", .array (data.accounts.map AccountPayload.toJson)),
    ("objects", .array (data.objects.map ObjectView.toJson)),
    ("summary", .object (data.summary.map fun (object, count) => (object, .integer count)))] ++
      (if data.alerts.isEmpty then []
        else [("alerts", .array (data.alerts.map AlertDefinition.toJson))]) ++
        (if data.warnings.entries.isEmpty then []
          else [("warnings", .object (data.warnings.entries.map fun (key, text) =>
            (key, .text text)))]))

end ExplorerData

namespace RunResult

def toJson (result : RunResult) : Json :=
  .object [("accountIds", .texts result.accountIds),
    ("missingAccountIds", .texts result.missingAccountIds), ("data", result.data.toJson)]

end RunResult

end Dossier
