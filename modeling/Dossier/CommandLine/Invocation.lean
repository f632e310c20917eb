import Dossier.Duration
import Dossier.Remote.Url

/-!
What the command line can be told to do.
-/

namespace Dossier.CommandLine

inductive OutputFormat where
  | json
  | yaml
deriving DecidableEq, Repr

namespace OutputFormat

def parse? : String → Option OutputFormat
  | "json" => some .json
  | "yaml" => some .yaml
  | _ => none

end OutputFormat

/-- A run as it is asked for, before any file is read. -/
structure RunRequest where
  config : String
  ids : Option String
  idsFile : Option String
  fixture : Option String
  instanceUrl : Option Remote.Url
  accessToken : Option String
  /-- How many accounts are explored at once, which makes no difference to what is found. -/
  concurrency : Nat
  timeout : Duration
deriving DecidableEq, Repr

inductive Command where
  | run (request : RunRequest)
  | alerts (config : String)
  | schema
deriving DecidableEq, Repr

structure Invocation where
  command : Command
  format : OutputFormat
deriving DecidableEq, Repr

end Dossier.CommandLine
