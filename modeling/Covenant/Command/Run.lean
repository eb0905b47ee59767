import Covenant.Command.Clients
import Covenant.Command.Tasks
import Covenant.Config.Stored
import Covenant.Guard.Folder
/-!
# Running a request

`run` does what was asked for with a configuration; `perform` also loads the configuration, unless
only an example of one is asked for.
-/

namespace Covenant.Command

open Covenant.Contract Covenant.Files Covenant.Guard Covenant.Text Covenant.Time

/-- Scans a folder. -/
def scan [Monad m] [Host m] (config : Config) (options : ScanOptions) :
    ExceptT CommandError m Ending := do
  let rules ← raise .guard config.guard.settings.rules
  let report ← (scanFolder (m := m) rules options.root).adapt .guard
  match options.format with
  | .text => say (m := m) report.text
  | .json => say (m := m) (report.json ++ "\n")
  return if options.strict && !report.isClean then .violations else .done

/-- The address from which the contract is fetched. -/
def syncAddress (config : Config) (options : SyncOptions) : Except CommandError String :=
  match (options.url <|> config.contract.syncUrl).map trimString with
  | some address =>
    if address.isEmpty then .error noAddress else .ok address
  | none => .error noAddress
where
  /-- No address is set. -/
  noAddress : CommandError := .usage "no sync url; pass --url or set contract.sync_url"

/-- Fetches the contract. -/
def sync [Monad m] [Host m] (config : Config) (options : SyncOptions) :
    ExceptT CommandError m Ending := do
  let address ← raise id (syncAddress config options)
  let path := contractPath config options.output
  let timeoutMs := options.timeoutMs.getD config.contract.syncTimeoutMs
  let document ← (Contract.sync (m := m) address path timeoutMs).adapt .sync
  say (m := m) ("synced " ++ document.info.title ++ " " ++ document.info.version ++ " to " ++ path
    ++ "\n")
  return .done

/-- Says where the configuration was read from. -/
def validateConfig [Monad m] [Host m] (config : Config) : ExceptT CommandError m Ending := do
  say (m := m) ("config ok: "
    ++ config.source.getD "defaults (no apiforge.toml found)" ++ "\n")
  return .done

/-- Shows an example of a configuration. -/
def showExample [Monad m] [Host m] : ExceptT CommandError m Ending := do
  say (m := m) Config.example_
  return .done

/-- Does what is asked for, with a configuration, at a moment. -/
def run [Monad m] [Host m] (config : Config) (now : Moment) :
    Request → ExceptT CommandError m Ending
  | .generate options => generate config options
  | .check options => check config options
  | .plan options => plan config now options
  | .status options => status config options
  | .scan options => scan config options
  | .sync options => sync config options
  | .validateConfig => validateConfig config
  | .exampleConfig => showExample

/-- Does what is asked for, with the configuration at a path, or the one that the environment
names, or the default one. -/
def perform [Monad m] [Host m] (path setting : Option String) (now : Moment) (request : Request) :
    ExceptT CommandError m Ending := do
  if request == .exampleConfig then showExample
  else
    let config ← (Config.load (m := m) path setting).adapt .config
    run config now request

end Covenant.Command
