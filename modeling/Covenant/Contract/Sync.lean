import Covenant.Contract.Load
import Covenant.Files.Replace
import Covenant.Web.Address
/-!
# Fetching a contract

A contract is fetched from an address of the web by one request, read, and only then written to a
file as a whole.
-/

namespace Covenant.Contract

open Covenant.Files

/-- Why no contract was fetched. -/
inductive SyncError where
  | noAddress (address : String)
  | wrongScheme (address scheme : String)
  | wrongStatus (address : String) (status : Nat)
  | transport (address detail : String)
  | tooLarge (address : String)
  | contract (address : String) (reason : LoadError)
  | io (path detail : String)
deriving Repr

/-- The error in words. -/
def SyncError.message : SyncError → String
  | .noAddress address => "invalid contract url " ++ address ++ ": not an address of the web"
  | .wrongScheme address scheme =>
    "invalid contract url " ++ address ++ ": unsupported scheme " ++ scheme
  | .wrongStatus address status =>
    "contract fetch from " ++ address ++ " failed with status " ++ toString status
  | .transport address detail => "contract fetch from " ++ address ++ " failed: " ++ detail
  | .tooLarge address =>
    "contract fetched from " ++ address ++ " exceeds " ++ toString maxBytes ++ " bytes"
  | .contract address reason =>
    "contract fetched from " ++ address ++ " is invalid: " ++ reason.message
  | .io path detail => "failed to write contract to " ++ path ++ ": " ++ detail

/-- The address is one from which a contract may be fetched. -/
def checkAddress (address : String) : Except SyncError Unit :=
  match Web.schemeOf? address with
  | none => .error (.noAddress address)
  | some scheme =>
    if scheme == "http" || scheme == "https" then .ok () else .error (.wrongScheme address scheme)

/-- The contract that a server sent. -/
def ofAnswer (address : String) (answer : ServerAnswer) : Except SyncError Document :=
  if answer.status != 200 then .error (.wrongStatus address answer.status)
  else if maxBytes < answer.body.size then .error (.tooLarge address)
  else (ofBytes (Web.pathOf address) answer.body).mapError (.contract address)

/-- Fetches a contract and writes it to a file. -/
def sync [Monad m] [Host m] (address path : String) (timeoutMs : Nat) :
    ExceptT SyncError m Document := do
  checkAddress address
  let answer ← (Host.fetch (m := m) address timeoutMs).adapt (.transport address)
  let document ← ofAnswer address answer
  (writeFile (m := m) path answer.body).adapt fun fault => .io path fault.message
  return document

end Covenant.Contract
