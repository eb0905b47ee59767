import Covenant.Contract.Load
import Covenant.Files.Host
/-!
# Stored contracts

A contract in a file is read as its name says.
-/

namespace Covenant.Contract

open Covenant.Files

/-- What keeps the contract at a path from being read. -/
def LoadError.ofFault (path : String) : FileFault → LoadError
  | .notFound => .notFound path
  | .isFolder => .isDirectory path
  | fault => .io fault.message

/-- The contract in a file. -/
def load [Monad m] [Host m] (path : String) : ExceptT LoadError m Document := do
  let content ← (Host.read (m := m) path).adapt (.ofFault path)
  return ← ofBytes path content

end Covenant.Contract
