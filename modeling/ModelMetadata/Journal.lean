import ModelMetadata.Fault
import ModelMetadata.Log
import ModelMetadata.Table

/-!
What describing leaves behind besides its result: the modules that references to types are imported
from, and the log. Both only grow, and both keep what was added before a fault.
-/
set_option autoImplicit false
namespace ModelMetadata

/-- Modules by the canonical name of the type imported from them. -/
abbrev TypeImports := Table String

namespace TypeImports

/-- The first module recorded for a name stays. -/
def record (imports : TypeImports) (canonicalName moduleName : String) : TypeImports :=
  Table.insertNew imports canonicalName moduleName

def insertSorted (text : String) : List String → List String
  | [] => [text]
  | other :: rest =>
    if text < other then text :: other :: rest
    else if text = other then other :: rest
    else other :: insertSorted text rest

def modules (imports : TypeImports) : List String :=
  (Table.values imports).foldl (fun sorted name => insertSorted name sorted) []

end TypeImports

structure Journal where
  typeImports : TypeImports := {}
  log : List LogRecord := []
deriving Inhabited

/-- A step of describing. It may fail, and keeps its journal when it does. -/
abbrev Describe := ExceptT Fault (StateM Journal)

namespace Describe

def ofExcept {α : Type} (result : Except Fault α) : Describe α := fun journal => (result, journal)

def recordImport (canonicalName moduleName : String) : Describe Unit := fun journal =>
  (.ok (), { journal with typeImports := journal.typeImports.record canonicalName moduleName })

def log (record : LogRecord) : Describe Unit := fun journal =>
  (.ok (), { journal with log := journal.log ++ [record] })

def note (isWanted : Bool) (text : String) : Describe Unit :=
  if isWanted then log (.debug text) else pure ()

end Describe
end ModelMetadata
