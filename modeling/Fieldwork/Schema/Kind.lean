/-!
Where a fetcher comes from, and the names of types as documentation shows them.
-/
namespace Fieldwork.Schema

inductive EngineKind
  | property
  | introspection
  | factory
  | validation
  | other
  deriving DecidableEq, Repr

inductive Kind
  | application
  | trivial
  | engine (k : EngineKind)
  deriving DecidableEq, Repr

namespace EngineKind

def describe : EngineKind → String
  | property => "Property"
  | introspection => "Introspection"
  | factory => "Factory"
  | validation => "Validation"
  | other => "Other"

end EngineKind

namespace Kind

def describe : Kind → String
  | application => "Application"
  | trivial => "Trivial"
  | engine k => "Engine(" ++ k.describe ++ ")"

/-- Whether fetchers of this kind run application code and so need the request's state. -/
def isEligible : Kind → Bool
  | application => true
  | engine .factory => true
  | engine .validation => true
  | _ => false

end Kind

structure TypeName where
  name : String
  deriving DecidableEq, Repr

end Fieldwork.Schema
