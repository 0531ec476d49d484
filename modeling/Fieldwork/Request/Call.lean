import Fieldwork.Response.Path
import Fieldwork.Schema.Coordinates
import Fieldwork.Slots.Plan
/-!
A request context names the bag of its entries and its cancellation signal; copies of a context
name the same ones. A call is what a fetcher gets to compute one field.
-/
namespace Fieldwork

structure RequestContext where
  bag : Nat
  signal : Nat
  plan : Option CapturePlan
  deriving DecidableEq, Repr

namespace RequestContext

def capturePlan (c : RequestContext) : CapturePlan := c.plan.getD .default

end RequestContext

inductive LocalContext
  | context (c : RequestContext)
  | text (s : String)
  | other (v : Json.Value)
  deriving DecidableEq

structure Call where
  context : RequestContext
  handed : Option LocalContext := none
  field : Schema.Coordinates
  path : Response.Path := .empty
  arguments : Json.Object := []
  source : Json.Value := .null
  deriving DecidableEq

namespace Call

def overlay? (c : Call) : Option RequestContext :=
  match c.handed with
  | some (.context l) => some l
  | _ => none

def describe (c : Call) : String :=
  Text.openRecord "FetchEnvironment"
    [("field", c.field.describe), ("path", c.path.describe),
     ("arguments", Text.braced (Json.Value.describeMembers c.arguments))]

end Call
end Fieldwork
