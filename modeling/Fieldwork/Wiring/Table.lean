import Fieldwork.Field.Decorated
import Fieldwork.Wiring.Schema
/-!
A wiring gives fields their fetchers. Wiring a field again replaces its fetcher and keeps its
place.
-/
namespace Fieldwork

abbrev Wiring := Dict Schema.Coordinates Fetcher

structure Installer where
  resolvers : List Resolver := []
  adapters : Adapters := .standard

namespace Wiring

def register (w : Wiring) (f : Fetcher) (fields : List Schema.Coordinates) : Wiring :=
  fields.foldl (fun w c => Dict.insert w c f) w

def describe (w : Wiring) : String :=
  Text.bracketed ((Dict.keys w).map Schema.Coordinates.describe)

end Wiring

namespace Installer

def decorator (i : Installer) (subscription : Bool) (f : Fetcher) : Decorator where
  delegate := f
  subscription := subscription
  resolver := .composite i.resolvers
  adapters := i.adapters

/-- Fields that are not in the table keep their fetcher, as do those whose fetcher's kind is not
eligible. -/
def decorate (i : Installer) (fields : Dict Schema.Coordinates Bool) (c : Schema.Coordinates)
    (f : Fetcher) : Fetcher :=
  match Dict.get? fields c with
  | none => f
  | some subscription =>
    if f.kind.isEligible then (i.decorator subscription f).fetcher else f

def install (i : Installer) (d : Schema.Document) (w : Wiring) : Wiring :=
  let fields := d.fields
  .ofList (w.map fun e => (e.1, i.decorate fields e.1 e.2))

def describe (i : Installer) : String :=
  Text.record "Installer"
    [("exception_resolver", Resolver.describeComposite i.resolvers.length),
     ("adapters", i.adapters.describe)]

end Installer
end Fieldwork
