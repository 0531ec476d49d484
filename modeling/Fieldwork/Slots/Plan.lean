import Fieldwork.Settings.Basic
/-!
Slots hold one optional value each and belong to the thread that runs. A capture plan lists the
slots that travel with a request, each under a key, and says which of the keys are captured.
-/
namespace Fieldwork

/-- Several accessors may have the same key or the same slot. -/
structure Accessor where
  key : String
  slot : Nat
  traced : Bool := false
  deriving DecidableEq, Repr

structure CapturePlan where
  accessors : List Accessor := []
  options : Propagation := {}
  deriving DecidableEq, Repr

namespace CapturePlan

/-- The plan of a request that has none: it captures nothing. -/
def default : CapturePlan := {}

def captures (p : CapturePlan) (key : String) : Bool := p.options.captures key

def describe (p : CapturePlan) : String :=
  Text.record "ContextSnapshotFactory"
    [("accessors", Text.bracketed (p.accessors.map fun a => Text.quoted a.key)),
     ("clear_missing", toString p.options.clearMissing),
     ("capture_keys", match p.options.captureKeys with
       | none => "None"
       | some keys => Text.applied "Some" (Text.braced (keys.eraseDups.map Text.quoted)))]

end CapturePlan
end Fieldwork
