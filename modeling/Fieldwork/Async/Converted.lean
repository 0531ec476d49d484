import Fieldwork.Async.Source
/-!
A stream read as one value, and a value read as a stream.
-/
namespace Fieldwork

namespace Stream

def gather (s : Stream) :
    Nat → s.State → List Json.Value → Store → Poll Outcome × s.State × List Json.Value × Store
  | 0, x, items, st => (.broken, x, items, st)
  | fuel + 1, x, items, st =>
    match s.poll x st with
    | (.pending, x, st) => (.pending, x, items, st)
    | (.broken, x, st) => (.broken, x, items, st)
    | (.ready none, x, st) => (.ready (.ok (.array items)), x, items, st)
    | (.ready (some (.error e)), x, st) => (.ready (.error e), x, items, st)
    | (.ready (some (.ok v)), x, st) => gather s fuel x (items ++ [v]) st

def collect (s : Stream) : Future where
  State := Option (s.State × List Json.Value)
  state := some (s.state, [])
  poll
    | none, st => (.broken, none, st)
    | some (x, items), st =>
      match s.gather (s.burst x st + 1) x items st with
      | (.pending, x, items, st) => (.pending, some (x, items), st)
      | (.ready o, x, _, st) => (.ready o, none, s.release x st)
      | (.broken, x, items, st) => (.broken, some (x, items), st)
  release
    | none, st => st
    | some (x, _), st => s.release x st

end Stream

/-- The value or failure of the future and then the end; null is no value. -/
def Future.asStream (f : Future) : Stream where
  State := Option f.State
  state := some f.state
  poll
    | none, st => (.ready none, none, st)
    | some x, st =>
      match f.poll x st with
      | (.pending, x, st) => (.pending, some x, st)
      | (.ready (.ok .null), x, st) => (.ready none, none, f.release x st)
      | (.ready o, x, st) => (.ready (some o), none, f.release x st)
      | (.broken, x, st) => (.broken, some x, st)
  release
    | none, st => st
    | some x, st => f.release x st
  hint
    | none, _ => (0, some 0)
    | some _, _ => (0, some 1)
  burst
    | none, _ => 0
    | some _, _ => 1

end Fieldwork
