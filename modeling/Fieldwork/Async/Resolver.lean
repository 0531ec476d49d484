import Fieldwork.Async.Source
/-!
Resolvers turn the failure of a subscription into the errors that its client gets. A resolver may
take its time, and with no errors it says that the failure is not its own.
-/
namespace Fieldwork

structure Resolver where
  State : Type
  start : Failure → State
  poll : State → Store → Poll (List Response.Error) × State × Store

namespace Resolver

def immediate (answer : Failure → Store → List Response.Error × Store) : Resolver where
  State := Failure
  start f := f
  poll f st :=
    let (errors, st) := answer f st
    (.ready errors, f, st)

def unresolved : Resolver := immediate fun _ st => ([.unresolvedSubscription], st)

inductive Turn (σ τ : Type)
  | first (f : Failure) (x : σ)
  | second (y : τ)

def secondPoll (r s : Resolver) (y : s.State) (st : Store) :
    Poll (List Response.Error) × Turn r.State s.State × Store :=
  let (p, y, st) := s.poll y st
  (p, .second y, st)

def orElse (r s : Resolver) : Resolver where
  State := Turn r.State s.State
  start f := .first f (r.start f)
  poll
    | .second y, st => secondPoll r s y st
    | .first f x, st =>
      match r.poll x st with
      | (.ready [], _, st) => secondPoll r s (s.start f) st
      | (p, x, st) => (p, .first f x, st)

/-- Asks the resolvers in order. The answer is never empty. -/
def composite (rs : List Resolver) : Resolver := rs.foldr orElse unresolved

def describeComposite (count : Nat) : String :=
  Text.record "CompositeSubscriptionExceptionResolver" [("resolvers", toString count)]

def settle (r : Resolver) : Nat → r.State → Store → Option (List Response.Error) × Store
  | 0, _, st => (none, st)
  | fuel + 1, x, st =>
    match r.poll x st with
    | (.pending, x, st) => settle r fuel x st
    | (.ready errors, _, st) => (some errors, st)
    | (.broken, _, st) => (none, st)

end Resolver
end Fieldwork
