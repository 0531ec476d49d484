import Fieldwork.Async.Resolver
/-!
Subscription streams end at their first failure, which carries the errors of a resolver. A failure
that carries errors already is given as it is.
-/
namespace Fieldwork

inductive Recovery (σ ρ : Type)
  | reading (x : σ)
  | resolving (cause : Failure) (x : σ) (y : ρ)
  | failed
  | ended

namespace Stream

def resolve (s : Stream) (r : Resolver) (cause : Failure) (x : s.State) (y : r.State) (st : Store) :
    Poll (Option Outcome) × Recovery s.State r.State × Store :=
  match r.poll y st with
  | (.pending, y, st) => (.pending, .resolving cause x y, st)
  | (.ready errors, _, st) =>
    (.ready (some (.error (.publisher errors cause))), .failed, s.release x st)
  | (.broken, y, st) => (.broken, .resolving cause x y, st)

/-- The stream is dropped when it ends or fails; polling past the end breaks. -/
def recover (s : Stream) (r : Resolver) : Stream where
  State := Recovery s.State r.State
  state := .reading s.state
  poll
    | .ended, st => (.broken, .ended, st)
    | .failed, st => (.ready none, .ended, st)
    | .resolving cause x y, st => s.resolve r cause x y st
    | .reading x, st =>
      match s.poll x st with
      | (.pending, x, st) => (.pending, .reading x, st)
      | (.broken, x, st) => (.broken, .reading x, st)
      | (.ready none, x, st) => (.ready none, .ended, s.release x st)
      | (.ready (some (.ok v)), x, st) => (.ready (some (.ok v)), .reading x, st)
      | (.ready (some (.error e)), x, st) =>
        if e.isPublisher then (.ready (some (.error e)), .failed, s.release x st)
        else s.resolve r e x (r.start e) st
  release
    | .reading x, st => s.release x st
    | .resolving _ x _, st => s.release x st
    | .failed, st => st
    | .ended, st => st
  hint _ _ := (0, none)
  burst
    | .reading x, st => s.burst x st
    | .resolving _ _ _, _ => 1
    | .failed, _ => 0
    | .ended, _ => 0

end Stream
end Fieldwork
