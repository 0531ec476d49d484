import Fieldwork.Async.Resolver

/-!
Runs of polls. Between two polls of a source others may do anything to the store, so a run is given
by the stores in which its polls start.
-/
namespace Fieldwork

namespace Source

variable {α : Type}

def polls (s : Source α) : s.State → List Store → List (Poll α × Store)
  | _, [] => []
  | x, st :: starts =>
    ((s.poll x st).1, (s.poll x st).2.2) :: s.polls (s.poll x st).2.1 starts

def answers (s : Source α) (x : s.State) (starts : List Store) : List (Poll α) :=
  (s.polls x starts).map (·.1)

theorem polls_cons (s : Source α) (x : s.State) (st : Store) (starts : List Store) :
    s.polls x (st :: starts) =
      ((s.poll x st).1, (s.poll x st).2.2) :: s.polls (s.poll x st).2.1 starts := rfl

theorem answers_cons (s : Source α) (x : s.State) (st : Store) (starts : List Store) :
    s.answers x (st :: starts) =
      (s.poll x st).1 :: s.answers (s.poll x st).2.1 starts := rfl

end Source

namespace Resolver

def answers (r : Resolver) : r.State → List Store → List (Poll (List Response.Error))
  | _, [] => []
  | w, st :: starts => (r.poll w st).1 :: r.answers (r.poll w st).2.1 starts

theorem answers_cons (r : Resolver) (w : r.State) (st : Store) (starts : List Store) :
    r.answers w (st :: starts) = (r.poll w st).1 :: r.answers (r.poll w st).2.1 starts := rfl

end Resolver
end Fieldwork
