import Fieldwork.Async.Source
/-!
Futures and streams bound to a cancellation signal. The signal is looked at when a poll starts;
once it is set the bound source is not polled any more.
-/
namespace Fieldwork

/-- Gives null once the signal is set. The bound future is dropped as soon as there is a value,
and a bound future that has given its value breaks when polled again. -/
def Future.bind (f : Future) (signal : Nat) : Future where
  State := Option f.State
  state := some f.state
  poll
    | none, st => (.broken, none, st)
    | some x, st =>
      if st.isSet signal then (.ready (.ok .null), none, f.release x st)
      else match f.poll x st with
        | (.pending, x, st) => (.pending, some x, st)
        | (.ready o, x, st) => (.ready o, none, f.release x st)
        | (.broken, x, st) => (.broken, some x, st)
  release
    | none, st => st
    | some x, st => f.release x st

/-- Ends once the signal is set, and stays ended. Only dropping the stream drops the bound one.
Until a poll has found the end its hint is that of the bound stream. -/
def Stream.bind (s : Stream) (signal : Nat) : Stream where
  State := s.State × Bool
  state := (s.state, false)
  poll
    | (x, true), st => (.ready none, (x, true), st)
    | (x, false), st =>
      if st.isSet signal then (.ready none, (x, true), st)
      else match s.poll x st with
        | (.ready none, x, st) => (.ready none, (x, true), st)
        | (r, x, st) => (r, (x, false), st)
  release x st := s.release x.1 st
  hint
    | (_, true), _ => (0, some 0)
    | (x, false), st => s.hint x st
  burst x st := s.burst x.1 st

end Fieldwork
