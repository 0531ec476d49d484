import Fieldwork.Store.Basic
/-!
Sources give their values when they are polled. A source is a machine: each poll takes its state
and the store to the next ones. Polling a source that has nothing left to give may break it;
dropping it releases what it holds.
-/
namespace Fieldwork

inductive Poll (α : Type)
  | pending
  | ready (x : α)
  | broken
  deriving DecidableEq

structure Source (α : Type) where
  State : Type
  state : State
  poll : State → Store → Poll α × State × Store
  release : State → Store → Store

abbrev Future := Source Outcome

structure Stream extends Source (Option Outcome) where
  /-- At least and at most how many values are left, as far as the stream knows. -/
  hint : State → Store → Nat × Option Nat
  /-- At most how many values can come in a row before the stream waits or ends. -/
  burst : State → Store → Nat

namespace Source

variable {α : Type}

def next (s : Source α) (st : Store) : Poll α × Source α × Store :=
  let (r, x, st) := s.poll s.state st
  (r, { s with state := x }, st)

def drop (s : Source α) (st : Store) : Store := s.release s.state st

end Source

namespace Stream

def next (s : Stream) (st : Store) : Poll (Option Outcome) × Stream × Store :=
  let (r, x, st) := s.poll s.state st
  (r, { s with state := x }, st)

def sizeHint (s : Stream) (st : Store) : Nat × Option Nat := s.hint s.state st

/-- Whether each value given makes the burst shorter, so that every run of values is finite. -/
def Bursts (s : Stream) : Prop :=
  ∀ x st o x' st', s.poll x st = (.ready (some o), x', st') → s.burst x' st' < s.burst x st

end Stream

def Future.ready (o : Outcome) : Future where
  State := Unit
  state := ()
  poll _ st := (.ready o, (), st)
  release _ st := st

def Stream.ofList (items : List Json.Value) : Stream where
  State := List Json.Value
  state := items
  poll
    | [], st => (.ready none, [], st)
    | v :: rest, st => (.ready (some (.ok v)), rest, st)
  release _ st := st
  hint rest _ := (rest.length, some rest.length)
  burst rest _ := rest.length

end Fieldwork
