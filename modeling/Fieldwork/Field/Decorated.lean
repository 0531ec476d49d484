import Fieldwork.Async.Bound
import Fieldwork.Async.Instrumented
import Fieldwork.Async.Recovered
import Fieldwork.Field.Classified
import Fieldwork.Field.Fetching
/-!
Decorated fetchers. The delegate is called with the request's slot values installed. What it gives
later or over time is bound to the request's signal and polled with those values installed; on a
subscription field its first failure is resolved.
-/
namespace Fieldwork

structure Decorator where
  delegate : Fetcher
  subscription : Bool
  resolver : Resolver
  adapters : Adapters

/-- The snapshot for a call: a context handed down takes precedence over that of the request. -/
def Call.snapshot (c : Call) (st : Store) : Snapshot :=
  match c.overlay? with
  | some l => c.context.capturePlan.captureOver st c.context l
  | none => c.context.capturePlan.captureFrom st c.context

namespace Decorator

def subscribe (d : Decorator) (s : Snapshot) (c : RequestContext) (t : Stream) (st : Store) :
    Stream × Store :=
  ((t.recover d.resolver).bind c.signal).instrument s c st

def await (s : Snapshot) (c : RequestContext) (f : Future) (st : Store) : Future × Store :=
  (f.bind c.signal).instrument s c st

def settleStream (d : Decorator) (s : Snapshot) (call : Call) (v : FieldValue) (st : Store) :
    Except Failure FieldValue × Store :=
  match d.adapters.asStream v with
  | .error v => (.error (.notStreamable call.field), v.drop st)
  | .ok t =>
    let (t, st) := d.subscribe s call.context t st
    (.ok (.stream t), st)

def settleSingle (d : Decorator) (s : Snapshot) (call : Call) (v : FieldValue) (st : Store) :
    Except Failure FieldValue × Store :=
  match d.adapters.asSingle v with
  | .passthrough v => (.ok v, st)
  | .future f =>
    let (f, st) := await s call.context f st
    (.ok (.future f), st)

def settle (d : Decorator) (s : Snapshot) (call : Call) (v : FieldValue) (st : Store) :
    Except Failure FieldValue × Store :=
  if v.isAbsent then (.ok v, st)
  else if st.isCancelled call.context then (.ok .cancelled, v.drop st)
  else if d.subscription then d.settleStream s call v st
  else d.settleSingle s call v st

/-- Of a structured result the data is settled and the rest is kept. -/
def settleResult (d : Decorator) (s : Snapshot) (call : Call) :
    Except Failure FieldValue → Store → Except Failure FieldValue × Store
  | .error e, st => (.error e, st)
  | .ok (.result data errors handed), st =>
    let (r, st) := d.settle s call data st
    (r.map fun data => .result data errors handed, st)
  | .ok v, st => d.settle s call v st

def fetch (d : Decorator) (call : Call) (st : Store) : Except Failure FieldValue × Store :=
  let s := call.snapshot st
  let (r, st) := s.wrap (d.delegate.fetch call) st
  d.settleResult s call r st

def fetcher (d : Decorator) : Fetcher where
  kind := d.delegate.kind
  about? := d.delegate.about?
  fetch := d.fetch

def describe (d : Decorator) : String :=
  Text.openRecord "ContextDataFetcherDecorator"
    [("subscription", toString d.subscription), ("adapters", d.adapters.describe)]

end Decorator
end Fieldwork
