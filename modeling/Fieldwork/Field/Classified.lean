import Fieldwork.Async.Converted
import Fieldwork.Async.Scripted
import Fieldwork.Field.Value
/-!
Field values sorted into those given later, those given over time and the others. Foreign values
are offered to adapters in their order; the first that takes one decides.
-/
namespace Fieldwork

inductive Adapted
  | single (f : Future)
  | stream (s : Stream)

/-- An adapter that gives nothing has left the value as it was. -/
abbrev Adapter := Foreign → Option Adapted

def Adapter.typed (kind : ForeignKind) (adapt : Foreign → Adapted) : Adapter := fun x =>
  if x.kind = kind then some (adapt x) else none

abbrev Adapters := List Adapter

inductive Classified
  | single (f : Future)
  | stream (s : Stream)
  | passthrough (v : FieldValue)

inductive SingleValue
  | future (f : Future)
  | passthrough (v : FieldValue)

def Classified.ofAdapted : Adapted → Classified
  | .single f => .single f
  | .stream s => .stream s

def Classified.describe : Classified → String
  | single _ => "Single(..)"
  | stream _ => "Stream(..)"
  | passthrough v => Text.applied "Passthrough" v.describe

def SingleValue.describe : SingleValue → String
  | future _ => "Future(..)"
  | passthrough v => Text.applied "Passthrough" v.describe

namespace Adapters

def once : Foreign → Adapted
  | .receiver _ channel => .single (.ofChannel channel (.error .channelClosed))
  | _ => .single (.ready (.error .channelClosed))

def queue : Foreign → Adapted
  | .receiver _ channel => .stream (.ofChannel channel)
  | _ => .stream (.ofList [])

def task : Foreign → Adapted
  | .task id => .single (.ofTask id)
  | _ => .single (.ready (.ok .null))

def standard : Adapters :=
  [.typed (.receiver .once) once, .typed (.receiver .onceResult) once,
   .typed .task task, .typed (.receiver .bounded) queue, .typed (.receiver .unbounded) queue,
   .typed (.receiver .broadcast) queue]

def describe (as : Adapters) : String :=
  Text.record "AdapterRegistry" [("adapters", toString as.length)]

def adapt (as : Adapters) (x : Foreign) : Option Adapted := as.findSome? fun a => a x

def classify (as : Adapters) : FieldValue → Classified
  | .future f => .single f
  | .stream s => .stream s
  | .foreign x => ((as.adapt x).map Classified.ofAdapted).getD (.passthrough (.foreign x))
  | .value v => .passthrough (.value v)
  | .result data errors handed => .passthrough (.result data errors handed)

/-- Streams become the list of their values. -/
def asSingle (as : Adapters) (v : FieldValue) : SingleValue :=
  match as.classify v with
  | .single f => .future f
  | .stream s => .future s.collect
  | .passthrough v => .passthrough v

/-- Single values become streams of at most one value; what is not given over time comes back. -/
def asStream (as : Adapters) (v : FieldValue) : Except FieldValue Stream :=
  match as.classify v with
  | .single f => .ok f.asStream
  | .stream s => .ok s
  | .passthrough v => .error v

end Adapters
end Fieldwork
