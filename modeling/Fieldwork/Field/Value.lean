import Fieldwork.Async.Source
import Fieldwork.Store.Channels
/-!
What a fetcher returns for a field. A foreign value is of a type that only adapters know.
-/
namespace Fieldwork

/-- A value of a type that only adapters know: the receiving side of a channel, the handle of a
running task, or a value of any other type, known by the type's name. -/
inductive Foreign
  | receiver (kind : ChannelKind) (channel : Nat)
  | task (id : Nat)
  | other (type : String) (content : Json.Value)
  deriving DecidableEq

inductive ForeignKind
  | receiver (kind : ChannelKind)
  | task
  | other (type : String)
  deriving DecidableEq, Repr

namespace Foreign

def kind : Foreign → ForeignKind
  | receiver k _ => .receiver k
  | task _ => .task
  | other type _ => .other type

def content? (type : String) : Foreign → Option Json.Value
  | other t v => if t = type then some v else none
  | _ => none

/-- A dropped receiver closes its channel; the task of a dropped handle runs on. -/
def drop (st : Store) : Foreign → Store
  | receiver _ channel => st.closeReceiver channel
  | _ => st

end Foreign

inductive FieldValue
  | value (v : Json.Value)
  | result (data : FieldValue) (errors : List Response.Error) (handed : Option LocalContext)
  | future (f : Future)
  | stream (s : Stream)
  | foreign (x : Foreign)

namespace FieldValue

def null : FieldValue := value .null

def cancelled : FieldValue := result null [.cancelledByClient] none

def isAbsent : FieldValue → Bool
  | value .null => true
  | _ => false

def value? : FieldValue → Option Json.Value
  | value v => some v
  | _ => none

def isResult : FieldValue → Bool
  | result _ _ _ => true
  | _ => false

def isFuture : FieldValue → Bool
  | future _ => true
  | _ => false

def isStream : FieldValue → Bool
  | stream _ => true
  | _ => false

def foreign? : FieldValue → Option Foreign
  | foreign x => some x
  | _ => none

def drop (st : Store) : FieldValue → Store
  | value _ => st
  | result data _ _ => data.drop st
  | future f => Source.drop f st
  | stream s => s.toSource.drop st
  | foreign x => x.drop st

def describe : FieldValue → String
  | value v => Text.applied "Value" v.describe
  | result data errors handed =>
    Text.applied "Result" (Text.record "FetcherResult"
      [("data", data.describe),
       ("errors", Text.bracketed (errors.map Response.Error.describe)),
       ("local_context", toString handed.isSome)])
  | future _ => "Future(..)"
  | stream _ => "Stream(..)"
  | foreign _ => "Opaque(..)"

end FieldValue
end Fieldwork
