import Fieldwork.Field.Value
import Fieldwork.Schema.Kind
/-!
Fetchers compute the values of fields.
-/
namespace Fieldwork

structure About where
  description : String
  returns : Schema.TypeName
  arguments : Dict String Schema.TypeName := []
  batch : Bool := false
  deriving DecidableEq

structure Fetcher where
  kind : Schema.Kind := .application
  about? : Option About := none
  fetch : Call → Store → Except Failure FieldValue × Store

namespace Fetcher

def property : Fetcher where
  kind := .trivial
  fetch call st :=
    (.ok (.value ((call.source.object?.bind fun m => Dict.get? m call.field.field).getD .null)), st)

def constant (v : Json.Value) : Fetcher where
  fetch _ st := (.ok (.value v), st)

end Fetcher
end Fieldwork
