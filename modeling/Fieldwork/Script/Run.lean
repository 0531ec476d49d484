import Fieldwork.Request.Entries
import Fieldwork.Store.Channels
/-!
Running scripts. What a script knows of a request is the call it was made for, if any.
-/
namespace Fieldwork

namespace Json.Value

def ofOption : Option Json.Value → Json.Value
  | none => .array []
  | some v => .array [v]

end Json.Value

namespace LocalContext

def shown : LocalContext → Json.Value
  | context _ => .string "context"
  | text s => .object [("text", .string s)]
  | other _ => .string "other"

end LocalContext

namespace Expr

mutual
def eval (call : Option Call) (st : Store) : Expr → Json.Value
  | literal v => v
  | array items => .array (evalItems call st items)
  | object members => .object (evalMembers call st members)
  | slot i => .ofOption (st.slots i)
  | current key => (st.current.map fun c => Json.Value.ofOption (st.entry? c key)).getD .null
  | request key => (call.map fun c => Json.Value.ofOption (st.entry? c.context key)).getD .null
  | argument name => (call.map fun c => Json.Value.ofOption (Dict.get? c.arguments name)).getD .null
  | source => (call.map (·.source)).getD .null
  | field => (call.map fun c => Json.Value.string c.field.display).getD .null
  | path => (call.map fun c => Json.Value.string c.path.display).getD .null
  | handed => ((call.bind (·.handed)).map LocalContext.shown).getD .null
def evalItems (call : Option Call) (st : Store) : List Expr → List Json.Value
  | [] => []
  | e :: es => eval call st e :: evalItems call st es
def evalMembers (call : Option Call) (st : Store) :
    List (String × Expr) → List (String × Json.Value)
  | [] => []
  | (k, e) :: ms => (k, eval call st e) :: evalMembers call st ms
end

end Expr

/-- A name stands for a context, or for a signal where no context has it. -/
def Store.cancelNamed (st : Store) (name : String) : Store :=
  match st.names.context name, st.names.signal name with
  | some c, _ => st.cancel c
  | none, some s => st.setSignal s
  | none, none => st

/-- Where there is no request or no current context, actions on it do nothing. -/
def Action.perform (call : Option Call) (st : Store) : Action → Store
  | .note e => st.note (e.eval call st)
  | .setSlot i e => st.setSlot i (some (e.eval call st))
  | .resetSlot i => st.setSlot i none
  | .setRequest key e => (call.map fun c => st.putEntry c.context key (e.eval call st)).getD st
  | .setCurrent key e => (st.current.map fun c => st.putEntry c key (e.eval call st)).getD st
  | .cancelRequest => (call.map fun c => st.cancel c.context).getD st
  | .cancelNamed name => st.cancelNamed name
  | .cancelCurrent => (st.current.map st.cancel).getD st
  | .send channel e => (st.send channel (.ok (e.eval call st))).2

inductive Halt
  | waiting
  | emitted (v : Json.Value)
  | failed (f : Failure)
  | ended
  | crashed

namespace Script

def advance (call : Option Call) : Script → Store → Halt × Script × Store
  | [], st => (.ended, [], st)
  | .act a :: rest, st => advance call rest (a.perform call st)
  | .wait 0 :: rest, st => advance call rest st
  | .wait (n + 1) :: rest, st => (.waiting, .wait n :: rest, st)
  | .forever :: rest, st => (.waiting, .forever :: rest, st)
  | .gate name :: rest, st =>
    if st.openGates name then advance call rest st else (.waiting, .gate name :: rest, st)
  | .emit e :: rest, st => (.emitted (e.eval call st), rest, st)
  | .fail f :: rest, st => (.failed f, rest, st)
  | .crash :: rest, st => (.crashed, rest, st)

def perform (call : Option Call) (actions : List Action) (st : Store) : Store :=
  actions.foldl (fun st a => a.perform call st) st

end Script

namespace Task

/-- What a message calls the task. The numbers follow the order of spawning; those below eight are
never a scripted task's. -/
def number (id : Nat) : Nat := 8 + id

def spawn (st : Store) (script : Script) (call : Option Call) : Nat × Store :=
  let (id, tasks) := st.tasks.alloc ⟨script, call, .running⟩
  (id, { st with tasks })

def settle : Halt → TaskStatus
  | .waiting => .running
  | .emitted v => .finished (.ok v)
  | .failed f => .finished (.error f)
  | .ended => .finished (.ok .null)
  | .crashed => .crashed

/-- Lets one task run until it ends or cannot go on; waits that end by themselves are waited out. -/
def run (st : Store) (id : Nat) : Store :=
  let t := st.tasks.cell id
  match t.status with
  | .running =>
    let (halt, rest, st) := Script.advance t.call (t.script.filter fun m => !m.passes) st
    { st with tasks := st.tasks.set id ⟨rest, t.call, settle halt⟩ }
  | _ => st

def runAll (st : Store) : Store := (List.range st.tasks.size).foldl run st

def abort (st : Store) (id : Nat) : Store :=
  let t := st.tasks.cell id
  match t.status with
  | .running => { st with tasks := st.tasks.set id { t with status := .aborted } }
  | _ => st

end Task
end Fieldwork
