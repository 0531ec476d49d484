import Fieldwork.Request.Call
import Fieldwork.Script.Basic
import Fieldwork.Store.Channel
import Fieldwork.Store.Pool
/-!
The store: all state that fetchers, futures, streams and tasks share. The slots and the current
context belong to the thread that runs.
-/
namespace Fieldwork

abbrev Bag := String → Option Json.Value

namespace Bag

def empty : Bag := fun _ => none

def insert (b : Bag) (key : String) (v : Json.Value) : Bag :=
  fun k => if k = key then some v else b k

/-- Of two entries with one key the later counts. -/
def insertAll (b : Bag) (entries : List (String × Json.Value)) : Bag :=
  entries.foldl (fun b e => b.insert e.1 e.2) b

@[simp] theorem insert_self (b : Bag) (key : String) (v : Json.Value) :
    b.insert key v key = some v := by
  simp [insert]

theorem insert_ne (b : Bag) {key k : String} (h : k ≠ key) (v : Json.Value) :
    b.insert key v k = b k := by
  simp [insert, h]

end Bag

inductive TaskStatus
  | running
  | finished (o : Outcome)
  | crashed
  | aborted

structure Task where
  script : Script
  call : Option Call
  status : TaskStatus

structure Names where
  context : String → Option RequestContext := fun _ => none
  signal : String → Option Nat := fun _ => none
  channel : String → Option Nat := fun _ => none
  handed : String → Option LocalContext := fun _ => none

structure Store where
  slots : Nat → Option Json.Value
  current : Option RequestContext
  bags : Pool Bag
  signals : Pool Bool
  tasks : Pool Task
  channels : Pool Channel
  openGates : String → Bool
  names : Names
  log : List Json.Value

namespace Store

def empty : Store where
  slots := fun _ => none
  current := none
  bags := .empty .empty
  signals := .empty false
  tasks := .empty ⟨[], none, .aborted⟩
  channels := .empty .gone
  openGates := fun _ => false
  names := {}
  log := []

def setSlot (st : Store) (i : Nat) (v : Option Json.Value) : Store :=
  { st with slots := fun j => if j = i then v else st.slots j }

def slotList (st : Store) : List (Option Json.Value) := (List.range 4).map st.slots

def note (st : Store) (entry : Json.Value) : Store := { st with log := st.log ++ [entry] }

def isSet (st : Store) (signal : Nat) : Bool := st.signals.cell signal

def setSignal (st : Store) (signal : Nat) : Store :=
  { st with signals := st.signals.set signal true }

def newSignal (st : Store) : Nat × Store :=
  let (id, signals) := st.signals.alloc false
  (id, { st with signals })

def within {α : Type u} (c : Option RequestContext) (work : Store → α × Store) (st : Store) :
    α × Store :=
  let (r, after) := work { st with current := c }
  (r, { after with current := st.current })

@[simp] theorem slots_setSlot_self (st : Store) (i : Nat) (v : Option Json.Value) :
    (st.setSlot i v).slots i = v := by
  simp [setSlot]

theorem slots_setSlot_ne (st : Store) {i j : Nat} (h : j ≠ i) (v : Option Json.Value) :
    (st.setSlot i v).slots j = st.slots j := by
  simp [setSlot, h]

@[simp] theorem isSet_setSignal_self (st : Store) (s : Nat) : (st.setSignal s).isSet s = true := by
  simp [setSignal, isSet]

theorem isSet_setSignal (st : Store) (s t : Nat) :
    (st.setSignal s).isSet t = (decide (t = s) || st.isSet t) := by
  by_cases h : t = s <;> simp [setSignal, isSet, Pool.cell_set, h]

end Store
end Fieldwork
