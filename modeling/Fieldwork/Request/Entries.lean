import Fieldwork.Json.Decode
import Fieldwork.Store.Basic
/-!
Request contexts over a store: their entries, their copies and their cancellation. A copy that is
overlaid has a bag of its own and shares the signal and the plan.
-/
namespace Fieldwork

/-- How values of a type are entered and read back. Entering may fail. -/
structure EntryType (α : Type) where
  encode : α → Except DecodeError Json.Value
  decode : Json.Value.Decoder α

namespace EntryType

def json : EntryType Json.Value := ⟨.ok, .ok⟩

def int (low high : Int) (name : String) : EntryType { n : Int // low ≤ n ∧ n ≤ high } where
  encode n := .ok (.int n.1)
  decode v := match Json.Value.asInt low high name v with
    | .error e => .error e
    | .ok n => if h : low ≤ n ∧ n ≤ high then .ok ⟨n, h⟩ else .error (.wrongValue (.int n) name)

def int32 := int (-0x80000000) 0x7FFFFFFF "i32"
def nat8 := int 0 0xFF "u8"
def int64 := int (-0x8000000000000000) 0x7FFFFFFFFFFFFFFF "i64"
def nat64 := int 0 0xFFFFFFFFFFFFFFFF "u64"

def bool : EntryType Bool := ⟨fun b => .ok (.bool b), Json.Value.asBool⟩

def string : EntryType String := ⟨fun s => .ok (.string s), Json.Value.asString⟩

def unit : EntryType Unit := ⟨fun _ => .ok .null, Json.Value.asUnit⟩

def option (t : EntryType α) : EntryType (Option α) where
  encode
    | none => .ok .null
    | some x => t.encode x
  decode := Json.Value.asOption t.decode

def list (t : EntryType α) : EntryType (List α) where
  encode xs := (xs.mapM t.encode).map .array
  decode := Json.Value.asList t.decode

/-- Doubles; JSON has no notation for those that are not finite. -/
def double : EntryType Double where
  encode x := .ok (if x.finite then .float x else .null)
  decode
    | .float x => .ok x
    | v => .error (.wrongType v.found "f64")

/-- Maps whose keys are not strings, which no object can hold. -/
def pairKeyed : EntryType (List ((Json.Value × Json.Value) × Json.Value)) where
  encode
    | [] => .ok (.object [])
    | _ :: _ => .error (.wrongType .unknown "String")
  decode
    | .object [] => .ok []
    | v => .error (.wrongType v.found "a map")

end EntryType

namespace Store

def newContext (st : Store) (plan : Option CapturePlan) : RequestContext × Store :=
  let (signal, st) := st.newSignal
  let (bag, bags) := st.bags.alloc .empty
  (⟨bag, signal, plan⟩, { st with bags })

def entry? (st : Store) (c : RequestContext) (key : String) : Option Json.Value :=
  st.bags.cell c.bag key

def putEntry (st : Store) (c : RequestContext) (key : String) (v : Json.Value) : Store :=
  { st with bags := st.bags.set c.bag ((st.bags.cell c.bag).insert key v) }

/-- A value that cannot be entered leaves every entry as it was. -/
def insertAs (st : Store) (t : EntryType α) (c : RequestContext) (key : String) (x : α) :
    Except DecodeError Unit × Store :=
  match t.encode x with
  | .error e => (.error e, st)
  | .ok v => (.ok (), st.putEntry c key v)

def getAs (st : Store) (t : EntryType α) (c : RequestContext) (key : String) :
    Except DecodeError (Option α) :=
  match st.entry? c key with
  | none => .ok none
  | some v => (t.decode v).map some

def overlay (st : Store) (c : RequestContext) (entries : List (String × Json.Value)) :
    RequestContext × Store :=
  let (bag, bags) := st.bags.alloc ((st.bags.cell c.bag).insertAll entries)
  ({ c with bag }, { st with bags })

def cancel (st : Store) (c : RequestContext) : Store := st.setSignal c.signal

def isCancelled (st : Store) (c : RequestContext) : Bool := st.isSet c.signal

end Store
end Fieldwork
