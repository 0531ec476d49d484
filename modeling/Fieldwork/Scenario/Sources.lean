import Fieldwork.Scenario.Contexts
/-!
Steps on signals, channels, adapters and all that can be polled.
-/
namespace Fieldwork.Scenario.Session

def instrumentValue (s : Session) (snap : Snapshot) (c : RequestContext) (name : String) :
    FieldValue → Attempt
  | .future f =>
    let (f, st) := Future.instrument f snap c s.store
    some (.shown .future, (s.setStore st).keep name (.future f))
  | .stream t =>
    let (t, st) := t.instrument snap c s.store
    let (low, high) := t.sizeHint st
    some (.instrumented low high, (s.setStore st).keep name (.stream t))
  | _ => none

def instrument (s : Session) (snapshot context : String) (value : FieldSpec) (name : String) :
    Attempt :=
  (Dict.get? s.snapshots snapshot).bind fun snap =>
    (s.context? context).bind fun c =>
      (s.build value).bind fun (v, s) => s.instrumentValue snap c name v

def newSignal (s : Session) (name : String) : Attempt :=
  let (id, st) := s.store.newSignal
  some (.done, (s.setStore st).nameSignal name id)

def copySignal (s : Session) (name : String) (source : SignalRef) : Attempt :=
  (s.signal? source).map fun id => (.done, s.nameSignal name id)

def setSignal (s : Session) (r : SignalRef) : Attempt :=
  (s.signal? r).bind fun id => s.done (s.store.setSignal id)

def showSignal (s : Session) (r : SignalRef) : Attempt :=
  (s.signal? r).map fun id => (.signal (s.store.isSet id), s)

def bindValue (s : Session) (signal : Nat) (name : String) : FieldValue → Attempt
  | .future f => some (.shown .future, s.keep name (.future (Future.bind f signal)))
  | .stream t => some (.shown .stream, s.keep name (.stream (t.bind signal)))
  | _ => none

def bind (s : Session) (r : SignalRef) (value : FieldSpec) (name : String) : Attempt :=
  (s.signal? r).bind fun id => (s.build value).bind fun (v, s) => s.bindValue id name v

def newChannel (s : Session) (name : String) (kind : ChannelKind) (capacity : Nat) : Attempt :=
  s.done (s.store.newChannel name (.create kind capacity))

def send (s : Session) (channel : String) (o : Outcome) : Attempt :=
  let (r, st) := s.store.send channel o
  some (.sent r, s.setStore st)

def newAdapters (s : Session) (name : String) (bare : Bool) (more : List AdapterSpec) : Attempt :=
  let as : Adapters := (if bare then [] else Adapters.standard) ++ more.map AdapterSpec.adapter
  some (.adapters as.length as.describe, { s with adapters := Dict.insert s.adapters name as })

def viewPassed (s : Session) (how : View) (v : FieldValue) (text : String) (name : String) :
    Attempt :=
  let (shown, s) := s.present name v
  some (.viewed how (.passed shown) text, s)

def viewValue (s : Session) (as : Adapters) (name : String) (v : FieldValue) (how : View) :
    Attempt :=
  match how with
  | .classified =>
    let c := as.classify v
    match c with
    | .single f => some (.viewed how .future c.describe, s.keep name (.future f))
    | .stream t => some (.viewed how .stream c.describe, s.keep name (.stream t))
    | .passthrough v => s.viewPassed how v c.describe name
  | .single =>
    let c := as.asSingle v
    match c with
    | .future f => some (.viewed how .future c.describe, s.keep name (.future f))
    | .passthrough v => s.viewPassed how v c.describe name
  | .stream =>
    match as.asStream v with
    | .ok t => some (.viewed how .stream "", s.keep name (.stream t))
    | .error v => s.viewPassed how v "" name

def view (s : Session) (how : View) (adapters : Option String) (value : FieldSpec)
    (name : String) : Attempt :=
  (s.adapters? adapters).bind fun as =>
    (s.build value).bind fun (v, s) => s.viewValue as name v how

def inspect (s : Session) (value : FieldSpec) : Attempt :=
  (s.build value).map fun (v, s) =>
    (.inspected
      { absent := v.isAbsent, value := v.value?, isResult := v.isResult, isFuture := v.isFuture,
        isStream := v.isStream, foreign := v.foreign?, text := v.describe },
      s.setStore (v.drop s.store))

def putHandle (s : Session) (name : String) (h : Handle) (st : Store) : Session :=
  { s.setStore st with handles := Dict.insert s.handles name h }

def poll (s : Session) (handle : String) (times : Nat) : Attempt :=
  (Dict.get? s.handles handle).bind fun h =>
    (h.pollTimes times s.store).map fun (seen, h, st) => (.polls seen, s.putHandle handle h st)

/-- The thread has the given slots and no current context; afterwards its slots are gone. -/
def pollOnThread (s : Session) (handle : String) (times : Nat) (slots : List (Option Json.Value)) :
    Attempt :=
  let own := { s.store with slots := fun i => (slots[i]?).getD none, current := none }
  (Dict.get? s.handles handle).bind fun h =>
    (h.pollTimes times own).map fun (seen, h, st) =>
      (.threadPolls seen st.slotList,
        s.putHandle handle h { st with slots := s.store.slots, current := s.store.current })

def drain (s : Session) (handle : String) : Attempt :=
  (Dict.get? s.handles handle).bind fun h =>
    (h.drain s.store).map fun (seen, h, st) => (.polls seen, s.putHandle handle h st)

def sizeHint (s : Session) (handle : String) : Attempt :=
  match Dict.get? s.handles handle with
  | some (.stream t) => some (.hint (t.sizeHint s.store).1 (t.sizeHint s.store).2, s)
  | _ => none

def drop (s : Session) (handle : String) : Attempt :=
  (Dict.get? s.handles handle).map fun h =>
    (.done, { s.setStore (h.drop s.store) with
      handles := s.handles.filter fun e => e.1 ≠ handle })

def runTasks (s : Session) : Attempt := s.done (Task.runAll s.store)

def openGate (s : Session) (name : String) : Attempt :=
  s.done { s.store with openGates := fun n => n = name || s.store.openGates n }

end Fieldwork.Scenario.Session
