import Fieldwork.Scenario.Step
/-!
Sessions: the store of a scenario and the tables of what it has made under names. A step that
refers to what does not exist gives nothing.
-/
namespace Fieldwork.Scenario

inductive Handle
  | future (f : Future)
  | stream (s : Stream)
  | completed

namespace Handle

def drop (st : Store) : Handle → Store
  | future f => Source.drop f st
  | stream s => s.toSource.drop st
  | completed => st

def poll (st : Store) : Handle → Option (Seen × Handle × Store)
  | completed => some (.completed, completed, st)
  | future f =>
    match Source.next f st with
    | (.pending, f, st) => some (.pending, future f, st)
    | (.ready o, f, st) => some (.gave o, completed, Source.drop f st)
    | (.broken, _, _) => none
  | stream s =>
    match s.next st with
    | (.pending, s, st) => some (.pending, stream s, st)
    | (.ready none, s, st) => some (.ended, stream s, st)
    | (.ready (some o), s, st) => some (.gave o, stream s, st)
    | (.broken, _, _) => none

def pollTimes : Nat → Handle → Store → Option (List Seen × Handle × Store)
  | 0, h, st => some ([], h, st)
  | n + 1, h, st => do
    let (seen, h, st) ← h.poll st
    let (rest, h, st) ← pollTimes n h st
    pure (seen :: rest, h, st)

def drainTimes : Nat → Handle → Store → Option (List Seen × Handle × Store)
  | 0, h, st => some ([], h, st)
  | n + 1, h, st => do
    let (seen, h, st) ← h.poll st
    match h, seen with
    | .stream _, .gave _ =>
      let (rest, h, st) ← drainTimes n h st
      pure (seen :: rest, h, st)
    | _, _ => pure ([seen], h, st)

def drain (h : Handle) (st : Store) : Option (List Seen × Handle × Store) :=
  match h with
  | stream s => drainTimes (s.burst s.state st + 1) h st
  | _ => drainTimes 1 h st

end Handle

structure NamedFetcher where
  id : Nat
  fetcher : Fetcher
  decoration : Option (Decorator × Nat) := none

structure Session where
  store : Store := .empty
  plans : Dict String CapturePlan := []
  snapshots : Dict String Snapshot := []
  scopes : Dict String Scope := []
  handles : Dict String Handle := []
  fetchers : Dict String NamedFetcher := []
  made : Nat := 0
  adapters : Dict String Adapters := []
  wirings : Dict String Wiring := []

abbrev Attempt := Option (Report × Session)

namespace Session

def context? (s : Session) (name : String) : Option RequestContext := s.store.names.context name

def nameContext (s : Session) (name : String) (c : RequestContext) : Session :=
  let names := s.store.names
  { s with store := { s.store with
    names := { names with context := fun n => if n = name then some c else names.context n } } }

def nameSignal (s : Session) (name : String) (id : Nat) : Session :=
  let names := s.store.names
  { s with store := { s.store with
    names := { names with signal := fun n => if n = name then some id else names.signal n } } }

/-- A result that hands nothing down takes the name from what had it. -/
def nameHanded (s : Session) (name : String) (l : Option LocalContext) : Session :=
  let names := s.store.names
  { s with store := { s.store with
    names := { names with handed := fun n => if n = name then l else names.handed n } } }

def signal? (s : Session) : SignalRef → Option Nat
  | .named name => s.store.names.signal name
  | .ofContext name => (s.context? name).map (·.signal)

def plan? (s : Session) : PlanRef → Option CapturePlan
  | .named name => Dict.get? s.plans name
  | .default => some .default
  | .ofContext name => (s.context? name).map (·.capturePlan)

def adapters? (s : Session) : Option String → Option Adapters
  | none => some .standard
  | some name => Dict.get? s.adapters name

/-- Keeps a handle under a name; the one that had the name is dropped. -/
def keep (s : Session) (name : String) (h : Handle) : Session :=
  { s with
    handles := Dict.insert s.handles name h
    store := ((Dict.get? s.handles name).map (Handle.drop s.store)).getD s.store }

def build (s : Session) (spec : FieldSpec) : Option (FieldValue × Session) :=
  match spec.build none s.store with
  | (.ok v, st) => some (v, { s with store := st })
  | (.error _, _) => none

/-- Shows a value, keeping what can be polled under `name` and dropping what cannot. Of results
inside each other the innermost one keeps the name for what it hands down. -/
def present (s : Session) (name : String) : FieldValue → Shown × Session
  | .value v => (.value v, s)
  | .future f => (.future, s.keep name (.future f))
  | .stream t => (.stream, s.keep name (.stream t))
  | .foreign x => (.foreign x, { s with store := x.drop s.store })
  | .result data errors handed =>
    let (shown, s) := (s.nameHanded name handed).present name data
    (.result shown errors handed, s)

end Session
end Fieldwork.Scenario
