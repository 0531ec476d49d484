import Fieldwork.Scenario.Session
/-!
Steps on slots, contexts, capture plans, snapshots and scopes.
-/
namespace Fieldwork.Scenario.Session

def setStore (s : Session) (st : Store) : Session := { s with store := st }

def done (s : Session) (st : Store) : Attempt := some (.done, s.setStore st)

def createContext (s : Session) (name : String) (plan : Option CapturePlan)
    (entries : List (String × Json.Value)) : Attempt :=
  let (c, st) := s.store.newContext plan
  let st := entries.foldl (fun st e => st.putEntry c e.1 e.2) st
  some (.done, (s.setStore st).nameContext name c)

def newContext (s : Session) (name : String) (plan : Option String)
    (entries : List (String × Json.Value)) : Attempt :=
  match plan with
  | none => s.createContext name none entries
  | some p => (Dict.get? s.plans p).bind fun plan => s.createContext name (some plan) entries

def copyContext (s : Session) (name source : String) : Attempt :=
  (s.context? source).map fun c => (.done, s.nameContext name c)

def entered (s : Session) (r : Except DecodeError Unit × Store) : Attempt :=
  match r with
  | (.ok _, st) => s.done st
  | (.error e, st) => some (.refused e, s.setStore st)

def enterIn (s : Session) (c : RequestContext) (key : String) : Entered → Attempt
  | .json v => s.entered (s.store.insertAs .json c key v)
  | .double x => s.entered (s.store.insertAs .double c key x)
  | .unit => s.entered (s.store.insertAs .unit c key ())
  | .pairKeyed => s.entered (s.store.insertAs .pairKeyed c key [((.int 1, .int 2), .int 3)])

def enter (s : Session) (context key : String) (v : Entered) : Attempt :=
  (s.context? context).bind fun c => s.enterIn c key v

def readEntry (s : Session) (c : RequestContext) (key : String) (t : EntryType α) : Attempt :=
  let shown := do
    match ← s.store.getAs t c key with
    | none => pure none
    | some x => (t.encode x).map some
  match shown with
  | .ok v => some (.entry v, s)
  | .error e => some (.refused e, s)

def readAs (s : Session) (c : RequestContext) (key : String) : ReadAs → Attempt
  | .json => s.readEntry c key .json
  | .int32 => s.readEntry c key .int32
  | .nat8 => s.readEntry c key .nat8
  | .int64 => s.readEntry c key .int64
  | .nat64 => s.readEntry c key .nat64
  | .bool => s.readEntry c key .bool
  | .string => s.readEntry c key .string
  | .optionalString => s.readEntry c key (.option .string)
  | .listOfInt32 => s.readEntry c key (.list .int32)
  | .unit => s.readEntry c key .unit

def read (s : Session) (context key : String) (type : ReadAs) : Attempt :=
  (s.context? context).bind fun c => s.readAs c key type

def has (s : Session) (context key : String) : Attempt :=
  (s.context? context).map fun c => (.flag (s.store.entry? c key).isSome, s)

def dump (s : Session) (context : String) (keys : List String) : Attempt :=
  (s.context? context).map fun c => (.entries (keys.map (s.store.entry? c)), s)

def cancel (s : Session) (context : String) : Attempt :=
  (s.context? context).bind fun c => s.done (s.store.cancel c)

def isCancelled (s : Session) (context : String) : Attempt :=
  (s.context? context).map fun c => (.flag (s.store.isCancelled c), s)

def currentHas (s : Session) (key : String) : Attempt :=
  match s.store.current with
  | none => some (.nothing, s)
  | some c => some (.flag (s.store.entry? c key).isSome, s)

def newPlan (s : Session) (name : String) (accessors : List Accessor) (options : Propagation) :
    Attempt :=
  some (.done, { s with plans := Dict.insert s.plans name ⟨accessors, options⟩ })

def planOfText (s : Session) (name : String) (accessors : List Accessor) (settings : String) :
    Attempt :=
  match Settings.ofText settings with
  | .ok settings => s.newPlan name accessors settings.propagation
  | .error e => some (.badSettings e, s)

def describePlan (s : Session) (p : PlanRef) : Attempt :=
  (s.plan? p).map fun p => (.text p.describe, s)

def takeSnapshot (s : Session) (p : CapturePlan) : CaptureFrom → Option (Snapshot × Store)
  | .slots => some (p.captureSlots s.store)
  | .context name => (s.context? name).map fun c => (p.captureFrom s.store c, s.store)
  | .over name first => do
    let c ← s.context? name
    let l ← s.context? first
    pure (p.captureOver s.store c l, s.store)

def capture (s : Session) (p : PlanRef) (source : CaptureFrom) (name : String) : Attempt :=
  ((s.plan? p).bind fun p => s.takeSnapshot p source).map fun (snapshot, st) =>
    (.captured snapshot.describe snapshot.isEmpty,
      { s.setStore st with snapshots := Dict.insert s.snapshots name snapshot })

def captured (s : Session) (snapshot key : String) : Attempt :=
  (Dict.get? s.snapshots snapshot).map fun snap => (.entry (snap.get? key), s)

def overlay (s : Session) (snapshot context name : String) : Attempt :=
  (Dict.get? s.snapshots snapshot).bind fun snap =>
    (s.context? context).map fun c =>
      let (c, st) := snap.overlay s.store c
      (.done, (s.setStore st).nameContext name c)

/-- A scope that had the name before is closed once the new one is open. -/
def openScope (s : Session) (snapshot name : String) : Attempt :=
  (Dict.get? s.snapshots snapshot).map fun snap =>
    let (scope, st) := snap.install s.store
    let st := ((Dict.get? s.scopes name).map fun old => old.close st).getD st
    (.done, { s.setStore st with scopes := Dict.insert s.scopes name scope })

def closeScope (s : Session) (name : String) : Attempt :=
  (Dict.get? s.scopes name).map fun scope =>
    (.done, { s.setStore (scope.close s.store) with
      scopes := s.scopes.filter fun e => e.1 ≠ name })

end Fieldwork.Scenario.Session
