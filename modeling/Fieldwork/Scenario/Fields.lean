import Fieldwork.Scenario.Contexts
/-!
Steps on fetchers, resolvers and wirings.
-/
namespace Fieldwork.Scenario.Session

def newFetcher (s : Session) (name : String) (f : Fetcher)
    (decoration : Option (Decorator × Nat)) : Attempt :=
  some (.done, { s with
    fetchers := Dict.insert s.fetchers name ⟨s.made, f, decoration⟩
    made := s.made + 1 })

def decorate (s : Session) (name delegate : String) (subscription : Bool)
    (resolver : ResolverSpec) (adapters : Option String) : Attempt :=
  (Dict.get? s.fetchers delegate).bind fun f =>
    (s.adapters? adapters).bind fun adapters =>
      let d : Decorator :=
        { delegate := f.fetcher, subscription, resolver := resolver.resolver, adapters }
      s.newFetcher name d.fetcher (some (d, f.id))

def showDecorator (s : Session) (fetcher delegate : String) : Attempt :=
  ((Dict.get? s.fetchers fetcher).bind (·.decoration)).bind fun (d, inner) =>
    (Dict.get? s.fetchers delegate).map fun f =>
      (.decorator d.subscription d.describe (inner = f.id), s)

def fetcher? (s : Session) : FetcherRef → Option (Option Fetcher)
  | .named name => (Dict.get? s.fetchers name).map fun f => some f.fetcher
  | .wired wiring field => (Dict.get? s.wirings wiring).map fun w => Dict.get? w field

def describe (s : Session) (r : FetcherRef) : Attempt :=
  (s.fetcher? r).map fun
    | none => (.nothing, s)
    | some f => (.described f.kind f.about?, s)

def call (s : Session) (spec : CallSpec) : Option Call :=
  (s.context? spec.context).map fun context =>
    { context, handed := spec.handed.bind (·.build s.store), field := spec.field,
      path := spec.path, arguments := spec.arguments, source := spec.source }

def fetchWith (s : Session) (f : Fetcher) (call : Call) (name : String) : Attempt :=
  match f.fetch call s.store with
  | (.error e, st) => some (.failed e, s.setStore st)
  | (.ok v, st) =>
    let (shown, s) := (s.setStore st).present name v
    some (.shown shown, s)

def fetch (s : Session) (r : FetcherRef) (spec : CallSpec) (name : String) : Attempt :=
  (s.call spec).bind fun call =>
    (s.fetcher? r).bind fun
      | none => some (.unregistered, s)
      | some f => s.fetchWith f call name

def describeCall (s : Session) (spec : CallSpec) : Attempt :=
  (s.call spec).map fun call => (.text call.describe, s)

def resolve (s : Session) (spec : ResolverSpec) (f : Failure) : Attempt :=
  let r := spec.resolver
  match r.settle (spec.delay + 1) (r.start f) s.store with
  | (some errors, st) => some (.errors errors, s.setStore st)
  | (none, _) => none

def putWiring (s : Session) (name : String) (w : Wiring) : Session :=
  { s with wirings := Dict.insert s.wirings name w }

def register (s : Session) (wiring fetcher : String) (fields : List Schema.Coordinates) :
    Attempt :=
  (Dict.get? s.wirings wiring).bind fun w =>
    (Dict.get? s.fetchers fetcher).map fun f =>
      (.done, s.putWiring wiring (w.register f.fetcher fields))

def copyWiring (s : Session) (name source : String) : Attempt :=
  (Dict.get? s.wirings source).map fun w => (.done, s.putWiring name w)

def showWiring (s : Session) (wiring : String) : Attempt :=
  (Dict.get? s.wirings wiring).map fun w =>
    (.wiring (w.map fun e => (e.1, e.2.kind)) w.describe, s)

def isWired (s : Session) (wiring : String) (field : Schema.Coordinates) : Attempt :=
  (Dict.get? s.wirings wiring).map fun w => (.flag (Dict.contains w field), s)

def installWith (s : Session) (i : Installer) (name source : String) (schema : Schema.Document)
    (r : Report) : Attempt :=
  (Dict.get? s.wirings source).map fun w => (r, s.putWiring name (i.install schema w))

def install (s : Session) (name source : String) (schema : Schema.Document)
    (resolvers : List ResolverSpec) (adapters : Option String) : Attempt :=
  (s.adapters? adapters).bind fun adapters =>
    let i : Installer := { resolvers := ResolverSpec.resolvers resolvers, adapters }
    s.installWith i name source schema (.text i.describe)

def installStandard (s : Session) (name source : String) (schema : Schema.Document)
    (resolvers : List ResolverSpec) : Attempt :=
  s.installWith { resolvers := ResolverSpec.resolvers resolvers } name source schema .nothing

/-- Fetches each field for a cancelled request, where a decorated fetcher gives a result for any
value but null. -/
def probeFields : List (Schema.Coordinates × Fetcher) → Store →
    List (Schema.Coordinates × Bool) × Store
  | [], st => ([], st)
  | (field, f) :: rest, st =>
    let (context, st) := st.newContext none
    match f.fetch { context, field } (st.cancel context) with
    | (.error _, st) =>
      let (seen, st) := probeFields rest st
      ((field, false) :: seen, st)
    | (.ok v, st) =>
      let (seen, st) := probeFields rest (v.drop st)
      ((field, v.isResult) :: seen, st)

def probe (s : Session) (wiring : String) : Attempt :=
  (Dict.get? s.wirings wiring).map fun w =>
    let (seen, st) := probeFields w s.store
    (.probed seen, s.setStore st)

end Fieldwork.Scenario.Session
