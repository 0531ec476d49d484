import Fieldwork.Field.Built
import Fieldwork.Settings.Text
import Fieldwork.Wiring.Table
/-!
Scenarios: steps that build contexts, sources, fetchers and wirings under names and try them out,
and the reports of what each step showed.
-/
namespace Fieldwork.Scenario

inductive Entered
  | json (v : Json.Value)
  | double (x : Double)
  | unit
  | pairKeyed

inductive ReadAs
  | json
  | int32
  | nat8
  | int64
  | nat64
  | bool
  | string
  | optionalString
  | listOfInt32
  | unit

inductive PlanRef
  | named (name : String)
  | default
  | ofContext (name : String)

inductive SignalRef
  | named (name : String)
  | ofContext (name : String)

inductive FetcherRef
  | named (name : String)
  | wired (wiring : String) (field : Schema.Coordinates)

inductive CaptureFrom
  | slots
  | context (name : String)
  | over (name : String) (first : String)

inductive View
  | classified
  | single
  | stream

structure CallSpec where
  context : String
  field : Schema.Coordinates
  handed : Option HandedSpec
  path : Response.Path
  arguments : Json.Object
  source : Json.Value

inductive Step
  | setSlot (i : Nat) (v : Json.Value)
  | resetSlot (i : Nat)
  | slots
  | newContext (name : String) (plan : Option String) (entries : List (String × Json.Value))
  | copyContext (name source : String)
  | enter (context key : String) (v : Entered)
  | read (context key : String) (type : ReadAs)
  | has (context key : String)
  | dump (context : String) (keys : List String)
  | cancel (context : String)
  | isCancelled (context : String)
  | currentHas (key : String)
  | plan (name : String) (accessors : List Accessor) (options : Propagation)
  | planOfText (name : String) (accessors : List Accessor) (settings : String)
  | describePlan (p : PlanRef)
  | capture (p : PlanRef) (source : CaptureFrom) (name : String)
  | captured (snapshot key : String)
  | overlay (snapshot context name : String)
  | wrap (snapshot : String) (steps : List Step)
  | openScope (snapshot name : String)
  | closeScope (name : String)
  | instrument (snapshot context : String) (value : FieldSpec) (name : String)
  | newSignal (name : String)
  | copySignal (name : String) (source : SignalRef)
  | setSignal (s : SignalRef)
  | showSignal (s : SignalRef)
  | bind (s : SignalRef) (value : FieldSpec) (name : String)
  | newChannel (name : String) (kind : ChannelKind) (capacity : Nat)
  | send (channel : String) (o : Outcome)
  | closeChannel (channel : String)
  | newAdapters (name : String) (bare : Bool) (more : List AdapterSpec)
  | view (how : View) (adapters : Option String) (value : FieldSpec) (name : String)
  | inspect (value : FieldSpec)
  | newFetcher (name : String) (spec : FetcherSpec)
  | decorate (name delegate : String) (subscription : Bool) (resolver : ResolverSpec)
      (adapters : Option String)
  | showDecorator (fetcher delegate : String)
  | describe (f : FetcherRef)
  | fetch (f : FetcherRef) (call : CallSpec) (name : String)
  | describeCall (call : CallSpec)
  | resolve (resolver : ResolverSpec) (f : Failure)
  | describeComposite (count : Nat)
  | showFailure (f : Failure)
  | newWiring (name : String)
  | register (wiring fetcher : String) (fields : List Schema.Coordinates)
  | copyWiring (name source : String)
  | showWiring (wiring : String)
  | isWired (wiring : String) (field : Schema.Coordinates)
  | install (name source : String) (schema : Schema.Document) (resolvers : List ResolverSpec)
      (adapters : Option String)
  | installStandard (name source : String) (schema : Schema.Document)
      (resolvers : List ResolverSpec)
  | probe (wiring : String)
  | poll (handle : String) (times : Nat)
  | pollOnThread (handle : String) (times : Nat) (slots : List (Option Json.Value))
  | drain (handle : String)
  | sizeHint (handle : String)
  | drop (handle : String)
  | runTasks
  | openGate (name : String)

inductive Shown
  | value (v : Json.Value)
  | result (data : Shown) (errors : List Response.Error) (handed : Option LocalContext)
  | future
  | stream
  | foreign (x : Foreign)

inductive Form
  | future
  | stream
  | passed (s : Shown)

inductive Seen
  | pending
  | gave (o : Outcome)
  | ended
  | completed

structure Inspection where
  absent : Bool
  value : Option Json.Value
  isResult : Bool
  isFuture : Bool
  isStream : Bool
  foreign : Option Foreign
  text : String

inductive Report
  | done
  | nothing
  | flag (b : Bool)
  | text (s : String)
  | entry (v : Option Json.Value)
  | entries (vs : List (Option Json.Value))
  | refused (e : DecodeError)
  | badSettings (e : SettingsError)
  | captured (text : String) (empty : Bool)
  | inside (answers : List (Report × List Json.Value))
  | hint (low : Nat) (high : Option Nat)
  | instrumented (low : Nat) (high : Option Nat)
  | signal (isSet : Bool)
  | sent (r : SendReport)
  | adapters (count : Nat) (text : String)
  | viewed (how : View) (form : Form) (text : String)
  | inspected (i : Inspection)
  | decorator (subscription : Bool) (text : String) (delegate : Bool)
  | described (kind : Schema.Kind) (about : Option About)
  | shown (s : Shown)
  | failed (f : Failure)
  | unregistered
  | errors (es : List Response.Error)
  | failure (f : Failure)
  | wiring (fields : List (Schema.Coordinates × Schema.Kind)) (text : String)
  | probed (fields : List (Schema.Coordinates × Bool))
  | polls (seen : List Seen)
  | threadPolls (seen : List Seen) (slots : List (Option Json.Value))

abbrev Answer := Report × List Json.Value

end Fieldwork.Scenario
