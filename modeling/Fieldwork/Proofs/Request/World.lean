import Fieldwork.Proofs.Field.InFlight

/-!
Requests side by side. A world holds the handles through which requests can be cancelled and the
values in flight. Each of them descends from a context or a signal that was made in this run, its
origin, and what happens in a world is told by events in any order.

Sources, resolvers, delegates and adapters are any code, and so is the work that goes on beside.
Such code is lawful if it only makes signals and sets them; a set signal cannot be unset.
-/
namespace Fieldwork

/-- What a request can be cancelled through. -/
inductive Handle
  | context (c : RequestContext)
  | signal (k : Nat)

namespace Handle

def key : Handle → Nat
  | context c => c.signal
  | signal k => k

def cancel (st : Store) : Handle → Store
  | context c => st.cancel c
  | signal k => st.setSignal k

def isCancelled (st : Store) : Handle → Bool
  | context c => st.isCancelled c
  | signal k => st.isSet k

theorem cancel_eq (h : Handle) (st : Store) : h.cancel st = st.setSignal h.key := by
  cases h <;> rfl

end Handle

/-- A handle and the number of the origin from which it descends. -/
structure Held where
  handle : Handle
  origin : Nat

structure InFlight where
  value : FieldValue
  origin : Nat

structure World where
  store : Store
  held : List Held := []
  flying : List InFlight := []
  created : Nat := 0
  cancelled : List Nat := []

namespace World

inductive Event
  | newContext (plan : Option CapturePlan)
  | newSignal
  | adopt (handle : Handle)
  | copy (n : Nat)
  | planned (n : Nat) (plan : Option CapturePlan)
  | signal (n : Nat)
  | overlay (n : Nat) (s : Snapshot)
  | cancel (n : Nat)
  | bindFuture (n : Nat) (f : Future)
  | bindStream (n : Nat) (t : Stream)
  | fetch (n : Nat) (d : Decorator) (call : Call)
  | poll (i : Nat)
  | drop (i : Nat)
  | work (change : Store → Store)

def Event.Respects (S : SignalRelation) : Event → Prop
  | bindFuture _ f => Source.Respects S f
  | bindStream _ t => t.Respects S
  | fetch _ d _ => d.Respects S
  | work change => ∀ st st', st.Alike S st' → (change st).Alike S (change st')
  | _ => True

def Event.Lawful (e : Event) : Prop := ∀ p, e.Respects (.above p)

def hold (w : World) (handle : Handle) (origin : Nat) : World :=
  { w with held := w.held ++ [⟨handle, origin⟩] }

def give (w : World) (value : FieldValue) (origin : Nat) : World :=
  { w with flying := w.flying ++ [⟨value, origin⟩] }

def create (w : World) (handle : Handle) (st : Store) : World :=
  { (w.hold handle w.created) with store := st, created := w.created + 1 }

def cancelThrough (w : World) (h : Held) : World :=
  { w with store := h.handle.cancel w.store, cancelled := h.origin :: w.cancelled }

def through (w : World) (n : Nat) (use : Held → World) : World :=
  match w.held[n]? with
  | some h => use h
  | none => w

def within (w : World) (n : Nat) (use : RequestContext → Nat → World) : World :=
  w.through n fun h => match h.handle with
    | .context c => use c h.origin
    | .signal _ => w

def fetch (w : World) (d : Decorator) (call : Call) (origin : Nat) : World :=
  match d.fetch call w.store with
  | (.error _, st) => { w with store := st }
  | (.ok v, st) =>
    ({ w with store := st }.hold (.context (d.copy call w.store)) origin).give v.content origin

def replace (w : World) (i : Nat) (change : Store → FieldValue → FieldValue × Store) : World :=
  match w.flying[i]? with
  | some e =>
    { w with
      store := (change w.store e.value).2
      flying := w.flying.set i ⟨(change w.store e.value).1, e.origin⟩ }
  | none => w

def step (w : World) : Event → World
  | .newContext plan => w.create (.context (w.store.newContext plan).1) (w.store.newContext plan).2
  | .newSignal => w.create (.signal w.store.newSignal.1) w.store.newSignal.2
  | .adopt handle =>
    if handle.key < w.store.signals.size ∧ w.store.isSet handle.key = false ∧
        ∀ h ∈ w.held, h.handle.key ≠ handle.key then
      w.create handle w.store
    else w
  | .copy n => w.through n fun h => w.hold h.handle h.origin
  | .planned n plan => w.within n fun c o => w.hold (.context { c with plan }) o
  | .signal n => w.within n fun c o => w.hold (.signal c.signal) o
  | .overlay n s => w.within n fun c o =>
    { w with store := (s.overlay w.store c).2 }.hold (.context (s.overlay w.store c).1) o
  | .cancel n => w.through n w.cancelThrough
  | .bindFuture n f => w.through n fun h => w.give (.future (f.bind h.handle.key)) h.origin
  | .bindStream n t => w.through n fun h => w.give (.stream (t.bind h.handle.key)) h.origin
  | .fetch n d call => w.within n fun c o => w.fetch d { call with context := c } o
  | .poll i => w.replace i FieldValue.next
  | .drop i => w.replace i fun st v => (.null, v.drop st)
  | .work change => { w with store := change w.store }

def run (w : World) (events : List Event) : World := events.foldl step w

end World
end Fieldwork
