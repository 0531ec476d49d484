import Fieldwork.Request.Entries
/-!
Snapshots of slots: capturing values, entering them in a context, and installing them for a time.
A scope remembers what the slots held before and puts it back, the last saved first.
-/
namespace Fieldwork

structure Snapshot where
  captured : List (Accessor × Option Json.Value)
  clearMissing : Bool
  deriving DecidableEq

/-- What to put back, the last saved first. -/
structure Scope where
  saved : List (Accessor × Option Json.Value)
  deriving DecidableEq

namespace Accessor

def trace (a : Accessor) (st : Store) (entry : List Json.Value) : Store :=
  if a.traced then st.note (.array entry) else st

def read (a : Accessor) (st : Store) : Option Json.Value × Store :=
  (st.slots a.slot, a.trace st [.string "get", .string a.key])

/-- Writing no value resets the slot. -/
def write (a : Accessor) (v : Option Json.Value) (st : Store) : Store :=
  let st := match v with
    | some x => a.trace st [.string "set", .string a.key, x]
    | none => a.trace st [.string "reset", .string a.key]
  st.setSlot a.slot v

end Accessor

namespace CapturePlan

def captureWith (p : CapturePlan) (lookup : Accessor → Option Json.Value) : Snapshot where
  captured := p.accessors.map fun a => (a, if p.captures a.key then lookup a else none)
  clearMissing := p.options.clearMissing

def captureSlots (p : CapturePlan) (st : Store) : Snapshot × Store :=
  (p.captureWith fun a => st.slots a.slot,
    (p.accessors.filter fun a => p.captures a.key).foldl (fun st a => (a.read st).2) st)

def captureFrom (p : CapturePlan) (st : Store) (c : RequestContext) : Snapshot :=
  p.captureWith fun a => st.entry? c a.key

/-- Captures the entries of `l`, and those of `c` where `l` has none. -/
def captureOver (p : CapturePlan) (st : Store) (c l : RequestContext) : Snapshot :=
  p.captureWith fun a => (st.entry? l a.key).or (st.entry? c a.key)

end CapturePlan

namespace Snapshot

/-- The value of the first accessor with this key. -/
def get? (s : Snapshot) (key : String) : Option Json.Value :=
  (s.captured.find? fun e => e.1.key = key).bind (·.2)

def isEmpty (s : Snapshot) : Bool := s.captured.all fun e => e.2.isNone

def entries (s : Snapshot) : List (String × Json.Value) :=
  s.captured.filterMap fun e => e.2.map fun v => (e.1.key, v)

def describe (s : Snapshot) : String := Text.braced (Json.Value.describeMembers s.entries)

def overlay (s : Snapshot) (st : Store) (c : RequestContext) : RequestContext × Store :=
  st.overlay c s.entries

def writes (s : Snapshot) : List (Accessor × Option Json.Value) :=
  s.captured.filter fun e => e.2.isSome || s.clearMissing

end Snapshot

namespace Scope

def opening : List (Accessor × Option Json.Value) → Scope → Store → Scope × Store
  | [], scope, st => (scope, st)
  | (a, v) :: rest, scope, st =>
    let (old, st) := a.read st
    opening rest ⟨(a, old) :: scope.saved⟩ (a.write v st)

def close (scope : Scope) (st : Store) : Store :=
  scope.saved.foldl (fun st e => e.1.write e.2 st) st

end Scope

namespace Snapshot

def install (s : Snapshot) (st : Store) : Scope × Store := Scope.opening s.writes ⟨[]⟩ st

def wrap {α : Type u} (s : Snapshot) (work : Store → α × Store) (st : Store) : α × Store :=
  let (scope, st) := s.install st
  let (r, st) := work st
  (r, scope.close st)

end Snapshot
end Fieldwork
