import Fieldwork.Async.Source
import Fieldwork.Slots.Snapshot
/-!
Futures and streams that run with a snapshot installed. Each poll has as its current context a copy
of the request's context that holds the captured values; the copy is made once, with the source.
-/
namespace Fieldwork

namespace Snapshot

def around {α : Type u} (s : Snapshot) (c : RequestContext) (work : Store → α × Store)
    (st : Store) : α × Store :=
  Store.within (some c) (s.wrap work) st

def pollWithin (s : Snapshot) (c : RequestContext) (inner : Source α) (x : inner.State)
    (st : Store) : Poll α × inner.State × Store :=
  let ((r, x), st) := s.around c (fun st => let (r, x, st) := inner.poll x st; ((r, x), st)) st
  (r, x, st)

end Snapshot

namespace Future

def instrumentedBy (f : Future) (s : Snapshot) (c : RequestContext) : Future where
  State := f.State
  state := f.state
  poll := s.pollWithin c f
  release := f.release

def instrument (f : Future) (s : Snapshot) (c : RequestContext) (st : Store) : Future × Store :=
  let (copy, st) := s.overlay st c
  (f.instrumentedBy s copy, st)

end Future

namespace Stream

def instrumentedBy (t : Stream) (s : Snapshot) (c : RequestContext) : Stream where
  State := t.State
  state := t.state
  poll := s.pollWithin c t.toSource
  release := t.release
  hint := t.hint
  burst := t.burst

def instrument (t : Stream) (s : Snapshot) (c : RequestContext) (st : Store) : Stream × Store :=
  let (copy, st) := s.overlay st c
  (t.instrumentedBy s copy, st)

end Stream
end Fieldwork
