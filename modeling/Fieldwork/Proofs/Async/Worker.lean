import Fieldwork.Proofs.Async.Within

/-!
A worker thread on which instrumented futures and streams are polled in any order, with any other
code running in between. What such a source sees in a poll are the slots that its snapshot covers and
the entries of the current context.
-/
namespace Fieldwork

inductive Work
  | future (f : Future)
  | stream (t : Stream)

inductive Answer
  | outcome (p : Poll Outcome)
  | item (p : Poll (Option Outcome))

namespace Work

def next (st : Store) : Work → Answer × Work × Store
  | future f =>
    let (p, f, st) := f.next st
    (.outcome p, future f, st)
  | stream t =>
    let (p, t, st) := t.next st
    (.item p, stream t, st)

def instrumentedBy (s : Snapshot) (c : RequestContext) : Work → Work
  | future f => future (f.instrumentedBy s c)
  | stream t => stream (t.instrumentedBy s c)

theorem next_instrumentedBy (w : Work) (s : Snapshot) (c : RequestContext) (st : Store) :
    (w.instrumentedBy s c).next st =
      ((w.next (s.enter c st)).1, (w.next (s.enter c st)).2.1.instrumentedBy s c,
        s.leave c st (w.next (s.enter c st)).2.2) := by
  cases w <;> rfl

def after (w : Work) (starts : List Store) : Work := starts.foldl (fun w st => (w.next st).2.1) w

def Always (P : Work → Prop) (w : Work) : Prop := ∀ starts, P (w.after starts)

variable {P : Work → Prop} {w : Work}

theorem Always.now (h : w.Always P) : P w := h []

theorem Always.next (h : w.Always P) (st : Store) : (w.next st).2.1.Always P :=
  fun starts => h (st :: starts)

theorem always_of_invariant {I : Work → Prop} (start : I w) (holds : ∀ w, I w → P w)
    (kept : ∀ w st, I w → I (w.next st).2.1) : w.Always P := by
  intro starts
  induction starts generalizing w with
  | nil => exact holds w start
  | cons st starts ih => exact ih (kept w st start)

end Work

structure View where
  slots : Nat → Option (Option Json.Value)
  entries : Option Bag

def Snapshot.view (s : Snapshot) (st : Store) : View where
  slots i := if s.Covers i then some (st.slots i) else none
  entries := st.current.map fun c => st.bags.cell c.bag

/-- Work that has been instrumented: as it stands, with its snapshot and with the copy of its
request's context that is current in its polls. -/
structure Sibling where
  work : Work
  snapshot : Snapshot
  own : RequestContext

/-- One poll as it is seen from within. -/
structure Sight where
  answer : Answer
  began : View
  ended : View
  noted : List Json.Value

namespace Sibling

def instrumented (b : Sibling) : Work := b.work.instrumentedBy b.snapshot b.own

def inside (b : Sibling) (st : Store) : Store := b.snapshot.enter b.own st

def next (b : Sibling) (st : Store) : Sibling × Store :=
  ({ b with work := (b.work.next (b.inside st)).2.1 }, (b.instrumented.next st).2.2)

def sight (b : Sibling) (st : Store) : Sight where
  answer := (b.instrumented.next st).1
  began := b.snapshot.view (b.inside st)
  ended := b.snapshot.view (b.work.next (b.inside st)).2.2
  noted := (b.work.next (b.inside st)).2.2.log.drop (b.inside st).log.length

theorem store_next (b : Sibling) (st : Store) :
    (b.next st).2 = b.snapshot.leave b.own st (b.work.next (b.inside st)).2.2 := by
  simp only [next, instrumented, Work.next_instrumentedBy]
  rfl

end Sibling

inductive WorkerEvent
  | spawn (work : Work) (s : Snapshot) (c : RequestContext)
  | poll (i : Nat)
  | other (change : Store → Store)

def WorkerEvent.polls (i : Nat) : WorkerEvent → Bool
  | poll j => j == i
  | _ => false

/-- Siblings are numbered in the order in which they were spawned. -/
structure Worker where
  store : Store
  siblings : List Sibling

namespace Worker

def step (w : Worker) : WorkerEvent → Worker
  | .spawn work s c =>
    let (own, st) := s.overlay w.store c
    ⟨st, w.siblings ++ [⟨work, s, own⟩]⟩
  | .poll i =>
    match w.siblings[i]? with
    | some b => ⟨(b.next w.store).2, w.siblings.set i (b.next w.store).1⟩
    | none => w
  | .other change => { w with store := change w.store }

def seen (i : Nat) : Worker → List WorkerEvent → List Sight
  | _, [] => []
  | w, e :: rest =>
    (if e.polls i then (w.siblings[i]?.map (·.sight w.store)).toList else []) ++
      (w.step e).seen i rest

def Throughout (P : Store → Prop) : Worker → List WorkerEvent → Prop
  | _, [] => True
  | w, e :: rest => P w.store ∧ (w.step e).Throughout P rest

def alone (b : Sibling) (st : Store) : Worker := ⟨st, [b]⟩

end Worker
end Fieldwork
