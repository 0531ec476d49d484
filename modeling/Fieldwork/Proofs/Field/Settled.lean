import Fieldwork.Field.Decorated
import Fieldwork.Proofs.Async.Within

/-!
What a decorated fetcher makes of its delegate's value: all the ways in which a value is settled,
and those for a value that comes later or over time on a request that is not cancelled when the
delegate is done.
-/
namespace Fieldwork

/-- A subscription to `t`: recovered by `r`, bound to the signal `k`, and polled with `s` installed
and `c` as the current context. -/
def Stream.subscribed (t : Stream) (r : Resolver) (k : Nat) (s : Snapshot) (c : RequestContext) :
    Stream :=
  ((t.recover r).bind k).instrumentedBy s c

/-- The future `f` bound to the signal `k` and polled with `s` installed and `c` as the current
context. -/
def Future.awaited (f : Future) (k : Nat) (s : Snapshot) (c : RequestContext) : Future :=
  (f.bind k).instrumentedBy s c

def Call.inside (call : Call) (st : Store) : Store := ((call.snapshot st).install st).2

def Call.outside (call : Call) (st after : Store) : Store :=
  ((call.snapshot st).install st).1.close after

theorem Call.inside_eq {call : Call} {st : Store} {s : Snapshot}
    (snapshot : call.snapshot st = s) : call.inside st = (s.install st).2 := by
  rw [Call.inside, snapshot]

@[simp] theorem Call.isSet_outside (call : Call) (st after : Store) (k : Nat) :
    (call.outside st after).isSet k = after.isSet k := by
  unfold outside
  rw [Scope.close_frame]
  rfl

@[simp] theorem Call.tasks_outside (call : Call) (st after : Store) :
    (call.outside st after).tasks = after.tasks := by
  unfold outside
  rw [Scope.close_frame]
  rfl

@[simp] theorem Call.channels_outside (call : Call) (st after : Store) :
    (call.outside st after).channels = after.channels := by
  unfold outside
  rw [Scope.close_frame]
  rfl

@[simp] theorem Call.names_outside (call : Call) (st after : Store) :
    (call.outside st after).names = after.names := by
  unfold outside
  rw [Scope.close_frame]
  rfl

namespace Decorator

variable {d : Decorator} {call : Call} {st st' : Store} {v : FieldValue}

inductive Settled (d : Decorator) (s : Snapshot) (call : Call) (v : FieldValue) (st : Store) :
    Except Failure FieldValue × Store → Prop
  | absent (absent : v.isAbsent = true) : Settled d s call v st (.ok v, st)
  | cancelled (set : st.isCancelled call.context = true) :
      Settled d s call v st (.ok .cancelled, v.drop st)
  | unstreamable (h : d.adapters.asStream v = .error w) :
      Settled d s call v st (.error (.notStreamable call.field), w.drop st)
  | stream (streamable : d.adapters.asStream v = .ok t) :
      Settled d s call v st
        (.ok (.stream (t.subscribed d.resolver call.context.signal s
          (s.overlay st call.context).1)), (s.overlay st call.context).2)
  | passthrough (h : d.adapters.asSingle v = .passthrough w) : Settled d s call v st (.ok w, st)
  | future (awaitable : d.adapters.asSingle v = .future f) :
      Settled d s call v st
        (.ok (.future (f.awaited call.context.signal s (s.overlay st call.context).1)),
          (s.overlay st call.context).2)

theorem settled (d : Decorator) (s : Snapshot) (call : Call) (v : FieldValue) (st : Store) :
    d.Settled s call v st (d.settle s call v st) := by
  unfold settle
  by_cases absent : v.isAbsent = true
  · simp only [absent]
    exact .absent absent
  by_cases cancelled : st.isCancelled call.context = true
  · simp only [absent, cancelled]
    exact .cancelled cancelled
  by_cases subscription : d.subscription = true
  · simp only [absent, cancelled, subscription, settleStream]
    cases streamable : d.adapters.asStream v with
    | error w => exact .unstreamable streamable
    | ok t => exact .stream streamable
  · simp only [absent, cancelled, subscription, settleSingle]
    cases awaitable : d.adapters.asSingle v with
    | passthrough w => exact .passthrough awaitable
    | future f => exact .future awaitable

theorem fetch_eq (d : Decorator) {call : Call} {s : Snapshot} (snapshot : call.snapshot st = s) :
    d.fetch call st =
      d.settleResult s call (d.delegate.fetch call (call.inside st)).1
        ((s.install st).1.close (d.delegate.fetch call (call.inside st)).2) := by
  subst snapshot
  rfl

theorem exceptMap_eq_ok {ε : Type u} {α β : Type v} {x : Except ε α} {f : α → β} {b : β}
    (h : x.map f = .ok b) : ∃ a, x = .ok a ∧ f a = b := by
  cases x with
  | error e => cases h
  | ok a => exact ⟨a, rfl, Except.ok.inj h⟩

theorem settleResult_eq_ok {s : Snapshot} {r : Except Failure FieldValue} {w : FieldValue}
    (h : (d.settleResult s call r st).1 = .ok w) :
    (∃ data errors handed w', r = .ok (.result data errors handed) ∧
      (d.settle s call data st).1 = .ok w' ∧ w = .result w' errors handed) ∨
    (∃ v, r = .ok v ∧ v.isResult = false ∧ (d.settle s call v st).1 = .ok w) := by
  match r with
  | .error e => simp [settleResult] at h
  | .ok (.result data errors handed) =>
    obtain ⟨w', answered, made⟩ := exceptMap_eq_ok (x := (d.settle s call data st).1) h
    exact .inl ⟨data, errors, handed, w', rfl, answered, made.symm⟩
  | .ok (.value v) => exact .inr ⟨_, rfl, rfl, h⟩
  | .ok (.future f) => exact .inr ⟨_, rfl, rfl, h⟩
  | .ok (.stream t) => exact .inr ⟨_, rfl, rfl, h⟩
  | .ok (.foreign x) => exact .inr ⟨_, rfl, rfl, h⟩

theorem settleResult_plain (plain : v.isResult = false) (s : Snapshot) (call : Call) (st : Store) :
    d.settleResult s call (.ok v) st = d.settle s call v st := by
  cases v with
  | result data errors handed => cases plain
  | value v => rfl
  | future f => rfl
  | stream t => rfl
  | foreign x => rfl

theorem fetch_eq_settle (fetched : (call.snapshot st).wrap (d.delegate.fetch call) st = (.ok v, st'))
    (plain : v.isResult = false) :
    d.fetch call st = d.settle (call.snapshot st) call v st' := by
  simp only [fetch, fetched]
  exact settleResult_plain plain _ call st'

theorem settle_of_asStream {s : Snapshot} (subscription : d.subscription = true)
    (alive : st.isCancelled call.context = false) {t : Stream}
    (streamable : d.adapters.asStream v = .ok t) :
    v.isResult = false ∧ d.settle s call v st =
      (.ok (.stream (t.subscribed d.resolver call.context.signal s
          (s.overlay st call.context).1)), (s.overlay st call.context).2) := by
  have plain : v.isResult = false ∧ v.isAbsent = false := by
    cases v with
    | value v => simp [Adapters.asStream, Adapters.classify] at streamable
    | result data errors handed => simp [Adapters.asStream, Adapters.classify] at streamable
    | future f => exact ⟨rfl, rfl⟩
    | stream t => exact ⟨rfl, rfl⟩
    | foreign x => exact ⟨rfl, rfl⟩
  refine ⟨plain.1, ?_⟩
  simp only [settle, plain.2, alive, subscription, settleStream, streamable]
  rfl

theorem settle_of_asSingle {s : Snapshot} (single : d.subscription = false)
    (alive : st.isCancelled call.context = false) {f : Future}
    (awaitable : d.adapters.asSingle v = .future f) :
    v.isResult = false ∧ d.settle s call v st =
      (.ok (.future (f.awaited call.context.signal s (s.overlay st call.context).1)),
        (s.overlay st call.context).2) := by
  have plain : v.isResult = false ∧ v.isAbsent = false := by
    cases v with
    | value v => simp [Adapters.asSingle, Adapters.classify] at awaitable
    | result data errors handed => simp [Adapters.asSingle, Adapters.classify] at awaitable
    | future f => exact ⟨rfl, rfl⟩
    | stream t => exact ⟨rfl, rfl⟩
    | foreign x => exact ⟨rfl, rfl⟩
  refine ⟨plain.1, ?_⟩
  simp only [settle, plain.2, alive, single, settleSingle, awaitable]
  rfl

theorem fetch_of_asStream (subscription : d.subscription = true)
    (fetched : (call.snapshot st).wrap (d.delegate.fetch call) st = (.ok v, st'))
    (alive : st'.isCancelled call.context = false) {t : Stream}
    (streamable : d.adapters.asStream v = .ok t) :
    d.fetch call st =
      (.ok (.stream (t.subscribed d.resolver call.context.signal (call.snapshot st)
          ((call.snapshot st).overlay st' call.context).1)),
        ((call.snapshot st).overlay st' call.context).2) := by
  obtain ⟨plain, settled⟩ := settle_of_asStream (s := call.snapshot st) subscription alive streamable
  exact (fetch_eq_settle fetched plain).trans settled

theorem fetch_of_asSingle (single : d.subscription = false)
    (fetched : (call.snapshot st).wrap (d.delegate.fetch call) st = (.ok v, st'))
    (alive : st'.isCancelled call.context = false) {f : Future}
    (awaitable : d.adapters.asSingle v = .future f) :
    d.fetch call st =
      (.ok (.future (f.awaited call.context.signal (call.snapshot st)
          ((call.snapshot st).overlay st' call.context).1)),
        ((call.snapshot st).overlay st' call.context).2) := by
  obtain ⟨plain, settled⟩ := settle_of_asSingle (s := call.snapshot st) single alive awaitable
  exact (fetch_eq_settle fetched plain).trans settled

end Decorator
end Fieldwork
