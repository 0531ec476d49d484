import Fieldwork.Proofs.Async.Bound
import Fieldwork.Proofs.Field.Alike

/-!
Values in flight: futures and streams that have been bound to a signal and given out, and stand
somewhere in their run. Once the signal is set they stop without polling what they were made of.
-/
namespace Fieldwork

/-- What is around each poll of a value that is given out: nothing, or a snapshot that is installed
and a current context. -/
inductive Surroundings
  | bare
  | installed (s : Snapshot) (c : RequestContext)

namespace Surroundings

def enter : Surroundings → Store → Store
  | bare, st => st
  | installed s c, st => s.enter c st

def leave : Surroundings → Store → Store → Store
  | bare, _, inner => inner
  | installed s c, st, inner => s.leave c st inner

def Shows (seen : RequestContext → Prop) : Surroundings → Prop
  | bare => True
  | installed s c => seen c ∧ ∀ st, (s.enter c st).current = some c

@[simp] theorem isSet_enter (o : Surroundings) (st : Store) (k : Nat) :
    (o.enter st).isSet k = st.isSet k := by
  cases o with
  | bare => rfl
  | installed s c => exact s.isSet_enter c st k

theorem shows_installed {seen : RequestContext → Prop} (s : Snapshot) {c : RequestContext}
    (h : seen c) : (installed s c).Shows seen :=
  ⟨h, s.current_enter c⟩

theorem Shows.mono {seen seen' : RequestContext → Prop} {o : Surroundings} (h : o.Shows seen)
    (all : ∀ c, seen c → seen' c) : o.Shows seen' := by
  cases o with
  | bare => exact trivial
  | installed s c => exact ⟨all c h.1, h.2⟩

end Surroundings

def Source.under {α : Type} (s : Source α) (o : Surroundings) : Source α where
  State := s.State
  state := s.state
  poll x st :=
    ((s.poll x (o.enter st)).1, (s.poll x (o.enter st)).2.1,
      o.leave st (s.poll x (o.enter st)).2.2)
  release := s.release

def Future.standing (f : Future) (k : Nat) (o : Surroundings) (y : Option f.State) : Future :=
  { Source.under (f.bind k) o with state := y }

def Stream.standing (t : Stream) (k : Nat) (o : Surroundings) (y : t.State × Bool) : Stream :=
  { toSource := { (t.bind k).toSource.under o with state := y }
    hint := (t.bind k).hint
    burst := (t.bind k).burst }

theorem Future.bind_eq_standing (f : Future) (k : Nat) :
    f.bind k = f.standing k .bare (some f.state) := rfl

theorem Future.instrumented_eq_standing (f : Future) (k : Nat) (s : Snapshot) (c : RequestContext) :
    (f.bind k).instrumentedBy s c = f.standing k (.installed s c) (some f.state) := rfl

theorem Stream.bind_eq_standing (t : Stream) (k : Nat) :
    t.bind k = t.standing k .bare (t.state, false) := rfl

theorem Stream.instrumented_eq_standing (t : Stream) (k : Nat) (s : Snapshot) (c : RequestContext) :
    (t.bind k).instrumentedBy s c = t.standing k (.installed s c) (t.state, false) := rfl

theorem Future.standing_next (f : Future) (k : Nat) (o : Surroundings) (y : Option f.State)
    (st : Store) :
    Source.next (f.standing k o y) st =
      (((f.bind k).poll y (o.enter st)).1,
        f.standing k o ((f.bind k).poll y (o.enter st)).2.1,
        o.leave st ((f.bind k).poll y (o.enter st)).2.2) := rfl

theorem Stream.standing_next (t : Stream) (k : Nat) (o : Surroundings) (y : t.State × Bool)
    (st : Store) :
    (t.standing k o y).next st =
      (((t.bind k).poll y (o.enter st)).1,
        t.standing k o ((t.bind k).poll y (o.enter st)).2.1,
        o.leave st ((t.bind k).poll y (o.enter st)).2.2) := rfl

theorem Future.standing_stops (f : Future) {k : Nat} (o : Surroundings) (x : f.State) {st : Store}
    (set : st.isSet k = true) :
    Source.next (f.standing k o (some x)) st =
      (.ready (.ok .null), f.standing k o none, o.leave st (f.release x (o.enter st))) := by
  have set' : (o.enter st).isSet k = true := by simpa using set
  rw [standing_next, bind_poll_set f x set']

theorem Stream.standing_over (t : Stream) {k : Nat} (o : Surroundings) (y : t.State × Bool)
    {st : Store} (done : y.2 = true ∨ st.isSet k = true) :
    (t.standing k o y).next st =
      (.ready none, t.standing k o (y.1, true), o.leave st (o.enter st)) := by
  have done' : y.2 = true ∨ (o.enter st).isSet k = true := by simpa using done
  rw [standing_next, bind_poll_stops t y done']

theorem Stream.standing_stops (t : Stream) {k : Nat} (o : Surroundings) (y : t.State × Bool)
    {st : Store} (set : st.isSet k = true) :
    (t.standing k o y).next st =
      (.ready none, t.standing k o (y.1, true), o.leave st (o.enter st)) :=
  t.standing_over o y (.inr set)

theorem Future.standing_asked (f : Future) {k : Nat} (o : Surroundings) (x : f.State) {st : Store}
    (unset : st.isSet k = false) :
    Source.next (f.standing k o (some x)) st =
      match f.poll x (o.enter st) with
      | (.pending, x', after) => (.pending, f.standing k o (some x'), o.leave st after)
      | (.ready a, x', after) => (.ready a, f.standing k o none, o.leave st (f.release x' after))
      | (.broken, x', after) => (.broken, f.standing k o (some x'), o.leave st after) := by
  have unset' : (o.enter st).isSet k = false := by simpa using unset
  rw [standing_next, bind_poll_unset f x unset']
  rcases f.poll x (o.enter st) with ⟨p, x', after⟩
  cases p <;> rfl

namespace FieldValue

/-- A value in flight is bound to the signal `k`, and `seen` holds of the contexts that are current
in its polls. Other values are not bound to anything. -/
def Bound (k : Nat) (seen : RequestContext → Prop) : FieldValue → Prop
  | future u => ∃ f o y, u = Future.standing f k o y ∧ o.Shows seen
  | stream u => ∃ t o y, u = Stream.standing t k o y ∧ o.Shows seen
  | _ => True

theorem Bound.mono {k : Nat} {seen seen' : RequestContext → Prop} {v : FieldValue}
    (h : v.Bound k seen) (all : ∀ c, seen c → seen' c) : v.Bound k seen' := by
  cases v with
  | future u =>
    obtain ⟨f, o, y, stands, shows⟩ := h
    exact ⟨f, o, y, stands, shows.mono all⟩
  | stream u =>
    obtain ⟨t, o, y, stands, shows⟩ := h
    exact ⟨t, o, y, stands, shows.mono all⟩
  | value v => exact trivial
  | result data errors handed => exact trivial
  | foreign x => exact trivial

def next (st : Store) : FieldValue → FieldValue × Store
  | future u => (.future (Source.next u st).2.1, (Source.next u st).2.2)
  | stream u => (.stream (u.next st).2.1, (u.next st).2.2)
  | v => (v, st)

theorem Bound.next {k : Nat} {seen : RequestContext → Prop} {v : FieldValue} (h : v.Bound k seen)
    (st : Store) : (v.next st).1.Bound k seen := by
  cases v with
  | future u =>
    obtain ⟨f, o, y, rfl, shows⟩ := h
    exact ⟨f, o, _, congrArg (·.2.1) (f.standing_next k o y st), shows⟩
  | stream u =>
    obtain ⟨t, o, y, rfl, shows⟩ := h
    exact ⟨t, o, _, congrArg (·.2.1) (t.standing_next k o y st), shows⟩
  | value v => exact trivial
  | result data errors handed => exact trivial
  | foreign x => exact trivial

theorem Respects.next_value {S : SignalRelation} {v : FieldValue} (h : v.Respects S) (st : Store) :
    (v.next st).1.Respects S := by
  cases v with
  | future u => exact ⟨h.poll, h.release⟩
  | stream u => exact ⟨⟨h.source.poll, h.source.release⟩, h.burst⟩
  | value v => exact trivial
  | result data errors handed => exact h
  | foreign x => exact trivial

theorem Respects.next {S : SignalRelation} {v : FieldValue} (h : v.Respects S) {st st' : Store}
    (alike : st.Alike S st') : (v.next st).2.Alike S (v.next st').2 := by
  cases v with
  | future u =>
    obtain ⟨p, x, after, after', one, other, left⟩ := Source.Respects.poll h u.state _ _ alike
    simp only [FieldValue.next, Source.next, one, other]
    exact left
  | stream u =>
    obtain ⟨p, x, after, after', one, other, left⟩ := h.source.poll u.state _ _ alike
    simp only [FieldValue.next, Stream.next, one, other]
    exact left
  | value v => exact alike
  | result data errors handed => exact alike
  | foreign x => exact alike

def content : FieldValue → FieldValue
  | result data _ _ => data
  | v => v

end FieldValue

def Decorator.copy (d : Decorator) (call : Call) (st : Store) : RequestContext :=
  ((call.snapshot st).overlay ((call.snapshot st).wrap (d.delegate.fetch call) st).2
    call.context).1

inductive FieldValue.Given (r : Resolver) (k : Nat) (s : Snapshot) (c : RequestContext) :
    FieldValue → Prop
  | plain (noFuture : v.isFuture = false) (noStream : v.isStream = false) : Given r k s c v
  | future (f : Future) : Given r k s c (.future (f.awaited k s c))
  | stream (t : Stream) : Given r k s c (.stream (t.subscribed r k s c))

theorem FieldValue.Given.bound {r : Resolver} {k : Nat} {s : Snapshot} {c : RequestContext}
    {v : FieldValue} (h : v.Given r k s c) : v.Bound k (· = c) := by
  cases h with
  | plain noFuture noStream =>
    cases v with
    | future f => cases noFuture
    | stream t => cases noStream
    | value v => exact trivial
    | result data errors handed => exact trivial
    | foreign x => exact trivial
  | future f =>
    exact ⟨f, _, _, f.instrumented_eq_standing k s c, Surroundings.shows_installed s rfl⟩
  | stream t =>
    exact ⟨_, _, _, (t.recover r).instrumented_eq_standing k s c,
      Surroundings.shows_installed s rfl⟩

namespace Decorator

variable {d : Decorator} {call : Call} {st : Store} {v w : FieldValue} {s : Snapshot}

theorem settle_given (settled : (d.settle s call v st).1 = .ok w) :
    w.Given d.resolver call.context.signal s (s.overlay st call.context).1 ∧
      (v.isResult = false →
        w.content.Given d.resolver call.context.signal s (s.overlay st call.context).1) := by
  have ways := d.settled s call v st
  generalize d.settle s call v st = r at settled ways
  cases ways with
  | absent absent =>
    cases settled
    cases v with
    | value v => exact ⟨.plain rfl rfl, fun _ => .plain rfl rfl⟩
    | result data errors handed => cases absent
    | future f => cases absent
    | stream t => cases absent
    | foreign x => cases absent
  | cancelled set =>
    cases settled
    exact ⟨.plain rfl rfl, fun _ => .plain rfl rfl⟩
  | unstreamable h => cases settled
  | @stream t streamable =>
    cases settled
    exact ⟨.stream t, fun _ => .stream t⟩
  | passthrough plain =>
    cases settled
    obtain ⟨rfl, noFuture, noStream⟩ := Adapters.asSingle_passthrough plain
    refine ⟨.plain noFuture noStream, ?_⟩
    intro noResult
    cases w with
    | result data errors handed => cases noResult
    | value v => exact .plain rfl rfl
    | future f => cases noFuture
    | stream t => cases noStream
    | foreign x => exact .plain rfl rfl
  | @future f awaitable =>
    cases settled
    exact ⟨.future f, fun _ => .future f⟩

theorem fetch_given (fetched : (d.fetch call st).1 = .ok v) :
    v.content.Given d.resolver call.context.signal (call.snapshot st) (d.copy call st) := by
  rcases settleResult_eq_ok fetched with
    ⟨data, errors, handed, w, _, settled, rfl⟩ | ⟨v', _, plain, settled⟩
  · exact (settle_given settled).1
  · exact (settle_given settled).2 plain

/-- What a decorated fetcher gives is bound to the signal of the request, whatever is handed down. -/
theorem fetch_bound (fetched : (d.fetch call st).1 = .ok v) :
    v.content.Bound call.context.signal (· = d.copy call st) :=
  (fetch_given fetched).bound

end Decorator
end Fieldwork
