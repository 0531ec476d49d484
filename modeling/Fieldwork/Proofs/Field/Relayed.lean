import Fieldwork.Proofs.Async.Buffered
import Fieldwork.Proofs.Async.Worker
import Fieldwork.Proofs.Field.Outcome

/-!
Fields whose delegate gives the receiver of a queue. Values are sent, the sender is closed, the
value in flight is polled and its request is cancelled in any order, with any other code in between.
What has been accepted is at every moment what has been given and what still waits, in the order in
which it was sent, so what the next poll gives is a matter of the signal and of the channel alone.
-/
namespace Fieldwork

inductive FeedEvent
  | send (v : Json.Value)
  | close
  | poll
  | cancel
  | other (change : Store → Store)

def FeedEvent.Apart (name : String) (id signal : Nat) : FeedEvent → Prop
  | other change => ∀ st : Store, (change st).names.channel name = st.names.channel name ∧
      (change st).channels.cell id = st.channels.cell id ∧
      (st.isSet signal = true → (change st).isSet signal = true)
  | _ => True

/-- Work with what its polls have given and what the channel has accepted until now. -/
structure Feed where
  store : Store
  work : Work
  given : List Answer
  accepted : List Json.Value

namespace Answer

def item? : Answer → Option Outcome
  | item (.ready o) => o
  | _ => none

end Answer

namespace Feed

def step (name : String) (c : RequestContext) (f : Feed) : FeedEvent → Feed
  | .send v =>
    let (r, st) := f.store.send name (.ok v)
    { f with store := st, accepted := f.accepted ++ if r = .sent then [v] else [] }
  | .close => { f with store := f.store.closeSender name }
  | .poll =>
    let (a, work, st) := f.work.next f.store
    { f with store := st, work, given := f.given ++ [a] }
  | .cancel => { f with store := f.store.cancel c }
  | .other change => { f with store := change f.store }

def run (name : String) (c : RequestContext) (f : Feed) (events : List FeedEvent) : Feed :=
  events.foldl (step name c) f

def yielded (f : Feed) : List Outcome := f.given.filterMap Answer.item?

def channel (f : Feed) (id : Nat) : Channel := f.store.channels.cell id

/-- The work is a stream that gives what has been accepted, in order and one value in each poll. It
waits if there is nothing, and ends with the sender or once the signal is set. -/
structure Streams (f : Feed) (id signal : Nat) : Prop where
  order : f.yielded ++ (f.channel id).queue = f.accepted.map .ok
  next : (f.work.next f.store).1 =
    .item (if f.store.isSet signal then .ready none else (f.channel id).front)

/-- The work is a future that waits as long as the sender is there and then gives all that has been
accepted, in order; once the signal is set it gives null. -/
structure Gathers (f : Feed) (id signal : Nat) : Prop where
  next : (∀ a ∈ f.given, a = .outcome .pending) →
    (f.work.next f.store).1 =
      .outcome (if f.store.isSet signal then .ready (.ok .null)
        else if (f.channel id).senderOpen then .pending
        else .ready (.ok (.array f.accepted)))

def Fed (f : Feed) (name : String) (id : Nat) (taken : List Json.Value) : Prop :=
  ∃ opened waiting, f.store.Buffers name id opened waiting ∧ taken ++ waiting = f.accepted

def Over (f : Feed) (name : String) (id signal : Nat) : Prop :=
  f.store.isSet signal = true ∨ f.store.Buffers name id false []

section Quiet

variable {f : Feed} {e : FeedEvent} {name : String} {id : Nat} {c : RequestContext}
  {taken : List Json.Value}

theorem work_step (quiet : e ≠ .poll) : (f.step name c e).work = f.work := by
  cases e with
  | poll => exact absurd rfl quiet
  | send v => rfl
  | close => rfl
  | cancel => rfl
  | other change => rfl

theorem given_step (quiet : e ≠ .poll) : (f.step name c e).given = f.given := by
  cases e with
  | poll => exact absurd rfl quiet
  | send v => rfl
  | close => rfl
  | cancel => rfl
  | other change => rfl

theorem Fed.step (h : f.Fed name id taken) (quiet : e ≠ .poll) (apart : e.Apart name id c.signal) :
    (f.step name c e).Fed name id taken := by
  obtain ⟨opened, waiting, buffers, all⟩ := h
  cases e with
  | poll => exact absurd rfl quiet
  | send v =>
    refine ⟨opened, _, buffers.send v, ?_⟩
    rw [← List.append_assoc, all]
    rfl
  | close => exact ⟨false, waiting, buffers.closeSender, all⟩
  | cancel => exact ⟨opened, waiting, buffers.unchanged rfl rfl, all⟩
  | other change =>
    obtain ⟨named, channel, _⟩ := apart f.store
    exact ⟨opened, waiting, buffers.unchanged named channel, all⟩

theorem Over.step (h : f.Over name id c.signal) (quiet : e ≠ .poll)
    (apart : e.Apart name id c.signal) (fed : f.Fed name id taken) :
    (f.step name c e).Over name id c.signal := by
  rcases h with set | buffers
  · refine .inl ?_
    obtain ⟨opened, waiting, buffers, _⟩ := fed
    cases e with
    | poll => exact absurd rfl quiet
    | send v =>
      simp only [Feed.step, buffers.send_eq]
      exact set
    | close =>
      simp only [Feed.step, Store.closeSender, buffers.named]
      exact set
    | cancel => exact f.store.isSet_setSignal_self c.signal
    | other change => exact (apart f.store).2.2 set
  · cases e with
    | poll => exact absurd rfl quiet
    | send v =>
      have sent := buffers.send v
      rw [if_neg (buffers.send_closed (.ok v))] at sent
      exact .inr sent
    | close => exact .inr buffers.closeSender
    | cancel => exact .inr (buffers.unchanged rfl rfl)
    | other change => exact .inr (buffers.unchanged (apart f.store).1 (apart f.store).2.1)

end Quiet
end Feed

namespace Stream

variable {st : Store} {name : String} {id : Nat} {v : Json.Value} {values : List Json.Value}

theorem standing_asked (t : Stream) {k : Nat} (o : Surroundings) {x x' : t.State} {st after : Store}
    {p : Poll (Option Outcome)} (unset : st.isSet k = false)
    (asked : t.poll x (o.enter st) = (p, x', after)) :
    (t.standing k o (x, false)).next st = (p, t.standing k o (x', p.isEnd), o.leave st after) := by
  have unset' : (o.enter st).isSet k = false := by simpa using unset
  rw [standing_next, bind_poll_running t x unset', asked]

def relaying (id : Nat) (r : Resolver) (k : Nat) (s : Snapshot) (c : RequestContext)
    (y : Recovery Unit r.State × Bool) : Stream :=
  ((ofChannel id).recover r).standing k (.installed s c) y

theorem relaying_over (r : Resolver) {k : Nat} (s : Snapshot) (c : RequestContext)
    {y : Recovery Unit r.State × Bool} (done : y.2 = true ∨ st.isSet k = true) :
    (relaying id r k s c y).next st =
      (.ready none, relaying id r k s c (y.1, true), s.leave c st (s.enter c st)) :=
  standing_over _ _ _ done

theorem relaying_value (r : Resolver) {k : Nat} (s : Snapshot) (c : RequestContext)
    {opened : Bool} (unset : st.isSet k = false) (h : st.Buffers name id opened (v :: values)) :
    ∃ after, (relaying id r k s c (.reading (), false)).next st =
        (.ready (some (.ok v)), relaying id r k s c (.reading (), false), after) ∧
      after.Buffers name id opened values := by
  obtain ⟨after, asked, left⟩ := ofChannel_poll_value (h.enter s c)
  have asked' : ((ofChannel id).recover r).poll (.reading ()) (s.enter c st) =
      (.ready (some (.ok v)), .reading (), after) := by
    simp only [recover, asked]
  exact ⟨_, standing_asked _ (.installed s c) unset asked', left.leave s c st⟩

theorem relaying_waits (r : Resolver) {k : Nat} (s : Snapshot) (c : RequestContext)
    (unset : st.isSet k = false) (h : st.Buffers name id true []) :
    ∃ after, (relaying id r k s c (.reading (), false)).next st =
        (.pending, relaying id r k s c (.reading (), false), after) ∧
      after.Buffers name id true [] := by
  obtain ⟨after, asked, left⟩ := ofChannel_poll_empty (h.enter s c)
  have asked' : ((ofChannel id).recover r).poll (.reading ()) (s.enter c st) =
      (.pending, .reading (), after) := by
    simp only [recover, asked]
    rfl
  exact ⟨_, standing_asked _ (.installed s c) unset asked', left.leave s c st⟩

theorem relaying_ends (r : Resolver) {k : Nat} (s : Snapshot) (c : RequestContext)
    (unset : st.isSet k = false) (h : st.Buffers name id false []) :
    ∃ after, (relaying id r k s c (.reading (), false)).next st =
        (.ready none, relaying id r k s c (.ended, true), after) ∧
      after.Buffers name id false [] := by
  obtain ⟨after, asked, left⟩ := ofChannel_poll_empty (h.enter s c)
  have asked' : ((ofChannel id).recover r).poll (.reading ()) (s.enter c st) =
      (.ready none, .ended, after.closeReceiver id) := by
    simp only [recover, asked]
    rfl
  exact ⟨_, standing_asked _ (.installed s c) unset asked', left.closeReceiver.leave s c st⟩

end Stream

namespace Future

variable {st : Store} {name : String} {id : Nat} {values : List Json.Value}

def gathering (id k : Nat) (s : Snapshot) (c : RequestContext) (items : List Json.Value) : Future :=
  (Stream.ofChannel id).collect.standing k (.installed s c) (some (some ((), items)))

theorem gathering_poll (items : List Json.Value) {k : Nat} (s : Snapshot) (c : RequestContext)
    {opened : Bool} (unset : st.isSet k = false) (h : st.Buffers name id opened values) :
    (Source.next (gathering id k s c items) st).1 =
        (if opened then .pending else .ready (.ok (.array (items ++ values)))) ∧
      (opened = true → ∃ after, (Source.next (gathering id k s c items) st).2 =
        (gathering id k s c (items ++ values), after) ∧ after.Buffers name id true []) := by
  obtain ⟨after, drains, left⟩ := Stream.ofChannel_drains (h.enter s c)
  have asked := drains.collect_poll (Stream.ofChannel_bursts id) items
  have unset' : (s.enter c st).isSet k = false := by simpa using unset
  have polled := bind_poll_unset (Stream.ofChannel id).collect (some ((), items)) unset'
  rw [asked] at polled
  cases opened with
  | false =>
    refine ⟨?_, fun opened => absurd opened (by simp)⟩
    exact congrArg (·.1) polled
  | true =>
    refine ⟨congrArg (·.1) polled, fun _ => ⟨s.leave c st after, ?_, left.leave s c st⟩⟩
    unfold gathering
    rw [standing_next]
    simp only [Surroundings.enter, Surroundings.leave]
    rw [polled]
    rfl

end Future

namespace Feed

variable {f : Feed} {e : FeedEvent} {name : String} {id k : Nat} {c own : RequestContext}
  {r : Resolver} {s : Snapshot} {taken items : List Json.Value}

theorem step_poll (f : Feed) (name : String) (c : RequestContext) :
    f.step name c .poll =
      ⟨(f.work.next f.store).2.2, (f.work.next f.store).2.1, f.given ++ [(f.work.next f.store).1],
        f.accepted⟩ := rfl

@[simp] theorem yielded_snoc (f : Feed) (a : Answer) (st : Store) (w : Work)
    (accepted : List Json.Value) :
    yielded ⟨st, w, f.given ++ [a], accepted⟩ = f.yielded ++ a.item?.toList := by
  unfold yielded
  rw [List.filterMap_append]
  cases given : a.item? <;> simp [given]

/-- A subscription to the channel that has given `taken` out of what was accepted. It reads on, or
there is a reason why it has stopped. -/
structure Flows (f : Feed) (name : String) (id : Nat) (r : Resolver) (k : Nat) (s : Snapshot)
    (own : RequestContext) (taken : List Json.Value) : Prop where
  yields : f.yielded = taken.map .ok
  fed : f.Fed name id taken
  stands : f.work = .stream (.relaying id r k s own (.reading (), false)) ∨
    ∃ z, f.work = .stream (.relaying id r k s own (z, true)) ∧ f.Over name id k

theorem Over.answer (h : f.Over name id k) :
    (if f.store.isSet k then .ready none else (f.channel id).front) = .ready none := by
  rcases h with set | buffers
  · rw [if_pos set]
  · rw [channel, buffers.front_empty]
    simp

theorem Flows.poll_over {y : Recovery Unit r.State × Bool}
    (work : f.work = .stream (.relaying id r k s own y))
    (rests : y.2 = true ∨ f.store.isSet k = true) (finished : f.Over name id k)
    (yields : f.yielded = taken.map .ok) (fed : f.Fed name id taken) :
    (f.work.next f.store).1 =
        .item (if f.store.isSet k then .ready none else (f.channel id).front) ∧
      (f.step name c .poll).Flows name id r k s own taken := by
  have asked : f.work.next f.store = (.item (.ready none),
      .stream (.relaying id r k s own (y.1, true)), s.leave own f.store (s.enter own f.store)) := by
    simp only [work, Work.next, Stream.relaying_over r s own rests]
  refine ⟨by rw [asked, finished.answer], ?_⟩
  rw [step_poll, asked]
  obtain ⟨opened, waiting, buffers, all⟩ := fed
  refine ⟨?_, ⟨opened, waiting, (buffers.enter s own).leave s own _, all⟩, .inr ⟨y.1, rfl, ?_⟩⟩
  · simpa [Answer.item?] using yields
  · rcases finished with set | ended
    · exact .inl (by simpa [Store.isSet] using set)
    · exact .inr ((ended.enter s own).leave s own _)

theorem Flows.poll (h : f.Flows name id r k s own taken) :
    (f.work.next f.store).1 =
        .item (if f.store.isSet k then .ready none else (f.channel id).front) ∧
      ∃ taken', (f.step name c .poll).Flows name id r k s own taken' := by
  obtain ⟨yields, fed, reading | ⟨z, stopped, finished⟩⟩ := h
  case inr => exact (poll_over stopped (.inl rfl) finished yields fed).imp_right fun h => ⟨_, h⟩
  by_cases set : f.store.isSet k = true
  · exact (poll_over reading (.inr set) (.inl set) yields fed).imp_right fun h => ⟨_, h⟩
  have unset : f.store.isSet k = false := by simpa using set
  obtain ⟨opened, waiting, buffers, all⟩ := fed
  rw [if_neg set, channel, reading]
  match opened, waiting, buffers with
  | opened, v :: waiting, buffers =>
    obtain ⟨after, next, left⟩ := Stream.relaying_value r s own unset buffers
    have asked : f.work.next f.store = (.item (.ready (some (.ok v))), f.work, after) := by
      simp only [reading, Work.next, next]
    rw [buffers.front_value, ← reading, step_poll, asked]
    refine ⟨rfl, taken ++ [v], ?_, ⟨opened, waiting, left, ?_⟩, .inl reading⟩
    · simpa [Answer.item?] using yields
    · rw [← all, List.append_assoc, List.singleton_append]
  | true, [], buffers =>
    obtain ⟨after, next, left⟩ := Stream.relaying_waits r s own unset buffers
    have asked : f.work.next f.store = (.item .pending, f.work, after) := by
      simp only [reading, Work.next, next]
    rw [buffers.front_empty, ← reading, step_poll, asked]
    refine ⟨rfl, taken, ?_, ⟨true, [], left, all⟩, .inl reading⟩
    simpa [Answer.item?] using yields
  | false, [], buffers =>
    obtain ⟨after, next, left⟩ := Stream.relaying_ends r s own unset buffers
    have asked : f.work.next f.store = (.item (.ready none),
        .stream (.relaying id r k s own (.ended, true)), after) := by
      simp only [reading, Work.next, next]
    rw [buffers.front_empty, ← reading, step_poll, asked]
    refine ⟨rfl, taken, ?_, ⟨false, [], left, all⟩, .inr ⟨_, rfl, .inr left⟩⟩
    simpa [Answer.item?] using yields

theorem Flows.quiet (h : f.Flows name id r c.signal s own taken) (quiet : e ≠ .poll)
    (apart : e.Apart name id c.signal) :
    (f.step name c e).Flows name id r c.signal s own taken := by
  refine ⟨?_, h.fed.step quiet apart, ?_⟩
  · unfold yielded
    rw [given_step quiet]
    exact h.yields
  · rw [work_step quiet]
    exact h.stands.imp_right fun ⟨z, stopped, finished⟩ =>
      ⟨z, stopped, finished.step quiet apart h.fed⟩

theorem Flows.streams (h : f.Flows name id r k s own taken) : f.Streams id k := by
  obtain ⟨opened, waiting, buffers, all⟩ := h.fed
  refine ⟨?_, (h.poll (c := own)).1⟩
  rw [h.yields, channel, buffers.queues.waiting, ← List.map_append, all]

def Gathering (f : Feed) (name : String) (id k : Nat) (s : Snapshot) (own : RequestContext) :
    Prop :=
  (∀ a ∈ f.given, a = .outcome .pending) →
    ∃ items, f.work = .future (.gathering id k s own items) ∧ f.Fed name id items

theorem Gathering.gathers (h : f.Gathering name id k s own) : f.Gathers id k := by
  refine ⟨?_⟩
  intro waited
  obtain ⟨items, work, opened, waiting, buffers, all⟩ := h waited
  by_cases set : f.store.isSet k = true
  · have stops := Future.standing_stops (Stream.ofChannel id).collect (.installed s own)
      (some ((), items)) set
    rw [work, if_pos set]
    exact congrArg (fun next => Answer.outcome next.1) stops
  · have unset : f.store.isSet k = false := by simpa using set
    have polled := (Future.gathering_poll items s own unset buffers).1
    rw [work, if_neg set, channel, buffers.sender, ← all]
    exact congrArg Answer.outcome polled

theorem Gathering.quiet (h : f.Gathering name id c.signal s own) (quiet : e ≠ .poll)
    (apart : e.Apart name id c.signal) :
    (f.step name c e).Gathering name id c.signal s own := by
  intro waited
  rw [given_step quiet] at waited
  obtain ⟨items, work, fed⟩ := h waited
  exact ⟨items, (work_step quiet).trans work, fed.step quiet apart⟩

theorem Gathering.poll (h : f.Gathering name id k s own) :
    (f.step name c .poll).Gathering name id k s own := by
  intro waited
  obtain ⟨before, last⟩ := List.forall_mem_append.mp waited
  have answer : (f.work.next f.store).1 = .outcome .pending := last _ List.mem_cons_self
  rw [h.gathers.next before] at answer
  obtain ⟨items, work, opened, waiting, buffers, all⟩ := h before
  -- It waits only if the signal is unset and the sender is there.
  by_cases set : f.store.isSet k = true
  · simp [set] at answer
  have unset : f.store.isSet k = false := by simpa using set
  rw [if_neg set, channel, buffers.sender] at answer
  cases opened with
  | false => simp at answer
  | true =>
    obtain ⟨after, next, left⟩ := (Future.gathering_poll items s own unset buffers).2 rfl
    have polled : (f.work.next f.store).2 =
        (.future (.gathering id k s own (items ++ waiting)), after) := by
      rw [work]
      exact congrArg (fun next => (Work.future next.1, next.2)) next
    rw [step_poll, polled]
    exact ⟨items ++ waiting, rfl, true, [], left, by rw [List.append_nil, all]⟩

theorem run_keeps {I : Feed → Prop} {signal : Nat}
    (quiet : ∀ f e, e ≠ .poll → e.Apart name id signal → I f → I (f.step name c e))
    (poll : ∀ f, I f → I (f.step name c .poll)) {events : List FeedEvent}
    (apart : ∀ e ∈ events, e.Apart name id signal) (start : I f) : I (f.run name c events) := by
  induction events generalizing f with
  | nil => exact start
  | cons e events ih =>
    obtain ⟨first, later⟩ := List.forall_mem_cons.mp apart
    refine ih later ?_
    by_cases polled : e = .poll
    · rw [polled]
      exact poll f start
    · exact quiet f e polled first start

theorem Flows.run (h : f.Flows name id r c.signal s own taken) {events : List FeedEvent}
    (apart : ∀ e ∈ events, e.Apart name id c.signal) :
    ∃ taken, (f.run name c events).Flows name id r c.signal s own taken := by
  refine run_keeps (I := fun f => ∃ taken, f.Flows name id r c.signal s own taken) ?_ ?_ apart
    ⟨taken, h⟩
  · intro f e quiet apart ⟨taken, h⟩
    exact ⟨taken, h.quiet quiet apart⟩
  · intro f ⟨taken, h⟩
    exact h.poll.2

theorem Gathering.run (h : f.Gathering name id c.signal s own) {events : List FeedEvent}
    (apart : ∀ e ∈ events, e.Apart name id c.signal) :
    (f.run name c events).Gathering name id c.signal s own := by
  refine run_keeps (I := fun f => f.Gathering name id c.signal s own) ?_ ?_ apart h
  · intro f e quiet apart h
    exact h.quiet quiet apart
  · intro f h
    exact h.poll

end Feed

def Work.value : Work → FieldValue
  | future f => .future f
  | stream t => .stream t

namespace Adapters

theorem standard_takes_queue {c : Channel} {values : List Json.Value} (h : c.Queues values)
    (id : Nat) : standard.Takes (.foreign (.receiver c.kind id)) (.stream (.ofChannel id)) := by
  refine takes_foreign_iff.mpr ?_
  rcases h.kind with bounded | unbounded
  · rw [bounded]
    rfl
  · rw [unbounded]
    rfl

end Adapters

/-- On a field whose delegate gives the receiver of a queue, by itself or as the data of a
structured result, nothing that the channel accepts is lost, given twice or given out of order,
whatever else happens on the request. -/
theorem accepted_values_arrive {d : Decorator} {call : Call} {st after : Store} {w : FieldValue}
    {name : String} {id : Nat} {opened : Bool} {early : List Json.Value}
    (standard : d.adapters = .standard)
    (fetched : d.delegate.fetch call (call.inside st) = (.ok w, after))
    (alive : after.isCancelled call.context = false)
    (receiver : w.content = .foreign (.receiver (after.channels.cell id).kind id))
    (buffers : after.Buffers name id opened early) :
    ∃ (work : Work) (left : Store),
      d.fetch call st = (.ok (w.withContent work.value), left) ∧
      ∀ events : List FeedEvent, (∀ e ∈ events, e.Apart name id call.context.signal) →
        let f := Feed.run name call.context ⟨left, work, [], early⟩ events
        if d.subscription then f.Streams id call.context.signal
        else f.Gathers id call.context.signal := by
  have taken : d.adapters.Takes w.content (.stream (.ofChannel id)) := by
    rw [standard, receiver]
    exact Adapters.standard_takes_queue buffers.queues id
  have outside : (call.outside st after).Buffers name id opened early := by
    unfold Call.outside
    refine buffers.unchanged ?_ ?_
    · rw [Scope.close_frame]
      rfl
    · rw [Scope.close_frame]
      rfl
  have left : ((call.snapshot st).overlay (call.outside st after) call.context).2.Buffers name id
      opened early := outside.unchanged rfl rfl
  let s := call.snapshot st
  let own := (s.overlay (call.outside st after) call.context).1
  cases subscription : d.subscription with
  | true =>
    let t : Stream := .relaying id d.resolver call.context.signal s own (.reading (), false)
    refine ⟨.stream t, _, Decorator.fetch_of_content fetched (.stream alive subscription taken), ?_⟩
    intro events apart
    have start : Feed.Flows ⟨_, .stream t, [], early⟩ name id d.resolver call.context.signal s own
        [] := ⟨rfl, ⟨opened, early, left, rfl⟩, .inl rfl⟩
    obtain ⟨taken, flows⟩ := start.run apart
    exact flows.streams
  | false =>
    let u : Future := .gathering id call.context.signal s own []
    refine ⟨.future u, _, Decorator.fetch_of_content fetched (.future alive subscription taken), ?_⟩
    intro events apart
    have start : Feed.Gathering ⟨_, .future u, [], early⟩ name id call.context.signal s own :=
      fun _ => ⟨[], rfl, opened, early, left, rfl⟩
    exact (start.run apart).gathers

/-- A subscription to a queue with room for two values, in which one waits already. -/
theorem accepted_values_arrive_bounded :
    let st := (((Store.empty.newChannel "ticks" (.create .bounded 2)).send "ticks"
      (.ok (.int 1))).2)
    let w : FieldValue := .foreign (.receiver .bounded 0)
    let d : Decorator := {
      delegate := { fetch := fun _ st => (.ok w, st) }
      subscription := true
      resolver := .unresolved
      adapters := .standard }
    let call : Call := { context := ⟨0, 0, none⟩, field := ⟨"Subscription", "ticks"⟩ }
    d.adapters = .standard ∧
    d.delegate.fetch call (call.inside st) = (.ok w, st) ∧
    st.isCancelled call.context = false ∧
    w.content = .foreign (.receiver (st.channels.cell 0).kind 0) ∧
    st.Buffers "ticks" 0 true [.int 1] ∧
    ∃ (work : Work) (left : Store),
      d.fetch call st = (.ok work.value, left) ∧
      ∀ events : List FeedEvent, (∀ e ∈ events, e.Apart "ticks" 0 0) →
        (Feed.run "ticks" call.context ⟨left, work, [], [.int 1]⟩ events).Streams 0 0 := by
  intro st w d call
  have fetched : d.delegate.fetch call (call.inside st) = (.ok w, st) := rfl
  have buffers : st.Buffers "ticks" 0 true [.int 1] := ⟨rfl, ⟨.inl rfl, rfl, rfl⟩, rfl⟩
  exact ⟨rfl, fetched, rfl, rfl, buffers,
    accepted_values_arrive (d := d) rfl fetched rfl rfl buffers⟩

end Fieldwork
