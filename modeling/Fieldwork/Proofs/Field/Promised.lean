import Fieldwork.Proofs.Async.Buffered
import Fieldwork.Proofs.Async.Tasks
import Fieldwork.Proofs.Field.Outcome

/-!
Fields whose delegate gives a handle for one value: the receiver of a channel for one value or one
result, or a task. What the handle stands for goes on, the value is polled and the request is
cancelled in any order, with any other code in between. The first thing that is produced is what the
value comes to, as it was produced, unless a poll starts with the signal set before; that gives null,
and there is no second outcome.
-/
namespace Fieldwork

def Poll.ofOption {α : Type} : Option α → Poll α
  | none => .pending
  | some x => .ready x

structure Channel.Single (c : Channel) : Prop where
  kind : c.kind = .once ∨ c.kind = .onceResult
  complete : c.missed = 0

/-- What the receiver of one value is given: what has been sent, or else that the sender is gone. -/
def Channel.outcome? (c : Channel) : Option Outcome :=
  c.queue.head?.or (if c.senderOpen then none else some (.error .channelClosed))

def Halt.outcome? (id : Nat) : Halt → Option Outcome
  | waiting => none
  | emitted v => some (.ok v)
  | failed f => some (.error f)
  | ended => some (.ok .null)
  | crashed => some (.error (.taskBroken (Task.number id) Script.breakdown))

def TaskStatus.outcome? (id : Nat) : TaskStatus → Option Outcome
  | running => none
  | finished o => some o
  | crashed => some (.error (.taskBroken (Task.number id) Script.breakdown))
  | aborted => some (.error (.taskStopped (Task.number id)))

def Task.halt? (st : Store) (id : Nat) : Option Halt :=
  let t := st.tasks.cell id
  match t.status with
  | .running => some (Script.advance t.call (t.script.filter fun m => !m.passes) st).1
  | _ => none

inductive Producer
  | sender (name : String) (id : Nat)
  | task (id : Nat)

namespace Producer

inductive Act
  | send (o : Outcome)
  | close
  | run

/-- What the act produces, and the store that it leaves. No task sends by its handle, and no sender
is run. -/
def act : Producer → Act → Store → Option Outcome × Store
  | sender name _, .send o, st =>
    let (r, st) := st.send name o
    (if r = .sent then some o else none, st)
  | sender name _, .close, st => (some (.error .channelClosed), st.closeSender name)
  | task id, .run, st => ((Task.halt? st id).bind (Halt.outcome? id), Task.run st id)
  | _, _, st => (none, st)

def handle (st : Store) : Producer → Foreign
  | sender _ id => .receiver (st.channels.cell id).kind id
  | task id => .task id

def future : Producer → Future
  | sender _ id => .ofChannel id (.error .channelClosed)
  | task id => .ofTask id

def outcome? (st : Store) : Producer → Option Outcome
  | sender _ id => (st.channels.cell id).outcome?
  | task id => (st.tasks.cell id).status.outcome? id

def Single (st : Store) : Producer → Prop
  | sender name id => st.names.channel name = some id ∧ (st.channels.cell id).Single
  | task _ => True

def Spared (st st' : Store) : Producer → Prop
  | sender name id => st'.names.channel name = st.names.channel name ∧
      st'.channels.cell id = st.channels.cell id
  | task id => st'.tasks.cell id = st.tasks.cell id

end Producer

namespace Channel

variable {c : Channel}

theorem outcome?_closeSender (c : Channel) :
    c.closeSender.outcome? = c.outcome?.or (some (.error .channelClosed)) := by
  unfold outcome? closeSender
  cases c.queue <;> cases c.senderOpen <;> rfl

theorem Single.closeSender (h : c.Single) : c.closeSender.Single := ⟨h.kind, h.complete⟩

theorem Single.send (h : c.Single) (o : Outcome) :
    (c.send o).2.Single ∧
      (c.send o).2.outcome? = c.outcome?.or (if (c.send o).1 = .sent then some o else none) := by
  cases opened : c.senderOpen with
  | false =>
    rw [send_closed opened]
    exact ⟨h, by simp⟩
  | true =>
    cases listening : c.receiverOpen with
    | false =>
      have refused : c.send o = (.closed, c) := by simp [Channel.send, listening]
      rw [refused]
      exact ⟨h, by simp⟩
    | true =>
      have sent : c.send o = (.sent, { c.push o with senderOpen := false }) := by
        rcases h.kind with once | result
        · simp [Channel.send, opened, listening, once]
        · simp [Channel.send, opened, listening, result]
      rw [sent]
      refine ⟨⟨h.kind, h.complete⟩, ?_⟩
      simp only [outcome?, push, opened]
      cases c.queue <;> rfl

theorem Single.receive_waiting (h : c.Single) (none : c.outcome? = none) :
    c.receive = (.waiting, c) := by
  unfold outcome? at none
  cases queue : c.queue with
  | cons o rest => simp [queue] at none
  | nil =>
    cases opened : c.senderOpen with
    | false => simp [queue, opened] at none
    | true => simp [receive, h.complete, queue, opened]

theorem Single.receive_outcome (h : c.Single) {o : Outcome} (some : c.outcome? = some o) :
    c.receive.1 = .item o ∨ (c.receive.1 = .closed ∧ o = .error .channelClosed) := by
  unfold outcome? at some
  cases queue : c.queue with
  | cons o' rest =>
    refine .inl ?_
    simpa [receive, h.complete, queue] using some
  | nil =>
    refine .inr ?_
    cases opened : c.senderOpen with
    | true => simp [queue, opened] at some
    | false => simpa [receive, h.complete, queue, opened, eq_comm] using some

end Channel

namespace Task

theorem outcome?_settle (id : Nat) (h : Halt) : (settle h).outcome? id = h.outcome? id := by
  cases h <;> rfl

theorem outcome?_run (st : Store) (id : Nat) :
    ((run st id).tasks.cell id).status.outcome? id =
      ((st.tasks.cell id).status.outcome? id).or ((halt? st id).bind (Halt.outcome? id)) := by
  by_cases running : (st.tasks.cell id).status = .running
  · have settled : ((run st id).tasks.cell id).status =
        settle (Script.advance (st.tasks.cell id).call
          ((st.tasks.cell id).script.filter fun m => !m.passes) st).1 := by
      simp only [run, running]
      simp
    rw [settled, outcome?_settle]
    simp only [halt?, running]
    rfl
  · have stopped : halt? st id = none := by
      simp only [halt?]
    rw [run_of_stopped running, stopped]
    simp

end Task

namespace Producer

variable {p : Producer} {st st' st'' : Store} {a : Act}

theorem spared_of_frame (p : Producer) (names : st'.names = st.names)
    (channels : st'.channels = st.channels) (tasks : st'.tasks = st.tasks) : p.Spared st st' := by
  cases p with
  | sender name id => exact ⟨by rw [names], by rw [channels]⟩
  | task id => exact congrArg (Pool.cell · id) tasks

namespace Spared

theorem trans (first : p.Spared st st') (second : p.Spared st' st'') : p.Spared st st'' := by
  cases p with
  | sender name id => exact ⟨second.1.trans first.1, second.2.trans first.2⟩
  | task id => exact Eq.trans second first

theorem outcome?_eq (h : p.Spared st st') : p.outcome? st' = p.outcome? st := by
  cases p with
  | sender name id => exact congrArg Channel.outcome? h.2
  | task id => exact congrArg (fun t => t.status.outcome? id) h

theorem single (h : p.Spared st st') (single : p.Single st) : p.Single st' := by
  cases p with
  | sender name id =>
    refine ⟨h.1.trans single.1, ?_⟩
    rw [h.2]
    exact single.2
  | task id => trivial

end Spared

theorem spared_enter (p : Producer) (s : Snapshot) (c : RequestContext) (st : Store) :
    p.Spared st (s.enter c st) :=
  p.spared_of_frame (s.names_enter c st) (s.channels_enter c st) (s.tasks_enter c st)

theorem spared_leave (p : Producer) (s : Snapshot) (c : RequestContext) (st inner : Store) :
    p.Spared inner (s.leave c st inner) :=
  p.spared_of_frame (s.names_leave c st inner) (s.channels_leave c st inner)
    (s.tasks_leave c st inner)

theorem spared_outside (p : Producer) (call : Call) (st after : Store) :
    p.Spared after (call.outside st after) :=
  p.spared_of_frame (call.names_outside st after) (call.channels_outside st after)
    (call.tasks_outside st after)

/-- An act keeps what has been produced, and what it produces counts if it is the first. -/
theorem act_produces (p : Producer) (a : Act) (single : p.Single st) :
    p.Single (p.act a st).2 ∧ p.outcome? (p.act a st).2 = (p.outcome? st).or (p.act a st).1 := by
  have idle : p.Single st ∧ p.outcome? st = (p.outcome? st).or none :=
    ⟨single, Option.or_none.symm⟩
  cases p with
  | task id =>
    cases a with
    | run => exact ⟨trivial, Task.outcome?_run st id⟩
    | send o => exact idle
    | close => exact idle
  | sender name id =>
    obtain ⟨named, channel⟩ := single
    cases a with
    | run => exact idle
    | send o =>
      obtain ⟨kept, produced⟩ := channel.send o
      simp only [act, Store.send, named]
      refine ⟨⟨named, ?_⟩, ?_⟩
      · rw [Store.cell_setChannel]
        exact kept
      · simp only [outcome?, Store.cell_setChannel]
        exact produced
    | close =>
      simp only [act, Store.closeSender, named]
      refine ⟨⟨named, ?_⟩, ?_⟩
      · rw [Store.changeChannel, Store.cell_setChannel]
        exact channel.closeSender
      · simp only [outcome?, Store.changeChannel, Store.cell_setChannel]
        exact Channel.outcome?_closeSender _

/-- A poll waits as long as nothing has been produced, and then gives what has. -/
theorem future_poll (single : p.Single st) :
    ∃ after, p.future.poll p.future.state st =
        (.ofOption (p.outcome? st), p.future.state, after) ∧
      (p.outcome? st = none → p.Spared st after) := by
  cases p with
  | task id =>
    refine ⟨st, ?_, fun _ => rfl⟩
    simp only [future, Future.ofTask, outcome?]
    cases (st.tasks.cell id).status <;> rfl
  | sender name id =>
    refine ⟨st.setChannel id (st.channels.cell id).receive.2, ?_, ?_⟩
    · simp only [future, Future.ofChannel, outcome?, Store.receive]
      cases made : (st.channels.cell id).outcome? with
      | none =>
        rw [single.2.receive_waiting made]
        rfl
      | some o =>
        rcases single.2.receive_outcome made with item | ⟨closed, rfl⟩
        · rw [item]
          rfl
        · rw [closed]
          rfl
    · intro waiting
      rw [single.2.receive_waiting waiting]
      exact ⟨rfl, Store.cell_setChannel st id _⟩

theorem poll_within (single : p.Single st) (s : Snapshot) (own : RequestContext) :
    ∃ inner, p.future.poll p.future.state (s.enter own st) =
        (.ofOption (p.outcome? st), p.future.state, inner) ∧
      (p.outcome? st = none → p.Spared st (s.leave own st inner)) := by
  have entered := p.spared_enter s own st
  obtain ⟨inner, polled, spared⟩ := p.future_poll (entered.single single)
  rw [entered.outcome?_eq] at polled spared
  exact ⟨inner, polled, fun waiting =>
    (entered.trans (spared waiting)).trans (p.spared_leave s own st inner)⟩

end Producer

/-- A future with what its polls have given and what has been produced for it until now. -/
structure Promise where
  store : Store
  future : Future
  given : List (Poll Outcome)
  made : Option Outcome

inductive PromiseEvent
  | act (a : Producer.Act)
  | poll
  | cancel
  | other (change : Store → Store)

def PromiseEvent.Apart (p : Producer) : PromiseEvent → Prop
  | other change => ∀ st, p.Spared st (change st)
  | _ => True

namespace Promise

def step (p : Producer) (c : RequestContext) (r : Promise) : PromiseEvent → Promise
  | .act a =>
    let (o, st) := p.act a r.store
    { r with store := st, made := r.made.or o }
  | .poll =>
    let (answer, future, st) := Source.next r.future r.store
    { r with store := st, future, given := r.given ++ [answer] }
  | .cancel => { r with store := r.store.cancel c }
  | .other change => { r with store := change r.store }

def run (p : Producer) (c : RequestContext) (r : Promise) (events : List PromiseEvent) : Promise :=
  events.foldl (step p c) r

def Waits (given : List (Poll Outcome)) : Prop := ∀ a ∈ given, a = .pending

def Answered (given : List (Poll Outcome)) : Prop :=
  ∃ n o m, given = List.replicate n .pending ++ .ready o :: List.replicate m .broken

/-- As long as it waits, the next poll gives null if the signal is set, and otherwise what has been
produced first. There is no second outcome. -/
structure Kept (r : Promise) (signal : Nat) : Prop where
  next : Waits r.given → (Source.next r.future r.store).1 =
    if r.store.isSet signal then .ready (.ok .null) else .ofOption r.made
  single : Waits r.given ∨ Answered r.given

inductive Stands (p : Producer) (k : Nat) (s : Snapshot) (own : RequestContext) (r : Promise) : Prop
  | waits (future : r.future = p.future.standing k (.installed s own) (some p.future.state))
      (waited : Waits r.given) (single : p.Single r.store) (made : p.outcome? r.store = r.made)
  | done (future : r.future = p.future.standing k (.installed s own) none)
      (answered : Answered r.given)

variable {r : Promise} {e : PromiseEvent} {p : Producer} {k : Nat} {s : Snapshot}
  {c own : RequestContext}

theorem step_poll (r : Promise) (p : Producer) (c : RequestContext) :
    r.step p c .poll =
      ⟨(Source.next r.future r.store).2.2, (Source.next r.future r.store).2.1,
        r.given ++ [(Source.next r.future r.store).1], r.made⟩ := rfl

theorem Waits.answered {given : List (Poll Outcome)} (waited : Waits given) (o : Outcome) :
    Answered (given ++ [.ready o]) :=
  ⟨given.length, o, 0, congrArg (· ++ [.ready o]) (List.eq_replicate_of_mem waited)⟩

theorem Answered.not_waits {given : List (Poll Outcome)} (answered : Answered given) :
    ¬ Waits given := by
  obtain ⟨n, o, m, rfl⟩ := answered
  intro waited
  cases waited (.ready o) (by simp)

theorem Answered.broken {given : List (Poll Outcome)} (answered : Answered given) :
    Answered (given ++ [.broken]) := by
  obtain ⟨n, o, m, rfl⟩ := answered
  exact ⟨n, o, m + 1, by simp [List.replicate_succ']⟩

theorem Stands.poll (h : r.Stands p k s own) :
    (Waits r.given → (Source.next r.future r.store).1 =
        if r.store.isSet k then .ready (.ok .null) else .ofOption r.made) ∧
      (r.step p c .poll).Stands p k s own := by
  rw [step_poll]
  cases h with
  | done future answered =>
    have spent : (Source.next r.future r.store).1 = .broken ∧
        (Source.next r.future r.store).2.1 = r.future := by
      rw [future]
      exact ⟨rfl, rfl⟩
    rw [spent.1, spent.2]
    exact ⟨fun waited => absurd waited answered.not_waits, .done future answered.broken⟩
  | waits future waited single made =>
    by_cases set : r.store.isSet k = true
    · have stops := p.future.standing_stops (.installed s own) p.future.state set
      rw [← future] at stops
      rw [stops, if_pos set]
      exact ⟨fun _ => rfl, .done rfl (waited.answered _)⟩
    have unset : r.store.isSet k = false := by simpa using set
    obtain ⟨inner, polled, spared⟩ := p.poll_within single s own
    rw [made] at polled spared
    have next := p.future.standing_asked (.installed s own) p.future.state unset
    rw [← future, Surroundings.enter, polled] at next
    rw [if_neg set, next]
    cases produced : r.made with
    | none =>
      have spared := spared produced
      refine ⟨fun _ => rfl, .waits rfl ?_ (spared.single single) ?_⟩
      · exact List.forall_mem_append.mpr ⟨waited, by simp [Poll.ofOption]⟩
      · exact spared.outcome?_eq.trans (made.trans produced)
    | some o => exact ⟨fun _ => rfl, .done rfl (waited.answered o)⟩

theorem Stands.spared {st : Store} (h : r.Stands p k s own) (spared : p.Spared r.store st) :
    Stands p k s own { r with store := st } := by
  cases h with
  | done future answered => exact .done future answered
  | waits future waited single made =>
    exact .waits future waited (spared.single single) (spared.outcome?_eq.trans made)

theorem Stands.step (h : r.Stands p k s own) (apart : e.Apart p) :
    (r.step p c e).Stands p k s own := by
  cases e with
  | poll => exact h.poll.2
  | act a =>
    cases h with
    | done future answered => exact .done future answered
    | waits future waited single made =>
      obtain ⟨kept, produced⟩ := p.act_produces a single
      rw [made] at produced
      exact .waits future waited kept produced
  | cancel => exact h.spared (p.spared_of_frame rfl rfl rfl)
  | other change => exact h.spared (apart r.store)

theorem Stands.run (h : r.Stands p k s own) {events : List PromiseEvent}
    (apart : ∀ e ∈ events, e.Apart p) : (r.run p c events).Stands p k s own := by
  induction events generalizing r with
  | nil => exact h
  | cons e events ih =>
    obtain ⟨first, later⟩ := List.forall_mem_cons.mp apart
    exact ih (h.step first) later

theorem Stands.kept (h : r.Stands p k s own) : r.Kept k := by
  refine ⟨(h.poll (c := own)).1, ?_⟩
  cases h with
  | waits future waited single made => exact .inl waited
  | done future answered => exact .inr answered

end Promise

theorem Adapters.standard_takes_handle {p : Producer} {st : Store} (single : p.Single st) :
    standard.Takes (.foreign (p.handle st)) (.single p.future) := by
  refine takes_foreign_iff.mpr ?_
  cases p with
  | task id => rfl
  | sender name id =>
    rcases single.2.kind with once | result
    · simp only [Producer.handle, once]
      rfl
    · simp only [Producer.handle, result]
      rfl

/-- On a field that is not a subscription, whose delegate gives a handle for one value, by itself or
as the data of a structured result, the value comes to what is produced first, whatever else happens
on the request, unless a poll starts with the signal set before it has been given. -/
theorem produced_outcome_arrives {d : Decorator} {call : Call} {st after : Store} {w : FieldValue}
    {p : Producer} (standard : d.adapters = .standard) (single : d.subscription = false)
    (fetched : d.delegate.fetch call (call.inside st) = (.ok w, after))
    (alive : after.isCancelled call.context = false)
    (handle : w.content = .foreign (p.handle after)) (one : p.Single after) :
    ∃ (u : Future) (left : Store),
      d.fetch call st = (.ok (w.withContent (.future u)), left) ∧
      ∀ events : List PromiseEvent, (∀ e ∈ events, e.Apart p) →
        (Promise.run p call.context ⟨left, u, [], p.outcome? after⟩ events).Kept
          call.context.signal := by
  have taken : d.adapters.Takes w.content (.single p.future) := by
    rw [standard, handle]
    exact Adapters.standard_takes_handle one
  let s := call.snapshot st
  let own := (s.overlay (call.outside st after) call.context).1
  let left := (s.overlay (call.outside st after) call.context).2
  have spared : p.Spared after left :=
    (p.spared_outside call st after).trans (p.spared_of_frame rfl rfl rfl)
  let u : Future := p.future.standing call.context.signal (.installed s own) (some p.future.state)
  refine ⟨u, left, Decorator.fetch_of_content fetched (.future alive single taken), ?_⟩
  intro events apart
  have start : Promise.Stands p call.context.signal s own ⟨left, u, [], p.outcome? after⟩ :=
    .waits rfl (by simp [Promise.Waits]) (spared.single one) spared.outcome?_eq
  exact (start.run apart).kept

/-- An error has been sent before the sender went away. -/
theorem produced_outcome_arrives_error :
    let refusal : Outcome := .error (.other "refused")
    let st := ((Store.empty.newChannel "reply" (.create .onceResult 1)).send "reply"
      refusal).2.closeSender "reply"
    let p : Producer := .sender "reply" 0
    let w : FieldValue := .foreign (.receiver .onceResult 0)
    let d : Decorator := {
      delegate := { fetch := fun _ st => (.ok w, st) }
      subscription := false
      resolver := .unresolved
      adapters := .standard }
    let call : Call := { context := ⟨0, 0, none⟩, field := ⟨"Query", "reply"⟩ }
    d.adapters = .standard ∧ d.subscription = false ∧
    d.delegate.fetch call (call.inside st) = (.ok w, st) ∧
    st.isCancelled call.context = false ∧
    w.content = .foreign (p.handle st) ∧ p.Single st ∧
    ∃ (u : Future) (left : Store),
      d.fetch call st = (.ok (.future u), left) ∧
      ∀ events : List PromiseEvent, (∀ e ∈ events, e.Apart p) →
        (Promise.run p call.context ⟨left, u, [], some refusal⟩ events).Kept 0 := by
  intro refusal st p w d call
  have fetched : d.delegate.fetch call (call.inside st) = (.ok w, st) := rfl
  have one : p.Single st := ⟨rfl, .inr rfl, rfl⟩
  exact ⟨rfl, rfl, fetched, rfl, rfl, one,
    produced_outcome_arrives (d := d) (p := p) rfl rfl fetched rfl rfl one⟩

example :
    let (id, st) := Task.spawn .empty [.gate "go", .crash] none
    let c : RequestContext := ⟨0, 0, none⟩
    let start : Promise := ⟨st, (Producer.task id).future.bind c.signal, [], none⟩
    (start.run (.task id) c
      [.act .run, .poll, .other fun st => { st with openGates := fun _ => true }, .poll, .act .run,
        .poll, .poll]).given =
      [.pending, .pending, .ready (.error (.taskBroken 8 "scripted panic")), .broken] := rfl

end Fieldwork
