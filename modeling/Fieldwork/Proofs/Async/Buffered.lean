import Fieldwork.Proofs.Async.Drained
import Fieldwork.Proofs.Async.Within

/-!
Channels that drop nothing: what has been accepted and has not been received waits in the queue, in
the order in which it was sent. A receiver takes from the front, one value in each poll or all of
them at once, and a sender puts at the end.
-/
namespace Fieldwork

/-- A queue that refuses values when it must rather than drop any, with `values` waiting. -/
structure Channel.Queues (c : Channel) (values : List Json.Value) : Prop where
  kind : c.kind = .bounded ∨ c.kind = .unbounded
  complete : c.missed = 0
  waiting : c.queue = values.map .ok

def Channel.front (c : Channel) : Poll (Option Outcome) :=
  match c.queue with
  | o :: _ => .ready (some o)
  | [] => if c.senderOpen then .pending else .ready none

namespace Channel

variable {c : Channel} {v : Json.Value} {values : List Json.Value}

theorem send_closed (closed : c.senderOpen = false) (o : Outcome) : c.send o = (.closed, c) := by
  simp [send, closed]

namespace Queues

theorem rest (h : c.Queues values) (left : List Json.Value) :
    { c with queue := left.map .ok }.Queues left :=
  ⟨h.kind, h.complete, rfl⟩

theorem receive_value (h : c.Queues (v :: values)) :
    c.receive = (.item (.ok v), { c with queue := values.map .ok }) := by
  simp [receive, h.complete, h.waiting]

theorem receive_empty (h : c.Queues []) :
    c.receive = (if c.senderOpen then .waiting else .closed, c) := by
  simp [receive, h.complete, h.waiting]

theorem send (h : c.Queues values) (v : Json.Value) :
    ((c.send (.ok v)).1 = .sent ∧
      (c.send (.ok v)).2 = { c with queue := (values ++ [v]).map .ok }) ∨
    ((c.send (.ok v)).1 ≠ .sent ∧ (c.send (.ok v)).2 = c) := by
  have appended : c.push (.ok v) = { c with queue := (values ++ [v]).map .ok } := by
    simp [push, h.waiting]
  cases opened : c.senderOpen with
  | false => exact .inr (by simp [Channel.send, opened])
  | true =>
    cases listening : c.receiverOpen with
    | false => exact .inr (by simp [Channel.send, listening])
    | true =>
      rcases h.kind with bounded | unbounded
      · by_cases room : c.queue.length < c.capacity
        · exact .inl (by simp [Channel.send, opened, listening, bounded, room, appended])
        · exact .inr (by simp [Channel.send, opened, listening, bounded, room])
      · exact .inl (by simp [Channel.send, opened, listening, unbounded, appended])

end Queues
end Channel

namespace Store

/-- The channel `id` has `values` waiting, and its sender, which is known by `name`, is open or
not. -/
structure Buffers (st : Store) (name : String) (id : Nat) (opened : Bool)
    (values : List Json.Value) : Prop where
  named : st.names.channel name = some id
  queues : (st.channels.cell id).Queues values
  sender : (st.channels.cell id).senderOpen = opened

variable {st : Store} {name : String} {id : Nat} {opened : Bool} {v : Json.Value}
  {values : List Json.Value}

@[simp] theorem cell_setChannel (st : Store) (id : Nat) (c : Channel) :
    (st.setChannel id c).channels.cell id = c :=
  Pool.cell_set_self _ id c

namespace Buffers

theorem unchanged {st' : Store} (h : st.Buffers name id opened values)
    (names : st'.names.channel name = st.names.channel name)
    (channel : st'.channels.cell id = st.channels.cell id) :
    st'.Buffers name id opened values := by
  refine ⟨names.trans h.named, ?_, ?_⟩
  · rw [channel]
    exact h.queues
  · rw [channel]
    exact h.sender

theorem setChannel {c : Channel} (h : st.Buffers name id opened values) {opened' : Bool}
    {values' : List Json.Value} (queues : c.Queues values') (sender : c.senderOpen = opened') :
    (st.setChannel id c).Buffers name id opened' values' := by
  refine ⟨h.named, ?_, ?_⟩
  · rw [cell_setChannel]
    exact queues
  · rw [cell_setChannel]
    exact sender

theorem enter (h : st.Buffers name id opened values) (s : Snapshot) (c : RequestContext) :
    (s.enter c st).Buffers name id opened values :=
  h.unchanged (by rw [s.names_enter]) (by rw [s.channels_enter])

theorem leave {inner : Store} (h : inner.Buffers name id opened values) (s : Snapshot)
    (c : RequestContext) (st : Store) : (s.leave c st inner).Buffers name id opened values :=
  h.unchanged (by rw [s.names_leave]) (by rw [s.channels_leave])

theorem closeReceiver (h : st.Buffers name id opened values) :
    (st.closeReceiver id).Buffers name id opened values :=
  h.setChannel ⟨h.queues.kind, h.queues.complete, h.queues.waiting⟩ h.sender

theorem closeSender (h : st.Buffers name id opened values) :
    (st.closeSender name).Buffers name id false values := by
  unfold Store.closeSender
  rw [h.named]
  exact h.setChannel ⟨h.queues.kind, h.queues.complete, h.queues.waiting⟩ rfl

theorem send_eq (h : st.Buffers name id opened values) (o : Outcome) :
    st.send name o =
      (((st.channels.cell id).send o).1, st.setChannel id ((st.channels.cell id).send o).2) := by
  unfold Store.send
  rw [h.named]

theorem send (h : st.Buffers name id opened values) (v : Json.Value) :
    (st.send name (.ok v)).2.Buffers name id opened
      (values ++ if (st.send name (.ok v)).1 = .sent then [v] else []) := by
  rw [h.send_eq]
  rcases h.queues.send v with ⟨accepted, queue⟩ | ⟨refused, same⟩
  · rw [if_pos accepted, queue]
    exact h.setChannel (h.queues.rest _) h.sender
  · rw [if_neg refused, same, List.append_nil]
    exact h.setChannel h.queues h.sender

theorem send_closed (h : st.Buffers name id false values) (o : Outcome) :
    (st.send name o).1 ≠ .sent := by
  rw [h.send_eq, Channel.send_closed h.sender]
  exact SendReport.noConfusion

theorem receive_value (h : st.Buffers name id opened (v :: values)) :
    ∃ after, st.receive id = (.item (.ok v), after) ∧ after.Buffers name id opened values := by
  have received := h.queues.receive_value
  refine ⟨st.setChannel id _, congrArg (fun r => (r.1, st.setChannel id r.2)) received, ?_⟩
  exact h.setChannel (h.queues.rest values) h.sender

theorem receive_empty (h : st.Buffers name id opened []) :
    ∃ after, st.receive id = (if opened then .waiting else .closed, after) ∧
      after.Buffers name id opened [] := by
  have received := h.queues.receive_empty
  rw [h.sender] at received
  refine ⟨st.setChannel id _, congrArg (fun r => (r.1, st.setChannel id r.2)) received, ?_⟩
  exact h.setChannel h.queues h.sender

theorem front_value (h : st.Buffers name id opened (v :: values)) :
    (st.channels.cell id).front = .ready (some (.ok v)) := by
  simp [Channel.front, h.queues.waiting]

theorem front_empty (h : st.Buffers name id opened []) :
    (st.channels.cell id).front = if opened then .pending else .ready none := by
  simp [Channel.front, h.queues.waiting, h.sender]

end Buffers
end Store

namespace Stream

variable {st : Store} {name : String} {id : Nat} {opened : Bool} {v : Json.Value}
  {values : List Json.Value}

theorem ofChannel_poll_value (h : st.Buffers name id opened (v :: values)) :
    ∃ after, (ofChannel id).poll () st = (.ready (some (.ok v)), (), after) ∧
      after.Buffers name id opened values := by
  obtain ⟨after, received, left⟩ := h.receive_value
  exact ⟨after, by simp [ofChannel, received], left⟩

theorem ofChannel_poll_empty (h : st.Buffers name id opened []) :
    ∃ after, (ofChannel id).poll () st = (if opened then .pending else .ready none, (), after) ∧
      after.Buffers name id opened [] := by
  obtain ⟨after, received, left⟩ := h.receive_empty
  refine ⟨after, ?_, left⟩
  cases opened <;> simp [ofChannel, received]

theorem ofChannel_drains (h : st.Buffers name id opened values) :
    ∃ after, (ofChannel id).Drains () st values (if opened then .pending else .ready none) ()
        after ∧ after.Buffers name id opened [] := by
  induction values generalizing st with
  | nil =>
    obtain ⟨after, asked, left⟩ := ofChannel_poll_empty h
    refine ⟨after, .stop asked ?_, left⟩
    intro v
    cases opened <;> simp
  | cons v values ih =>
    obtain ⟨mid, asked, left⟩ := ofChannel_poll_value h
    obtain ⟨after, rest, empty⟩ := ih left
    exact ⟨after, .value asked rest, empty⟩

theorem ofChannel_bursts (id : Nat) : (ofChannel id).Bursts := by
  intro x st o x' st' asked
  simp only [ofChannel, Store.receive] at asked
  -- A number of missed values that is reported counts for one value.
  simp only [ofChannel, Store.backlog, Channel.backlog]
  by_cases missed : 0 < (st.channels.cell id).missed
  · simp only [Channel.receive, missed, if_true] at asked
    cases asked
    simp [missed]
  · rcases queue : (st.channels.cell id).queue with _ | ⟨o', rest⟩
    · simp only [Channel.receive, missed, queue, if_false] at asked
      cases opened : (st.channels.cell id).senderOpen <;> simp [opened] at asked
    · simp only [Channel.receive, missed, queue, if_false] at asked
      cases asked
      simp [missed]

end Stream
end Fieldwork
