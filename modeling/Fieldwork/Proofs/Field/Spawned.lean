import Fieldwork.Proofs.Async.Tasks
import Fieldwork.Proofs.Field.Outcome

/-!
Fields whose delegate has spawned a task and gives the handle of it. What such a field gives holds
the task and stops it when it is dropped, at any time and however often it has been polled. On a
request that is cancelled when the delegate is done the field gives something else, and the handle is
dropped before anything holds the task: that task runs on.
-/
namespace Fieldwork

namespace FieldValue

inductive Event
  | poll
  | work (change : Store → Store)

def Event.Lawful : Event → Prop
  | poll => True
  | work change => ∀ st : Store, st.TasksKept (change st)

def polled (st : Store) : FieldValue → FieldValue × Store
  | result data errors handed =>
    (result (data.next st).1 errors handed, (data.next st).2)
  | v => v.next st

def step (kept : FieldValue × Store) : Event → FieldValue × Store
  | .poll => kept.1.polled kept.2
  | .work change => (kept.1, change kept.2)

def live (kept : FieldValue × Store) (events : List Event) : FieldValue × Store :=
  events.foldl step kept

/-- To drop the value is to stop the task `id`, and stays so when it is polled. -/
def Ties (id : Nat) (st : Store) : FieldValue → Prop
  | result data _ _ => data.Ties id st
  | future u => Source.Ties u id ∧ Task.StoppedBy (u.release u.state) id st
  | stream u => u.toSource.Ties id ∧ Task.StoppedBy (u.release u.state) id st
  | _ => False

variable {id : Nat} {v : FieldValue} {st st' : Store}

theorem Ties.mono (h : v.Ties id st) (kept : st.TasksKept st') : v.Ties id st' := by
  induction v with
  | value v => cases h
  | result data errors handed ih => exact ih h
  | future u => exact ⟨h.1, h.2.mono kept⟩
  | stream u => exact ⟨h.1, h.2.mono kept⟩
  | foreign x => cases h

theorem Ties.stopped (h : v.Ties id st) : Task.StoppedBy (fun st => v.drop st) id st := by
  induction v with
  | value v => cases h
  | result data errors handed ih => exact ih h
  | future u => exact h.2
  | stream u => exact h.2
  | foreign x => cases h

theorem Ties.withContent (h : v.Ties id st) (w : FieldValue) : (w.withContent v).Ties id st := by
  cases w <;> exact h

theorem Ties.next (h : v.Ties id st) : (v.next st).1.Ties id (v.next st).2 := by
  cases v with
  | value v => cases h
  | result data errors handed => exact h
  | future u => exact ⟨h.1, (h.1 u.state st h.2).stopped⟩
  | stream u => exact ⟨h.1, (h.1 u.state st h.2).stopped⟩
  | foreign x => cases h

theorem Ties.step (h : v.Ties id st) {e : Event} (lawful : e.Lawful) :
    (step (v, st) e).1.Ties id (step (v, st) e).2 := by
  cases e with
  | work change => exact h.mono (lawful st)
  | poll =>
    cases v with
    | value v => cases h
    | result data errors handed => exact Ties.next (v := data) h
    | future u => exact h.next
    | stream u => exact h.next
    | foreign x => cases h

theorem Ties.live (h : v.Ties id st) {events : List Event} (lawful : ∀ e ∈ events, e.Lawful) :
    (live (v, st) events).1.Ties id (live (v, st) events).2 := by
  induction events generalizing v st with
  | nil => exact h
  | cons e events ih =>
    exact ih (h.step (lawful e List.mem_cons_self)) fun e mem => lawful e (List.mem_cons_of_mem _ mem)

theorem live_still (still : ∀ st, v.polled st = (v, st)) (st : Store) (events : List Event) :
    (live (v, st) events).1 = v := by
  induction events generalizing st with
  | nil => rfl
  | cons e events ih =>
    cases e with
    | work change => exact ih (change st)
    | poll =>
      have polled : step (v, st) .poll = (v, st) := still st
      unfold live
      rw [List.foldl_cons, polled]
      exact ih st

end FieldValue

theorem Future.awaited_ties {f : Future} {id : Nat} (h : f.Ties id) (k : Nat) (s : Snapshot)
    (c : RequestContext) : Source.Ties (f.awaited k s c) id := by
  intro y st stopped
  exact (h.bind k).pollWithin s c stopped

theorem Stream.subscribed_ties {t : Stream} {r : Resolver} {id : Nat} (spares : r.SparesTasks)
    (h : t.toSource.Ties id) (k : Nat) (s : Snapshot) (c : RequestContext) :
    (t.subscribed r k s c).toSource.Ties id := by
  intro y st stopped
  exact (Stream.bind_ties (Stream.recover_ties spares h) k).pollWithin s c stopped

namespace Decorator

variable {d : Decorator} {call : Call} {st after : Store} {w : FieldValue} {id : Nat}

theorem outcome_ties (takes : d.adapters.Takes (.foreign (.task id)) (.single (.ofTask id)))
    (spares : d.resolver.SparesTasks) (s : Snapshot) (call : Call) (made : id < st.tasks.size) :
    ∃ u left, d.Outcome s call false st (.foreign (.task id)) (.ok u, left) ∧ u.Ties id left := by
  have handle : Source.Ties (Future.ofTask id) id := Future.ofTask_ties
  cases subscription : d.subscription with
  | true =>
    refine ⟨_, _, .stream rfl subscription takes, ?_, made, ?_⟩
    · exact Stream.subscribed_ties spares handle.asStream _ _ _
    · intro st' _
      rfl
  | false =>
    refine ⟨_, _, .future rfl subscription takes, ?_, made, ?_⟩
    · exact Future.awaited_ties handle _ _ _
    · intro st' _
      rfl

theorem fetch_ties (standard : d.adapters = .standard) (spares : d.resolver.SparesTasks)
    (fetched : d.delegate.fetch call (call.inside st) = (.ok w, after))
    (handle : w.content = .foreign (.task id)) (made : id < after.tasks.size)
    (unset : after.isCancelled call.context = false) :
    ∃ v left, d.fetch call st = (.ok v, left) ∧ v.Ties id left := by
  have takes : d.adapters.Takes (.foreign (.task id)) (.single (.ofTask id)) := by
    rw [standard]
    exact Adapters.takes_foreign_iff.mpr rfl
  have made' : id < (call.outside st after).tasks.size := by simpa using made
  obtain ⟨u, left, outcome, ties⟩ := outcome_ties takes spares (call.snapshot st) call made'
  rw [← unset, ← handle] at outcome
  exact ⟨w.withContent u, left, fetch_of_content fetched outcome, ties.withContent w⟩

theorem fetch_detaches (fetched : d.delegate.fetch call (call.inside st) = (.ok w, after))
    (handle : w.content = .foreign (.task id)) (set : after.isCancelled call.context = true) :
    ∃ v, d.fetch call st = (.ok v, call.outside st after) ∧
      (∀ st', v.polled st' = (v, st')) ∧ ∀ st', v.drop st' = st' := by
  have present : w.content ≠ .null := by
    intro absent
    cases handle.symm.trans absent
  have given := fetch_of_content fetched (.cancelled present set)
  rw [handle] at given
  refine ⟨w.withContent .cancelled, given, ?_, ?_⟩
  · intro st'
    cases w <;> rfl
  · intro st'
    cases w <;> rfl

end Decorator

/-- The field of a delegate that gives the handle of a task, by itself or as the data of a structured
result. If the request is not cancelled when the delegate is done, to drop the field's value is to
stop the task, whatever has happened until then; no step of it runs after that. If the request is
cancelled by then, the drop does nothing, and the task runs on unless it has ended by itself. -/
theorem spawned_task_stops {d : Decorator} {call : Call} {st after : Store} {w : FieldValue} {id : Nat}
    (standard : d.adapters = .standard) (spares : d.resolver.SparesTasks)
    (fetched : d.delegate.fetch call (call.inside st) = (.ok w, after))
    (handle : w.content = .foreign (.task id)) (made : id < after.tasks.size) :
    ∃ v left, d.fetch call st = (.ok v, left) ∧
      ∀ life : List FieldValue.Event, (∀ e ∈ life, e.Lawful) →
        let kept := FieldValue.live (v, left) life
        let gone := kept.1.drop kept.2
        (after.isCancelled call.context = false → gone = Task.abort kept.2 id) ∧
        (after.isCancelled call.context = true → gone = kept.2) ∧
        (Task.Ended gone id ↔
          after.isCancelled call.context = false ∨ Task.Ended kept.2 id) ∧
        (Task.Ended gone id → ∀ later : Store, gone.TasksKept later →
          Task.run later id = later ∧
            (later.tasks.cell id).script = (kept.2.tasks.cell id).script) := by
  -- What the fetch gives either holds the task or holds nothing; the signal decides which, as it is
  -- when the delegate is done, and not as it is at any later time.
  cases cancelled : after.isCancelled call.context with
  | false =>
    obtain ⟨v, left, given, ties⟩ :=
      Decorator.fetch_ties standard spares fetched handle made cancelled
    refine ⟨v, left, given, ?_⟩
    intro life lawful kept gone
    have stopped := (ties.live lawful).stopped
    have drops : gone = Task.abort kept.2 id := stopped.stops kept.2 (.refl _)
    have ended : Task.Ended gone id := by
      rw [drops]
      exact Task.abort_ended stopped.made
    have script : (gone.tasks.cell id).script = (kept.2.tasks.cell id).script := by
      rw [drops]
      exact Task.script_abort kept.2 id
    refine ⟨fun _ => drops, ?_, ?_, ?_⟩
    · intro set
      cases set
    · simp [ended]
    · intro _ later onward
      rw [← script]
      exact ended.stays onward
  | true =>
    obtain ⟨v, given, still, inert⟩ := Decorator.fetch_detaches fetched handle cancelled
    refine ⟨v, _, given, ?_⟩
    intro life lawful kept gone
    have same : kept.1 = v := FieldValue.live_still still _ life
    have drops : gone = kept.2 := by
      change kept.1.drop kept.2 = kept.2
      rw [same, inert]
    refine ⟨?_, fun _ => drops, ?_, ?_⟩
    · intro unset
      cases unset
    · simp [drops]
    · intro ended later onward
      rw [← drops]
      exact ended.stays onward

/-- A task in the data of a subscription field, whose request is cancelled between two polls. -/
theorem spawned_task_stops_subscribed :
    let script : Script := [.act (.note (.literal (.string "late"))), .emit (.literal (.int 1))]
    let d : Decorator := {
      delegate := { fetch := fun _ st =>
        let (id, st) := Task.spawn st script none
        (.ok (.result (.foreign (.task id)) [] none), st) }
      subscription := true
      resolver := .unresolved
      adapters := .standard }
    let call : Call := { context := ⟨0, 0, none⟩, field := ⟨"Subscription", "ticks"⟩ }
    let after := (Task.spawn (call.inside .empty) script none).2
    let life : List FieldValue.Event := [.poll, .work fun st => st.setSignal 0, .poll]
    d.adapters = .standard ∧ d.resolver.SparesTasks ∧
    d.delegate.fetch call (call.inside .empty) =
        (.ok (.result (.foreign (.task 0)) [] none), after) ∧
    0 < after.tasks.size ∧ (∀ e ∈ life, e.Lawful) ∧
    ∃ v left, d.fetch call .empty = (.ok v, left) ∧
      let kept := FieldValue.live (v, left) life
      let gone := kept.1.drop kept.2
      gone = Task.abort kept.2 0 ∧ Task.Ended gone 0 ∧
        ((Task.runAll gone).tasks.cell 0).script = (kept.2.tasks.cell 0).script := by
  intro script d call after life
  have spares : d.resolver.SparesTasks := fun _ st => .refl st
  have fetched : d.delegate.fetch call (call.inside .empty) =
      (.ok (.result (.foreign (.task 0)) [] none), after) := rfl
  have made : 0 < after.tasks.size := by decide
  have lawful : ∀ e ∈ life, e.Lawful := by
    intro e mem
    simp only [life, List.mem_cons, List.not_mem_nil, or_false] at mem
    rcases mem with rfl | rfl | rfl
    · exact trivial
    · exact fun _ => .of_eq rfl
    · exact trivial
  obtain ⟨v, left, given, stops⟩ := spawned_task_stops (d := d) rfl spares fetched rfl made
  refine ⟨rfl, spares, fetched, made, lawful, v, left, given, ?_⟩
  obtain ⟨aborted, _, ends, stays⟩ := stops life lawful
  have ended := ends.mpr (.inl rfl)
  exact ⟨aborted rfl, ended, (stays ended _ (Task.runAll_kept _)).2⟩

/-- A task whose handle is dropped because its request has been cancelled before. -/
theorem cancelled_fetch_detaches :
    let script : Script := [.act (.note (.literal (.string "late"))), .emit (.literal (.int 1))]
    let d : Decorator := {
      delegate := { fetch := fun _ st =>
        let (id, st) := Task.spawn st script none
        (.ok (.foreign (.task id)), st) }
      subscription := false
      resolver := .unresolved
      adapters := .standard }
    let call : Call := { context := ⟨0, 0, none⟩, field := ⟨"Query", "total"⟩ }
    ∃ v left, d.fetch call (Store.empty.setSignal 0) = (.ok v, left) ∧
      left.isCancelled call.context = true ∧ ¬ Task.Ended (v.drop left) 0 ∧
      (Task.runAll (v.drop left)).log = [.string "late"] := by
  intro script d call
  refine ⟨_, _, rfl, rfl, ?_, rfl⟩
  intro ended
  exact ended.2 rfl

end Fieldwork
