import Fieldwork.Async.Bound
import Fieldwork.Async.Recovered
import Fieldwork.Async.Scripted
import Fieldwork.Async.Converted
import Fieldwork.Proofs.Async.Within

/-!
Tasks that have ended, and sources that hold a running task. A task that has ended stays as it is
whatever else runs, so stopping it twice is stopping it once. A source that holds a task stops it when
it is dropped; binding, recovering, instrumenting and converting hold it on, and what they drop by
themselves is stopped at once.
-/
namespace Fieldwork

def Task.Ended (st : Store) (id : Nat) : Prop :=
  id < st.tasks.size ∧ (st.tasks.cell id).status ≠ .running

structure Store.TasksKept (st st' : Store) : Prop where
  size : st.tasks.size ≤ st'.tasks.size
  ended : ∀ id, Task.Ended st id → st'.tasks.cell id = st.tasks.cell id

namespace Store.TasksKept

variable {st st' st'' : Store} {id : Nat}

theorem of_eq (same : st'.tasks = st.tasks) : st.TasksKept st' where
  size := Nat.le_of_eq (congrArg Pool.size same.symm)
  ended i _ := congrFun (congrArg Pool.cell same) i

theorem refl (st : Store) : st.TasksKept st := of_eq rfl

theorem still_ended (h : st.TasksKept st') (ended : Task.Ended st id) : Task.Ended st' id := by
  refine ⟨Nat.lt_of_lt_of_le ended.1 h.size, ?_⟩
  rw [h.ended id ended]
  exact ended.2

theorem trans (first : st.TasksKept st') (second : st'.TasksKept st'') : st.TasksKept st'' where
  size := Nat.le_trans first.size second.size
  ended i ended := (second.ended i (first.still_ended ended)).trans (first.ended i ended)

theorem set_running (running : (st.tasks.cell id).status = .running) (t : Task) :
    st.TasksKept { st with tasks := st.tasks.set id t } where
  size := Nat.le_refl _
  ended i ended := by
    have other : i ≠ id := by
      rintro rfl
      exact ended.2 running
    exact st.tasks.cell_set_ne other t

end Store.TasksKept

theorem Action.tasks_perform (call : Option Call) (a : Action) (st : Store) :
    (a.perform call st).tasks = st.tasks := by
  cases a with
  | note e => rfl
  | setSlot i e => rfl
  | resetSlot i => rfl
  | setRequest key e => cases call <;> rfl
  | setCurrent key e =>
    simp only [perform]
    cases st.current <;> rfl
  | cancelRequest => cases call <;> rfl
  | cancelNamed name =>
    simp only [perform, Store.cancelNamed]
    cases st.names.context name with
    | some c => rfl
    | none => cases st.names.signal name <;> rfl
  | cancelCurrent =>
    simp only [perform]
    cases st.current <;> rfl
  | send channel e =>
    simp only [perform, Store.send]
    cases st.names.channel channel <;> rfl

theorem Script.tasks_advance (call : Option Call) (s : Script) (st : Store) :
    (Script.advance call s st).2.2.tasks = st.tasks := by
  induction s generalizing st with
  | nil => rfl
  | cons m rest ih =>
    match m with
    | .act a => exact (ih _).trans (a.tasks_perform call st)
    | .wait 0 => exact ih st
    | .wait (n + 1) => rfl
    | .forever => rfl
    | .gate name =>
      unfold Script.advance
      split
      · exact ih st
      · rfl
    | .emit e => rfl
    | .fail f => rfl
    | .crash => rfl

namespace Task

variable {st st' : Store} {id : Nat}

theorem run_of_stopped (h : (st.tasks.cell id).status ≠ .running) : run st id = st := by
  simp only [run]

/-- Whatever else is done, no step is run of what is left of the script of a task that has ended. -/
theorem Ended.stays (h : Ended st id) (kept : st.TasksKept st') :
    run st' id = st' ∧ (st'.tasks.cell id).script = (st.tasks.cell id).script := by
  refine ⟨run_of_stopped (kept.still_ended h).2, ?_⟩
  rw [kept.ended id h]

theorem abort_of_stopped (h : (st.tasks.cell id).status ≠ .running) : abort st id = st := by
  simp only [abort]

theorem abort_of_running (running : (st.tasks.cell id).status = .running) :
    abort st id =
      { st with tasks := st.tasks.set id { st.tasks.cell id with status := .aborted } } := by
  simp only [abort, running]

theorem abort_ended (made : id < st.tasks.size) : Ended (abort st id) id := by
  by_cases running : (st.tasks.cell id).status = .running
  · rw [abort_of_running running]
    refine ⟨made, ?_⟩
    simp
  · rw [abort_of_stopped running]
    exact ⟨made, running⟩

theorem script_abort (st : Store) (id : Nat) :
    ((abort st id).tasks.cell id).script = (st.tasks.cell id).script := by
  by_cases running : (st.tasks.cell id).status = .running
  · rw [abort_of_running running]
    simp
  · rw [abort_of_stopped running]

theorem abort_kept (st : Store) (id : Nat) : st.TasksKept (abort st id) := by
  by_cases running : (st.tasks.cell id).status = .running
  · rw [abort_of_running running]
    exact .set_running running _
  · rw [abort_of_stopped running]
    exact .refl st

theorem run_kept (st : Store) (id : Nat) : st.TasksKept (run st id) := by
  by_cases running : (st.tasks.cell id).status = .running
  · have tasks := Script.tasks_advance (st.tasks.cell id).call
      ((st.tasks.cell id).script.filter fun m => !m.passes) st
    simp only [run, running]
    refine (Store.TasksKept.of_eq tasks).trans (.set_running ?_ _)
    rw [tasks]
    exact running
  · rw [run_of_stopped running]
    exact .refl st

theorem runAll_kept (st : Store) : st.TasksKept (runAll st) := by
  unfold runAll
  generalize List.range st.tasks.size = ids
  induction ids generalizing st with
  | nil => exact .refl st
  | cons id ids ih => exact (run_kept st id).trans (ih (run st id))

end Task

/-- To do `drop` is to stop the task, in `st` and whatever else becomes of it. -/
structure Task.StoppedBy (drop : Store → Store) (id : Nat) (st : Store) : Prop where
  made : id < st.tasks.size
  stops : ∀ st', st.TasksKept st' → drop st' = Task.abort st' id

namespace Task.StoppedBy

variable {drop : Store → Store} {id : Nat} {st st' : Store}

theorem mono (h : StoppedBy drop id st) (kept : st.TasksKept st') : StoppedBy drop id st' where
  made := Nat.lt_of_lt_of_le h.made kept.size
  stops st'' kept' := h.stops st'' (kept.trans kept')

theorem kept (h : StoppedBy drop id st) : st.TasksKept (drop st) := by
  rw [h.stops st (.refl st)]
  exact abort_kept st id

theorem done (h : StoppedBy drop id st) {inert : Store → Store} (nothing : ∀ st', inert st' = st') :
    StoppedBy inert id (drop st) where
  made := Nat.lt_of_lt_of_le h.made h.kept.size
  stops st' kept := by
    rw [h.stops st (.refl st)] at kept
    rw [nothing, abort_of_stopped (kept.still_ended (abort_ended h.made)).2]

end Task.StoppedBy

def Poll.Tied {α σ : Type} (id : Nat) (release : σ → Store → Store) (st : Store)
    (r : Poll α × σ × Store) : Prop :=
  ∃ p x after, r = (p, x, after) ∧ st.TasksKept after ∧ Task.StoppedBy (release x) id after

theorem Poll.Tied.stopped {α σ : Type} {id : Nat} {release : σ → Store → Store} {st : Store}
    {r : Poll α × σ × Store} (h : Poll.Tied id release st r) :
    Task.StoppedBy (release r.2.1) id r.2.2 := by
  obtain ⟨p, x, after, rfl, _, stopped⟩ := h
  exact stopped

def Source.Ties {α : Type} (src : Source α) (id : Nat) : Prop :=
  ∀ x st, Task.StoppedBy (src.release x) id st → Poll.Tied id src.release st (src.poll x st)

def Resolver.SparesTasks (r : Resolver) : Prop :=
  ∀ y (st : Store), st.TasksKept (r.poll y st).2.2

variable {id : Nat}

theorem Future.ofTask_ties : Source.Ties (Future.ofTask id) id := by
  intro x st stopped
  simp only [Future.ofTask]
  cases (st.tasks.cell id).status <;> exact ⟨_, _, _, rfl, .refl st, stopped⟩

namespace Source.Ties

variable {f : Future}

theorem asStream (h : f.Ties id) : f.asStream.toSource.Ties id := by
  intro y st stopped
  cases y with
  | none => exact ⟨_, _, _, rfl, .refl st, stopped⟩
  | some x =>
    obtain ⟨p, x', after, asked, kept, stopped'⟩ := h x st stopped
    have dropped := kept.trans stopped'.kept
    simp only [Future.asStream, asked]
    match p with
    | .pending => exact ⟨_, _, _, rfl, kept, stopped'⟩
    | .broken => exact ⟨_, _, _, rfl, kept, stopped'⟩
    | .ready (.error e) => exact ⟨_, _, _, rfl, dropped, stopped'.done fun _ => rfl⟩
    | .ready (.ok v) => cases v <;> exact ⟨_, _, _, rfl, dropped, stopped'.done fun _ => rfl⟩

theorem bind (h : f.Ties id) (k : Nat) : (f.bind k).Ties id := by
  intro y st stopped
  cases y with
  | none => exact ⟨_, _, _, rfl, .refl st, stopped⟩
  | some x =>
    simp only [Future.bind]
    by_cases set : st.isSet k = true
    · simp only [set]
      exact ⟨_, _, _, rfl, Task.StoppedBy.kept stopped, Task.StoppedBy.done stopped fun _ => rfl⟩
    · obtain ⟨p, x', after, asked, kept, stopped'⟩ := h x st stopped
      simp only [set, asked]
      cases p with
      | pending => exact ⟨_, _, _, rfl, kept, stopped'⟩
      | ready o =>
        exact ⟨_, _, _, rfl, kept.trans stopped'.kept, stopped'.done fun _ => rfl⟩
      | broken => exact ⟨_, _, _, rfl, kept, stopped'⟩

theorem pollWithin {α : Type} {src : Source α} (h : src.Ties id) (s : Snapshot) (c : RequestContext)
    {x : src.State} {st : Store} (stopped : Task.StoppedBy (src.release x) id st) :
    Poll.Tied id src.release st (s.pollWithin c src x st) := by
  have entered : st.TasksKept (s.enter c st) := .of_eq (s.tasks_enter c st)
  obtain ⟨p, x', after, asked, kept, stopped'⟩ := h x (s.enter c st) (stopped.mono entered)
  have left : after.TasksKept (s.leave c st after) := .of_eq (s.tasks_leave c st after)
  rw [Snapshot.pollWithin_eq, asked]
  exact ⟨p, x', _, rfl, (entered.trans kept).trans left, stopped'.mono left⟩

end Source.Ties

namespace Stream

variable {t : Stream}

theorem bind_ties (h : t.toSource.Ties id) (k : Nat) : (t.bind k).toSource.Ties id := by
  intro y st stopped
  obtain ⟨x, ended⟩ := y
  cases ended with
  | true => exact ⟨_, _, _, rfl, .refl st, stopped⟩
  | false =>
    simp only [bind]
    by_cases set : st.isSet k = true
    · simp only [set]
      exact ⟨_, _, _, rfl, .refl st, stopped⟩
    · obtain ⟨p, x', after, asked, kept, stopped'⟩ := h x st stopped
      simp only [set, asked]
      match p with
      | .pending => exact ⟨_, _, _, rfl, kept, stopped'⟩
      | .broken => exact ⟨_, _, _, rfl, kept, stopped'⟩
      | .ready none => exact ⟨_, _, _, rfl, kept, stopped'⟩
      | .ready (some o) => exact ⟨_, _, _, rfl, kept, stopped'⟩

theorem resolve_tied {r : Resolver} (spares : r.SparesTasks) (cause : Failure) {x : t.State}
    (y : r.State) {st : Store} (stopped : Task.StoppedBy (t.release x) id st) :
    Poll.Tied id (t.recover r).release st (t.resolve r cause x y st) := by
  have kept := spares y st
  rcases asked : r.poll y st with ⟨p, y', after⟩
  rw [asked] at kept
  have stopped' := stopped.mono kept
  simp only [resolve, asked]
  cases p with
  | pending => exact ⟨_, _, _, rfl, kept, stopped'⟩
  | ready errors => exact ⟨_, _, _, rfl, kept.trans stopped'.kept, stopped'.done fun _ => rfl⟩
  | broken => exact ⟨_, _, _, rfl, kept, stopped'⟩

theorem recover_ties {r : Resolver} (spares : r.SparesTasks) (h : t.toSource.Ties id) :
    (t.recover r).toSource.Ties id := by
  intro z st stopped
  cases z with
  | ended => exact ⟨_, _, _, rfl, .refl st, stopped⟩
  | failed => exact ⟨_, _, _, rfl, .refl st, stopped⟩
  | resolving cause x y => exact resolve_tied spares cause y stopped
  | reading x =>
    obtain ⟨p, x', after, asked, kept, stopped'⟩ := h x st stopped
    -- At the end and at a failure the source is dropped in the poll itself.
    have dropped := kept.trans stopped'.kept
    simp only [recover, asked]
    match p with
    | .pending => exact ⟨_, _, _, rfl, kept, stopped'⟩
    | .broken => exact ⟨_, _, _, rfl, kept, stopped'⟩
    | .ready none => exact ⟨_, _, _, rfl, dropped, stopped'.done fun _ => rfl⟩
    | .ready (some (.ok v)) => exact ⟨_, _, _, rfl, kept, stopped'⟩
    | .ready (some (.error e)) =>
      by_cases known : e.isPublisher = true
      · simp only [known]
        exact ⟨_, _, _, rfl, dropped, stopped'.done fun _ => rfl⟩
      · simp only [known]
        obtain ⟨q, z, left, resolved, kept', stopped''⟩ :=
          resolve_tied spares e (r.start e) stopped'
        exact ⟨q, z, left, resolved, kept.trans kept', stopped''⟩

end Stream
end Fieldwork
