import Fieldwork.Async.Instrumented
import Fieldwork.Proofs.Slots.Scope

/-!
A poll with a snapshot installed, taken apart into what happens before the inner poll (`enter`) and
after it (`leave`). Neither touches the signals, and neither depends on them.
-/
namespace Fieldwork

namespace Snapshot

/-- The store in which work runs that has the snapshot installed and `c` as current context. -/
def enter (s : Snapshot) (c : RequestContext) (st : Store) : Store :=
  (s.install { st with current := some c }).2

def leave (s : Snapshot) (c : RequestContext) (st inner : Store) : Store :=
  { (s.install { st with current := some c }).1.close inner with current := st.current }

theorem pollWithin_eq (s : Snapshot) (c : RequestContext) (inner : Source α) (x : inner.State)
    (st : Store) :
    s.pollWithin c inner x st =
      ((inner.poll x (s.enter c st)).1, (inner.poll x (s.enter c st)).2.1,
        s.leave c st (inner.poll x (s.enter c st)).2.2) := rfl

theorem current_enter (s : Snapshot) (c : RequestContext) (st : Store) :
    (s.enter c st).current = some c := by
  unfold enter
  rw [install_frame]
  rfl

@[simp] theorem signals_enter (s : Snapshot) (c : RequestContext) (st : Store) :
    (s.enter c st).signals = st.signals := by
  unfold enter
  rw [install_frame]
  rfl

@[simp] theorem isSet_enter (s : Snapshot) (c : RequestContext) (st : Store) (k : Nat) :
    (s.enter c st).isSet k = st.isSet k := by
  simp [Store.isSet]

@[simp] theorem bags_enter (s : Snapshot) (c : RequestContext) (st : Store) :
    (s.enter c st).bags = st.bags := by
  unfold enter
  rw [install_frame]
  rfl

@[simp] theorem bags_leave (s : Snapshot) (c : RequestContext) (st inner : Store) :
    (s.leave c st inner).bags = inner.bags := by
  unfold leave
  rw [Scope.close_frame]
  rfl

@[simp] theorem tasks_enter (s : Snapshot) (c : RequestContext) (st : Store) :
    (s.enter c st).tasks = st.tasks := by
  unfold enter
  rw [install_frame]
  rfl

@[simp] theorem tasks_leave (s : Snapshot) (c : RequestContext) (st inner : Store) :
    (s.leave c st inner).tasks = inner.tasks := by
  unfold leave
  rw [Scope.close_frame]
  rfl

@[simp] theorem signals_leave (s : Snapshot) (c : RequestContext) (st inner : Store) :
    (s.leave c st inner).signals = inner.signals := by
  unfold leave
  rw [Scope.close_frame]
  rfl

@[simp] theorem channels_enter (s : Snapshot) (c : RequestContext) (st : Store) :
    (s.enter c st).channels = st.channels := by
  unfold enter
  rw [install_frame]
  rfl

@[simp] theorem channels_leave (s : Snapshot) (c : RequestContext) (st inner : Store) :
    (s.leave c st inner).channels = inner.channels := by
  unfold leave
  rw [Scope.close_frame]
  rfl

@[simp] theorem names_enter (s : Snapshot) (c : RequestContext) (st : Store) :
    (s.enter c st).names = st.names := by
  unfold enter
  rw [install_frame]
  rfl

@[simp] theorem names_leave (s : Snapshot) (c : RequestContext) (st inner : Store) :
    (s.leave c st inner).names = inner.names := by
  unfold leave
  rw [Scope.close_frame]
  rfl

theorem leave_restores (s : Snapshot) (c : RequestContext) (st inner : Store) :
    s.Restores st inner (s.leave c st inner) := by
  intro i
  exact s.close_restores { st with current := some c } inner i

end Snapshot
end Fieldwork
