import Fieldwork.Async.Converted
import Fieldwork.Async.Scripted

/-!
Sources whose dropping can happen anywhere: it has nothing to do with the slots and the current
context of the thread on which it happens. All sources that the library knows are of this kind.
-/
namespace Fieldwork

/-- Dropping the source has nothing to do with the thread on which it is dropped, and unsets no
signal. -/
structure Source.Detached (src : Source α) : Prop where
  slots : ∀ x (st : Store) slots,
    src.release x { st with slots } = { src.release x st with slots }
  current : ∀ x (st : Store) current,
    src.release x { st with current } = { src.release x st with current }
  kept : ∀ x st k, st.isSet k = true → (src.release x st).isSet k = true

namespace Source.Detached

variable {α : Type}

theorem slots_release {src : Source α} (h : src.Detached) (x : src.State) (st : Store) :
    (src.release x st).slots = st.slots := by
  have same := congrArg Store.slots (h.slots x st st.slots)
  exact same

theorem of_inert {src : Source α} (h : ∀ x st, src.release x st = st) : src.Detached where
  slots x st slots := by rw [h, h]
  current x st current := by rw [h, h]
  kept x st k set := by
    rw [h]
    exact set

theorem collect {t : Stream} (h : t.toSource.Detached) : Source.Detached t.collect where
  slots x st slots := by
    cases x with
    | none => rfl
    | some x => exact h.slots x.1 st slots
  current x st current := by
    cases x with
    | none => rfl
    | some x => exact h.current x.1 st current
  kept x st k set := by
    cases x with
    | none => exact set
    | some x => exact h.kept x.1 st k set

end Source.Detached

namespace Future

theorem ready_detached (o : Outcome) : Source.Detached (ready o) := .of_inert fun _ _ => rfl

theorem ofScript_detached (call : Option Call) (s : Script) :
    Source.Detached (ofScript call s) := .of_inert fun _ _ => rfl

theorem ofTask_detached (id : Nat) : Source.Detached (ofTask id) where
  slots x st slots := by
    simp only [ofTask, Task.abort]
    cases (st.tasks.cell id).status <;> rfl
  current x st current := by
    simp only [ofTask, Task.abort]
    cases (st.tasks.cell id).status <;> rfl
  kept x st k set := by
    simp only [ofTask, Task.abort]
    cases (st.tasks.cell id).status <;> exact set

theorem ofChannel_detached (id : Nat) (closed : Outcome) :
    Source.Detached (ofChannel id closed) where
  slots _ _ _ := rfl
  current _ _ _ := rfl
  kept _ _ _ set := set

end Future

namespace Stream

theorem ofList_detached (items : List Json.Value) : (ofList items).toSource.Detached :=
  .of_inert fun _ _ => rfl

theorem ofScript_detached (call : Option Call) (s : Script) :
    (ofScript call s).toSource.Detached := .of_inert fun _ _ => rfl

theorem ofChannel_detached (id : Nat) : (ofChannel id).toSource.Detached where
  slots _ _ _ := rfl
  current _ _ _ := rfl
  kept _ _ _ set := set

end Stream
end Fieldwork
