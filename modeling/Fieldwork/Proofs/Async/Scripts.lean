import Fieldwork.Async.Scripted
import Fieldwork.Proofs.Async.Related

/-!
A script keeps a relation between stores if its moves do: what they read must be the same on both
sides, and what they write must leave stores that are related.
-/
namespace Fieldwork

variable (R : StoreRelation) (call : Option Call)

def Expr.Keeps (e : Expr) : Prop := ∀ st st', R st st' → e.eval call st' = e.eval call st

def Action.Keeps (a : Action) : Prop :=
  ∀ st st', R st st' → R (a.perform call st) (a.perform call st')

def Move.Keeps : Move → Prop
  | act a => a.Keeps R call
  | gate name => ∀ st st', R st st' → st'.openGates name = st.openGates name
  | emit e => e.Keeps R call
  | _ => True

def Script.Keeps (s : Script) : Prop := ∀ m ∈ s, m.Keeps R call

theorem Script.advance_all {P : Move → Prop} (waits : ∀ n, P (.wait n)) {s : Script}
    (h : ∀ m ∈ s, P m) (st : Store) : ∀ m ∈ (Script.advance call s st).2.1, P m := by
  induction s generalizing st with
  | nil => exact h
  | cons m rest ih =>
    have later : ∀ m ∈ rest, P m := fun m mem => h m (List.mem_cons_of_mem _ mem)
    match m with
    | .act a => exact ih later _
    | .wait 0 => exact ih later _
    | .wait (n + 1) => exact List.forall_mem_cons.mpr ⟨waits n, later⟩
    | .forever => exact h
    | .gate name =>
      unfold Script.advance
      split
      · exact ih later _
      · exact h
    | .emit e => exact later
    | .fail f => exact later
    | .crash => exact later

variable {R call}

theorem Script.Keeps.advance {s : Script} (h : s.Keeps R call) {st st' : Store}
    (related : R st st') :
    ∃ halt rest after after', Script.advance call s st = (halt, rest, after) ∧
      Script.advance call s st' = (halt, rest, after') ∧ R after after' := by
  induction s generalizing st st' with
  | nil => exact ⟨_, _, _, _, rfl, rfl, related⟩
  | cons m rest ih =>
    have first := h m List.mem_cons_self
    have later : Script.Keeps R call rest := fun m mem => h m (List.mem_cons_of_mem _ mem)
    match m with
    | .act a => exact ih later (first _ _ related)
    | .wait 0 => exact ih later related
    | .wait (n + 1) => exact ⟨_, _, _, _, rfl, rfl, related⟩
    | .forever => exact ⟨_, _, _, _, rfl, rfl, related⟩
    | .gate name =>
      simp only [Script.advance, first _ _ related]
      by_cases isOpen : st.openGates name = true
      · simp only [isOpen]
        exact ih later related
      · simp only [isOpen]
        exact ⟨_, _, _, _, rfl, rfl, related⟩
    | .emit e =>
      simp only [Script.advance, first _ _ related]
      exact ⟨_, _, _, _, rfl, rfl, related⟩
    | .fail f => exact ⟨_, _, _, _, rfl, rfl, related⟩
    | .crash => exact ⟨_, _, _, _, rfl, rfl, related⟩

theorem Script.Keeps.poll_future {s : Script} (h : s.Keeps R call) (whole : Script)
    {st st' : Store} (related : R st st') :
    Poll.Matched R ((Future.ofScript call whole).poll s st)
      ((Future.ofScript call whole).poll s st') := by
  obtain ⟨halt, rest, after, after', one, other, left⟩ := h.advance related
  simp only [Future.ofScript, one, other]
  cases halt <;> exact ⟨_, _, _, _, rfl, rfl, left⟩

theorem Script.Keeps.poll_stream {s : Script} (h : s.Keeps R call) (whole : Script)
    {st st' : Store} (related : R st st') :
    Poll.Matched R ((Stream.ofScript call whole).poll s st)
      ((Stream.ofScript call whole).poll s st') := by
  obtain ⟨halt, rest, after, after', one, other, left⟩ := h.advance related
  simp only [Stream.ofScript, one, other]
  cases halt <;> exact ⟨_, _, _, _, rfl, rfl, left⟩

theorem Future.ofScript_rest (whole s : Script) (st : Store) :
    ((Future.ofScript call whole).poll s st).2.1 = (Script.advance call s st).2.1 := by
  simp only [Future.ofScript]
  cases (Script.advance call s st).1 <;> rfl

variable (keeps : ∀ s : Script, s.Keeps R call)

include keeps

theorem Future.ofScript_keeps (s : Script) : (Future.ofScript call s).Keeps R where
  poll x _ _ related := (keeps x).poll_future s related
  release _ _ _ related := related

theorem Stream.ofScript_keeps (s : Script) : (Stream.ofScript call s).Keeps R where
  source.poll x _ _ related := (keeps x).poll_stream s related
  source.release _ _ _ related := related
  burst _ _ _ _ := rfl

end Fieldwork
