import Fieldwork.Async.Scripted
import Fieldwork.Proofs.Async.Alike
import Fieldwork.Proofs.Async.Bound

/-!
What a bound future gives when its signal is set while it is polled. The signal is looked at when a
poll starts and not again, so a source that sets it in the poll in which it completes is too fast for
it: its value is given although the signal is set by then. No other run gives a value late.
-/
namespace Fieldwork

/-- What is given in a poll at whose end `k` is set is null. -/
def Abides (k : Nat) (given : List (Poll Outcome × Store)) : Prop :=
  ∀ o after, (.ready o, after) ∈ given → after.isSet k = true → o = .ok .null

theorem abides_cons {k : Nat} {p : Poll Outcome} {after : Store}
    {given : List (Poll Outcome × Store)} :
    Abides k ((p, after) :: given) ↔
      (∀ o, p = .ready o → after.isSet k = true → o = .ok .null) ∧ Abides k given := by
  constructor
  · intro abides
    constructor
    · rintro o rfl
      exact abides o after List.mem_cons_self
    · intro o left mem
      exact abides o left (List.mem_cons_of_mem _ mem)
  · rintro ⟨first, later⟩ o left mem
    rcases List.mem_cons.mp mem with same | mem
    · cases same
      exact first o rfl
    · exact later o left mem

/-- In a run that starts at `x`, all polls of which start with `k` unset, the source gives a value or
a failure, and once it is dropped after that `k` is set. -/
def Future.Overtaken (f : Future) (k : Nat) : f.State → List Store → Prop
  | _, [] => False
  | x, st :: starts => st.isSet k = false ∧
    match f.poll x st with
    | (.ready o, x', after) => o ≠ .ok .null ∧ (f.release x' after).isSet k = true
    | (.pending, x', _) => f.Overtaken k x' starts
    | (.broken, x', _) => f.Overtaken k x' starts

namespace Future

variable {f : Future} {k : Nat} {x : f.State} {y : (f.bind k).State}

theorem bind_polls_spent (starts : List Store) (h : y = none) :
    (f.bind k).polls y starts = starts.map fun st => (.broken, st) := by
  induction starts generalizing y with
  | nil => rfl
  | cons st starts ih =>
    subst h
    exact congrArg ((.broken, st) :: ·) (ih rfl)

theorem abides_spent (starts : List Store) (h : y = none) :
    Abides k ((f.bind k).polls y starts) := by
  intro o after mem
  rw [bind_polls_spent starts h] at mem
  obtain ⟨st, _, same⟩ := List.mem_map.mp mem
  cases same

/-- Only a poll that starts with the signal unset hands a value of the source on. -/
theorem bind_polls_set (starts : List Store) {st after : Store} {p : Poll Outcome}
    (mem : (st, p, after) ∈ starts.zip ((f.bind k).polls y starts)) (set : st.isSet k = true) :
    p = .ready (.ok .null) ∨ p = .broken := by
  induction starts generalizing y with
  | nil => cases mem
  | cons start starts ih =>
    rw [Source.polls_cons, List.zip_cons_cons] at mem
    rcases List.mem_cons.mp mem with same | mem
    · cases same
      cases y with
      | none => exact .inr rfl
      | some x =>
        left
        exact congrArg (·.1) (f.bind_poll_set x set)
    · exact ih mem

theorem bind_abides_iff (starts : List Store) (h : y = some x) :
    Abides k ((f.bind k).polls y starts) ↔ ¬ f.Overtaken k x starts := by
  induction starts generalizing y x with
  | nil => simp [Abides, Source.polls, Overtaken]
  | cons st starts ih =>
    rw [Source.polls_cons, abides_cons, Overtaken]
    by_cases set : st.isSet k = true
    · have polled := f.bind_poll_set x set
      have spent := f.abides_spent (k := k) (y := none) starts rfl
      rw [← h] at polled
      rw [polled]
      simpa [set] using spent
    · have unset : st.isSet k = false := by simpa using set
      have polled := f.bind_poll_unset x unset
      rw [← h] at polled
      rw [polled]
      rcases f.poll x st with ⟨p, x', after⟩
      have rest := ih (x := x') (y := some x') rfl
      cases p with
      | pending => simpa [unset] using rest
      | broken => simpa [unset] using rest
      | ready o =>
        -- Nothing is given after this poll, so all is up to the signal at its end.
        have spent := f.abides_spent (k := k) (y := none) starts rfl
        constructor
        · rintro ⟨first, _⟩ ⟨_, value, late⟩
          exact value (first o rfl late)
        · intro intime
          refine ⟨?_, spent⟩
          rintro _ ⟨⟩ late
          exact Classical.byContradiction fun value => intime ⟨unset, value, late⟩

theorem not_overtaken (spares : Source.Respects (.sparing k) f) (x : f.State) (starts : List Store)
    (made : ∀ st ∈ starts, k < st.signals.size) : ¬ f.Overtaken k x starts := by
  induction starts generalizing x with
  | nil => exact id
  | cons st starts ih =>
    rintro ⟨unset, overtaken⟩
    have alike : st.Alike (.sparing k) st := .of_same ⟨made st List.mem_cons_self, unset⟩
    obtain ⟨p, x', after, _, polled, _, left⟩ := spares.poll x st st alike
    rw [polled] at overtaken
    have later := ih x' fun st mem => made st (List.mem_cons_of_mem _ mem)
    cases p with
    | pending => exact later overtaken
    | broken => exact later overtaken
    | ready o =>
      obtain ⟨_, late⟩ := overtaken
      have sparing := left.keeps.2
      have dropped := (spares.release x' after after (.of_same sparing)).keeps.2.2
      cases late.symm.trans dropped

end Future

/-- A poll that starts with the signal set gives null, or nothing once an outcome has been given. Where
the signal is set at the end of a poll only, what is given is the outcome of the source, so all that is
given with the signal set is null exactly if the source is not overtaken. Sources that leave the signal
alone never are. -/
theorem bound_abides_iff (f : Future) (k : Nat) (starts : List Store) :
    let given := (f.bind k).polls (f.bind k).state starts
    (∀ st p after, (st, p, after) ∈ starts.zip given → st.isSet k = true →
      p = .ready (.ok .null) ∨ p = .broken) ∧
    (Abides k given ↔ ¬ f.Overtaken k f.state starts) ∧
    (Source.Respects (.sparing k) f → (∀ st ∈ starts, k < st.signals.size) → Abides k given) := by
  intro given
  have abides_iff : Abides k given ↔ ¬ f.Overtaken k f.state starts :=
    Future.bind_abides_iff starts rfl
  refine ⟨?_, abides_iff, ?_⟩
  · intro st p after mem set
    exact Future.bind_polls_set starts mem set
  · intro spares made
    exact abides_iff.mpr (Future.not_overtaken spares f.state starts made)

/-- A source that sets the signal in the poll in which it completes. -/
theorem bound_future_overtaken :
    let call : Call := { context := ⟨0, 0, none⟩, field := ⟨"Query", "total"⟩ }
    let f : Future := .ofScript (some call) [.act .cancelRequest, .emit (.literal (.int 1))]
    let given := (f.bind 0).polls (f.bind 0).state [.empty]
    given.map (·.1) = [.ready (.ok (.int 1))] ∧ given.map (·.2.isSet 0) = [true] ∧
      ¬ Abides 0 given := by
  intro call f given
  refine ⟨rfl, rfl, ?_⟩
  intro abides
  have null := abides (.ok (.int 1)) _ List.mem_cons_self rfl
  cases null

end Fieldwork
