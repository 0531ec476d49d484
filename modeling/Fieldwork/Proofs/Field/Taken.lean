import Fieldwork.Field.Classified

/-!
What field values are taken for. Futures and streams are taken for themselves, and a foreign value
for what the first adapter makes of it that does not leave it as it was. All other values are not
given later or over time, and no adapter is asked.
-/
namespace Fieldwork

inductive Adapters.Takes (as : Adapters) : FieldValue → Adapted → Prop
  | future (f : Future) : Takes as (.future f) (.single f)
  | stream (t : Stream) : Takes as (.stream t) (.stream t)
  | foreign (order : as = before ++ a :: after) (refused : ∀ b ∈ before, b x = none)
      (taken : a x = some y) : Takes as (.foreign x) y

namespace Adapted

def overTime : Adapted → Stream
  | single f => f.asStream
  | stream t => t

def atLast : Adapted → Future
  | single f => f
  | stream t => t.collect

end Adapted

namespace Adapters

variable {as : Adapters} {v : FieldValue} {y : Adapted}

theorem takes_foreign_iff {x : Foreign} : as.Takes (.foreign x) y ↔ as.adapt x = some y := by
  constructor
  · rintro (_ | _ | ⟨order, refused, taken⟩)
    exact List.findSome?_eq_some_iff.mpr ⟨_, _, _, order, taken, refused⟩
  · intro adapted
    obtain ⟨before, a, after, order, taken, refused⟩ := List.findSome?_eq_some_iff.mp adapted
    exact .foreign order refused taken

theorem classify_of_takes (h : as.Takes v y) : as.classify v = .ofAdapted y := by
  cases v with
  | future f => cases h; rfl
  | stream t => cases h; rfl
  | foreign x => simp [classify, takes_foreign_iff.mp h]
  | value v => cases h
  | result data errors handed => cases h

theorem classify_of_not_takes (h : ∀ y, ¬ as.Takes v y) : as.classify v = .passthrough v := by
  cases v with
  | future f => exact absurd (.future f) (h _)
  | stream t => exact absurd (.stream t) (h _)
  | foreign x =>
    have refused : as.adapt x = none := by
      rw [Option.eq_none_iff_forall_ne_some]
      intro y adapted
      exact h y (takes_foreign_iff.mpr adapted)
    simp [classify, refused]
  | value v => rfl
  | result data errors handed => rfl

theorem asStream_of_takes (h : as.Takes v y) : as.asStream v = .ok y.overTime := by
  unfold asStream
  rw [classify_of_takes h]
  cases y <;> rfl

theorem asStream_of_not_takes (h : ∀ y, ¬ as.Takes v y) : as.asStream v = .error v := by
  unfold asStream
  rw [classify_of_not_takes h]

theorem asSingle_of_takes (h : as.Takes v y) : as.asSingle v = .future y.atLast := by
  unfold asSingle
  rw [classify_of_takes h]
  cases y <;> rfl

theorem asSingle_of_not_takes (h : ∀ y, ¬ as.Takes v y) : as.asSingle v = .passthrough v := by
  unfold asSingle
  rw [classify_of_not_takes h]

end Adapters
end Fieldwork
