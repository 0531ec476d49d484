import Fieldwork.Proofs.Async.Alike
import Fieldwork.Proofs.Async.Unseen

/-!
The sources that the library knows, and the resolver that knows no failure. No source looks at a
signal, and only scripts set any, so they respect every relation that is kept when one signal is set
on both sides; those of tasks, channels and lists respect all relations.
-/
namespace Fieldwork

def SignalRelation.Closed (S : SignalRelation) : Prop :=
  ∀ p q j, S p q → S (p.set j true) (q.set j true)

namespace SignalRelation

end SignalRelation

variable {S : SignalRelation}

theorem Store.Alike.unseen (S : SignalRelation) : StoreRelation.Unseen (Store.Alike S) where
  apart := by
    rintro st _ ⟨signals, rfl, _⟩
    exact ⟨signals, st.log, rfl⟩
  change := by
    rintro st _ ⟨signals, rfl, related⟩ slots bags tasks channels
    exact ⟨signals, rfl, related⟩
  note := by
    rintro st _ ⟨signals, rfl, related⟩ v
    exact ⟨signals, rfl, related⟩

theorem SignalRelation.Closed.sets (closed : S.Closed) : StoreRelation.Sets (Store.Alike S) := by
  rintro st _ ⟨signals, rfl, related⟩ k
  exact ⟨signals.set k true, rfl, closed _ _ k related⟩

theorem SignalRelation.Closed.script (closed : S.Closed) (call : Option Call) (s : Script) :
    s.Keeps (Store.Alike S) call :=
  (Store.Alike.unseen S).script closed.sets call s

namespace Future

end Future

namespace Stream

end Stream

namespace Resolver

end Resolver
end Fieldwork
