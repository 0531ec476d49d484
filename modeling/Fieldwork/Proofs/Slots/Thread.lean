import Fieldwork.Proofs.Async.Within

/-!
A thread on which scopes are opened and closed in any order, with any code running in between. Closing
the scopes that are still open, the newest first, would always give a slot its initial value, as long
as scopes over that slot are closed newest first and it is changed only while one of them is open.
-/
namespace Fieldwork

structure OpenScope where
  snapshot : Snapshot
  before : Store

namespace OpenScope

def scope (o : OpenScope) : Scope := (o.snapshot.install o.before).1

def Covers (o : OpenScope) (i : Nat) : Prop := o.snapshot.Covers i

instance (o : OpenScope) (i : Nat) : Decidable (o.Covers i) :=
  inferInstanceAs (Decidable (o.snapshot.Covers i))

def restored (o : OpenScope) (i : Nat) (v : Option Json.Value) : Option Json.Value :=
  if o.snapshot.Covers i then o.before.slots i else v

theorem slots_close (o : OpenScope) (st : Store) (i : Nat) :
    (o.scope.close st).slots i = o.restored i (st.slots i) :=
  o.snapshot.close_restores o.before st i

theorem restored_of_not_covers {o : OpenScope} {i : Nat} (h : ¬ o.Covers i)
    (v : Option Json.Value) : o.restored i v = v := if_neg h

theorem restored_of_covers {o : OpenScope} {i : Nat} (h : o.Covers i)
    (v w : Option Json.Value) : o.restored i v = o.restored i w :=
  (if_pos h).trans (if_pos h).symm

end OpenScope

inductive ThreadEvent
  | work (change : Store → Store)
  | opens (s : Snapshot)
  | closes (n : Nat)

structure Thread where
  store : Store
  scopes : List OpenScope

namespace Thread

def step (t : Thread) : ThreadEvent → Thread
  | .work change => { t with store := change t.store }
  | .opens s => ⟨(s.install t.store).2, ⟨s, t.store⟩ :: t.scopes⟩
  | .closes n =>
    match t.scopes[n]? with
    | none => t
    | some o => ⟨o.scope.close t.store, t.scopes.eraseIdx n⟩

def run (t : Thread) (events : List ThreadEvent) : Thread := events.foldl step t

def Covers (t : Thread) (i : Nat) : Prop := ∃ o ∈ t.scopes, o.Covers i

/-- The event changes the slot only if a scope covers it, and closes no scope over it while one that
was opened later covers it too. -/
def Respects (t : Thread) (i : Nat) : ThreadEvent → Prop
  | .work change => (change t.store).slots i = t.store.slots i ∨ t.Covers i
  | .opens _ => True
  | .closes n => ∀ o ∈ t.scopes[n]?, o.Covers i → ∀ p ∈ t.scopes.take n, ¬ p.Covers i

def RespectsAll (t : Thread) (i : Nat) : List ThreadEvent → Prop
  | [] => True
  | e :: rest => t.Respects i e ∧ (t.step e).RespectsAll i rest

def unwound (i : Nat) (scopes : List OpenScope) (v : Option Json.Value) : Option Json.Value :=
  scopes.foldl (fun v o => o.restored i v) v

def base (t : Thread) (i : Nat) : Option Json.Value := unwound i t.scopes (t.store.slots i)

theorem unwound_cons (i : Nat) (o : OpenScope) (scopes : List OpenScope) (v : Option Json.Value) :
    unwound i (o :: scopes) v = unwound i scopes (o.restored i v) := rfl

theorem unwound_append (i : Nat) (newer older : List OpenScope) (v : Option Json.Value) :
    unwound i (newer ++ older) v = unwound i older (unwound i newer v) :=
  List.foldl_append

theorem unwound_of_free (i : Nat) (scopes : List OpenScope) (free : ∀ o ∈ scopes, ¬ o.Covers i)
    (v : Option Json.Value) : unwound i scopes v = v := by
  induction scopes with
  | nil => rfl
  | cons o rest ih =>
    rw [unwound_cons, OpenScope.restored_of_not_covers (free o (by simp))]
    exact ih fun p hp => free p (by simp [hp])

/-- Under an open scope over the slot its present content does not count. -/
theorem unwound_of_covered (i : Nat) (scopes : List OpenScope) (o : OpenScope) (mem : o ∈ scopes)
    (covers : o.Covers i) (v w : Option Json.Value) : unwound i scopes v = unwound i scopes w := by
  induction scopes generalizing v w with
  | nil => simp at mem
  | cons p rest ih =>
    rw [unwound_cons, unwound_cons]
    rcases List.mem_cons.mp mem with first | later
    · subst p
      rw [OpenScope.restored_of_covers covers v w]
    · exact ih later _ _

theorem base_work (t : Thread) (i : Nat) (change : Store → Store)
    (h : t.Respects i (.work change)) : (t.step (.work change)).base i = t.base i := by
  rcases h with same | ⟨o, mem, covers⟩
  · simp only [step, base, same]
  · exact unwound_of_covered i t.scopes o mem covers _ _

theorem base_opens (t : Thread) (i : Nat) (s : Snapshot) :
    (t.step (.opens s)).base i = t.base i := by
  simp only [step, base, unwound_cons, OpenScope.restored]
  split
  · rfl
  · next h => rw [s.slots_install_of_not_covers t.store h]

theorem base_closes (t : Thread) (i n : Nat) (h : t.Respects i (.closes n)) :
    (t.step (.closes n)).base i = t.base i := by
  cases found : t.scopes[n]? with
  | none => simp only [step, found]
  | some o =>
    obtain ⟨inside, at_n⟩ := List.getElem?_eq_some_iff.mp found
    have split : t.scopes = t.scopes.take n ++ o :: t.scopes.drop (n + 1) := by
      rw [← at_n, List.getElem_cons_drop, List.take_append_drop]
    simp only [step, base, found, List.eraseIdx_eq_take_drop_succ, unwound_append, o.slots_close]
    conv => rhs; rw [split, unwound_append, unwound_cons]
    by_cases covers : o.Covers i
    · have free := h o found covers
      rw [unwound_of_free i _ free, unwound_of_free i _ free]
    · rw [OpenScope.restored_of_not_covers covers, OpenScope.restored_of_not_covers covers]

theorem base_step (t : Thread) (i : Nat) (e : ThreadEvent) (h : t.Respects i e) :
    (t.step e).base i = t.base i := by
  cases e with
  | work change => exact t.base_work i change h
  | opens s => exact t.base_opens i s
  | closes n => exact t.base_closes i n h

theorem base_run (t : Thread) (i : Nat) (events : List ThreadEvent) (h : t.RespectsAll i events) :
    (t.run events).base i = t.base i := by
  induction events generalizing t with
  | nil => rfl
  | cons e rest ih => exact (ih (t.step e) h.2).trans (t.base_step i e h.1)

end Thread

open Thread

/-- Closing a scope, leaving `wrap` and leaving a poll give each covered slot what it held when the
scope was opened and let the others be. So a run that closes all that it opens leaves a slot as it
was if the slot is changed under open scopes only, which are closed newest first. -/
theorem slots_restored :
    (∀ (s : Snapshot) (st last : Store), s.Restores st last ((s.install st).1.close last)) ∧
    (∀ {α : Type u} (s : Snapshot) (work : Store → α × Store) (st : Store),
      (s.wrap work st).1 = (work (s.install st).2).1 ∧
        s.Restores st (work (s.install st).2).2 (s.wrap work st).2) ∧
    (∀ (f : Future) (s : Snapshot) (c : RequestContext) (x : f.State) (st : Store),
      ((f.instrumentedBy s c).poll x st).1 = (f.poll x (s.enter c st)).1 ∧
        s.Restores st (f.poll x (s.enter c st)).2.2 ((f.instrumentedBy s c).poll x st).2.2) ∧
    (∀ (t : Stream) (s : Snapshot) (c : RequestContext) (x : t.State) (st : Store),
      ((t.instrumentedBy s c).poll x st).1 = (t.poll x (s.enter c st)).1 ∧
        s.Restores st (t.poll x (s.enter c st)).2.2 ((t.instrumentedBy s c).poll x st).2.2) ∧
    ∀ (st : Store) (events : List ThreadEvent) (i : Nat),
      ((Thread.mk st []).run events).scopes = [] → (Thread.mk st []).RespectsAll i events →
        ((Thread.mk st []).run events).store.slots i = st.slots i := by
  refine ⟨Snapshot.close_restores, ?_, ?_, ?_, ?_⟩
  · intro α s work st
    exact ⟨rfl, s.wrap_restores work st⟩
  · intro f s c x st
    exact ⟨rfl, s.leave_restores c st _⟩
  · intro t s c x st
    exact ⟨rfl, s.leave_restores c st _⟩
  · intro st events i closed respects
    have kept := base_run ⟨st, []⟩ i events respects
    rw [base, closed] at kept
    exact kept

/-- Three scopes, the outer one with two accessors over slot 0; it is closed while one over slot 1
that was opened later is still open. -/
def overlappingScopes : List ThreadEvent :=
  [.opens ⟨[(⟨"tenant", 0, false⟩, some (.int 1)), (⟨"alias", 0, false⟩, some (.int 2))], false⟩,
   .opens ⟨[(⟨"user", 1, false⟩, none)], true⟩,
   .opens ⟨[(⟨"tenant", 0, false⟩, some (.int 3))], false⟩,
   .work fun st => st.setSlot 0 none,
   .closes 0, .closes 1, .closes 0]

theorem slots_restored_overlapping :
    ((Thread.mk (Store.empty.setSlot 0 (some (.int 7))) []).run overlappingScopes).store.slots 0 =
      some (.int 7) := by
  have closed : ((Thread.mk (Store.empty.setSlot 0 (some (.int 7))) []).run
      overlappingScopes).scopes = [] := rfl
  refine slots_restored.{0}.2.2.2.2 _ overlappingScopes 0 closed ⟨trivial, trivial, trivial, ?_, ?_⟩
  · exact .inr ⟨_, List.mem_cons_self, by decide⟩
  · refine ⟨?_, ?_, ?_, trivial⟩
    · intro o _ _ p mem
      simp at mem
    · intro o found _ p mem
      cases found
      cases mem with
      | head => decide
      | tail _ rest => cases rest
    · intro o _ _ p mem
      simp at mem

end Fieldwork
