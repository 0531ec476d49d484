import Fieldwork.Proofs.Async.Bound
import Fieldwork.Proofs.Async.Scripts
import Fieldwork.Proofs.Async.Worker

/-!
What work can get at. Work is confined if it depends on nothing but what it sees, and it spares a bag
that it finds neither in the current context nor elsewhere. Scripts spare all bags but those of the
contexts that they know, and are confined if what they read is in sight.
-/
namespace Fieldwork

namespace Store

def Calm (st : Store) : Prop := ∀ k, st.isSet k = false

def Aside (a : Nat) (st : Store) : Prop := a < st.bags.size ∧ ∀ c ∈ st.current, c.bag ≠ a

def Sparing (a : Nat) (st st' : Store) : Prop :=
  st.Aside a → st'.Aside a ∧ st'.bags.cell a = st.bags.cell a

end Store

/-- Whenever it is polled, the work writes to the bag only if it finds it in the current context. -/
def Work.Spares (a : Nat) (w : Work) : Prop :=
  w.Always fun w => ∀ st : Store, st.Sparing a (w.next st).2.2

structure Snapshot.ShowsSame (s : Snapshot) (own : RequestContext) (l l' : List Json.Value)
    (st st' : Store) : Prop where
  current : st.current = some own
  current' : st'.current = some own
  there : own.bag < st.bags.size
  there' : own.bag < st'.bags.size
  view : s.view st' = s.view st
  noted : ∃ es, st.log = l ++ es ∧ st'.log = l' ++ es

/-- Whenever it is polled, the work depends only on what it sees: where that is the same, it gives
the same, goes on in the same way, notes the same and leaves the same to see. -/
def Work.Confined (s : Snapshot) (own : RequestContext) (w : Work) : Prop :=
  w.Always fun w => ∀ l l' st st', s.ShowsSame own l l' st st' → st.Calm → st'.Calm →
    (w.next st').1 = (w.next st).1 ∧ (w.next st').2.1 = (w.next st).2.1 ∧
      s.ShowsSame own l l' (w.next st).2.2 (w.next st').2.2

variable {s : Snapshot} {own : RequestContext} {l l' : List Json.Value} {st st' : Store}

namespace Snapshot

theorem view_eq (s : Snapshot) (st : Store) (current : st.current = some own) :
    s.view st =
      ⟨fun i => if s.Covers i then some (st.slots i) else none, some (st.bags.cell own.bag)⟩ := by
  unfold view
  rw [current]
  rfl

theorem ShowsSame.entries (h : s.ShowsSame own l l' st st') :
    st'.bags.cell own.bag = st.bags.cell own.bag := by
  have same := congrArg View.entries h.view
  rw [s.view_eq st h.current, s.view_eq st' h.current'] at same
  exact Option.some.inj same

theorem ShowsSame.slot (h : s.ShowsSame own l l' st st') {i : Nat} (covers : s.Covers i) :
    st'.slots i = st.slots i := by
  have same := congrFun (congrArg View.slots h.view) i
  rw [s.view_eq st h.current, s.view_eq st' h.current'] at same
  simpa [covers] using same

theorem showsSame_of (current : st.current = some own) (current' : st'.current = some own)
    (there : own.bag < st.bags.size) (there' : own.bag < st'.bags.size)
    (slots : ∀ i, s.Covers i → st'.slots i = st.slots i)
    (entries : st'.bags.cell own.bag = st.bags.cell own.bag)
    (noted : ∃ es, st.log = l ++ es ∧ st'.log = l' ++ es) : s.ShowsSame own l l' st st' := by
  refine ⟨current, current', there, there', ?_, noted⟩
  rw [s.view_eq st current, s.view_eq st' current', entries]
  congr 1
  funext i
  by_cases covers : s.Covers i
  · rw [if_pos covers, if_pos covers, slots i covers]
  · rw [if_neg covers, if_neg covers]

theorem showsSame_enter (there : own.bag < st.bags.size) (there' : own.bag < st'.bags.size)
    (entries : st'.bags.cell own.bag = st.bags.cell own.bag) :
    s.ShowsSame own (s.enter own st).log (s.enter own st').log (s.enter own st)
      (s.enter own st') := by
  refine showsSame_of (s.current_enter own st) (s.current_enter own st') ?_ ?_ ?_ ?_ ⟨[], ?_, ?_⟩
  · rw [s.bags_enter]
    exact there
  · rw [s.bags_enter]
    exact there'
  · intro i covers
    exact s.slots_install_of_covers covers _ _
  · rw [s.bags_enter, s.bags_enter]
    exact entries
  · rw [List.append_nil]
  · rw [List.append_nil]

end Snapshot

theorem Store.Calm.enter (h : st.Calm) (s : Snapshot) (c : RequestContext) :
    (s.enter c st).Calm := by
  intro k
  rw [s.isSet_enter]
  exact h k

def Store.Held (a : Nat) (v : Bag) : StoreRelation :=
  fun st st' => st' = st ∧ st.Aside a ∧ st.bags.cell a = v

variable {a : Nat} {call : Option Call}

theorem Source.Keeps.sparing {α : Type} {src : Source α} (h : ∀ v, src.Keeps (Store.Held a v))
    (x : src.State) (st : Store) : st.Sparing a (src.poll x st).2.2 := by
  intro aside
  obtain ⟨p, x', after, after', one, _, left⟩ := (h _).poll x st st ⟨rfl, aside, rfl⟩
  rw [one]
  exact left.2

theorem Action.perform_sparing (act : Action) (apart : ∀ c ∈ call, c.context.bag ≠ a)
    (st : Store) : st.Sparing a (act.perform call st) := by
  intro aside
  have put : ∀ (c : RequestContext) key v, c.bag ≠ a →
      (st.putEntry c key v).Aside a ∧ (st.putEntry c key v).bags.cell a = st.bags.cell a :=
    fun c key v ne => ⟨aside, Pool.cell_set_ne _ (Ne.symm ne) _⟩
  have signalled : ∀ k, (st.setSignal k).Aside a ∧ (st.setSignal k).bags.cell a = st.bags.cell a :=
    fun k => ⟨aside, rfl⟩
  cases act with
  | note e => exact ⟨aside, rfl⟩
  | setSlot i e => exact ⟨aside, rfl⟩
  | resetSlot i => exact ⟨aside, rfl⟩
  | setRequest key e =>
    cases call with
    | none => exact ⟨aside, rfl⟩
    | some c => exact put c.context key _ (apart c rfl)
  | setCurrent key e =>
    simp only [Action.perform]
    cases current : st.current with
    | none => exact ⟨aside, rfl⟩
    | some c => exact put c key _ (aside.2 c current)
  | cancelRequest =>
    cases call with
    | none => exact ⟨aside, rfl⟩
    | some c => exact signalled c.context.signal
  | cancelNamed name =>
    simp only [Action.perform, Store.cancelNamed]
    cases st.names.context name with
    | some c => exact signalled c.signal
    | none =>
      cases st.names.signal name with
      | some k => exact signalled k
      | none => exact ⟨aside, rfl⟩
  | cancelCurrent =>
    simp only [Action.perform]
    cases st.current with
    | none => exact ⟨aside, rfl⟩
    | some c => exact signalled c.signal
  | send channel e =>
    simp only [Action.perform, Store.send]
    cases st.names.channel channel <;> exact ⟨aside, rfl⟩

theorem Script.keeps_held (apart : ∀ c ∈ call, c.context.bag ≠ a) (v : Bag) (script : Script) :
    script.Keeps (Store.Held a v) call := by
  intro m _
  cases m with
  | act act =>
    rintro st _ ⟨rfl, aside, entries⟩
    obtain ⟨aside', same⟩ := act.perform_sparing apart _ aside
    exact ⟨rfl, aside', same.trans entries⟩
  | gate name =>
    rintro st _ ⟨rfl, _⟩
    rfl
  | emit e =>
    rintro st _ ⟨rfl, _⟩
    rfl
  | wait n => exact trivial
  | forever => exact trivial
  | fail f => exact trivial
  | crash => exact trivial

namespace Snapshot.ShowsSame

theorem change (h : s.ShowsSame own l l' st st') (f f' : Store → Store)
    (frame : ∀ st, (f st).slots = st.slots ∧ (f st).current = st.current ∧
      (f st).bags = st.bags ∧ (f st).log = st.log)
    (frame' : ∀ st, (f' st).slots = st.slots ∧ (f' st).current = st.current ∧
      (f' st).bags = st.bags ∧ (f' st).log = st.log) :
    s.ShowsSame own l l' (f st) (f' st') := by
  obtain ⟨slots, current, bags, log⟩ := frame st
  obtain ⟨slots', current', bags', log'⟩ := frame' st'
  refine ⟨?_, ?_, ?_, ?_, ?_, ?_⟩
  · exact current.trans h.current
  · exact current'.trans h.current'
  · rw [bags]
    exact h.there
  · rw [bags']
    exact h.there'
  · have same := h.view
    simp only [Snapshot.view, slots, slots', current, current', bags, bags'] at same ⊢
    exact same
  · rw [log, log']
    exact h.noted

theorem note (h : s.ShowsSame own l l' st st') (v : Json.Value) :
    s.ShowsSame own l l' (st.note v) (st'.note v) := by
  obtain ⟨es, noted, noted'⟩ := h.noted
  refine ⟨h.current, h.current', h.there, h.there', h.view, es ++ [v], ?_, ?_⟩
  · rw [← List.append_assoc, ← noted]
    rfl
  · rw [← List.append_assoc, ← noted']
    rfl

theorem setSlot (h : s.ShowsSame own l l' st st') (i : Nat) (v : Option Json.Value) :
    s.ShowsSame own l l' (st.setSlot i v) (st'.setSlot i v) := by
  refine showsSame_of h.current h.current' h.there h.there' ?_ h.entries h.noted
  intro j covers
  by_cases same : j = i
  · subst same
    rw [Store.slots_setSlot_self, Store.slots_setSlot_self]
  · rw [st.slots_setSlot_ne same, st'.slots_setSlot_ne same, h.slot covers]

theorem putEntry (h : s.ShowsSame own l l' st st') (c : RequestContext) (key : String)
    (v : Json.Value) : s.ShowsSame own l l' (st.putEntry c key v) (st'.putEntry c key v) := by
  refine showsSame_of h.current h.current' h.there h.there' (fun _ => h.slot) ?_ h.noted
  simp only [Store.putEntry, Pool.cell_set]
  by_cases same : own.bag = c.bag
  · rw [if_pos same, if_pos same, ← same, h.entries]
  · rw [if_neg same, if_neg same, h.entries]

end Snapshot.ShowsSame

def Action.operand? : Action → Option Expr
  | note e | setSlot _ e | setRequest _ e | setCurrent _ e | send _ e => some e
  | _ => none

theorem Store.cancelNamed_frame (name : String) (st : Store) :
    (st.cancelNamed name).slots = st.slots ∧ (st.cancelNamed name).current = st.current ∧
      (st.cancelNamed name).bags = st.bags ∧ (st.cancelNamed name).log = st.log := by
  unfold cancelNamed
  cases st.names.context name with
  | some c => exact ⟨rfl, rfl, rfl, rfl⟩
  | none => cases st.names.signal name <;> exact ⟨rfl, rfl, rfl, rfl⟩

theorem Store.send_frame (channel : String) (o : Outcome) (st : Store) :
    (st.send channel o).2.slots = st.slots ∧ (st.send channel o).2.current = st.current ∧
      (st.send channel o).2.bags = st.bags ∧ (st.send channel o).2.log = st.log := by
  unfold send
  cases st.names.channel channel <;> exact ⟨rfl, rfl, rfl, rfl⟩

theorem Action.keeps_showsSame {act : Action}
    (operand : ∀ e ∈ act.operand?, e.Keeps (s.ShowsSame own l l') call) :
    act.Keeps (s.ShowsSame own l l') call := by
  intro st st' shown
  cases act with
  | note e =>
    simp only [Action.perform, operand e rfl _ _ shown]
    exact shown.note _
  | setSlot i e =>
    simp only [Action.perform, operand e rfl _ _ shown]
    exact shown.setSlot i _
  | resetSlot i => exact shown.setSlot i none
  | setRequest key e =>
    cases call with
    | none => exact shown
    | some c =>
      simp only [Action.perform, operand e rfl _ _ shown]
      exact shown.putEntry c.context key _
  | setCurrent key e =>
    simp only [Action.perform, operand e rfl _ _ shown, shown.current, shown.current']
    exact shown.putEntry own key _
  | cancelRequest =>
    cases call with
    | none => exact shown
    | some c =>
      exact shown.change (·.cancel c.context) (·.cancel c.context)
        (fun _ => ⟨rfl, rfl, rfl, rfl⟩) fun _ => ⟨rfl, rfl, rfl, rfl⟩
  | cancelNamed name =>
    exact shown.change _ _ (Store.cancelNamed_frame name) (Store.cancelNamed_frame name)
  | cancelCurrent =>
    simp only [Action.perform, shown.current, shown.current']
    exact shown.change (·.cancel own) (·.cancel own)
      (fun _ => ⟨rfl, rfl, rfl, rfl⟩) fun _ => ⟨rfl, rfl, rfl, rfl⟩
  | send channel e =>
    exact shown.change _ _ (Store.send_frame channel _) (Store.send_frame channel _)

namespace Expr

theorem keeps_slot {i : Nat} (covers : s.Covers i) :
    (slot i).Keeps (s.ShowsSame own l l') call := by
  intro st st' shown
  simp only [eval, shown.slot covers]

theorem keeps_current (key : String) : (current key).Keeps (s.ShowsSame own l l') call := by
  intro st st' shown
  simp only [eval, shown.current, shown.current', Store.entry?, shown.entries, Option.map_some]

theorem keeps_array {R : StoreRelation} {items : List Expr} (h : ∀ e ∈ items, e.Keeps R call) :
    (array items).Keeps R call := by
  intro st st' related
  have same : evalItems call st' items = evalItems call st items := by
    induction items with
    | nil => simp only [evalItems]
    | cons e rest ih =>
      have first := h e List.mem_cons_self st st' related
      simp only [evalItems, first, ih fun e mem => h e (List.mem_cons_of_mem _ mem)]
  simp only [eval, same]

end Expr

namespace Work

theorem spares_stream {t : Stream} (h : ∀ x st, Store.Sparing a st (t.poll x st).2.2) :
    (stream t).Spares a := by
  refine always_of_invariant (I := fun w => ∃ x, w = stream { t with state := x }) ⟨_, rfl⟩ ?_ ?_
  · rintro _ ⟨x, rfl⟩ st
    exact h x st
  · rintro _ st ⟨x, rfl⟩
    exact ⟨_, rfl⟩

theorem confined_ofScript {script : Script}
    (h : ∀ m ∈ script, ∀ l l', m.Keeps (s.ShowsSame own l l') call) :
    (future (.ofScript call script)).Confined s own := by
  refine always_of_invariant (I := fun w => ∃ rest : Script,
    w = future { Future.ofScript call script with state := rest } ∧
      ∀ m ∈ rest, ∀ l l', m.Keeps (s.ShowsSame own l l') call) ⟨script, rfl, h⟩ ?_ ?_
  · rintro _ ⟨rest, rfl, keeps⟩ l l' st st' shown _ _
    obtain ⟨p, rest', after, after', one, other, left⟩ :=
      Script.Keeps.poll_future (fun m mem => keeps m mem l l') script shown
    simp only [Work.next, Source.next, one, other]
    exact ⟨trivial, trivial, left⟩
  · rintro _ st ⟨rest, rfl, keeps⟩
    refine ⟨_, rfl, ?_⟩
    have left := Script.advance_all call (P := fun m => ∀ l l', m.Keeps (s.ShowsSame own l l') call)
      (fun _ _ _ => trivial) keeps st
    rw [← Future.ofScript_rest script rest st] at left
    exact left

theorem Confined.bind {f : Future} (h : (future f).Confined s own)
    (dropped : ∀ l l' x st st', s.ShowsSame own l l' st st' →
      s.ShowsSame own l l' (f.release x st) (f.release x st')) (k : Nat) :
    (future (f.bind k)).Confined s own := by
  refine always_of_invariant (I := fun w => ∃ y : Option f.State,
    w = future { f.bind k with state := y } ∧
      ∀ x ∈ y, (future { f with state := x }).Confined s own) ⟨some f.state, rfl, ?_⟩ ?_ ?_
  · rintro x ⟨⟩
    exact h
  · rintro _ ⟨y, rfl, each⟩ l l' st st' shown calm calm'
    cases y with
    | none => exact ⟨rfl, rfl, shown⟩
    | some x =>
      obtain ⟨answer, rest, left⟩ := (each x rfl).now l l' st st' shown calm calm'
      rcases one : f.poll x st with ⟨p, x', after⟩
      rcases other : f.poll x st' with ⟨p', x'', after'⟩
      simp only [Work.next, Source.next, one, other, Answer.outcome.injEq] at answer rest left
      have state : x'' = x' := eq_of_heq (Source.mk.inj (Work.future.inj rest)).2.1
      subst answer state
      simp only [Work.next, Source.next, f.bind_poll_unset x (calm k), f.bind_poll_unset x (calm' k),
        one, other]
      cases p' with
      | pending => exact ⟨rfl, rfl, left⟩
      | ready o => exact ⟨rfl, rfl, dropped _ _ _ _ _ left⟩
      | broken => exact ⟨rfl, rfl, left⟩
  · rintro _ st ⟨y, rfl, each⟩
    refine ⟨_, rfl, ?_⟩
    cases y with
    | none => exact each
    | some x =>
      intro x' left
      rw [f.bind_goes_on x left]
      exact (each x rfl).next st

end Work
end Fieldwork
