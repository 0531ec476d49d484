import Fieldwork.Proofs.Async.Confined

/-!
Siblings on one thread do not see each other. What a source sees is installed anew for each poll, as
far as it is made of slots, and else lies in a bag that was made for the source. So a source that
depends on no more than that goes the way that it would go on a thread of its own, as long as no
signal is set.
-/
namespace Fieldwork

def WorkerEvent.Spares (a : Nat) : WorkerEvent → Prop
  | spawn work _ _ => work.Spares a
  | poll _ => True
  | other change => ∀ st : Store, st.Sparing a (change st)

variable {st st' : Store}

namespace Sibling

variable {b : Sibling}

theorem bags_next (b : Sibling) (st : Store) :
    (b.next st).2.bags = (b.work.next (b.inside st)).2.2.bags := by
  rw [store_next, Snapshot.bags_leave]

theorem current_next (b : Sibling) (st : Store) : (b.next st).2.current = st.current := by
  rw [store_next]
  rfl

theorem next_same (confined : b.work.Confined b.snapshot b.own) (calm : st.Calm) (calm' : st'.Calm)
    (there : b.own.bag < st.bags.size) (there' : b.own.bag < st'.bags.size)
    (entries : st'.bags.cell b.own.bag = st.bags.cell b.own.bag) :
    b.sight st' = b.sight st ∧ (b.next st').1 = (b.next st).1 ∧
      b.own.bag < (b.next st).2.bags.size ∧ b.own.bag < (b.next st').2.bags.size ∧
        (b.next st').2.bags.cell b.own.bag = (b.next st).2.bags.cell b.own.bag := by
  have shown : b.snapshot.ShowsSame b.own (b.inside st).log (b.inside st').log (b.inside st)
      (b.inside st') := Snapshot.showsSame_enter there there' entries
  obtain ⟨answer, work, left⟩ :=
    confined.now _ _ _ _ shown (calm.enter b.snapshot b.own) (calm'.enter b.snapshot b.own)
  obtain ⟨es, noted, noted'⟩ := left.noted
  refine ⟨?_, ?_, ?_, ?_, ?_⟩
  · simp only [sight, instrumented, Work.next_instrumentedBy]
    have answer' : (b.work.next (b.snapshot.enter b.own st')).1 =
        (b.work.next (b.snapshot.enter b.own st)).1 := answer
    rw [answer', shown.view, left.view, noted, noted', List.drop_left, List.drop_left]
  · unfold next
    rw [work]
  · rw [bags_next]
    exact left.there
  · rw [bags_next]
    exact left.there'
  · rw [bags_next, bags_next]
    exact left.entries

theorem confined_next (confined : b.work.Confined b.snapshot b.own) (st : Store) :
    (b.next st).1.work.Confined (b.next st).1.snapshot (b.next st).1.own :=
  confined.next (b.inside st)

theorem sparing_next {a : Nat} (spares : b.work.Spares a) (apart : b.own.bag ≠ a) :
    st.Sparing a (b.next st).2 := by
  intro aside
  have within : (b.inside st).Aside a := by
    refine ⟨?_, ?_⟩
    · rw [inside, Snapshot.bags_enter]
      exact aside.1
    · rw [inside, Snapshot.current_enter]
      rintro c ⟨⟩
      exact apart
  obtain ⟨⟨there, _⟩, same⟩ := spares.now (b.inside st) within
  rw [inside, Snapshot.bags_enter] at same
  refine ⟨⟨?_, ?_⟩, ?_⟩
  · rw [bags_next]
    exact there
  · rw [current_next]
    exact aside.2
  · rw [bags_next]
    exact same

end Sibling

namespace Worker

structure Holds (w : Worker) (i : Nat) (b : Sibling) : Prop where
  found : w.siblings[i]? = some b
  aside : w.store.Aside b.own.bag
  others : ∀ j b', j ≠ i → w.siblings[j]? = some b' →
    b'.own.bag ≠ b.own.bag ∧ b'.work.Spares b.own.bag
  confined : b.work.Confined b.snapshot b.own

variable {w : Worker} {i : Nat} {b : Sibling}

theorem Holds.step (h : w.Holds i b) {e : WorkerEvent} (spares : e.Spares b.own.bag)
    (other : e.polls i = false) :
    (w.step e).Holds i b ∧
      (w.step e).store.bags.cell b.own.bag = w.store.bags.cell b.own.bag := by
  cases e with
  | spawn work s c =>
    have bound : i < w.siblings.length := (List.getElem?_eq_some_iff.mp h.found).1
    refine ⟨⟨?_, ?_, ?_, h.confined⟩, Pool.cell_alloc_of_lt _ h.aside.1 _⟩
    · exact (List.getElem?_append_left bound).trans h.found
    · exact ⟨Nat.lt_succ_of_lt h.aside.1, h.aside.2⟩
    · intro j b' ne found
      rcases Nat.lt_trichotomy j w.siblings.length with old | rfl | beyond
      · exact h.others j b' ne ((List.getElem?_append_left old).symm.trans found)
      · -- the new sibling, whose own bag is allocated by this step
        rw [Worker.step, List.getElem?_concat_length] at found
        cases found
        exact ⟨Nat.ne_of_gt h.aside.1, spares⟩
      · have length := (List.getElem?_eq_some_iff.mp found).1
        simp only [Worker.step, List.length_append, List.length_singleton] at length
        omega
  | poll j =>
    have ne : j ≠ i := by simpa [WorkerEvent.polls] using other
    cases found : w.siblings[j]? with
    | none =>
      simp only [Worker.step, found]
      exact ⟨h, trivial⟩
    | some b' =>
      obtain ⟨apart, sparing⟩ := h.others j b' ne found
      obtain ⟨aside, same⟩ := Sibling.sparing_next sparing apart h.aside
      simp only [Worker.step, found]
      refine ⟨⟨?_, aside, ?_, h.confined⟩, same⟩
      · exact (List.getElem?_set_ne ne).trans h.found
      · intro k b'' ne' found'
        by_cases polled : k = j
        · subst polled
          have bound := (List.getElem?_eq_some_iff.mp found).1
          rw [List.getElem?_set_self bound] at found'
          cases found'
          exact ⟨apart, sparing.next _⟩
        · rw [List.getElem?_set_ne (Ne.symm polled)] at found'
          exact h.others k b'' ne' found'
  | other change =>
    obtain ⟨aside, same⟩ := spares w.store h.aside
    exact ⟨⟨h.found, aside, h.others, h.confined⟩, same⟩

theorem step_poll (found : w.siblings[i]? = some b) :
    w.step (.poll i) = ⟨(b.next w.store).2, w.siblings.set i (b.next w.store).1⟩ := by
  simp only [Worker.step, found]

theorem Holds.step_self (h : w.Holds i b)
    (there : b.own.bag < (b.next w.store).2.bags.size) :
    (w.step (.poll i)).Holds i (b.next w.store).1 := by
  have bound := (List.getElem?_eq_some_iff.mp h.found).1
  rw [step_poll h.found]
  refine ⟨?_, ⟨there, ?_⟩, ?_, Sibling.confined_next h.confined w.store⟩
  · exact List.getElem?_set_self bound
  · rw [Sibling.current_next]
    exact h.aside.2
  · intro j b' ne found
    rw [List.getElem?_set_ne (Ne.symm ne)] at found
    exact h.others j b' ne found

theorem seen_poll (found : w.siblings[i]? = some b) (rest : List WorkerEvent) :
    w.seen i (.poll i :: rest) = b.sight w.store :: (w.step (.poll i)).seen i rest := by
  simp [Worker.seen, WorkerEvent.polls, found]

theorem alone_step (b : Sibling) (st : Store) :
    (alone b st).step (.poll 0) = alone (b.next st).1 (b.next st).2 := rfl

/-- The run lemma: from a store in which the context of `b` has the same entries, `b` alone sees
what it sees among its siblings. -/
theorem Holds.seen (h : w.Holds i b) {events : List WorkerEvent}
    (spares : ∀ e ∈ events, e.Spares b.own.bag) (calm : w.Throughout Store.Calm events)
    (there : b.own.bag < st'.bags.size)
    (entries : st'.bags.cell b.own.bag = w.store.bags.cell b.own.bag)
    (calm' : (alone b st').Throughout Store.Calm
      (.replicate (events.countP (·.polls i)) (.poll 0))) :
    w.seen i events =
      (alone b st').seen 0 (.replicate (events.countP (·.polls i)) (.poll 0)) := by
  -- `st'` changes with the polls of `b` only, so it is generalized together with `b`.
  induction events generalizing w b st' with
  | nil => rfl
  | cons e rest ih =>
    have later : ∀ e ∈ rest, e.Spares b.own.bag := fun e mem => spares e (List.mem_cons_of_mem _ mem)
    cases polled : e.polls i with
    | false =>
      obtain ⟨holds, same⟩ := h.step (spares e List.mem_cons_self) polled
      rw [List.countP_cons_of_neg (by simpa using polled)] at calm' ⊢
      simp only [Worker.seen, polled]
      exact ih holds later calm.2 there (entries.trans same.symm) calm'
    | true =>
      have poll : e = .poll i := by
        cases e with
        | poll j => rw [beq_iff_eq.mp polled]
        | spawn work s c => cases polled
        | other change => cases polled
      subst poll
      rw [List.countP_cons_of_pos polled, List.replicate_succ] at calm' ⊢
      have calmNow : st'.Calm := calm'.1
      obtain ⟨sight, next, left, left', same⟩ :=
        Sibling.next_same h.confined calm.1 calmNow h.aside.1 there entries
      have rest := calm'.2
      rw [alone_step, next] at rest
      have entries : (b.next st').2.bags.cell b.own.bag =
          (w.step (.poll i)).store.bags.cell b.own.bag := by
        rw [step_poll h.found]
        exact same
      have tail := ih (h.step_self left) later calm.2 left' entries rest
      rw [seen_poll h.found, seen_poll rfl, alone_step, next, tail]
      exact congrArg (· :: _) sight.symm

structure Valid (w : Worker) : Prop where
  siblings : ∀ b ∈ w.siblings, b.own.bag < w.store.bags.size
  current : ∀ c ∈ w.store.current, c.bag < w.store.bags.size

theorem Valid.holds_spawned (valid : w.Valid) {work : Work} {s : Snapshot} {c : RequestContext}
    (spares : ∀ b ∈ w.siblings, b.work.Spares (s.overlay w.store c).1.bag)
    (confined : work.Confined s (s.overlay w.store c).1) :
    (w.step (.spawn work s c)).Holds w.siblings.length ⟨work, s, (s.overlay w.store c).1⟩ where
  found := List.getElem?_concat_length
  aside := ⟨Nat.lt_succ_self _, fun c mem => Nat.ne_of_lt (valid.current c mem)⟩
  others := by
    intro j b' ne found
    have length := (List.getElem?_eq_some_iff.mp found).1
    simp only [step, List.length_append, List.length_singleton] at length
    have old : j < w.siblings.length := by omega
    have mem : b' ∈ w.siblings :=
      List.mem_of_getElem? ((List.getElem?_append_left old).symm.trans found)
    exact ⟨Nat.ne_of_lt (valid.siblings b' mem), spares b' mem⟩
  confined := confined

end Worker

/-- Work is instrumented for a thread and polled on it, while its siblings are polled and other code
runs in any order. What it gives and what it sees is the same as on a thread of its own, whatever
that thread holds, if it depends on no more than it sees and no signal is set. -/
theorem siblings_apart (w : Worker) (valid : w.Valid) (work : Work) (s : Snapshot)
    (c : RequestContext) (events : List WorkerEvent) (st' : Store) :
    let own := (s.overlay w.store c).1
    let i := w.siblings.length
    let spawned := w.step (.spawn work s c)
    let alone := Worker.alone ⟨work, s, own⟩ st'
    let polls := List.replicate (events.countP (·.polls i)) (WorkerEvent.poll 0)
    work.Confined s own →
    (∀ b ∈ w.siblings, b.work.Spares own.bag) → (∀ e ∈ events, e.Spares own.bag) →
    spawned.Throughout Store.Calm events → alone.Throughout Store.Calm polls →
    own.bag < st'.bags.size → st'.bags.cell own.bag = spawned.store.bags.cell own.bag →
    spawned.seen i events = alone.seen 0 polls := by
  intro own i spawned alone polls confined siblings others calm calm' there entries
  exact (valid.holds_spawned siblings confined).seen others calm there entries calm'

/-- Two siblings of one request with accessors over the same slot. Both write to the slot and to
their own contexts, and the second also to the request's. -/
def overwriting : List WorkerEvent :=
  let call : Call := { context := ⟨0, 0, none⟩, field := ⟨"Query", "tenant"⟩ }
  let script : Script := [.act (.setSlot 0 (.literal (.int 9))),
    .act (.setCurrent "tenant" (.literal (.int 9))), .act (.setRequest "tenant" (.literal (.int 9))),
    .wait 1]
  [.spawn (.stream (.ofScript (some call) script)) ⟨[(⟨"user", 0, false⟩, none)], true⟩ call.context,
   .poll 0, .poll 1, .other fun st => st.setSlot 0 (some (.int 9)), .poll 0]

theorem siblings_apart_overwriting :
    let st : Store := { Store.empty with bags := ⟨1, fun _ => Bag.empty⟩ }
    let s : Snapshot := ⟨[(⟨"tenant", 0, false⟩, some (.int 7))], false⟩
    let script : Script := [.act (.setCurrent "seen" (.slot 0)), .act (.setSlot 0 (.current "tenant")),
      .wait 1, .act (.note (.slot 0)), .emit (.array [.slot 0, .current "tenant", .current "seen"])]
    let work : Work := .future ((Future.ofScript none script).bind 0)
    let spawned := (Worker.mk st []).step (.spawn work s ⟨0, 0, none⟩)
    let alone := Worker.alone ⟨work, s, ⟨1, 0, none⟩⟩
      { spawned.store with slots := fun _ => some (.int 5) }
    spawned.seen 0 overwriting = alone.seen 0 [.poll 0, .poll 0] := by
  intro st s script work spawned alone
  have valid : (Worker.mk st []).Valid := ⟨by simp, by simp [st, Store.empty]⟩
  refine siblings_apart (Worker.mk st []) valid work s ⟨0, 0, none⟩ overwriting
    { spawned.store with slots := fun _ => some (.int 5) } ?_ ?_ ?_ ?_ ?_ ?_ ?_
  · refine Work.Confined.bind (Work.confined_ofScript ?_) (fun _ _ _ _ _ shown => shown) 0
    intro m mem l l'
    have slot : (Expr.slot 0).Keeps (s.ShowsSame ⟨1, 0, none⟩ l l') none :=
      Expr.keeps_slot (by decide)
    simp only [script, List.mem_cons, List.not_mem_nil, or_false] at mem
    rcases mem with rfl | rfl | rfl | rfl | rfl
    · exact Action.keeps_showsSame fun e mem => Option.some.inj mem ▸ slot
    · exact Action.keeps_showsSame fun e mem => Option.some.inj mem ▸ Expr.keeps_current "tenant"
    · exact trivial
    · exact Action.keeps_showsSame fun e mem => Option.some.inj mem ▸ slot
    · refine Expr.keeps_array ?_
      simp only [List.forall_mem_cons]
      exact ⟨slot, Expr.keeps_current "tenant", Expr.keeps_current "seen", by simp⟩
  · simp
  · intro e mem
    simp only [overwriting, List.mem_cons, List.not_mem_nil, or_false] at mem
    rcases mem with rfl | rfl | rfl | rfl | rfl
    · refine Work.spares_stream (Source.Keeps.sparing fun v => ?_)
      refine (Stream.ofScript_keeps (Script.keeps_held ?_ v) _).source
      rintro c ⟨⟩
      decide
    · exact trivial
    · exact trivial
    · exact fun st aside => ⟨aside, rfl⟩
    · exact trivial
  · exact ⟨fun _ => rfl, fun _ => rfl, fun _ => rfl, fun _ => rfl, fun _ => rfl, trivial⟩
  · exact ⟨fun _ => rfl, fun _ => rfl, trivial⟩
  · exact Nat.lt_succ_self 1
  · rfl

end Fieldwork
