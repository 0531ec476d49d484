import Fieldwork.Proofs.Request.World

/-!
What holds in every world that a run leads to. Two handles name the same signal exactly if they
descend from the same origin, and a value in flight is bound to the signal of its origin. The
signals of the cancelled origins are set, and a signal that no code sets by itself is not set
otherwise.

`L` says which relations between signals the code of the run respects.
-/
namespace Fieldwork.World

variable {L : SignalRelation → Prop} {p : Pool Bool} {w : World} {st : Store}

def Follows (L : SignalRelation → Prop) (st st' : Store) : Prop :=
  ∀ keeps, L (.same keeps) → keeps st.signals → keeps st'.signals

/-- A value in flight that is bound to the signal `k` and made of code that respects `L`. -/
structure Tied (L : SignalRelation → Prop) (held : List Held) (k : Nat) (e : InFlight) : Prop where
  bound : e.value.Bound k fun c => ⟨.context c, e.origin⟩ ∈ held
  respects : ∀ S, L S → S.Agrees k → e.value.Respects S

structure Sound (L : SignalRelation → Prop) (p : Pool Bool) (w : World) : Prop where
  since : SignalRelation.Grown p w.store.signals
  keyed : ∀ h ∈ w.held, ∀ g ∈ w.held, g.handle.key = h.handle.key ↔ g.origin = h.origin
  below : ∀ h ∈ w.held, h.handle.key < w.store.signals.size
  old : ∀ h ∈ w.held, h.origin < w.created
  past : ∀ o ∈ w.cancelled, o < w.created
  tied : ∀ e ∈ w.flying, ∃ h ∈ w.held, h.origin = e.origin ∧ Tied L w.held h.handle.key e
  kept : ∀ h ∈ w.held, h.origin ∈ w.cancelled → w.store.isSet h.handle.key = true
  spared : ∀ h ∈ w.held, L (.sparing h.handle.key) → w.store.isSet h.handle.key = true →
    h.origin ∈ w.cancelled

theorem Tied.mono {held held' : List Held} {k : Nat} {e : InFlight} (h : Tied L held k e)
    (all : ∀ g ∈ held, g ∈ held') : Tied L held' k e where
  bound := h.bound.mono fun _ mem => all _ mem
  respects := h.respects

theorem sound_start (L : SignalRelation → Prop) (st : Store) :
    Sound L st.signals { store := st } where
  since := .refl _
  keyed := by simp
  below := by simp
  old := by simp
  past := by simp
  tied := by simp
  kept := by simp
  spared := by simp

namespace Sound

theorem hold (sound : w.Sound L p) {h : Held} (mem : h ∈ w.held) (handle : Handle)
    (same : handle.key = h.handle.key) : (w.hold handle h.origin).Sound L p := by
  -- Each handle is as good as one that was there before.
  have twin : ∀ g ∈ (w.hold handle h.origin).held,
      ∃ g' ∈ w.held, g'.handle.key = g.handle.key ∧ g'.origin = g.origin := by
    intro g mem'
    rcases List.mem_append.mp mem' with before | new
    · exact ⟨g, before, rfl, rfl⟩
    · cases List.mem_singleton.mp new
      exact ⟨h, mem, same.symm, rfl⟩
  refine ⟨sound.since, ?_, ?_, ?_, sound.past, ?_, ?_, ?_⟩
  · intro g hg g' hg'
    obtain ⟨t, ht, key, origin⟩ := twin g hg
    obtain ⟨t', ht', key', origin'⟩ := twin g' hg'
    rw [← key, ← key', ← origin, ← origin']
    exact sound.keyed t ht t' ht'
  · intro g hg
    obtain ⟨t, ht, key, _⟩ := twin g hg
    exact key ▸ sound.below t ht
  · intro g hg
    obtain ⟨t, ht, _, origin⟩ := twin g hg
    exact origin ▸ sound.old t ht
  · intro e he
    obtain ⟨g, hg, origin, tied⟩ := sound.tied e he
    exact ⟨g, List.mem_append_left _ hg, origin, tied.mono fun _ => List.mem_append_left _⟩
  · intro g hg
    obtain ⟨t, ht, key, origin⟩ := twin g hg
    rw [← key, ← origin]
    exact sound.kept t ht
  · intro g hg
    obtain ⟨t, ht, key, origin⟩ := twin g hg
    rw [← key, ← origin]
    exact sound.spared t ht

theorem create (sound : w.Sound L p) {handle : Handle}
    (grown : SignalRelation.Grown w.store.signals st.signals)
    (there : handle.key < st.signals.size) (unset : st.isSet handle.key = false)
    (fresh : ∀ g ∈ w.held, g.handle.key ≠ handle.key)
    (unchanged : ∀ g ∈ w.held, st.isSet g.handle.key = w.store.isSet g.handle.key) :
    (w.create handle st).Sound L p := by
  have split : ∀ g ∈ (w.create handle st).held, g ∈ w.held ∨ g = ⟨handle, w.created⟩ := by
    intro g mem
    exact (List.mem_append.mp mem).imp_right List.mem_singleton.mp
  refine ⟨sound.since.trans grown, ?_, ?_, ?_, ?_, ?_, ?_, ?_⟩
  · intro g hg g' hg'
    rcases split g hg with before | rfl
    · rcases split g' hg' with before' | rfl
      · exact sound.keyed g before g' before'
      · have old := sound.old g before
        constructor
        · intro same
          exact absurd same.symm (fresh g before)
        · intro same
          simp only at same
          omega
    · rcases split g' hg' with before' | rfl
      · have old := sound.old g' before'
        constructor
        · intro same
          exact absurd same (fresh g' before')
        · intro same
          simp only at same
          omega
      · exact ⟨fun _ => rfl, fun _ => rfl⟩
  · intro g hg
    rcases split g hg with before | rfl
    · exact Nat.lt_of_lt_of_le (sound.below g before) grown.1
    · exact there
  · intro g hg
    change g.origin < w.created + 1
    rcases split g hg with before | rfl
    · have old := sound.old g before
      omega
    · exact Nat.lt_succ_self _
  · intro o mem
    exact Nat.lt_succ_of_lt (sound.past o mem)
  · intro e he
    obtain ⟨g, hg, origin, tied⟩ := sound.tied e he
    exact ⟨g, List.mem_append_left _ hg, origin, tied.mono fun _ => List.mem_append_left _⟩
  · intro g hg cancelled
    rcases split g hg with before | rfl
    · exact (unchanged g before).trans (sound.kept g before cancelled)
    · exact absurd (sound.past _ cancelled) (Nat.lt_irrefl _)
  · intro g hg sparing set
    rcases split g hg with before | rfl
    · exact sound.spared g before sparing ((unchanged g before).symm.trans set)
    · exact absurd (unset.symm.trans set) (by simp)

theorem make (sound : w.Sound L p) {handle : Handle} (new : handle.key = w.store.signals.size)
    (made : st.signals = (w.store.signals.alloc false).2) : (w.create handle st).Sound L p := by
  refine sound.create ?_ ?_ ?_ ?_ ?_
  · rw [made]
    exact .alloc _
  · rw [made, new]
    exact Nat.lt_succ_self _
  · unfold Store.isSet
    rw [made, new]
    exact Pool.cell_alloc_self _ _
  · intro g mem same
    have below := sound.below g mem
    omega
  · intro g mem
    unfold Store.isSet
    rw [made, Pool.cell_alloc_of_lt _ (sound.below g mem)]

theorem cancelThrough (sound : w.Sound L p) {h : Held} (mem : h ∈ w.held) :
    (w.cancelThrough h).Sound L p := by
  have sets : ∀ g ∈ w.held, ((w.cancelThrough h).store.isSet g.handle.key = true ↔
      g.origin = h.origin ∨ w.store.isSet g.handle.key = true) := by
    intro g hg
    change (h.handle.cancel w.store).isSet g.handle.key = true ↔ _
    rw [h.handle.cancel_eq, Store.isSet_setSignal, ← sound.keyed h mem g hg]
    simp
  refine ⟨?_, sound.keyed, ?_, sound.old, ?_, sound.tied, ?_, ?_⟩
  · change SignalRelation.Grown p (h.handle.cancel w.store).signals
    rw [h.handle.cancel_eq]
    exact sound.since.trans (.set _ _)
  · intro g hg
    change _ < (h.handle.cancel w.store).signals.size
    rw [h.handle.cancel_eq]
    exact sound.below g hg
  · intro o cancelled
    rcases List.mem_cons.mp cancelled with rfl | before
    · exact sound.old h mem
    · exact sound.past o before
  · intro g hg cancelled
    refine (sets g hg).mpr ?_
    exact (List.mem_cons.mp cancelled).imp_right (sound.kept g hg)
  · intro g hg sparing set
    exact List.mem_cons.mpr (((sets g hg).mp set).imp_right (sound.spared g hg sparing))

theorem code (sound : w.Sound L p) (grows : ∀ q, L (.above q)) (follows : Follows L w.store st) :
    ({ w with store := st } : World).Sound L p := by
  have grown : SignalRelation.Grown w.store.signals st.signals :=
    follows _ (grows w.store.signals) (.refl _)
  refine ⟨sound.since.trans grown, sound.keyed, ?_, sound.old, sound.past, sound.tied, ?_, ?_⟩
  · intro g hg
    exact Nat.lt_of_lt_of_le (sound.below g hg) grown.1
  · intro g hg cancelled
    exact grown.2 _ (sound.below g hg) (sound.kept g hg cancelled)
  · intro g hg sparing set
    refine sound.spared g hg sparing ?_
    cases before : w.store.isSet g.handle.key with
    | true => rfl
    | false =>
      have spares := follows _ sparing ⟨sound.below g hg, before⟩
      exact absurd (spares.2.symm.trans set) (by simp)

theorem fly (sound : w.Sound L p) {flying : List InFlight}
    (tied : ∀ e ∈ flying, ∃ h ∈ w.held, h.origin = e.origin ∧ Tied L w.held h.handle.key e) :
    ({ w with flying } : World).Sound L p :=
  { sound with tied }

theorem give (sound : w.Sound L p) {h : Held} (mem : h ∈ w.held) {v : FieldValue}
    (tied : Tied L w.held h.handle.key ⟨v, h.origin⟩) : (w.give v h.origin).Sound L p := by
  refine sound.fly ?_
  intro e he
  rcases List.mem_append.mp he with before | new
  · exact sound.tied e before
  · cases List.mem_singleton.mp new
    exact ⟨h, mem, rfl, tied⟩

theorem through (sound : w.Sound L p) (n : Nat) {use : Held → World}
    (each : ∀ h ∈ w.held, (use h).Sound L p) : (w.through n use).Sound L p := by
  unfold World.through
  cases found : w.held[n]? with
  | none => exact sound
  | some h => exact each h (List.mem_of_getElem? found)

theorem within (sound : w.Sound L p) (n : Nat) {use : RequestContext → Nat → World}
    (each : ∀ c o, ⟨.context c, o⟩ ∈ w.held → (use c o).Sound L p) : (w.within n use).Sound L p := by
  apply sound.through
  intro h mem
  obtain ⟨handle, o⟩ := h
  cases handle with
  | context c => exact each c o mem
  | signal k => exact sound

theorem replace (sound : w.Sound L p) (grows : ∀ q, L (.above q)) (i : Nat)
    {change : Store → FieldValue → FieldValue × Store}
    (left : ∀ v, (∀ keeps, L (.same keeps) → v.Respects (.same keeps)) →
      Follows L w.store (change w.store v).2)
    (tied : ∀ k v o, Tied L w.held k ⟨v, o⟩ → Tied L w.held k ⟨(change w.store v).1, o⟩) :
    (w.replace i change).Sound L p := by
  unfold World.replace
  cases found : w.flying[i]? with
  | none => exact sound
  | some e =>
    obtain ⟨h, mem, origin, ties⟩ := sound.tied e (List.mem_of_getElem? found)
    have follows : Follows L w.store (change w.store e.value).2 :=
      left e.value fun keeps known => ties.respects _ known (SignalRelation.agrees_same keeps _)
    refine (sound.code grows follows).fly ?_
    intro e' mem'
    rcases List.mem_or_eq_of_mem_set mem' with before | new
    · exact sound.tied e' before
    · rw [new]
      exact ⟨h, mem, origin, tied _ _ _ ties⟩

theorem fetch (sound : w.Sound L p) (grows : ∀ q, L (.above q)) {d : Decorator} {call : Call}
    {o : Nat} (respects : ∀ S, L S → d.Respects S)
    (mem : ⟨.context call.context, o⟩ ∈ w.held) : (w.fetch d call o).Sound L p := by
  have follows : Follows L w.store (d.fetch call w.store).2 := by
    intro keeps known holds
    have alike := Store.Alike.of_same holds
    exact ((respects _ known).fetch (SignalRelation.agrees_same keeps _) alike).2.keeps.2
  have left := sound.code grows follows
  unfold World.fetch
  cases fetched : d.fetch call w.store with
  | mk r st =>
    rw [fetched] at left
    cases r with
    | error e => exact left
    | ok v =>
      have given : (d.fetch call w.store).1 = .ok v := congrArg Prod.fst fetched
      have copied := left.hold mem (.context (d.copy call w.store)) rfl
      have kept : ⟨.context call.context, o⟩ ∈
          (({ w with store := st } : World).hold (.context (d.copy call w.store)) o).held :=
        List.mem_append_left _ mem
      refine copied.give kept ⟨?_, ?_⟩
      · refine (Decorator.fetch_bound given).mono ?_
        intro c same
        subst same
        exact List.mem_append_right _ List.mem_cons_self
      · intro S known agrees
        have value := (respects S known).value agrees given
        cases v <;> exact value

theorem step (sound : w.Sound L p) (grows : ∀ q, L (.above q)) {e : Event}
    (respects : ∀ S, L S → e.Respects S) : (w.step e).Sound L p := by
  cases e with
  | newContext plan => exact sound.make rfl rfl
  | newSignal => exact sound.make rfl rfl
  | adopt handle =>
    by_cases fits : handle.key < w.store.signals.size ∧ w.store.isSet handle.key = false ∧
        ∀ h ∈ w.held, h.handle.key ≠ handle.key
    · rw [World.step, if_pos fits]
      exact sound.create (.refl _) fits.1 fits.2.1 fits.2.2 fun _ _ => rfl
    · rw [World.step, if_neg fits]
      exact sound
  | copy n => exact sound.through n fun h mem => sound.hold mem h.handle rfl
  | planned n plan =>
    exact sound.within n fun c o mem => sound.hold mem (.context { c with plan }) rfl
  | signal n => exact sound.within n fun c o mem => sound.hold mem (.signal c.signal) rfl
  | overlay n s =>
    refine sound.within n fun c o mem => ?_
    have left : ({ w with store := (s.overlay w.store c).2 } : World).Sound L p :=
      sound.code grows fun keeps known holds => holds
    exact left.hold mem (.context (s.overlay w.store c).1) rfl
  | cancel n => exact sound.through n fun h mem => sound.cancelThrough mem
  | bindFuture n f =>
    refine sound.through n fun h mem => sound.give mem ⟨?_, ?_⟩
    · exact ⟨f, .bare, _, f.bind_eq_standing _, trivial⟩
    · exact fun S known agrees => Source.Respects.bind (respects S known) agrees
  | bindStream n t =>
    refine sound.through n fun h mem => sound.give mem ⟨?_, ?_⟩
    · exact ⟨t, .bare, _, t.bind_eq_standing _, trivial⟩
    · exact fun S known agrees => Stream.Respects.bind (respects S known) agrees
  | fetch n d call => exact sound.within n fun c o mem => sound.fetch grows respects mem
  | poll i =>
    refine sound.replace grows i ?_ ?_
    · intro v code keeps known holds
      exact ((code keeps known).next (.of_same holds)).keeps.2
    · intro k v o ties
      exact ⟨ties.bound.next _, fun S known agrees => (ties.respects S known agrees).next_value _⟩
  | drop i =>
    change (w.replace i fun st v => (.null, v.drop st)).Sound L p
    refine sound.replace grows i ?_ ?_
    · intro v code keeps known holds
      exact ((code keeps known).drop (.of_same holds)).keeps.2
    · intro k v o ties
      exact ⟨trivial, fun _ _ _ => trivial⟩
  | work change =>
    refine sound.code grows ?_
    intro keeps known holds
    exact (respects _ known _ _ (Store.Alike.of_same holds)).keeps.2

theorem run (sound : w.Sound L p) (grows : ∀ q, L (.above q)) {events : List Event}
    (respects : ∀ e ∈ events, ∀ S, L S → e.Respects S) : (w.run events).Sound L p := by
  induction events generalizing w with
  | nil => exact sound
  | cons e rest ih =>
    have next := sound.step grows (respects e List.mem_cons_self)
    exact ih next fun e' mem => respects e' (List.mem_cons_of_mem e mem)

end Sound
end Fieldwork.World
