import Fieldwork.Proofs.Async.Confined
import Fieldwork.Proofs.Request.Lineage

/-!
Values that are polled with contexts of their own. Polls of several values can be under way on
several threads, one inside of the other, and the threads take turns at any moment. Code can do
anything to the slots, tasks and channels, but it comes to the entries of a context only through
that context: it names one that it keeps or the current one.

A value's own context is never one that others have made, so what is written through it stays with
the value, and a poll that ends leaves the thread with the current context that it has found.
-/
namespace Fieldwork

/-- A context that code keeps, and the number of the value whose own context it is, if it is one. -/
structure Kept where
  context : RequestContext
  owner : Option Nat := none

structure Instrumented where
  snapshot : Snapshot
  own : RequestContext

structure UnderWay where
  value : Nat
  polled : Instrumented
  before : Store

/-- The polls under way on a thread, the innermost first, and what was current before all of them.
-/
structure Track where
  polls : List UnderWay := []
  outer : Option RequestContext := none

def Track.current : Track → Option RequestContext
  | ⟨[], outer⟩ => outer
  | ⟨p :: _, _⟩ => some p.polled.own

structure Parked where
  track : Track
  slots : Nat → Option Json.Value
  current : Option RequestContext

structure Beside where
  change : Store → Store
  bags : ∀ st, (change st).bags = st.bags
  current : ∀ st, (change st).current = st.current

structure Stage where
  store : Store
  kept : List Kept
  values : List Instrumented
  track : Track
  parked : List Parked := []

namespace Stage

inductive Named
  | current
  | kept (n : Nat)

inductive Event
  | create (plan : Option CapturePlan)
  | keep (h : Named)
  | overlay (h : Named) (s : Snapshot)
  | insert {α : Type} (h : Named) (t : EntryType α) (key : String) (x : α)
  | cancel (h : Named)
  | instrument (h : Named) (s : Snapshot)
  | enter (i : Nat)
  | leave
  | thread (slots : Nat → Option Json.Value)
  | switch (n : Nat)
  | work (w : Beside)

def find (w : Stage) : Named → Option Kept
  | .current => w.store.current.map fun c => ⟨c, w.track.polls.head?.map (·.value)⟩
  | .kept n => w.kept[n]?

def through (w : Stage) (h : Named) (use : Kept → Stage) : Stage :=
  match w.find h with
  | some g => use g
  | none => w

def step (w : Stage) : Event → Stage
  | .create plan =>
    { w with
      store := (w.store.newContext plan).2
      kept := w.kept ++ [⟨(w.store.newContext plan).1, none⟩] }
  | .keep h => w.through h fun g => { w with kept := w.kept ++ [g] }
  | .overlay h s => w.through h fun g =>
    { w with
      store := (s.overlay w.store g.context).2
      kept := w.kept ++ [⟨(s.overlay w.store g.context).1, none⟩] }
  | .insert h t key x => w.through h fun g =>
    { w with store := (w.store.insertAs t g.context key x).2 }
  | .cancel h => w.through h fun g => { w with store := w.store.cancel g.context }
  | .instrument h s => w.through h fun g =>
    { w with
      store := (s.overlay w.store g.context).2
      values := w.values ++ [⟨s, (s.overlay w.store g.context).1⟩] }
  | .enter i =>
    match w.values[i]? with
    | some v =>
      { w with
        store := v.snapshot.enter v.own w.store
        track := ⟨⟨i, v, w.store⟩ :: w.track.polls, w.track.outer⟩ }
    | none => w
  | .leave =>
    match w.track.polls with
    | p :: rest =>
      { w with
        store := p.polled.snapshot.leave p.polled.own p.before w.store
        track := ⟨rest, w.track.outer⟩ }
    | [] => w
  | .thread slots => { w with parked := w.parked ++ [⟨{}, slots, none⟩] }
  | .switch n =>
    match w.parked[n]? with
    | some p =>
      { w with
        store := { w.store with slots := p.slots, current := p.current }
        track := p.track
        parked := w.parked.set n ⟨w.track, w.store.slots, w.store.current⟩ }
    | none => w
  | .work b => { w with store := b.change w.store }

def run (w : Stage) (events : List Event) : Stage := events.foldl step w

def entered (w : Stage) (i : Nat) (key : String) : Event → Option Json.Value
  | .insert h t k x =>
    match w.find h, t.encode x with
    | some g, .ok v => if g.owner = some i ∧ k = key then some v else none
    | _, _ => none
  | _ => none

def lastEntered (i : Nat) (key : String) : Stage → List Event → Option Json.Value
  | _, [] => none
  | w, e :: rest => ((w.step e).lastEntered i key rest).or (w.entered i key e)

inductive Places (w : Stage) : Kept → Prop
  | own (found : w.values[i]? = some v) : Places w ⟨v.own, some i⟩
  | other (made : c.bag < w.store.bags.size) (apart : ∀ v ∈ w.values, v.own.bag ≠ c.bag) :
      Places w ⟨c, none⟩

/-- Each poll under way is one of a value, and began where those around it had left the current
context. -/
inductive Nested (w : Stage) (outer : Option RequestContext) : List UnderWay → Prop
  | nil : Nested w outer []
  | cons (found : w.values[p.value]? = some p.polled)
      (began : p.before.current = Track.current ⟨rest, outer⟩) (around : Nested w outer rest) :
      Nested w outer (p :: rest)

structure SoundTrack (w : Stage) (t : Track) : Prop where
  nested : w.Nested t.outer t.polls
  outer : ∀ c, t.outer = some c → w.Places ⟨c, none⟩

structure Sound (w : Stage) : Prop where
  made : ∀ v ∈ w.values, v.own.bag < w.store.bags.size
  apart : (w.values.map (·.own.bag)).Nodup
  kept : ∀ g ∈ w.kept, w.Places g
  track : w.SoundTrack w.track
  current : w.store.current = w.track.current
  parked : ∀ p ∈ w.parked, w.SoundTrack p.track ∧ p.current = p.track.current

structure Extends (w w' : Stage) : Prop where
  size : w.store.bags.size ≤ w'.store.bags.size
  values : ∃ more, w'.values = w.values ++ more ∧ (more.map (·.own.bag)).Nodup ∧
    ∀ v ∈ more, w.store.bags.size ≤ v.own.bag ∧ v.own.bag < w'.store.bags.size

/-- How a poll of `v` goes that starts in `before`. The source is polled in `inside`, where `own` is
current, and on every stage this is entering `v`, and `leave` is leaving it when its code is done. -/
structure Polls (v : Instrumented) (before inside : Store) (leave : Store → Store) : Prop where
  current : inside.current = some v.own
  back : ∀ st, (leave st).current = before.current
  staged : ∀ (w : Stage) (i : Nat), w.store = before → w.values[i]? = some v →
    let begun := w.step (.enter i)
    begun.store = inside ∧ ∀ code : List Event, (begun.run code).track = begun.track →
      let after := (begun.run code).step .leave
      after.store = leave (begun.run code).store ∧ after.track = w.track

variable {w w' : Stage} {g g' : Kept} {t : Track} {h : Named}

theorem through_cases {P : Stage → Prop} {use : Kept → Stage} (none : P w)
    (some : ∀ g, w.find h = some g → P (use g)) : P (w.through h use) := by
  unfold through
  cases found : w.find h with
  | none => exact none
  | some g => exact some g found

theorem values_step (w : Stage) (e : Event) : w.values <+: (w.step e).values := by
  let longer : Stage → Prop := fun w' => w.values <+: w'.values
  cases e with
  | create plan => exact List.prefix_rfl
  | keep h => exact through_cases (P := longer) List.prefix_rfl fun _ _ => List.prefix_rfl
  | overlay h s => exact through_cases (P := longer) List.prefix_rfl fun _ _ => List.prefix_rfl
  | insert h t key x => exact through_cases (P := longer) List.prefix_rfl fun _ _ => List.prefix_rfl
  | cancel h => exact through_cases (P := longer) List.prefix_rfl fun _ _ => List.prefix_rfl
  | instrument h s =>
    exact through_cases (P := longer) List.prefix_rfl fun _ _ => List.prefix_append _ _
  | enter i =>
    simp only [step]
    cases w.values[i]? <;> exact List.prefix_rfl
  | leave =>
    simp only [step]
    cases w.track.polls <;> exact List.prefix_rfl
  | thread slots => exact List.prefix_rfl
  | switch n =>
    simp only [step]
    cases w.parked[n]? <;> exact List.prefix_rfl
  | work b => exact List.prefix_rfl

theorem value_of_prefix {i : Nat} {v : Instrumented} (longer : w.values <+: w'.values)
    (value : w.values[i]? = some v) : w'.values[i]? = some v := by
  obtain ⟨more, same⟩ := longer
  rw [← same, List.getElem?_append_left (List.getElem?_eq_some_iff.mp value).1]
  exact value

theorem value_step {i : Nat} {v : Instrumented} (value : w.values[i]? = some v) (e : Event) :
    (w.step e).values[i]? = some v := value_of_prefix (w.values_step e) value

theorem value_run {i : Nat} {v : Instrumented} (value : w.values[i]? = some v)
    (events : List Event) : (w.run events).values[i]? = some v := by
  induction events generalizing w with
  | nil => exact value
  | cons e events ih => exact ih (value_step value e)

namespace Extends

theorem of_same (values : w'.values = w.values)
    (size : w.store.bags.size ≤ w'.store.bags.size) : w.Extends w' where
  size := size
  values := ⟨[], by rw [values, List.append_nil], List.nodup_nil, by simp⟩

theorem found (ext : w.Extends w') {i : Nat} {v : Instrumented} (found : w.values[i]? = some v) :
    w'.values[i]? = some v := by
  obtain ⟨more, same, _⟩ := ext.values
  exact value_of_prefix ⟨more, same.symm⟩ found

theorem places (ext : w.Extends w') (places : w.Places g) : w'.Places g := by
  cases places with
  | own found => exact .own (ext.found found)
  | other made apart =>
    refine .other (Nat.lt_of_lt_of_le made ext.size) ?_
    obtain ⟨more, same, _, fresh⟩ := ext.values
    rw [same]
    intro v mem
    rcases List.mem_append.mp mem with old | new
    · exact apart v old
    · exact Nat.ne_of_gt (Nat.lt_of_lt_of_le made (fresh v new).1)

theorem nested (ext : w.Extends w') {outer : Option RequestContext} {polls : List UnderWay}
    (nested : w.Nested outer polls) : w'.Nested outer polls := by
  induction nested with
  | nil => exact .nil
  | cons found began around ih => exact .cons (ext.found found) began ih

theorem soundTrack (ext : w.Extends w') (sound : w.SoundTrack t) : w'.SoundTrack t where
  nested := ext.nested sound.nested
  outer c same := ext.places (sound.outer c same)

end Extends

namespace Sound

theorem extend (sound : w.Sound) (ext : w.Extends w')
    (kept : ∀ g ∈ w'.kept, g ∈ w.kept ∨ w'.Places g) (track : w.SoundTrack w'.track)
    (current : w'.store.current = w'.track.current)
    (parked : ∀ p ∈ w'.parked, w.SoundTrack p.track ∧ p.current = p.track.current) :
    w'.Sound := by
  obtain ⟨more, same, nodup, fresh⟩ := ext.values
  refine ⟨?_, ?_, ?_, ext.soundTrack track, current, ?_⟩
  · rw [same]
    intro v mem
    rcases List.mem_append.mp mem with old | new
    · exact Nat.lt_of_lt_of_le (sound.made v old) ext.size
    · exact (fresh v new).2
  · rw [same, List.map_append, List.nodup_append]
    refine ⟨sound.apart, nodup, ?_⟩
    intro b old b' new
    obtain ⟨v, mem, rfl⟩ := List.mem_map.mp old
    obtain ⟨v', mem', rfl⟩ := List.mem_map.mp new
    exact Nat.ne_of_lt (Nat.lt_of_lt_of_le (sound.made v mem) (fresh v' mem').1)
  · intro g mem
    exact (kept g mem).elim (fun old => ext.places (sound.kept g old)) id
  · intro p mem
    exact (parked p mem).imp_left ext.soundTrack

theorem onward (sound : w.Sound) (ext : w.Extends w')
    (kept : ∀ g ∈ w'.kept, g ∈ w.kept ∨ w'.Places g) (track : w'.track = w.track)
    (parked : w'.parked = w.parked) (current : w'.store.current = w.store.current) : w'.Sound := by
  refine sound.extend ext kept ?_ ?_ ?_
  · rw [track]
    exact sound.track
  · rw [track, current]
    exact sound.current
  · rw [parked]
    exact sound.parked

theorem find (sound : w.Sound) (found : w.find h = some g) : w.Places g := by
  cases h with
  | kept n => exact sound.kept g (List.mem_of_getElem? found)
  | current =>
    obtain ⟨c, current, rfl⟩ := Option.map_eq_some_iff.mp found
    rw [sound.current] at current
    obtain ⟨nested, outer⟩ := sound.track
    rcases track : w.track with ⟨polls, before⟩
    rw [track] at current nested outer
    cases nested with
    | nil => exact outer c current
    | cons value began around =>
      cases current
      exact .own value

theorem number (sound : w.Sound) {i j : Nat} {v v' : Instrumented} (found : w.values[i]? = some v)
    (found' : w.values[j]? = some v') (same : v.own.bag = v'.own.bag) : i = j := by
  have bags : (w.values.map (·.own.bag))[i]? = (w.values.map (·.own.bag))[j]? := by
    rw [List.getElem?_map, List.getElem?_map, found, found', Option.map_some, Option.map_some, same]
  have inside : i < (w.values.map (·.own.bag)).length := by
    rw [List.length_map]
    exact (List.getElem?_eq_some_iff.mp found).1
  exact (List.getElem?_inj inside sound.apart).mp bags

theorem bag_ne (sound : w.Sound) (places : w.Places g) (places' : w.Places g') {i : Nat}
    (owner : g.owner = some i) (other : g'.owner ≠ some i) : g'.context.bag ≠ g.context.bag := by
  cases places with
  | other made apart => cases owner
  | own found =>
    cases owner
    cases places' with
    | other made apart => exact (apart _ (List.mem_of_getElem? found)).symm
    | own found' => exact fun same => other (congrArg some (sound.number found' found same))

theorem places_fresh (sound : w.Sound) {c : RequestContext} (values : w'.values = w.values)
    (size : w'.store.bags.size = w.store.bags.size + 1) (fresh : c.bag = w.store.bags.size) :
    w'.Places ⟨c, none⟩ := by
  refine .other (by omega) ?_
  rw [values, fresh]
  exact fun v mem => Nat.ne_of_lt (sound.made v mem)

theorem mem_keep (new : w'.Places g) : ∀ x ∈ w.kept ++ [g], x ∈ w.kept ∨ w'.Places x := by
  intro x mem
  rcases List.mem_append.mp mem with old | last
  · exact .inl old
  · cases List.mem_singleton.mp last
    exact .inr new

theorem step (sound : w.Sound) (e : Event) : (w.step e).Sound := by
  cases e with
  | create plan =>
    exact sound.onward (.of_same rfl (Nat.le_succ _)) (mem_keep (sound.places_fresh rfl rfl rfl))
      rfl rfl rfl
  | keep h =>
    refine through_cases sound ?_
    intro g found
    have ext : w.Extends { w with kept := w.kept ++ [g] } := .of_same rfl (Nat.le_refl _)
    exact sound.onward ext (mem_keep (ext.places (sound.find found))) rfl rfl rfl
  | overlay h s =>
    refine through_cases sound ?_
    intro g found
    exact sound.onward (.of_same rfl (Nat.le_succ _)) (mem_keep (sound.places_fresh rfl rfl rfl))
      rfl rfl rfl
  | insert h t key x =>
    refine through_cases sound ?_
    intro g found
    unfold Store.insertAs
    cases t.encode x with
    | error e => exact sound
    | ok v => exact sound.onward (.of_same rfl (Nat.le_refl _)) (fun _ => .inl) rfl rfl rfl
  | cancel h =>
    refine through_cases sound ?_
    intro g found
    exact sound.onward (.of_same rfl (Nat.le_refl _)) (fun _ => .inl) rfl rfl rfl
  | instrument h s =>
    refine through_cases sound ?_
    intro g found
    refine sound.onward ⟨Nat.le_succ _, _, rfl, by simp, ?_⟩ (fun _ => .inl) rfl rfl rfl
    exact List.forall_mem_singleton.mpr ⟨Nat.le_refl _, Nat.lt_succ_self _⟩
  | enter i =>
    simp only [Stage.step]
    cases found : w.values[i]? with
    | none => exact sound
    | some v =>
      obtain ⟨nested, outer⟩ := sound.track
      exact sound.extend (.of_same rfl (by simp)) (fun _ => .inl)
        ⟨.cons found sound.current nested, outer⟩ (v.snapshot.current_enter v.own w.store)
        sound.parked
  | leave =>
    simp only [Stage.step]
    rcases track : w.track with ⟨polls, outer⟩
    obtain ⟨nested, outside⟩ := track ▸ sound.track
    cases nested with
    | nil => exact sound
    | cons found began around =>
      exact sound.extend (.of_same rfl (by simp)) (fun _ => .inl) ⟨around, outside⟩ began
        sound.parked
  | thread slots =>
    refine sound.extend (.of_same rfl (Nat.le_refl _)) (fun _ => .inl) sound.track sound.current ?_
    refine List.forall_mem_append.mpr ⟨sound.parked, ?_⟩
    exact List.forall_mem_singleton.mpr ⟨⟨.nil, nofun⟩, rfl⟩
  | switch n =>
    simp only [Stage.step]
    cases found : w.parked[n]? with
    | none => exact sound
    | some p =>
      obtain ⟨next, current⟩ := sound.parked p (List.mem_of_getElem? found)
      refine sound.extend (.of_same rfl (Nat.le_refl _)) (fun _ => .inl) next current ?_
      intro q mem
      rcases List.mem_or_eq_of_mem_set mem with old | rfl
      · exact sound.parked q old
      · exact ⟨sound.track, sound.current⟩
  | work b =>
    have size : w.store.bags.size ≤ (b.change w.store).bags.size :=
      Nat.le_of_eq (congrArg Pool.size (b.bags w.store).symm)
    exact sound.onward (.of_same rfl size) (fun _ => .inl) rfl rfl (b.current w.store)

theorem run (sound : w.Sound) (events : List Event) : (w.run events).Sound := by
  induction events generalizing w with
  | nil => exact sound
  | cons e events ih => exact ih (sound.step e)

/-- An insert is seen through the own context of the value `i` if that is what it is made through.
-/
theorem entry_putEntry (sound : w.Sound) (places : w.Places g) {i : Nat} {v : Instrumented}
    (found : w.values[i]? = some v) (k key : String) (x : Json.Value) :
    Store.entry? (w.store.putEntry g.context k x) v.own key =
      if g.owner = some i ∧ k = key then some x else w.store.entry? v.own key := by
  by_cases owner : g.owner = some i
  · cases places with
    | other made apart => cases owner
    | own found' =>
      cases owner
      cases found.symm.trans found'
      by_cases same : k = key
      · simp [Store.putEntry, Store.entry?, same]
      · simp [Store.putEntry, Store.entry?, same, Bag.insert_ne _ (Ne.symm same)]
  · have apart := (sound.bag_ne (.own found) places rfl owner).symm
    simp [Store.putEntry, Store.entry?, owner, Pool.cell_set_ne _ apart]

theorem entry_step (sound : w.Sound) {i : Nat} {v : Instrumented} (value : w.values[i]? = some v)
    (key : String) (e : Event) :
    Store.entry? (w.step e).store v.own key =
      (w.entered i key e).or (w.store.entry? v.own key) := by
  have there := sound.made v (List.mem_of_getElem? value)
  let unchanged : Stage → Prop := fun w' => w'.store.entry? v.own key = w.store.entry? v.own key
  have copied : ∀ b : Bag, (w.store.bags.alloc b).2.cell v.own.bag key = w.store.entry? v.own key :=
    fun b => congrArg (fun b : Bag => b key) (w.store.bags.cell_alloc_of_lt there b)
  have same : ∀ st : Store, st.bags = w.store.bags →
      st.entry? v.own key = w.store.entry? v.own key :=
    fun st bags => congrArg (fun p : Pool Bag => p.cell v.own.bag key) bags
  cases e with
  | create plan => exact copied .empty
  | keep h => exact through_cases (P := unchanged) rfl fun _ _ => rfl
  | overlay h s => exact through_cases (P := unchanged) rfl fun _ _ => copied _
  | insert h t k x =>
    simp only [Stage.step, through, entered]
    cases found : w.find h with
    | none => rfl
    | some g =>
      simp only [Store.insertAs]
      cases t.encode x with
      | error e => rfl
      | ok y =>
        simp only [sound.entry_putEntry (sound.find found) value]
        split <;> rfl
  | cancel h => exact through_cases (P := unchanged) rfl fun _ _ => rfl
  | instrument h s => exact through_cases (P := unchanged) rfl fun _ _ => copied _
  | enter n =>
    simp only [Stage.step]
    cases w.values[n]? with
    | none => rfl
    | some v' => exact same _ (v'.snapshot.bags_enter v'.own w.store)
  | leave =>
    simp only [Stage.step]
    cases w.track.polls with
    | nil => rfl
    | cons p rest => exact same _ (p.polled.snapshot.bags_leave p.polled.own p.before w.store)
  | thread slots => rfl
  | switch n =>
    simp only [Stage.step]
    cases w.parked[n]? with
    | none => rfl
    | some p => rfl
  | work b => exact same _ (b.bags w.store)

/-- Through a run: what has been entered last through the own context of a value, and else what has
been there at the start. -/
theorem entry_run (sound : w.Sound) {i : Nat} {v : Instrumented} (value : w.values[i]? = some v)
    (key : String) (events : List Event) :
    Store.entry? (w.run events).store v.own key =
      (w.lastEntered i key events).or (w.store.entry? v.own key) := by
  induction events generalizing w with
  | nil => rfl
  | cons e events ih =>
    rw [lastEntered, Option.or_assoc, ← sound.entry_step value key e]
    exact ih (sound.step e) (value_step value e)

theorem entry_apart (sound : w.Sound) (places : w.Places g) (places' : w.Places g') {i : Nat}
    (owner : g.owner = some i) (other : g'.owner ≠ some i) {α : Type} (t : EntryType α)
    (k key : String) (x : α) :
    Store.entry? (w.store.insertAs t g.context k x).2 g'.context key =
      w.store.entry? g'.context key := by
  unfold Store.insertAs
  cases t.encode x with
  | error e => rfl
  | ok v =>
    have apart := sound.bag_ne places places' owner other
    simp [Store.putEntry, Store.entry?, Pool.cell_set_ne _ apart]

end Sound

/-- A context that is not the own one of the value `i`: it is kept and no copy of that, or it is the
own one of another value. -/
def Apart (w : Stage) (i : Nat) (c : RequestContext) : Prop :=
  (∃ g ∈ w.kept, g.owner ≠ some i ∧ g.context = c) ∨
    ∃ j v, j ≠ i ∧ w.values[j]? = some v ∧ v.own = c

/-- What can be told of the value `i`, whose own context is `own`, at a moment of a run: `entered`
is what has been entered last through `own` under a key, `initial` what there was at first, and
`request` the context of the request. -/
structure Shows (w : Stage) (i : Nat) (own request : RequestContext)
    (entered initial : String → Option Json.Value) : Prop where
  inside : ∀ p rest, w.track.polls = p :: rest → p.value = i → w.store.current = some own
  reads : ∀ key, w.store.entry? own key = (entered key).or (initial key)
  writes : ∀ h g, w.find h = some g → g.owner = some i → ∀ c, w.Apart i c →
    ∀ {α : Type} (t : EntryType α) (k : String) (x : α) (key : String),
      (w.step (.insert h t k x)).store.entry? c key = w.store.entry? c key
  cancels : ∀ h g, w.find h = some g → g.owner = some i →
    (w.step (.cancel h)).store.isCancelled request = true
  back : ∀ p rest, w.track.polls = p :: rest →
    (w.step .leave).store.current = p.before.current ∧
      p.before.current = Track.current ⟨rest, w.track.outer⟩

theorem Apart.places (sound : w.Sound) {i : Nat} {c : RequestContext} (apart : w.Apart i c) :
    ∃ g, w.Places g ∧ g.owner ≠ some i ∧ g.context = c := by
  rcases apart with ⟨g, mem, other, same⟩ | ⟨j, v, other, value, same⟩
  · exact ⟨g, sound.kept g mem, other, same⟩
  · exact ⟨_, .own value, fun owner => other (Option.some.inj owner), same⟩

theorem Sound.nested (sound : w.Sound) {p : UnderWay} {rest : List UnderWay}
    (polls : w.track.polls = p :: rest) :
    w.values[p.value]? = some p.polled ∧ w.store.current = some p.polled.own ∧
      p.before.current = Track.current ⟨rest, w.track.outer⟩ := by
  have current := sound.current
  have nested := sound.track.nested
  rcases track : w.track with ⟨all, outer⟩
  rw [track] at polls current nested
  subst polls
  cases nested with
  | cons found began around => exact ⟨found, current, began⟩

theorem Sound.owned (sound : w.Sound) (found : w.find h = some g) {i : Nat} {v : Instrumented}
    (value : w.values[i]? = some v) (owner : g.owner = some i) : g.context = v.own := by
  cases sound.find found with
  | other made apart => cases owner
  | own value' =>
    cases owner
    cases value.symm.trans value'
    rfl

/-- Every run shows of a value what there was at its start and what has been entered since. -/
theorem Sound.shows (sound : w.Sound) {i : Nat} {v : Instrumented} (value : w.values[i]? = some v)
    {request : RequestContext} (signal : v.own.signal = request.signal)
    {initial : String → Option Json.Value} (begins : ∀ key, w.store.entry? v.own key = initial key)
    (events : List Event) :
    (w.run events).Shows i v.own request (fun key => w.lastEntered i key events) initial := by
  have later := sound.run events
  have there := value_run value events
  refine ⟨?_, ?_, ?_, ?_, ?_⟩
  · intro p rest polls numbered
    obtain ⟨found, current, _⟩ := later.nested polls
    rw [numbered, there] at found
    cases found
    exact current
  · intro key
    rw [sound.entry_run value, begins]
  · intro h g found owner c apart α t k x key
    obtain ⟨g', places, other, rfl⟩ := apart.places later
    simp only [Stage.step, through, found]
    exact later.entry_apart (later.find found) places owner other t k key x
  · intro h g found owner
    simp only [Stage.step, through, found, Store.cancel, Store.isCancelled]
    rw [later.owned found there owner, signal]
    exact Store.isSet_setSignal_self _ _
  · intro p rest polls
    refine ⟨?_, (later.nested polls).2.2⟩
    simp only [Stage.step, polls]
    rfl

theorem polls_enter (v : Instrumented) (before : Store) :
    Polls v before (v.snapshot.enter v.own before) (v.snapshot.leave v.own before) where
  current := v.snapshot.current_enter v.own before
  back _ := rfl
  staged w i started value := by
    subst started
    have entered : w.step (.enter i) = { w with
        store := v.snapshot.enter v.own w.store
        track := ⟨⟨i, v, w.store⟩ :: w.track.polls, w.track.outer⟩ } := by
      simp only [step, value]
    refine ⟨congrArg Stage.store entered, ?_⟩
    intro code closed
    rw [entered] at closed ⊢
    simp only [step, closed]
    exact ⟨trivial, trivial⟩

section Scripted

variable {call : Call} {n : Nat} {k : Kept}

theorem event_of_action (request : w.kept[n]? = some k) (same : k.context = call.context)
    (a : Action) :
    ∃ e, (w.step e).store = a.perform (some call) w.store ∧ (w.step e).track = w.track ∧
      (w.step e).kept = w.kept := by
  have onRequest : ∀ use, w.through (.kept n) use = use k := by
    intro use
    simp only [through, find, request]
  cases a with
  | note e => exact ⟨.work ⟨fun st => st.note _, fun _ => rfl, fun _ => rfl⟩, rfl, rfl, rfl⟩
  | setSlot i e =>
    exact ⟨.work ⟨fun st => st.setSlot i (some _), fun _ => rfl, fun _ => rfl⟩, rfl, rfl, rfl⟩
  | resetSlot i =>
    exact ⟨.work ⟨fun st => st.setSlot i none, fun _ => rfl, fun _ => rfl⟩, rfl, rfl, rfl⟩
  | setRequest key e =>
    refine ⟨.insert (.kept n) .json key (e.eval (some call) w.store), ?_⟩
    rw [step, onRequest, same]
    exact ⟨rfl, rfl, rfl⟩
  | setCurrent key e =>
    refine ⟨.insert .current .json key (e.eval (some call) w.store), ?_⟩
    simp only [step, through, find, Action.perform]
    cases w.store.current <;> exact ⟨rfl, rfl, rfl⟩
  | cancelRequest =>
    refine ⟨.cancel (.kept n), ?_⟩
    rw [step, onRequest, same]
    exact ⟨rfl, rfl, rfl⟩
  | cancelNamed name =>
    have frame := Store.cancelNamed_frame name
    exact ⟨.work ⟨fun st => st.cancelNamed name, fun st => (frame st).2.2.1,
      fun st => (frame st).2.1⟩, rfl, rfl, rfl⟩
  | cancelCurrent =>
    refine ⟨.cancel .current, ?_⟩
    simp only [step, through, find, Action.perform]
    cases w.store.current <;> exact ⟨rfl, rfl, rfl⟩
  | send channel e =>
    have frame := Store.send_frame channel (.ok (e.eval (some call) w.store))
    exact ⟨.work ⟨fun st => (st.send channel _).2, fun st => (frame st).2.2.1,
      fun st => (frame st).2.1⟩, rfl, rfl, rfl⟩

/-- A script that runs to its next stop is code on a stage. -/
theorem code_of_script (request : w.kept[n]? = some k) (same : k.context = call.context)
    (s : Script) :
    ∃ code, (w.run code).store = (Script.advance (some call) s w.store).2.2 ∧
      (w.run code).track = w.track := by
  induction s generalizing w with
  | nil => exact ⟨[], rfl, rfl⟩
  | cons m rest ih =>
    match m with
    | .act a =>
      obtain ⟨e, store, track, kept⟩ := event_of_action request same a
      obtain ⟨code, ran, closed⟩ := ih (kept ▸ request)
      refine ⟨e :: code, ?_, closed.trans track⟩
      rw [Script.advance, ← store]
      exact ran
    | .wait 0 => exact ih request
    | .wait (n + 1) => exact ⟨[], rfl, rfl⟩
    | .forever => exact ⟨[], rfl, rfl⟩
    | .gate name =>
      unfold Script.advance
      split
      · exact ih request
      · exact ⟨[], rfl, rfl⟩
    | .emit e => exact ⟨[], rfl, rfl⟩
    | .fail f => exact ⟨[], rfl, rfl⟩
    | .crash => exact ⟨[], rfl, rfl⟩

theorem code_of_bound (request : w.kept[n]? = some k) (same : k.context = call.context)
    (whole : Script) (signal : Nat) (y : ((Future.ofScript (some call) whole).bind signal).State) :
    ∃ code, (w.run code).store =
        (((Future.ofScript (some call) whole).bind signal).poll y w.store).2.2 ∧
      (w.run code).track = w.track := by
  cases y with
  | none => exact ⟨[], rfl, rfl⟩
  | some x =>
    cases set : w.store.isSet signal with
    | true =>
      rw [Future.bind_poll_set _ x set]
      exact ⟨[], rfl, rfl⟩
    | false =>
      obtain ⟨code, ran, closed⟩ := code_of_script request same x
      refine ⟨code, ran.trans ?_, closed⟩
      rw [Future.bind_poll_unset _ x set]
      simp only [Future.ofScript]
      rcases Script.advance (some call) x w.store with ⟨stop, rest, left⟩
      cases stop <;> rfl

end Scripted

end Stage
end Fieldwork
