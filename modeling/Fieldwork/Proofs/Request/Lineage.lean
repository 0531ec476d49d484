import Fieldwork.Proofs.Request.Propagation

/-!
Contexts that descend from each other. Clones of a context are one family: they have one bag. A copy
that a snapshot overlays begins a family of its own, with a bag that starts as that of the context
which it copies, and keeps the origin, with which the cancellation signal and the capture plan go.

What a member of a family reads is therefore told by the events since its family was begun, and of
those before by one read at that moment.
-/
namespace Fieldwork

/-- A context with the number of its family and that of its origin. -/
structure Member where
  context : RequestContext
  family : Nat
  origin : Nat

structure Lineage where
  store : Store
  held : List Member

namespace Lineage

inductive Event
  | create (plan : Option CapturePlan)
  | clone (n : Nat)
  | overlay (n : Nat) (s : Snapshot)
  | insert {α : Type} (n : Nat) (t : EntryType α) (key : String) (x : α)
  | cancel (n : Nat)

def hold (w : Lineage) (st : Store) (m : Member) : Lineage := ⟨st, w.held ++ [m]⟩

def through (w : Lineage) (n : Nat) (use : Member → Lineage) : Lineage :=
  match w.held[n]? with
  | some m => use m
  | none => w

/-- A family has the number of its first member, and so has an origin. -/
def step (w : Lineage) : Event → Lineage
  | .create plan =>
    w.hold (w.store.newContext plan).2
      ⟨(w.store.newContext plan).1, w.held.length, w.held.length⟩
  | .clone n => w.through n fun m => w.hold w.store m
  | .overlay n s => w.through n fun m =>
    w.hold (s.overlay w.store m.context).2
      ⟨(s.overlay w.store m.context).1, w.held.length, m.origin⟩
  | .insert n t key x => w.through n fun m =>
    { w with store := (w.store.insertAs t m.context key x).2 }
  | .cancel n => w.through n fun m => { w with store := w.store.cancel m.context }

def run (w : Lineage) (events : List Event) : Lineage := events.foldl step w

def Begins (w : Lineage) : Event → Prop
  | .create _ => True
  | .overlay n _ => n < w.held.length
  | _ => False

/-- What a family that the event begins is given under the key: what the last accessor that has
captured a value for it has captured, and else what the copied context holds. -/
def given (w : Lineage) (key : String) : Event → Option Json.Value
  | .overlay n s =>
    ((lastWith (·.1.key) (s.captured.filter fun e => e.2.isSome) key).bind (·.2)).or
      (w.held[n]?.bind fun m => w.store.entry? m.context key)
  | _ => none

def entered (w : Lineage) (family : Nat) (key : String) : Event → Option Json.Value
  | .insert n t k x =>
    match w.held[n]?, t.encode x with
    | some m, .ok v => if m.family = family ∧ k = key then some v else none
    | _, _ => none
  | _ => none

def enteredBy (family : Nat) (key : String) : Lineage → List Event → List Json.Value
  | _, [] => []
  | w, e :: rest => (w.entered family key e).toList ++ (w.step e).enteredBy family key rest

end Lineage

section Determines

variable {κ : Type u} {α : Type v} {β : Type w} {f : κ → α} {g : κ → β} {held : List κ} {x : κ}

def Determines (f : κ → α) (g : κ → β) (held : List κ) : Prop :=
  ∀ a ∈ held, ∀ b ∈ held, f a = f b → g a = g b

theorem Determines.twin (h : Determines f g held) {a : κ} (mem : a ∈ held) (first : f a = f x)
    (second : g a = g x) : Determines f g (held ++ [x]) := by
  have twin : ∀ b ∈ held ++ [x], ∃ b' ∈ held, f b' = f b ∧ g b' = g b := by
    intro b mem'
    rcases List.mem_append.mp mem' with before | new
    · exact ⟨b, before, rfl, rfl⟩
    · cases List.mem_singleton.mp new
      exact ⟨a, mem, first, second⟩
  intro b hb c hc same
  obtain ⟨b', hb', fb, gb⟩ := twin b hb
  obtain ⟨c', hc', fc, gc⟩ := twin c hc
  rw [← gb, ← gc]
  exact h b' hb' c' hc' (by rw [fb, fc, same])

theorem Determines.fresh (h : Determines f g held) (unlike : ∀ a ∈ held, f a ≠ f x) :
    Determines f g (held ++ [x]) := by
  intro a ha b hb same
  rcases List.mem_append.mp ha with old | new
  · rcases List.mem_append.mp hb with old' | new'
    · exact h a old b old' same
    · cases List.mem_singleton.mp new'
      exact absurd same (unlike a old)
  · cases List.mem_singleton.mp new
    rcases List.mem_append.mp hb with old' | new'
    · exact absurd same.symm (unlike b old')
    · cases List.mem_singleton.mp new'
      rfl

end Determines

namespace Lineage

/-- Bags go with families, and signals and plans with origins. -/
structure Sound (w : Lineage) : Prop where
  bag : Determines (·.family) (·.context.bag) w.held
  family : Determines (·.context.bag) (·.family) w.held
  shared : Determines (·.origin) (fun m => (m.context.signal, m.context.plan)) w.held
  origin : Determines (·.context.signal) (·.origin) w.held
  bags : ∀ m ∈ w.held, m.context.bag < w.store.bags.size
  signals : ∀ m ∈ w.held, m.context.signal < w.store.signals.size
  old : ∀ m ∈ w.held, m.family < w.held.length ∧ m.origin < w.held.length

variable {w : Lineage} {e : Event} {m : Member} {st : Store}

theorem through_cases {P : Lineage → Prop} {n : Nat} {use : Member → Lineage} (none : P w)
    (some : ∀ m, w.held[n]? = some m → P (use m)) : P (w.through n use) := by
  unfold through
  cases found : w.held[n]? with
  | none => exact none
  | some m => exact some m found

theorem forall_hold {P : Member → Prop} (before : ∀ m ∈ w.held, P m) (new : P m) :
    ∀ x ∈ (w.hold st m).held, P x :=
  List.forall_mem_append.mpr ⟨before, List.forall_mem_singleton.mpr new⟩

theorem sound_start (st : Store) : Sound ⟨st, []⟩ := by
  constructor <;> simp [Determines]

namespace Sound

theorem store (sound : w.Sound) (bags : w.store.bags.size = st.bags.size)
    (signals : w.store.signals.size = st.signals.size) : Sound { w with store := st } where
  bag := sound.bag
  family := sound.family
  shared := sound.shared
  origin := sound.origin
  bags m mem := bags ▸ sound.bags m mem
  signals m mem := signals ▸ sound.signals m mem
  old := sound.old

theorem old_hold (sound : w.Sound) (new : m.family ≤ w.held.length ∧ m.origin ≤ w.held.length) :
    ∀ x ∈ (w.hold st m).held,
      x.family < (w.hold st m).held.length ∧ x.origin < (w.hold st m).held.length := by
  have longer : (w.hold st m).held.length = w.held.length + 1 := List.length_append
  rw [longer]
  refine forall_hold ?_ ⟨Nat.lt_succ_of_le new.1, Nat.lt_succ_of_le new.2⟩
  intro x mem
  have old := sound.old x mem
  exact ⟨Nat.lt_succ_of_lt old.1, Nat.lt_succ_of_lt old.2⟩

theorem step (sound : w.Sound) (e : Event) : (w.step e).Sound := by
  have families : ∀ m ∈ w.held, m.family ≠ w.held.length := fun m mem =>
    Nat.ne_of_lt (sound.old m mem).1
  have origins : ∀ m ∈ w.held, m.origin ≠ w.held.length := fun m mem =>
    Nat.ne_of_lt (sound.old m mem).2
  have bags : ∀ m ∈ w.held, m.context.bag ≠ w.store.bags.size := fun m mem =>
    Nat.ne_of_lt (sound.bags m mem)
  have signals : ∀ m ∈ w.held, m.context.signal ≠ w.store.signals.size := fun m mem =>
    Nat.ne_of_lt (sound.signals m mem)
  have bagsLater : ∀ m ∈ w.held, m.context.bag < w.store.bags.size + 1 := fun m mem =>
    Nat.lt_succ_of_lt (sound.bags m mem)
  have signalsLater : ∀ m ∈ w.held, m.context.signal < w.store.signals.size + 1 := fun m mem =>
    Nat.lt_succ_of_lt (sound.signals m mem)
  cases e with
  | create plan =>
    exact ⟨sound.bag.fresh families, sound.family.fresh bags, sound.shared.fresh origins,
      sound.origin.fresh signals, forall_hold bagsLater (Nat.lt_succ_self _),
      forall_hold signalsLater (Nat.lt_succ_self _), sound.old_hold ⟨Nat.le_refl _, Nat.le_refl _⟩⟩
  | clone n =>
    refine through_cases sound ?_
    intro x found
    have mem := List.mem_of_getElem? found
    have old := sound.old x mem
    exact ⟨sound.bag.twin mem rfl rfl, sound.family.twin mem rfl rfl,
      sound.shared.twin mem rfl rfl, sound.origin.twin mem rfl rfl,
      forall_hold sound.bags (sound.bags x mem), forall_hold sound.signals (sound.signals x mem),
      sound.old_hold ⟨Nat.le_of_lt old.1, Nat.le_of_lt old.2⟩⟩
  | overlay n s =>
    refine through_cases sound ?_
    intro x found
    have mem := List.mem_of_getElem? found
    have old := sound.old x mem
    exact ⟨sound.bag.fresh families, sound.family.fresh bags, sound.shared.twin mem rfl rfl,
      sound.origin.twin mem rfl rfl, forall_hold bagsLater (Nat.lt_succ_self _),
      forall_hold sound.signals (sound.signals x mem),
      sound.old_hold ⟨Nat.le_refl _, Nat.le_of_lt old.2⟩⟩
  | insert n t key x =>
    refine through_cases sound ?_
    intro m found
    unfold Store.insertAs
    cases t.encode x with
    | error e => exact sound
    | ok v => exact sound.store rfl rfl
  | cancel n =>
    refine through_cases sound ?_
    intro m found
    exact sound.store rfl rfl

theorem run (sound : w.Sound) (events : List Event) : (w.run events).Sound := by
  induction events generalizing w with
  | nil => exact sound
  | cons e events ih => exact ih (sound.step e)

theorem entry_putEntry (sound : w.Sound) {g : Member} (memG : g ∈ w.held) (mem : m ∈ w.held)
    (k key : String) (v : Json.Value) :
    Store.entry? (w.store.putEntry g.context k v) m.context key =
      if g.family = m.family ∧ k = key then some v else w.store.entry? m.context key := by
  by_cases family : g.family = m.family
  · have bag : g.context.bag = m.context.bag := sound.bag g memG m mem family
    by_cases same : k = key
    · simp [Store.putEntry, Store.entry?, family, bag, same]
    · simp [Store.putEntry, Store.entry?, bag, same, Bag.insert_ne _ (Ne.symm same)]
  · have apart : m.context.bag ≠ g.context.bag := fun same =>
      family (sound.family g memG m mem same.symm)
    simp [Store.putEntry, Store.entry?, family, Pool.cell_set_ne _ apart]

theorem entry_step (sound : w.Sound) (mem : m ∈ w.held) (key : String) (e : Event) :
    Store.entry? (w.step e).store m.context key =
      (w.entered m.family key e).or (w.store.entry? m.context key) := by
  have there := sound.bags m mem
  let unchanged : Lineage → Prop := fun v =>
    v.store.entry? m.context key = w.store.entry? m.context key
  cases e with
  | create plan =>
    exact congrArg (fun b : Bag => b key) (w.store.bags.cell_alloc_of_lt there .empty)
  | clone n => exact through_cases (P := unchanged) rfl fun _ _ => rfl
  | overlay n s =>
    refine through_cases (P := unchanged) rfl ?_
    intro x found
    exact congrArg (fun b : Bag => b key) (w.store.bags.cell_alloc_of_lt there _)
  | insert n t k x =>
    simp only [Lineage.step, through, entered]
    cases found : w.held[n]? with
    | none => rfl
    | some g =>
      simp only [Store.insertAs]
      cases t.encode x with
      | error e => rfl
      | ok v =>
        simp only [sound.entry_putEntry (List.mem_of_getElem? found) mem]
        split <;> rfl
  | cancel n => exact through_cases (P := unchanged) rfl fun _ _ => rfl

end Sound

theorem entry_overlay (s : Snapshot) (st : Store) (c : RequestContext) (key : String) :
    Store.entry? (s.overlay st c).2 (s.overlay st c).1 key =
      ((lastWith (·.1.key) (s.captured.filter fun e => e.2.isSome) key).bind (·.2)).or
        (st.entry? c key) := by
  have listed : s.entries = (s.captured.filter fun e => e.2.isSome).map
      fun e => (e.1.key, e.2.getD .null) := by
    unfold Snapshot.entries
    induction s.captured with
    | nil => rfl
    | cons e rest ih => cases seen : e.2 <;> simp [seen, ih]
  have bag : Store.entry? (s.overlay st c).2 (s.overlay st c).1 key =
      (st.bags.cell c.bag).insertAll s.entries key := by
    simp only [Snapshot.overlay, Store.overlay, Store.entry?, Pool.cell_alloc_self]
  rw [bag, Bag.insertAll_apply, listed, lastWith_map, Option.map_map]
  cases last : lastWith (·.1.key) (s.captured.filter fun e => e.2.isSome) key with
  | none => rfl
  | some e =>
    have captured := (List.mem_filter.mp (mem_of_lastWith last).1).2
    obtain ⟨v, seen⟩ := Option.isSome_iff_exists.mp captured
    simp [seen]

theorem held_step (mem : m ∈ (w.step e).held) :
    m ∈ w.held ∨ (w.Begins e ∧ m.family = w.held.length ∧
      ∀ key, Store.entry? (w.step e).store m.context key = w.given key e) := by
  cases e with
  | create plan =>
    refine (List.mem_append.mp mem).imp_right ?_
    intro new
    cases List.mem_singleton.mp new
    refine ⟨trivial, rfl, ?_⟩
    intro key
    exact congrArg (fun b : Bag => b key) (w.store.bags.cell_alloc_self .empty)
  | clone n =>
    simp only [step, through] at mem
    cases found : w.held[n]? with
    | none => exact .inl (by simpa [found] using mem)
    | some g =>
      simp only [found] at mem
      refine .inl ?_
      rcases List.mem_append.mp mem with before | new
      · exact before
      · cases List.mem_singleton.mp new
        exact List.mem_of_getElem? found
  | overlay n s =>
    simp only [step, through] at mem ⊢
    cases found : w.held[n]? with
    | none => exact .inl (by simpa [found] using mem)
    | some g =>
      simp only [found] at mem ⊢
      refine (List.mem_append.mp mem).imp_right ?_
      intro new
      cases List.mem_singleton.mp new
      refine ⟨(List.getElem?_eq_some_iff.mp found).1, rfl, ?_⟩
      intro key
      rw [given, found]
      exact entry_overlay s w.store g.context key
  | insert n t key x =>
    have same : (w.step (.insert n t key x)).held = w.held :=
      through_cases (P := fun v => v.held = w.held) rfl fun _ _ => rfl
    exact .inl (same ▸ mem)
  | cancel n =>
    have same : (w.step (.cancel n)).held = w.held :=
      through_cases (P := fun v => v.held = w.held) rfl fun _ _ => rfl
    exact .inl (same ▸ mem)

theorem last_enteredBy (w : Lineage) (family : Nat) (key : String) (e : Event)
    (rest : List Event) :
    (w.enteredBy family key (e :: rest)).getLast? =
      ((w.step e).enteredBy family key rest).getLast?.or (w.entered family key e) := by
  rw [enteredBy, List.getLast?_append]
  cases w.entered family key e <;> rfl

def Reads (w : Lineage) (m : Member) (key : String) (o : Option Json.Value) : Prop :=
  w.store.entry? m.context key = o ∧
    ∀ {α : Type} (t : EntryType α), w.store.getAs t m.context key =
      match o with
      | none => .ok none
      | some v => (t.decode v).map some

theorem reads_entry (w : Lineage) (m : Member) (key : String) :
    w.Reads m key (w.store.entry? m.context key) :=
  ⟨rfl, fun _ => rfl⟩

/-- One of the events has begun the family of `m`. What `m` reads is what has been entered last
through the family since then, and if nothing has, what the family was given when it began. -/
def ToldBy (start : Lineage) (events : List Event) (m : Member) : Prop :=
  ∃ before birth after, events = before ++ birth :: after ∧ (start.run before).Begins birth ∧
    m.family = (start.run before).held.length ∧
    ∀ key, (start.run events).Reads m key
      ((((start.run before).step birth).enteredBy m.family key after).getLast?.or
        ((start.run before).given key birth))

/-- Through a run, one event after the other: a member that was there at its start reads what has
been entered last, and else what it has read there. -/
theorem told (sound : w.Sound) (events : List Event) :
    ∀ m ∈ (w.run events).held,
      (m ∈ w.held ∧ ∀ key, Store.entry? (w.run events).store m.context key =
        (w.enteredBy m.family key events).getLast?.or (w.store.entry? m.context key)) ∨
      w.ToldBy events m := by
  induction events generalizing w with
  | nil => exact fun m mem => .inl ⟨mem, fun _ => rfl⟩
  | cons e events ih =>
    intro m mem
    rcases ih (sound.step e) m mem with ⟨there, reads⟩ | told
    · rcases held_step there with old | ⟨begins, family, given⟩
      · refine .inl ⟨old, fun key => ?_⟩
        rw [last_enteredBy, Option.or_assoc, ← sound.entry_step old key e]
        exact reads key
      · refine .inr ⟨[], e, events, rfl, begins, family, fun key => ?_⟩
        have read := reads key
        rw [given key] at read
        exact read ▸ reads_entry _ m key
    · obtain ⟨before, birth, after, rfl, begins, family, reads⟩ := told
      exact .inr ⟨e :: before, birth, after, rfl, begins, family, reads⟩

end Lineage

/-- In every run that starts without contexts, each context reads what was entered last through its
family, and else what its family was given. Families keep their entries apart, also those of one
origin, which share the cancellation signal and the capture plan, and an insert that fails changes
nothing. -/
theorem contexts_read_last_insert (st : Store) (events : List Lineage.Event) :
    let start : Lineage := ⟨st, []⟩
    let w := start.run events
    (∀ m ∈ w.held, start.ToldBy events m ∧ m.family < w.held.length) ∧
    (∀ g ∈ w.held, ∀ m ∈ w.held,
      (g.family ≠ m.family → ∀ {α : Type} (t : EntryType α) (k : String) (x : α) (key : String),
        Store.entry? (w.store.insertAs t g.context k x).2 m.context key =
          w.store.entry? m.context key) ∧
      (g.origin = m.origin → g.context.plan = m.context.plan) ∧
      (w.store.cancel g.context).isCancelled m.context =
        (decide (m.origin = g.origin) || w.store.isCancelled m.context)) ∧
    ∀ {α : Type} (n : Nat) (t : EntryType α) (key : String) (x : α) (e : DecodeError),
      t.encode x = .error e → w.step (.insert n t key x) = w := by
  intro start w
  have sound : w.Sound := (Lineage.sound_start st).run events
  refine ⟨?_, ?_, ?_⟩
  · intro m mem
    have told := Lineage.told (Lineage.sound_start st) events m mem
    exact ⟨told.resolve_left fun before => List.not_mem_nil before.1, (sound.old m mem).1⟩
  · intro g memG m mem
    refine ⟨?_, fun origin => congrArg (·.2) (sound.shared g memG m mem origin), ?_⟩
    · intro family α t k x key
      unfold Store.insertAs
      cases t.encode x with
      | error e => rfl
      | ok v =>
        rw [sound.entry_putEntry memG mem, if_neg fun same => family same.1]
    · have signal : m.context.signal = g.context.signal ↔ m.origin = g.origin :=
        ⟨sound.origin m mem g memG, fun same => congrArg (·.1) (sound.shared m mem g memG same)⟩
      unfold Store.cancel Store.isCancelled
      rw [Store.isSet_setSignal, decide_eq_decide.mpr signal]
  · intro α n t key x e refused
    refine Lineage.through_cases (P := fun v => v = w) rfl ?_
    intro m found
    simp only [Store.insertAs, refused]

example :
    let s : Snapshot := ⟨[(⟨"tenant", 0, false⟩, some (.string "globex"))], false⟩
    let w := Lineage.run ⟨.empty, []⟩
      [.create none, .insert 0 .string "tenant" "acme", .insert 0 .string "user" "ann",
        .overlay 0 s, .clone 1, .insert 2 .string "user" "bob", .insert 0 .string "user" "cid"]
    w.held.map (fun m => ["tenant", "user"].map (w.store.entry? m.context)) =
      [[some (.string "acme"), some (.string "cid")],
        [some (.string "globex"), some (.string "bob")],
        [some (.string "globex"), some (.string "bob")]] := by
  rfl

end Fieldwork
