import Fieldwork.Slots.Snapshot

/-!
What opening and closing a scope do to the store. Both touch slots and the log only, and closing
puts back what the slots held when the scope was opened: of several accessors over one slot the one
that was saved first is restored last, and it has saved the value from before the scope.
-/
namespace Fieldwork

section LastWith

variable {ε : Type u} {β : Type v} {κ : Type w} [DecidableEq κ]

def lastWith (key : ε → κ) (es : List ε) (k : κ) : Option ε :=
  (es.filter fun e => key e = k).getLast?

theorem lastWith_cons (key : ε → κ) (e : ε) (es : List ε) (k : κ) :
    lastWith key (e :: es) k =
      (lastWith key es k).or (if key e = k then some e else none) := by
  unfold lastWith
  by_cases h : key e = k
  · rw [List.filter_cons_of_pos (by simpa using h), List.getLast?_cons, if_pos h]
    cases (es.filter fun e => key e = k).getLast? <;> rfl
  · rw [List.filter_cons_of_neg (by simpa using h), if_neg h, Option.or_none]

theorem lastWith_map (key : β → κ) (g : ε → β) (es : List ε) (k : κ) :
    lastWith key (es.map g) k = (lastWith (fun e => key (g e)) es k).map g := by
  unfold lastWith
  rw [List.filter_map, List.getLast?_map]
  rfl

theorem mem_of_lastWith {key : ε → κ} {es : List ε} {k : κ} {e : ε}
    (h : lastWith key es k = some e) : e ∈ es ∧ key e = k := by
  have found := List.mem_filter.mp (List.mem_of_getLast? h)
  exact ⟨found.1, of_decide_eq_true found.2⟩

theorem isSome_lastWith {key : ε → κ} {es : List ε} {k : κ} :
    (lastWith key es k).isSome = true ↔ ∃ e ∈ es, key e = k := by
  simp [lastWith, Option.isSome_iff_ne_none]

end LastWith

namespace Store

/-- The slots and the log of `st` with all else as in `base`. -/
def onto (st base : Store) : Store := { base with slots := st.slots, log := st.log }

end Store

namespace Accessor

@[simp] theorem slots_trace (a : Accessor) (st : Store) (entry : List Json.Value) :
    (a.trace st entry).slots = st.slots := by
  unfold trace
  split <;> rfl

theorem trace_onto (a : Accessor) (st base : Store) (entry : List Json.Value) :
    a.trace (st.onto base) entry = (a.trace st entry).onto base := by
  unfold trace
  split <;> rfl

theorem read_onto (a : Accessor) (st base : Store) :
    a.read (st.onto base) = ((a.read st).1, (a.read st).2.onto base) := by
  simp only [read, trace_onto]
  rfl

theorem write_onto (a : Accessor) (v : Option Json.Value) (st base : Store) :
    a.write v (st.onto base) = (a.write v st).onto base := by
  cases v <;> simp only [write, trace_onto] <;> rfl

@[simp] theorem slots_write (a : Accessor) (v : Option Json.Value) (st : Store) (i : Nat) :
    (a.write v st).slots i = if i = a.slot then v else st.slots i := by
  cases v <;> simp [write, Store.setSlot]

end Accessor

namespace Scope

theorem opening_onto (writes : List (Accessor × Option Json.Value)) (scope : Scope)
    (st base : Store) :
    opening writes scope (st.onto base) =
      ((opening writes scope st).1, (opening writes scope st).2.onto base) := by
  induction writes generalizing scope st with
  | nil => rfl
  | cons e rest ih =>
    simp only [opening, Accessor.read_onto, Accessor.write_onto]
    exact ih _ _

theorem close_onto (scope : Scope) (st base : Store) :
    scope.close (st.onto base) = (scope.close st).onto base := by
  obtain ⟨saved⟩ := scope
  unfold close
  induction saved generalizing st with
  | nil => rfl
  | cons e rest ih =>
    simp only [List.foldl_cons, Accessor.write_onto]
    exact ih _

def putBack? : List (Accessor × Option Json.Value) → Nat → Option (Option Json.Value)
  | [], _ => none
  | e :: rest, i => (putBack? rest i).or (if i = e.1.slot then some e.2 else none)

theorem slots_close (scope : Scope) (st : Store) (i : Nat) :
    (scope.close st).slots i = (putBack? scope.saved i).getD (st.slots i) := by
  obtain ⟨saved⟩ := scope
  unfold close
  induction saved generalizing st with
  | nil => rfl
  | cons e rest ih =>
    simp only [List.foldl_cons, ih, putBack?]
    cases putBack? rest i with
    | some v => rfl
    | none => by_cases h : i = e.1.slot <;> simp [h]

theorem putBack_opening (writes : List (Accessor × Option Json.Value)) (scope : Scope)
    (st : Store) (i : Nat) :
    putBack? (opening writes scope st).1.saved i =
      (putBack? scope.saved i).or
        (if ∃ e ∈ writes, e.1.slot = i then some (st.slots i) else none) := by
  induction writes generalizing scope st with
  | nil => simp [opening]
  | cons e rest ih =>
    obtain ⟨a, v⟩ := e
    simp only [opening, Accessor.read, ih, putBack?, Accessor.slots_write, Accessor.slots_trace,
      List.mem_cons, exists_eq_or_imp, Option.or_assoc]
    by_cases h : i = a.slot
    · simp [h]
    · simp only [h, Ne.symm h, if_false, Option.none_or, false_or]

theorem slots_opening (writes : List (Accessor × Option Json.Value)) (scope : Scope)
    (st : Store) (i : Nat) :
    (opening writes scope st).2.slots i =
      ((lastWith (·.1.slot) writes i).map (·.2)).getD (st.slots i) := by
  induction writes generalizing scope st with
  | nil => rfl
  | cons e rest ih =>
    obtain ⟨a, v⟩ := e
    simp only [opening, Accessor.read, ih, lastWith_cons, Accessor.slots_write,
      Accessor.slots_trace]
    cases lastWith (·.1.slot) rest i with
    | some e => rfl
    | none =>
      by_cases h : i = a.slot
      · simp [h]
      · simp [h, Ne.symm h]

end Scope

namespace Snapshot

/-- A snapshot covers the slots that are written while it is installed: those of its accessors with
a captured value, and with `clearMissing` those of all its accessors. -/
def Covers (s : Snapshot) (i : Nat) : Prop :=
  (∃ e ∈ s.captured, e.1.slot = i ∧ e.2.isSome = true) ∨
    (s.clearMissing = true ∧ ∃ e ∈ s.captured, e.1.slot = i)

instance (s : Snapshot) (i : Nat) : Decidable (s.Covers i) := by
  unfold Covers
  infer_instance

theorem covers_iff_writes (s : Snapshot) (i : Nat) :
    s.Covers i ↔ ∃ e ∈ s.writes, e.1.slot = i := by
  simp only [Covers, writes, List.mem_filter, Bool.or_eq_true]
  constructor
  · rintro (⟨e, mem, slot, some⟩ | ⟨clear, e, mem, slot⟩)
    · exact ⟨e, ⟨mem, .inl some⟩, slot⟩
    · exact ⟨e, ⟨mem, .inr clear⟩, slot⟩
  · rintro ⟨e, ⟨mem, some | clear⟩, slot⟩
    · exact .inl ⟨e, mem, slot, some⟩
    · exact .inr ⟨clear, e, mem, slot⟩

theorem install_onto (s : Snapshot) (st base : Store) :
    s.install (st.onto base) = ((s.install st).1, (s.install st).2.onto base) :=
  Scope.opening_onto s.writes ⟨[]⟩ st base

theorem install_frame (s : Snapshot) (st : Store) :
    (s.install st).2 = (s.install st).2.onto st :=
  congrArg Prod.snd (s.install_onto st st)

theorem putBack_install (s : Snapshot) (st : Store) (i : Nat) :
    Scope.putBack? (s.install st).1.saved i =
      if s.Covers i then some (st.slots i) else none := by
  unfold install
  rw [Scope.putBack_opening]
  simp only [Scope.putBack?, Option.none_or, covers_iff_writes]

theorem slots_install (s : Snapshot) (st : Store) (i : Nat) :
    (s.install st).2.slots i = ((lastWith (·.1.slot) s.writes i).map (·.2)).getD (st.slots i) :=
  Scope.slots_opening s.writes ⟨[]⟩ st i

theorem slots_install_of_not_covers (s : Snapshot) (st : Store) {i : Nat} (h : ¬ s.Covers i) :
    (s.install st).2.slots i = st.slots i := by
  have unwritten : lastWith (·.1.slot) s.writes i = none := by
    rw [covers_iff_writes, ← isSome_lastWith] at h
    simpa using h
  rw [slots_install, unwritten]
  rfl

theorem slots_install_of_covers (s : Snapshot) {i : Nat} (h : s.Covers i) (st st' : Store) :
    (s.install st').2.slots i = (s.install st).2.slots i := by
  rw [covers_iff_writes, ← isSome_lastWith] at h
  obtain ⟨e, found⟩ := Option.isSome_iff_exists.mp h
  rw [slots_install, slots_install, found]
  rfl

/-- What closing a scope of `s` makes of the slots: `before` is the store in which the scope was
opened, `last` and `after` are those before and after closing it. -/
def Restores (s : Snapshot) (before last after : Store) : Prop :=
  ∀ i, after.slots i = if s.Covers i then before.slots i else last.slots i

theorem close_restores (s : Snapshot) (st last : Store) :
    s.Restores st last ((s.install st).1.close last) := by
  intro i
  rw [Scope.slots_close, putBack_install]
  split <;> rfl

theorem wrap_restores {α : Type u} (s : Snapshot) (work : Store → α × Store) (st : Store) :
    s.Restores st (work (s.install st).2).2 (s.wrap work st).2 :=
  s.close_restores st _

end Snapshot

theorem Scope.close_frame (scope : Scope) (st : Store) :
    scope.close st = (scope.close st).onto st :=
  scope.close_onto st st

end Fieldwork
