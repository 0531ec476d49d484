import Fieldwork.Proofs.Request.Lineage
import Mathlib.Data.List.Nodup

/-!
The views of a snapshot: the value that is looked up under a key, what a context gets that the
snapshot is overlaid on, and what its description lists. The first goes by the first accessor of the
key and the second by the last one that has captured a value, so they agree exactly if the first
accessor of each key has captured whatever any other of the key has. It has in what is captured from
contexts. In what is captured from slots it may have captured nothing, or something else.
-/
namespace Fieldwork

namespace Snapshot

variable {s : Snapshot} {st : Store} {c : RequestContext} {key : String} {v : Json.Value}

def lastCaptured (s : Snapshot) (key : String) : Option Json.Value :=
  (lastWith (·.1.key) (s.captured.filter fun e => e.2.isSome) key).bind (·.2)

def FirstCounts (s : Snapshot) : Prop := ∀ e ∈ s.captured, e.2.isSome = true → s.get? e.1.key = e.2

/-- What is looked up is what a context without entries gets and what the description lists; and if
nothing has been captured, which shows in no context, no look-up finds anything. -/
structure ViewsAgree (s : Snapshot) : Prop where
  entered : ∀ (st : Store) (c : RequestContext), (∀ key, st.entry? c key = none) → ∀ key v,
    s.get? key = some v ↔ Store.entry? (s.overlay st c).2 (s.overlay st c).1 key = some v
  described : s.describe = Text.braced (Json.Value.describeMembers s.entries)
  listed : ∀ key v, s.get? key = some v ↔ (key, v) ∈ s.entries
  idle : s.isEmpty = true ↔ ∀ (st : Store) (c : RequestContext) key,
    Store.entry? (s.overlay st c).2 (s.overlay st c).1 key = st.entry? c key
  absent : s.isEmpty = true ↔ ∀ key, s.get? key = none

theorem entry_overlay (s : Snapshot) (st : Store) (c : RequestContext) (key : String) :
    Store.entry? (s.overlay st c).2 (s.overlay st c).1 key =
      (s.lastCaptured key).or (st.entry? c key) :=
  Lineage.entry_overlay s st c key

theorem mem_of_get? (found : s.get? key = some v) :
    ∃ e ∈ s.captured, e.1.key = key ∧ e.2 = some v := by
  obtain ⟨e, first, value⟩ := Option.bind_eq_some_iff.mp found
  exact ⟨e, List.mem_of_find?_eq_some first, by simpa using List.find?_some first, value⟩

theorem mem_of_lastCaptured (last : s.lastCaptured key = some v) :
    ∃ e ∈ s.captured, e.1.key = key ∧ e.2 = some v := by
  obtain ⟨e, counts, value⟩ := Option.bind_eq_some_iff.mp last
  obtain ⟨mem, same⟩ := mem_of_lastWith counts
  exact ⟨e, (List.mem_filter.mp mem).1, same, value⟩

theorem lastCaptured_ne_none {e : Accessor × Option Json.Value} (mem : e ∈ s.captured)
    (captured : e.2.isSome = true) : s.lastCaptured e.1.key ≠ none := by
  have counts :
      (lastWith (·.1.key) (s.captured.filter fun e => e.2.isSome) e.1.key).isSome = true :=
    isSome_lastWith.mpr ⟨e, List.mem_filter.mpr ⟨mem, captured⟩, rfl⟩
  obtain ⟨last, found⟩ := Option.isSome_iff_exists.mp counts
  have value := (List.mem_filter.mp (mem_of_lastWith found).1).2
  rw [lastCaptured, found]
  exact Option.isSome_iff_ne_none.mp value

theorem mem_entries : (key, v) ∈ s.entries ↔ ∃ e ∈ s.captured, e.1.key = key ∧ e.2 = some v := by
  simp only [entries, List.mem_filterMap, Option.map_eq_some_iff, Prod.mk.injEq]
  constructor
  · rintro ⟨e, mem, w, value, rfl, rfl⟩
    exact ⟨e, mem, rfl, value⟩
  · rintro ⟨e, mem, rfl, value⟩
    exact ⟨e, mem, v, value, rfl, rfl⟩

theorem isEmpty_iff : s.isEmpty = true ↔ ∀ e ∈ s.captured, e.2 = none := by
  simp [isEmpty]

theorem isEmpty_iff_idle : s.isEmpty = true ↔ ∀ (st : Store) (c : RequestContext) key,
    Store.entry? (s.overlay st c).2 (s.overlay st c).1 key = st.entry? c key := by
  rw [isEmpty_iff]
  constructor
  · intro empty st c key
    rw [entry_overlay]
    cases last : s.lastCaptured key with
    | none => rfl
    | some v =>
      obtain ⟨e, mem, -, value⟩ := mem_of_lastCaptured last
      rw [empty e mem] at value
      cases value
  · intro idle e mem
    cases value : e.2 with
    | none => rfl
    | some v =>
      -- A context without entries would show the value.
      have unseen := idle .empty ⟨0, 0, none⟩ e.1.key
      rw [entry_overlay] at unseen
      exact absurd (Option.or_eq_none_iff.mp unseen).1 (lastCaptured_ne_none mem (by simp [value]))

theorem get?_of_isEmpty (empty : s.isEmpty = true) (key : String) : s.get? key = none := by
  cases found : s.get? key with
  | none => rfl
  | some v =>
    obtain ⟨e, mem, -, value⟩ := mem_of_get? found
    rw [isEmpty_iff.mp empty e mem] at value
    cases value

namespace FirstCounts

theorem get?_eq_some_iff (first : s.FirstCounts) :
    s.get? key = some v ↔ ∃ e ∈ s.captured, e.1.key = key ∧ e.2 = some v := by
  refine ⟨mem_of_get?, ?_⟩
  rintro ⟨e, mem, rfl, value⟩
  rw [first e mem (by simp [value]), value]

theorem lastCaptured_eq (first : s.FirstCounts) (key : String) :
    s.lastCaptured key = s.get? key := by
  cases last : s.lastCaptured key with
  | some v => exact (first.get?_eq_some_iff.mpr (mem_of_lastCaptured last)).symm
  | none =>
    cases found : s.get? key with
    | none => rfl
    | some v =>
      obtain ⟨e, mem, rfl, value⟩ := mem_of_get? found
      exact absurd last (lastCaptured_ne_none mem (by simp [value]))

theorem entry_overlay (first : s.FirstCounts) (st : Store) (c : RequestContext) (key : String) :
    Store.entry? (s.overlay st c).2 (s.overlay st c).1 key =
      (s.get? key).or (st.entry? c key) := by
  rw [Snapshot.entry_overlay, first.lastCaptured_eq]

end FirstCounts

theorem viewsAgree_iff : s.ViewsAgree ↔ s.FirstCounts := by
  constructor
  · intro agree e mem captured
    obtain ⟨v, value⟩ := Option.isSome_iff_exists.mp captured
    rw [value]
    exact (agree.listed _ _).mpr (mem_entries.mpr ⟨e, mem, rfl, value⟩)
  · intro first
    refine ⟨?_, rfl, ?_, isEmpty_iff_idle, get?_of_isEmpty, ?_⟩
    · intro st c bare key v
      rw [first.entry_overlay, bare, Option.or_none]
    · intro key v
      rw [mem_entries, first.get?_eq_some_iff]
    · intro absent
      rw [isEmpty_iff]
      intro e mem
      cases value : e.2 with
      | none => rfl
      | some v => rw [← value, ← first e mem (by simp [value]), absent]

end Snapshot

namespace CapturePlan

variable {p : CapturePlan} {slots : Nat → Option Json.Value}

/-- Of the accessors of a captured key those that find a value in their slot find the one that the
first of them finds. -/
def Unshadowed (p : CapturePlan) (slots : Nat → Option Json.Value) : Prop :=
  ∀ a ∈ p.accessors, p.captures a.key = true → (slots a.slot).isSome = true →
    ((p.accessors.find? fun b => b.key = a.key).bind fun b => slots b.slot) = slots a.slot

theorem first_of_mem {a : Accessor} (mem : a ∈ p.accessors) :
    ∃ b ∈ p.accessors, b.key = a.key ∧ p.accessors.find? (fun b => b.key = a.key) = some b := by
  cases found : p.accessors.find? fun b => b.key = a.key with
  | none => exact absurd (List.find?_eq_none.mp found a mem) (by simp)
  | some b => exact ⟨b, List.mem_of_find?_eq_some found, by simpa using List.find?_some found, rfl⟩

theorem unshadowed_of_nodup (distinct : (p.accessors.map (·.key)).Nodup)
    (slots : Nat → Option Json.Value) : p.Unshadowed slots := by
  intro a mem _ _
  obtain ⟨b, there, same, first⟩ := first_of_mem mem
  rw [first, List.inj_on_of_nodup_map distinct there mem same]
  rfl

/-- What is looked up is what the first accessor of the key finds. -/
theorem get?_captureWith (look : Accessor → Option Json.Value) (key : String) :
    (p.captureWith look).get? key =
      (p.accessors.find? fun a => a.key = key).bind
        fun a => if p.captures a.key then look a else none := by
  simp only [Snapshot.get?, captureWith, List.find?_map, Function.comp_def, Option.bind_map]

theorem firstCounts_captureWith (look : Accessor → Option Json.Value) :
    (p.captureWith look).FirstCounts ↔
      ∀ a ∈ p.accessors, p.captures a.key = true → (look a).isSome = true →
        (p.accessors.find? fun b => b.key = a.key).bind look = look a := by
  have looked : ∀ a ∈ p.accessors, p.captures a.key = true →
      (p.captureWith look).get? a.key =
        (p.accessors.find? fun b => b.key = a.key).bind look := by
    intro a mem captured
    obtain ⟨b, _, same, first⟩ := first_of_mem mem
    rw [get?_captureWith, first]
    simp [same, captured]
  constructor
  · intro first a mem captured value
    have found := first (a, if p.captures a.key then look a else none) (List.mem_map_of_mem mem)
    simp only [captured, if_true] at found
    rw [← looked a mem captured, found value]
  · intro same e mem value
    obtain ⟨a, there, rfl⟩ := List.mem_map.mp mem
    cases captured : p.captures a.key with
    | false => simp [captured] at value
    | true =>
      simp only [captured, if_true] at value ⊢
      rw [looked a there captured, same a there captured value]

theorem firstCounts_byKey (look : String → Option Json.Value) :
    (p.captureWith fun a => look a.key).FirstCounts := by
  rw [firstCounts_captureWith]
  intro a mem _ _
  obtain ⟨b, _, same, first⟩ := first_of_mem mem
  rw [first]
  exact congrArg look same

end CapturePlan

/-- What is captured from contexts shows the same in all views. What is captured from slots does if
and only if no accessor that finds a value is shadowed by an earlier one of its key that finds
nothing or another value; so it does if the keys are distinct. In any case only the snapshot that
has captured nothing shows in no context. -/
theorem snapshot_views_agree_iff (p : CapturePlan) (st : Store) (c l : RequestContext) :
    (p.captureFrom st c).ViewsAgree ∧ (p.captureOver st c l).ViewsAgree ∧
    ((p.captureSlots st).1.ViewsAgree ↔ p.Unshadowed st.slots) ∧
    ((p.accessors.map (·.key)).Nodup → p.Unshadowed st.slots) ∧
    ((p.captureSlots st).1.isEmpty = true ↔ ∀ (st' : Store) (c' : RequestContext) key,
      Store.entry? ((p.captureSlots st).1.overlay st' c').2 ((p.captureSlots st).1.overlay st' c').1
        key = st'.entry? c' key) := by
  refine ⟨?_, ?_, ?_, fun distinct => CapturePlan.unshadowed_of_nodup distinct _,
    Snapshot.isEmpty_iff_idle⟩
  · exact Snapshot.viewsAgree_iff.mpr (CapturePlan.firstCounts_byKey (st.entry? c))
  · exact Snapshot.viewsAgree_iff.mpr
      (CapturePlan.firstCounts_byKey fun key => (st.entry? l key).or (st.entry? c key))
  · rw [Snapshot.viewsAgree_iff]
    exact CapturePlan.firstCounts_captureWith _

/-- Of two accessors of one key the first finds nothing: the look-up does not find what the second
has captured, which a context gets and the description lists. -/
theorem shadowed_value_not_found :
    let p : CapturePlan := { accessors := [⟨"tenant", 0, false⟩, ⟨"tenant", 1, false⟩] }
    let s := (p.captureSlots (Store.empty.setSlot 1 (some (.int 1)))).1
    s.get? "tenant" = none ∧
      Store.entry? (s.overlay .empty ⟨0, 0, none⟩).2 (s.overlay .empty ⟨0, 0, none⟩).1 "tenant" =
        some (.int 1) ∧
      ("tenant", .int 1) ∈ s.entries ∧ s.isEmpty = false ∧ (∀ key, s.get? key = none) ∧
      ¬ s.ViewsAgree := by
  intro p s
  have unfound : ∀ key, s.get? key = none := by
    intro key
    by_cases same : "tenant" = key
    · subst same
      rfl
    · simp [Snapshot.get?, s, p, CapturePlan.captureSlots, CapturePlan.captureWith, same]
  refine ⟨rfl, rfl, List.mem_cons_self, rfl, unfound, ?_⟩
  intro agree
  cases agree.absent.mpr unfound

end Fieldwork
