import Fieldwork.Proofs.Field.Polled

/-!
How the slots of the thread that starts a request come to the threads that work for it. They are
captured and entered in the request's bag, where the last accessor of a key counts; a decorated
fetch captures them back from the bag and installs them, where the last accessor of a slot counts.
-/
namespace Fieldwork

theorem Bag.insertAll_apply (b : Bag) (es : List (String × Json.Value)) (key : String) :
    b.insertAll es key = ((lastWith (·.1) es key).map (·.2)).or (b key) := by
  unfold insertAll
  induction es generalizing b with
  | nil => rfl
  | cons e es ih =>
    rw [List.foldl_cons, ih, lastWith_cons]
    cases lastWith (·.1) es key with
    | some e => rfl
    | none =>
      by_cases h : e.1 = key
      · simp [h]
      · rw [b.insert_ne (Ne.symm h)]
        simp [h]

theorem Propagation.captures_eq (o : Propagation) (key : String) :
    o.captures key = decide (∀ keys ∈ o.captureKeys, key ∈ keys) := by
  unfold captures
  cases o.captureKeys <;> simp

/-- The context of a new request with the plan `p`: what the slots hold when the request starts is
captured and entered in it. -/
def Store.beginRequest (st : Store) (p : CapturePlan) : RequestContext × Store :=
  let (s, st) := p.captureSlots st
  let (fresh, st) := st.newContext (some p)
  s.overlay st fresh

namespace CapturePlan

variable (p : CapturePlan)

/-- The bag of a request that starts with these slots: of the accessors of a key that find a value
and whose key is captured, the last counts. -/
def found (slots : Nat → Option Json.Value) : Bag := fun key =>
  (lastWith (·.key)
    (p.accessors.filter fun a =>
      (slots a.slot).isSome && decide (∀ keys ∈ p.options.captureKeys, a.key ∈ keys))
    key).bind fun a => slots a.slot

/-- The accessor that decides what a slot holds: the last one over it whose key is in the bag, or
the last one over it at all where slots without a captured value are reset. -/
def deciding? (bag : Bag) (i : Nat) : Option Accessor :=
  lastWith (·.slot) (p.accessors.filter fun a => (bag a.key).isSome || p.options.clearMissing) i

/-- In `inside` each slot holds the value in the bag under the key of its deciding accessor; slots
without one are as in `before`. -/
def Presents (bag : Bag) (before inside : Store) : Prop :=
  ∀ i, inside.slots i =
    match p.deciding? bag i with
    | some a => bag a.key
    | none => before.slots i

variable {p}

theorem found_eq (slots : Nat → Option Json.Value) (key : String) :
    p.found slots key =
      (lastWith (·.key) (p.accessors.filter fun a => (slots a.slot).isSome && p.captures a.key)
        key).bind fun a => slots a.slot := by
  simp only [found, captures, Propagation.captures_eq]

theorem found_of_not_captured {slots : Nat → Option Json.Value} {key : String}
    (h : p.captures key = false) : p.found slots key = none := by
  rw [found_eq, Option.bind_eq_none_iff]
  intro a last
  obtain ⟨mem, rfl⟩ := mem_of_lastWith last
  have captured := (List.mem_filter.mp mem).2
  simp [h] at captured

theorem entries_captureWith (look : Accessor → Option Json.Value) (key : String) :
    Bag.empty.insertAll (p.captureWith look).entries key =
      (lastWith (·.key)
        (p.accessors.filter fun a => (look a).isSome && p.captures a.key) key).bind look := by
  have listed : (p.captureWith look).entries =
      (p.accessors.filter fun a => (look a).isSome && p.captures a.key).map
        fun a => (a.key, (look a).getD .null) := by
    simp only [captureWith, Snapshot.entries, List.filterMap_map, Function.comp_def]
    induction p.accessors with
    | nil => rfl
    | cons a rest ih =>
      cases seen : look a <;> cases taken : p.captures a.key <;> simp [seen, taken, ih]
  rw [Bag.insertAll_apply, listed, lastWith_map]
  simp only [Option.map_map, Function.comp_def, Bag.empty, Option.or_none]
  cases last : lastWith (·.key)
      (p.accessors.filter fun a => (look a).isSome && p.captures a.key) key with
  | none => rfl
  | some a =>
    have taken := (List.mem_filter.mp (mem_of_lastWith last).1).2
    obtain ⟨v, seen⟩ := Option.isSome_iff_exists.mp (Bool.and_eq_true _ _ ▸ taken).1
    simp [seen]

theorem beginRequest_context (st : Store) :
    (st.beginRequest p).1.plan = some p ∧
      ∀ key, Store.entry? (st.beginRequest p).2 (st.beginRequest p).1 key = p.found st.slots key := by
  refine ⟨rfl, ?_⟩
  intro key
  have bag : Store.entry? (st.beginRequest p).2 (st.beginRequest p).1 key =
      Bag.empty.insertAll (p.captureWith fun a => st.slots a.slot).entries key := by
    simp only [Store.beginRequest, Snapshot.overlay, Store.overlay, Store.newContext, Store.entry?,
      Pool.cell_alloc_self]
    rfl
  rw [bag, entries_captureWith, found_eq]

variable {bag : Bag} {worker : Store} {c : RequestContext}

theorem presents_install (agrees : ∀ a ∈ p.accessors, worker.entry? c a.key = bag a.key)
    (captured : ∀ key, p.captures key = false → bag key = none) (before : Store) :
    p.Presents bag before ((p.captureFrom worker c).install before).2 := by
  intro i
  have look : ∀ a ∈ p.accessors,
      (if p.captures a.key then worker.entry? c a.key else none) = bag a.key := by
    intro a mem
    cases taken : p.captures a.key with
    | true => exact agrees a mem
    | false => exact (captured a.key taken).symm
  have writes : (p.captureFrom worker c).writes =
      (p.accessors.filter fun a => (bag a.key).isSome || p.options.clearMissing).map
        fun a => (a, bag a.key) := by
    have all : (p.captureFrom worker c).captured = p.accessors.map fun a => (a, bag a.key) :=
      List.map_congr_left fun a mem => Prod.ext rfl (look a mem)
    rw [Snapshot.writes, all, List.filter_map]
    rfl
  have last : lastWith (fun a => (a, bag a.key).1.slot)
      (p.accessors.filter fun a => (bag a.key).isSome || p.options.clearMissing) i =
        p.deciding? bag i := rfl
  rw [Snapshot.slots_install, writes, lastWith_map, last]
  cases p.deciding? bag i <;> rfl

theorem presents_enter (agrees : ∀ a ∈ p.accessors, worker.entry? c a.key = bag a.key)
    (captured : ∀ key, p.captures key = false → bag key = none) (copy : RequestContext)
    (before : Store) : p.Presents bag before ((p.captureFrom worker c).enter copy before) :=
  presents_install agrees captured { before with current := some copy }

end CapturePlan

/-- The bag of a new request holds what its thread's slots held, as far as the plan captures it.
Whichever thread a decorated fetch of the request then runs on, its delegate is called, and what it
gives is polled, with each slot as the plan and that bag say. -/
theorem state_propagates (p : CapturePlan) (st : Store) :
    let c := (st.beginRequest p).1
    let bag := p.found st.slots
    (∀ key, Store.entry? (st.beginRequest p).2 c key = bag key) ∧
    ∀ (d : Decorator) (call : Call) (worker : Store), call.context = c → call.overlay? = none →
      (∀ a ∈ p.accessors, worker.entry? c a.key = bag a.key) →
      ∃ (inside : Store) (leave : Store → Store), p.Presents bag worker inside ∧
        d.fetch call worker =
          d.settleResult (call.snapshot worker) call (d.delegate.fetch call inside).1
            (leave (d.delegate.fetch call inside).2) ∧
        ∀ w, (d.fetch call worker).1 = .ok w →
          ∃ v, (d.delegate.fetch call inside).1 = .ok v ∧
            d.PolledInside call worker (fun before inside _ => p.Presents bag before inside)
              v.content w.content := by
  intro c bag
  obtain ⟨planned, entered⟩ := CapturePlan.beginRequest_context (p := p) st
  refine ⟨entered, ?_⟩
  intro d call worker context plain agrees
  have captured : ∀ key, p.captures key = false → bag key = none :=
    fun _ => CapturePlan.found_of_not_captured
  have snapshot : call.snapshot worker = p.captureFrom worker c := by
    simp only [Call.snapshot, plain, context, RequestContext.capturePlan, c, planned]
    rfl
  refine ⟨call.inside worker, ((call.snapshot worker).install worker).1.close, ?_, rfl, ?_⟩
  · rw [call.inside_eq snapshot]
    exact CapturePlan.presents_install agrees captured worker
  · intro w fetched
    obtain ⟨v, after, given⟩ := Decorator.fetch_given_value fetched
    refine ⟨v, congrArg Prod.fst given, Decorator.fetch_polled fetched given ?_⟩
    intro before
    rw [snapshot]
    exact CapturePlan.presents_enter agrees captured _ before

/-- Accessors that share a key and a slot: of the two values found for the key the later is entered,
and the slot of the key that is not captured is reset. -/
def sharedPlan : CapturePlan where
  accessors := [⟨"tenant", 0, false⟩, ⟨"tenant", 1, false⟩, ⟨"user", 0, false⟩]
  options := { clearMissing := true, captureKeys := some ["tenant"] }

theorem state_propagates_shared :
    let st := (Store.empty.setSlot 0 (some (.int 7))).setSlot 1 (some (.int 8))
    let c := (st.beginRequest sharedPlan).1
    let bag := sharedPlan.found st.slots
    let worker := (st.beginRequest sharedPlan).2.setSlot 1 none
    let f : Future := .ofScript none [.wait 1, .emit (.slot 1)]
    let d : Decorator := {
      delegate := { fetch := fun _ st => (.ok (.future f), st) }
      subscription := false
      resolver := .unresolved
      adapters := .standard }
    let call : Call := { context := c, field := ⟨"Query", "tenant"⟩ }
    ∃ (inside : Store) (leave : Store → Store), inside.slots 0 = none ∧
      inside.slots 1 = some (.int 8) ∧
        d.fetch call worker =
          d.settleResult (call.snapshot worker) call (d.delegate.fetch call inside).1
            (leave (d.delegate.fetch call inside).2) ∧
        ∃ w, (d.fetch call worker).1 = .ok w ∧
          d.PolledInside call worker (fun before inside _ => sharedPlan.Presents bag before inside)
            (.future f) w.content := by
  intro st c bag worker f d call
  obtain ⟨entered, fetches⟩ := state_propagates sharedPlan st
  have agrees : ∀ a ∈ sharedPlan.accessors,
      worker.entry? c a.key = sharedPlan.found st.slots a.key := fun a _ => entered a.key
  obtain ⟨inside, leave, presents, fetched, polled⟩ := fetches d call worker rfl rfl agrees
  refine ⟨inside, leave, presents 0, presents 1, fetched, _, rfl, ?_⟩
  obtain ⟨v, given, inside⟩ := polled _ rfl
  cases given
  exact inside

end Fieldwork
