import Fieldwork.Proofs.Request.Captured
import Fieldwork.Proofs.Request.Current

/-!
Capturing from contexts that have been overlaid. A context handed down counts for a capture as if
all its entries had been entered in the request's context. A context on which a snapshot has been
overlaid gives the snapshot back, as long as nothing has been entered under the keys for which the
snapshot has captured nothing; so work that starts from the current context of a poll installs what
the poll has installed.
-/
namespace Fieldwork

/-- In `st'` the context `m` holds the entries that `c` holds in `st`, with all those of `l` entered
over them. -/
def Store.Merges (st : Store) (c l : RequestContext) (st' : Store) (m : RequestContext) : Prop :=
  ∀ key, st'.entry? m key = (st.entry? l key).or (st.entry? c key)

def Decorator.fetchUnder (d : Decorator) (s : Snapshot) (call : Call) (st : Store) :
    Except Failure FieldValue × Store :=
  let (r, st) := s.wrap (d.delegate.fetch call) st
  d.settleResult s call r st

namespace CapturePlan

variable {p : CapturePlan} {st later : Store} {c : RequestContext}

theorem captureWith_inj {f g : Accessor → Option Json.Value} :
    p.captureWith f = p.captureWith g ↔
      ∀ a ∈ p.accessors, p.captures a.key = true → f a = g a := by
  simp only [captureWith, Snapshot.mk.injEq, and_true, List.map_inj_left, Prod.mk.injEq, true_and]
  refine forall₂_congr fun a _ => ?_
  cases p.captures a.key <;> simp

theorem get?_byKey (look : String → Option Json.Value) {a : Accessor} (mem : a ∈ p.accessors)
    (captured : p.captures a.key = true) :
    (p.captureWith fun a => look a.key).get? a.key = look a.key := by
  obtain ⟨b, _, same, first⟩ := first_of_mem mem
  rw [get?_captureWith, first]
  simp [same, captured]

/-- The context `own` reads what the snapshot has captured and, under the keys that it has nothing
for, what `base` says: it gives the snapshot back if there is nothing under those. -/
theorem captureFrom_eq_iff {look base : String → Option Json.Value} {elsewhere : Store}
    {own : RequestContext}
    (reads : ∀ a ∈ p.accessors, elsewhere.entry? own a.key =
      ((p.captureWith fun a => look a.key).get? a.key).or (base a.key)) :
    p.captureFrom elsewhere own = p.captureWith (fun a => look a.key) ↔
      ∀ a ∈ p.accessors, p.captures a.key = true →
        (p.captureWith fun a => look a.key).get? a.key = none → base a.key = none := by
  rw [captureFrom, captureWith_inj]
  refine forall₂_congr fun a mem => forall_congr' fun captured => ?_
  rw [reads a mem, get?_byKey look mem captured]
  cases look a.key <;> simp

/-- What is captured from contexts is captured again from a copy on which it has been overlaid, if
the copied context has nothing under the keys that have been found missing; so it is if the context
has not changed since. -/
theorem recapture (look : String → Option Json.Value)
    (shown : ∀ key, look key = none → st.entry? c key = none) (later : Store) :
    let s := p.captureWith fun a => look a.key
    (p.captureFrom (s.overlay later c).2 (s.overlay later c).1 = s ↔
      ∀ a ∈ p.accessors, p.captures a.key = true → s.get? a.key = none →
        later.entry? c a.key = none) ∧
    ((∀ key, later.entry? c key = st.entry? c key) →
      p.captureFrom (s.overlay later c).2 (s.overlay later c).1 = s) := by
  intro s
  have again : p.captureFrom (s.overlay later c).2 (s.overlay later c).1 = s ↔
      ∀ a ∈ p.accessors, p.captures a.key = true → s.get? a.key = none →
        later.entry? c a.key = none :=
    captureFrom_eq_iff fun a _ => (firstCounts_byKey look).entry_overlay later c a.key
  refine ⟨again, fun same => again.mpr fun a mem captured missing => ?_⟩
  have missing : look a.key = none := (get?_byKey look mem captured).symm.trans missing
  rw [same, shown a.key missing]

end CapturePlan

theorem Snapshot.overlay_again (s : Snapshot) (st : Store) (c : RequestContext) (key : String) :
    let copy := (s.overlay st c).1
    let left := (s.overlay st c).2
    Store.entry? (s.overlay left copy).2 (s.overlay left copy).1 key = left.entry? copy key := by
  intro copy left
  rw [entry_overlay s left copy, entry_overlay s st c]
  cases s.lastCaptured key <;> rfl

theorem Store.merges_overlay {st : Store} {l : RequestContext}
    {entries : List (String × Json.Value)}
    (all : ∀ key, Bag.empty.insertAll entries key = st.entry? l key) (c : RequestContext) :
    st.Merges c l (st.overlay c entries).2 (st.overlay c entries).1 := by
  intro key
  have bag : Store.entry? (st.overlay c entries).2 (st.overlay c entries).1 key =
      (st.bags.cell c.bag).insertAll entries key := by
    simp only [overlay, entry?, Pool.cell_alloc_self]
  rw [bag, ← all, Bag.insertAll_apply, Bag.insertAll_apply]
  simp [Bag.empty, entry?]

/-- Work that is started from the current context of `inside`, wherever it runs, captures `s` again
and sees the slots that `s` covers as they are in `inside`, as long as that context reads as in
`left` under the keys of its plan. -/
def Snapshot.SeenAgain (s : Snapshot) (left inside : Store) : Prop :=
  ∃ own, inside.current = some own ∧ ∀ (elsewhere : Store) (nested : Call),
    nested.context = own → nested.overlay? = none →
    (∀ a ∈ own.capturePlan.accessors, elsewhere.entry? own a.key = left.entry? own a.key) →
    nested.snapshot elsewhere = s ∧
      ∀ i, s.Covers i → (nested.inside elsewhere).slots i = inside.slots i

theorem Call.snapshot_byKey (call : Call) (st : Store) :
    ∃ look : String → Option Json.Value,
      call.snapshot st = call.context.capturePlan.captureWith fun a => look a.key :=
  ⟨fun key => (call.overlay?.bind fun l => st.entry? l key).or (st.entry? call.context key),
    call.snapshot_eq st⟩

theorem Decorator.fetch_seenAgain {d : Decorator} {call : Call} {st after : Store}
    {v w : FieldValue} (fetched : (d.fetch call st).1 = .ok w) (comes : w.content.Comes)
    (given : d.delegate.fetch call (call.inside st) = (.ok v, after))
    (missing : ∀ a ∈ call.context.capturePlan.accessors,
      call.context.capturePlan.captures a.key = true → (call.snapshot st).get? a.key = none →
      after.entry? call.context a.key = none) :
    d.PolledInside call st (fun _ inside _ => (call.snapshot st).SeenAgain (d.fetch call st).2 inside)
      v.content w.content := by
  refine fetch_polled fetched given ?_
  intro before
  refine ⟨_, Snapshot.current_enter _ _ before, ?_⟩
  intro elsewhere nested context plain unchanged
  obtain ⟨look, byKey⟩ := call.snapshot_byKey st
  have reads : ∀ a ∈ call.context.capturePlan.accessors,
      elsewhere.entry? (d.copy call st) a.key =
        ((call.snapshot st).get? a.key).or (after.entry? call.context a.key) := by
    intro a mem
    have first : (call.snapshot st).FirstCounts := by
      rw [byKey]
      exact CapturePlan.firstCounts_byKey look
    have entered := first.entry_overlay (call.outside st after) call.context a.key
    rw [call.entry_outside, copy_eq given] at entered
    have left := d.fetch_copies fetched comes
    rw [given] at left
    rw [unchanged a mem, left]
    exact entered
  have again : nested.snapshot elsewhere = call.snapshot st := by
    have taken : nested.snapshot elsewhere =
        call.context.capturePlan.captureFrom elsewhere (d.copy call st) := by
      simp only [Call.snapshot, plain, context]
      rfl
    rw [byKey] at reads missing ⊢
    exact taken.trans ((CapturePlan.captureFrom_eq_iff reads).mpr missing)
  refine ⟨again, ?_⟩
  intro i covered
  rw [nested.inside_eq again]
  exact Snapshot.slots_install_of_covers _ covered _ _

/-- A context handed down counts for a capture as if all its entries had been entered in the
request's context, and for a decorated fetch too; anything else that is handed down does not count.
What has been captured from contexts is captured again from a copy on which it has been overlaid, if
nothing has been entered meanwhile under the keys it has nothing for. To overlay it once more
changes nothing, and work that starts from the current context of a poll sees what the poll sees. -/
theorem snapshots_recapture (p : CapturePlan) (st : Store) (c l : RequestContext) :
    (∀ (st' : Store) (m : RequestContext), st.Merges c l st' m →
      p.captureOver st c l = p.captureFrom st' m) ∧
    (∀ entries : List (String × Json.Value),
      (∀ key, Bag.empty.insertAll entries key = st.entry? l key) →
        st.Merges c l (st.overlay c entries).2 (st.overlay c entries).1) ∧
    (∀ (d : Decorator) (call : Call), call.context = c →
      (∀ (st' : Store) (m : RequestContext), call.handed = some (.context l) → m.plan = c.plan →
        st.Merges c l st' m → d.fetch call st =
          d.fetchUnder ({ call with context := m, handed := none }.snapshot st') call st) ∧
      ((∀ l', call.handed ≠ some (.context l')) → d.fetch call st =
        d.fetchUnder ({ call with handed := none }.snapshot st) call st)) ∧
    (∀ s, s = p.captureFrom st c ∨ s = p.captureOver st c l → ∀ later : Store,
      (p.captureFrom (s.overlay later c).2 (s.overlay later c).1 = s ↔
        ∀ a ∈ p.accessors, p.captures a.key = true → s.get? a.key = none →
          later.entry? c a.key = none) ∧
      ((∀ key, later.entry? c key = st.entry? c key) →
        p.captureFrom (s.overlay later c).2 (s.overlay later c).1 = s)) ∧
    (∀ (s : Snapshot) (st : Store) (c : RequestContext) (key : String),
      let copy := (s.overlay st c).1
      let left := (s.overlay st c).2
      Store.entry? (s.overlay left copy).2 (s.overlay left copy).1 key = left.entry? copy key) ∧
    ∀ (d : Decorator) (call : Call) (w : FieldValue),
      (d.fetch call st).1 = .ok w → w.content.Comes →
      ∃ v after, d.delegate.fetch call (call.inside st) = (.ok v, after) ∧
        ((∀ a ∈ call.context.capturePlan.accessors,
            call.context.capturePlan.captures a.key = true →
            (call.snapshot st).get? a.key = none → after.entry? call.context a.key = none) →
          d.PolledInside call st
            (fun _ inside _ => (call.snapshot st).SeenAgain (d.fetch call st).2 inside)
            v.content w.content) := by
  have merged : ∀ (p : CapturePlan) (st' : Store) (m : RequestContext), st.Merges c l st' m →
      p.captureOver st c l = p.captureFrom st' m := by
    intro p st' m merges
    exact CapturePlan.captureWith_inj.mpr fun a _ _ => (merges a.key).symm
  refine ⟨merged p, fun _ all => Store.merges_overlay all c, ?_, ?_, Snapshot.overlay_again, ?_⟩
  · rintro d call rfl
    constructor
    · intro st' m handed plan merges
      have snapshot : call.snapshot st =
          { call with context := m, handed := none }.snapshot st' := by
        simp only [Call.snapshot, Call.overlay?, handed, RequestContext.capturePlan, plan]
        exact merged _ st' m merges
      rw [← snapshot]
      rfl
    · intro other
      have snapshot : call.snapshot st = { call with handed := none }.snapshot st := by
        unfold Call.snapshot Call.overlay?
        cases handed : call.handed with
        | none => rfl
        | some given =>
          cases given with
          | context l' => exact absurd handed (other l')
          | text s => rfl
          | other v => rfl
      rw [← snapshot]
      rfl
  · intro s captured later
    rcases captured with rfl | rfl
    · exact CapturePlan.recapture (st.entry? c) (fun _ missing => missing) later
    · exact CapturePlan.recapture (fun key => (st.entry? l key).or (st.entry? c key))
        (fun _ missing => (Option.or_eq_none_iff.mp missing).2) later
  · intro d call w fetched comes
    obtain ⟨v, after, given⟩ := Decorator.fetch_given_value fetched
    exact ⟨v, after, given, Decorator.fetch_seenAgain fetched comes given⟩

/-- A context handed down that holds a null, which counts as an entry, under a key of two accessors;
a third accessor finds nothing. -/
theorem snapshots_recapture_null :
    let p : CapturePlan :=
      { accessors := [⟨"tenant", 0, false⟩, ⟨"tenant", 1, false⟩, ⟨"user", 2, false⟩] }
    let c : RequestContext := ⟨0, 0, some p⟩
    let l : RequestContext := ⟨1, 0, none⟩
    let st : Store := { Store.empty with
      bags := ⟨2, fun i => Bag.empty.insert "tenant" (if i = 0 then .int 7 else .null)⟩ }
    let entries : List (String × Json.Value) := [("tenant", .null)]
    let m := (st.overlay c entries).1
    let merged := (st.overlay c entries).2
    let call : Call := {
      context := c, handed := some (.context l), field := ⟨"Query", "tenant"⟩ }
    let f : Future := .ready (.ok .null)
    let d : Decorator := {
      delegate := { fetch := fun _ st => (.ok (.future f), st) }
      subscription := false
      resolver := .unresolved
      adapters := .standard }
    let s := p.captureOver st c l
    st.Merges c l merged m ∧ s = p.captureFrom merged m ∧
      d.fetch call st =
        d.fetchUnder ({ call with context := m, handed := none }.snapshot merged) call st ∧
      p.captureFrom (s.overlay st c).2 (s.overlay st c).1 = s ∧
      ∃ w, (d.fetch call st).1 = .ok w ∧ w.content.Comes ∧
        d.PolledInside call st (fun _ inside _ => s.SeenAgain (d.fetch call st).2 inside)
          (.future f) w.content := by
  intro p c l st entries m merged call f d s
  obtain ⟨captured, all, fetches, recaptured, _, polled⟩ := snapshots_recapture p st c l
  have merges : st.Merges c l merged m := all entries fun _ => rfl
  have missing : ∀ a ∈ p.accessors, p.captures a.key = true → s.get? a.key = none →
      st.entry? c a.key = none := by decide
  have comes : (FieldValue.content (.future (f.awaited 0 (call.snapshot st)
      (d.copy call st)))).Comes := .future _
  refine ⟨merges, captured merged m merges, (fetches d call rfl).1 merged m rfl rfl merges,
    (recaptured s (.inr rfl) st).2 fun _ => rfl, _, rfl, comes, ?_⟩
  obtain ⟨v, after, given, inside⟩ := polled d call _ rfl comes
  cases given
  exact inside missing

end Fieldwork
