import Fieldwork.Proofs.Field.Polled
import Fieldwork.Proofs.Request.Stage

/-!
What the current context shows to the polls of a decorated fetch. Its entries are of three moments:
the snapshot is taken before the delegate is called, the request's context is copied when the
delegate is done, and what is entered later counts only if it is entered through the copy itself.
-/
namespace Fieldwork

/-- What the snapshot for a call has captured under a key: if some accessor has that key and the
plan captures it, the entry of a context handed down, and else that of the request. -/
def Call.captured (call : Call) (st : Store) (key : String) : Option Json.Value :=
  let p := call.context.capturePlan
  if (∃ a ∈ p.accessors, a.key = key) ∧ p.captures key = true then
    (call.overlay?.bind fun l => st.entry? l key).or (st.entry? call.context key)
  else none

/-- The stage that a decorated fetch leaves, with the value that it gives. Code keeps the context of
the request, the one handed down and others. -/
def Decorator.stage (d : Decorator) (call : Call) (st : Store) (others : List RequestContext) :
    Stage where
  store := (d.fetch call st).2
  kept := (call.context :: (call.overlay?.toList ++ others)).map fun c => ⟨c, none⟩
  values := [⟨call.snapshot st, d.copy call st⟩]
  track := ⟨[], (d.fetch call st).2.current⟩

section Captured

theorem bind_lastWith (as : List Accessor) (look : String → Option Json.Value) (key : String) :
    (lastWith (·.key) (as.filter fun a => (look a.key).isSome) key).bind (fun a => look a.key) =
      if ∃ a ∈ as, a.key = key then look key else none := by
  cases last : lastWith (·.key) (as.filter fun a => (look a.key).isSome) key with
  | some a =>
    obtain ⟨mem, rfl⟩ := mem_of_lastWith last
    rw [if_pos ⟨a, (List.mem_filter.mp mem).1, rfl⟩]
    rfl
  | none =>
    have refused : ∀ a ∈ as, a.key = key → look key = none := by
      rintro a mem rfl
      cases found : look a.key with
      | none => rfl
      | some v =>
        have counts : a ∈ as.filter fun a => (look a.key).isSome :=
          List.mem_filter.mpr ⟨mem, by simp [found]⟩
        have reached : (lastWith (·.key) (as.filter fun a => (look a.key).isSome) a.key).isSome =
            true := isSome_lastWith.mpr ⟨a, counts, rfl⟩
        simp [last] at reached
    split
    · next there =>
      obtain ⟨a, mem, same⟩ := there
      exact (refused a mem same).symm
    · rfl

theorem Call.snapshot_eq (call : Call) (st : Store) :
    call.snapshot st = call.context.capturePlan.captureWith fun a =>
      (call.overlay?.bind fun l => st.entry? l a.key).or (st.entry? call.context a.key) := by
  unfold Call.snapshot
  cases call.overlay? <;> rfl

theorem Call.entry_copy (call : Call) (st left : Store) (key : String) :
    Store.entry? ((call.snapshot st).overlay left call.context).2
        ((call.snapshot st).overlay left call.context).1 key =
      (call.captured st key).or (left.entry? call.context key) := by
  rw [Lineage.entry_overlay]
  congr 1
  let look : String → Option Json.Value := fun key =>
    if call.context.capturePlan.captures key then
      (call.overlay?.bind fun l => st.entry? l key).or (st.entry? call.context key)
    else none
  have all : (call.snapshot st).captured =
      call.context.capturePlan.accessors.map fun a => (a, look a.key) := by
    rw [call.snapshot_eq]
    rfl
  rw [all, List.filter_map, lastWith_map, Option.bind_map]
  refine (bind_lastWith call.context.capturePlan.accessors look key).trans ?_
  unfold captured
  by_cases accessed : ∃ a ∈ call.context.capturePlan.accessors, a.key = key
  · rw [if_pos accessed]
    simp only [accessed, true_and, look]
  · rw [if_neg accessed, if_neg fun both => accessed both.1]

end Captured

namespace Decorator

variable {d : Decorator} {call : Call} {st : Store} {v w : FieldValue}

theorem fetch_copies (fetched : (d.fetch call st).1 = .ok w) (comes : w.content.Comes) :
    (d.fetch call st).2 = ((call.snapshot st).overlay
      (call.outside st (d.delegate.fetch call (call.inside st)).2) call.context).2 := by
  obtain ⟨v, after, given, outcome⟩ := fetch_outcome fetched comes
  rw [given]
  generalize (d.fetch call st).2 = left at outcome ⊢
  generalize v.content = x at outcome
  generalize w.content = u at outcome comes
  cases outcome with
  | null => cases comes
  | cancelled => cases comes
  | stream => rfl
  | future => rfl
  | untouched present unset single refused =>
    cases comes with
    | future f => exact absurd (.future f) (refused _)
    | stream t => exact absurd (.stream t) (refused _)

end Decorator

@[simp] theorem Call.bags_outside (call : Call) (st after : Store) :
    (call.outside st after).bags = after.bags := by
  unfold outside
  rw [Scope.close_frame]
  rfl

@[simp] theorem Call.current_outside (call : Call) (st after : Store) :
    (call.outside st after).current = after.current := by
  unfold outside
  rw [Scope.close_frame]
  rfl

theorem Call.entry_outside (call : Call) (st after : Store) (c : RequestContext) (key : String) :
    Store.entry? (call.outside st after) c key = after.entry? c key := by
  simp [Store.entry?]

theorem Decorator.sound_stage {d : Decorator} {call : Call} {st after : Store}
    {others : List RequestContext}
    (left : (d.fetch call st).2 =
      ((call.snapshot st).overlay (call.outside st after) call.context).2)
    (copied : d.copy call st =
      ((call.snapshot st).overlay (call.outside st after) call.context).1)
    (made : ∀ c ∈ call.context :: (call.overlay?.toList ++ others ++ after.current.toList),
      c.bag < after.bags.size) : (d.stage call st others).Sound := by
  have size : (d.stage call st others).store.bags.size = after.bags.size + 1 := by
    simp [stage, left, Snapshot.overlay, Store.overlay]
  have own : (d.copy call st).bag = after.bags.size := by
    simp [copied, Snapshot.overlay, Store.overlay, Pool.alloc]
  have current : (d.fetch call st).2.current = after.current := by
    simp [left, Snapshot.overlay, Store.overlay]
  have there : ∀ c, c.bag < after.bags.size → (d.stage call st others).Places ⟨c, none⟩ := by
    intro c made
    refine .other (by omega) (List.forall_mem_singleton.mpr ?_)
    exact own ▸ Nat.ne_of_gt made
  refine ⟨List.forall_mem_singleton.mpr ?_, by simp [stage], ?_, ⟨.nil, ?_⟩, rfl, by simp [stage]⟩
  · show (d.copy call st).bag < _
    omega
  · intro g mem
    obtain ⟨c, listed, rfl⟩ := List.mem_map.mp mem
    refine there c (made c ?_)
    rcases List.mem_cons.mp listed with first | later
    · exact first ▸ List.mem_cons_self
    · exact List.mem_cons_of_mem _ (List.mem_append_left _ later)
  · intro c same
    refine there c (made c (List.mem_cons_of_mem _ (List.mem_append_right _ ?_)))
    rw [← current]
    exact Option.mem_toList.mpr same

/-- What a decorated fetch gives is polled with its own context as the current one, and each poll is
one of the source that the adapters take the delegate's value for. In every run on the stage that the
fetch leaves that context shows, under each key, what has been entered last through it, and else what
the snapshot has captured, and else what the request's context has held when the delegate was done.
What a scripted delegate does in a poll is part of such a run. -/
theorem current_shows {d : Decorator} {call : Call} {st after : Store} {v w : FieldValue}
    {others : List RequestContext}
    (given : d.delegate.fetch call (call.inside st) = (.ok v, after))
    (fetched : (d.fetch call st).1 = .ok w) (comes : w.content.Comes)
    (made : ∀ c ∈ call.context :: (call.overlay?.toList ++ others ++ after.current.toList),
      c.bag < after.bags.size) :
    let own := d.copy call st
    let start := d.stage call st others
    d.PolledInside call st (Stage.Polls ⟨call.snapshot st, own⟩) v.content w.content ∧
    (∀ events : List Stage.Event,
      (start.run events).Shows 0 own call.context (fun key => start.lastEntered 0 key events)
        fun key => (call.captured st key).or (after.entry? call.context key)) ∧
    ∀ (script : Script) (stage : Stage) (n : Nat) (k : Kept), stage.kept[n]? = some k →
      k.context = call.context →
      let f : Future := .ofScript (some call) script
      ∀ y : (f.bind call.context.signal).State, ∃ code : List Stage.Event,
        (stage.run code).store = ((f.bind call.context.signal).poll y stage.store).2.2 ∧
          (stage.run code).track = stage.track := by
  intro own start
  have left := d.fetch_copies fetched comes
  rw [given] at left
  refine ⟨Decorator.fetch_polled fetched given fun before => Stage.polls_enter ⟨_, _⟩ before, ?_, ?_⟩
  · have copied : ((call.snapshot st).overlay (call.outside st after) call.context).1 = own :=
      Decorator.copy_eq given
    have sound : start.Sound := Decorator.sound_stage left copied.symm made
    have signal : own.signal = call.context.signal := rfl
    refine sound.shows (i := 0) (v := ⟨call.snapshot st, own⟩) rfl signal ?_
    intro key
    have entry := call.entry_copy st (call.outside st after) key
    rw [← left, copied, Call.entry_outside] at entry
    exact entry
  · intro script stage n k kept same f y
    exact Stage.code_of_bound kept same script _ y

/-- A delegate that enters two keys in the request's context. One of them has been captured, from
the context handed down, so the copy does not show what the delegate has entered under it. -/
theorem current_shows_captured :
    let call : Call := {
      context := ⟨0, 0, some { accessors := [⟨"tenant", 0, false⟩] }⟩
      handed := some (.context ⟨1, 0, none⟩)
      field := ⟨"Query", "tenant"⟩ }
    let st : Store := { Store.empty with
      bags := ⟨2, fun i => Bag.empty.insert "tenant" (.int (if i = 0 then 7 else 8))⟩ }
    let script : Script := [.wait 1, .act (.setCurrent "user" (.current "tenant")), .emit (.slot 0)]
    let f : Future := .ofScript (some call) script
    let d : Decorator := {
      delegate := {
        fetch := fun call st => (.ok (.future f),
          (st.putEntry call.context "tenant" (.int 9)).putEntry call.context "user" (.int 10)) }
      subscription := false
      resolver := .unresolved
      adapters := .standard }
    let after := (d.delegate.fetch call (call.inside st)).2
    let own := d.copy call st
    let start := d.stage call st []
    d.delegate.fetch call (call.inside st) = (.ok (.future f), after) ∧
    ∃ w, (d.fetch call st).1 = .ok w ∧ w.content.Comes ∧
      (∀ c ∈ call.context :: (call.overlay?.toList ++ [] ++ after.current.toList),
        c.bag < after.bags.size) ∧
      d.PolledInside call st (Stage.Polls ⟨call.snapshot st, own⟩) (.future f) w.content ∧
      (∀ events : List Stage.Event,
        (start.run events).store.entry? own "tenant" =
            (start.lastEntered 0 "tenant" events).or (some (.int 8)) ∧
          (start.run events).store.entry? own "user" =
            (start.lastEntered 0 "user" events).or (some (.int 10))) ∧
      ∃ code : List Stage.Event,
        ((start.step (.enter 0)).run code).store =
          ((f.bind 0).poll (f.bind 0).state (start.step (.enter 0)).store).2.2 := by
  intro call st script f d after own start
  have given : d.delegate.fetch call (call.inside st) = (.ok (.future f), after) := rfl
  have comes : (FieldValue.content (.future (f.awaited 0 (call.snapshot st) own))).Comes := .future _
  have made : ∀ c ∈ call.context :: (call.overlay?.toList ++ [] ++ after.current.toList),
      c.bag < after.bags.size := by decide
  obtain ⟨polled, shows, played⟩ := current_shows (d := d) given rfl comes made
  refine ⟨given, _, rfl, comes, made, polled, ?_, ?_⟩
  · intro events
    exact ⟨(shows events).reads "tenant", (shows events).reads "user"⟩
  · obtain ⟨code, ran, -⟩ := played script (start.step (.enter 0)) 0 ⟨call.context, none⟩ rfl rfl _
    exact ⟨code, ran⟩

end Fieldwork
