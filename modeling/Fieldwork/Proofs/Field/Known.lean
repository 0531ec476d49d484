import Fieldwork.Field.Built
import Fieldwork.Proofs.Field.Twice

/-!
Fetchers, resolvers and adapters that are built from descriptions. They keep every relation between
stores that differ in what no source looks at, and what they give can be dropped on any thread; so
decorating them twice is decorating them once.
-/
namespace Fieldwork

variable {R : StoreRelation} {st st' : Store} {P : Future → Prop} {Q : Stream → Prop}

namespace FieldSpec

theorem takeReceiver_matched (unseen : R.Unseen) (related : R st st') (name : String) :
    R.Matched (takeReceiver st name) (takeReceiver st' name) := by
  have same : st'.names = st.names ∧ st'.channels = st.channels := by
    obtain ⟨signals, log, rfl⟩ := unseen.apart _ _ related
    exact ⟨rfl, rfl⟩
  unfold takeReceiver
  rw [same.1]
  cases st.names.channel name with
  | none => exact ⟨rfl, related⟩
  | some id =>
    simp only [same.2]
    by_cases taken : (st.channels.cell id).taken = true
    · simp only [taken]
      exact ⟨rfl, related⟩
    · simp only [taken]
      exact ⟨rfl, unseen.setChannel related id _⟩

theorem spawn_matched (unseen : R.Unseen) (related : R st st') (s : Script) (call : Option Call) :
    R.Matched (Task.spawn st s call) (Task.spawn st' s call) := by
  obtain ⟨signals, log, rfl⟩ := unseen.apart _ _ related
  exact ⟨rfl, unseen.change _ _ related st.slots st.bags (st.tasks.alloc ⟨s, call, .running⟩).2
    st.channels⟩

theorem handed_same (unseen : R.Unseen) (related : R st st') (h : HandedSpec) :
    h.build st' = h.build st := by
  obtain ⟨signals, log, rfl⟩ := unseen.apart _ _ related
  cases h <;> rfl

theorem build_matched (unseen : R.Unseen) (related : R st st') (call : Option Call)
    (spec : FieldSpec) : R.Matched (spec.build call st) (spec.build call st') := by
  induction spec with
  | value e =>
    simp only [build, unseen.eval related]
    exact ⟨rfl, related⟩
  | channel name =>
    obtain ⟨same, left⟩ := takeReceiver_matched unseen related name
    simp only [build, same]
    exact ⟨rfl, left⟩
  | join s =>
    obtain ⟨same, left⟩ := spawn_matched unseen related s call
    simp only [build, same]
    exact ⟨rfl, left⟩
  | result data errors handed ih =>
    obtain ⟨same, left⟩ := ih
    have handed' : (fun h : HandedSpec => h.build (data.build call st').2) =
        fun h => h.build (data.build call st).2 := funext (handed_same unseen left)
    simp only [build, same, handed']
    exact ⟨rfl, left⟩
  | future s => exact ⟨rfl, related⟩
  | stream s => exact ⟨rfl, related⟩
  | list items => exact ⟨rfl, related⟩
  | foreign type content => exact ⟨rfl, related⟩
  | fail f => exact ⟨rfl, related⟩
  | cancelled => exact ⟨rfl, related⟩

theorem takeReceiver_holds (st : Store) (name : String) : (takeReceiver st name).1.Holds P Q := by
  unfold takeReceiver
  cases st.names.channel name with
  | none => exact trivial
  | some id =>
    by_cases taken : (st.channels.cell id).taken = true
    · simp only [taken]
      exact trivial
    · simp only [taken]
      exact trivial

theorem build_holds {call : Option Call} (future : ∀ s, P (.ofScript call s))
    (stream : ∀ s, Q (.ofScript call s)) (list : ∀ items, Q (.ofList items)) (spec : FieldSpec)
    (st : Store) : ∀ v, (spec.build call st).1 = .ok v → v.Holds P Q := by
  induction spec with
  | result data errors handed ih =>
    intro v built
    cases inner : (data.build call st).1 with
    | error e =>
      simp only [build, inner] at built
      cases built
    | ok w =>
      simp only [build, inner] at built
      cases built
      exact ih w inner
  | channel name =>
    rintro v ⟨⟩
    exact takeReceiver_holds st name
  | future s =>
    rintro v ⟨⟩
    exact future s
  | stream s =>
    rintro v ⟨⟩
    exact stream s
  | list items =>
    rintro v ⟨⟩
    exact list items
  | fail f => rintro v ⟨⟩
  | value e => rintro v ⟨⟩; exact trivial
  | foreign type content => rintro v ⟨⟩; exact trivial
  | join s => rintro v ⟨⟩; exact trivial
  | cancelled => rintro v ⟨⟩; exact trivial

end FieldSpec

theorem Script.perform_keeps (unseen : R.Unseen) (sets : R.Sets) (call : Option Call)
    (actions : List Action) (related : R st st') :
    R (Script.perform call actions st) (Script.perform call actions st') := by
  unfold Script.perform
  induction actions generalizing st st' with
  | nil => exact related
  | cons a rest ih => exact ih (unseen.perform sets call a _ _ related)

namespace FetcherSpec

theorem fetcher_keeps (unseen : R.Unseen) (sets : R.Sets) (spec : FetcherSpec) :
    spec.fetcher.Keeps R := by
  cases spec with
  | property =>
    refine ⟨?_, fun _ _ _ related => ⟨rfl, related⟩⟩
    rintro call st v ⟨⟩
    exact trivial
  | plain =>
    refine ⟨?_, fun _ _ _ related => ⟨rfl, related⟩⟩
    rintro call st v ⟨⟩
    exact trivial
  | scripted kind about actions returns =>
    have keeps : ∀ call s, Script.Keeps R call s := unseen.script sets
    refine ⟨?_, ?_⟩
    · intro call st
      exact FieldSpec.build_holds (Future.ofScript_keeps (keeps _)) (Stream.ofScript_keeps (keeps _))
        (Stream.ofList_keeps R) returns _
    · intro call st st' related
      have performed := Script.perform_keeps unseen sets (some call) actions related
      exact FieldSpec.build_matched unseen performed (some call) returns

theorem fetcher_detached (spec : FetcherSpec) (call : Call) (st : Store) :
    ∀ v, (spec.fetcher.fetch call st).1 = .ok v →
      v.Holds Source.Detached fun t => t.toSource.Detached := by
  cases spec with
  | property =>
    rintro v ⟨⟩
    exact trivial
  | plain =>
    rintro v ⟨⟩
    exact trivial
  | scripted kind about actions returns =>
    exact FieldSpec.build_holds (Future.ofScript_detached _) (Stream.ofScript_detached _)
      Stream.ofList_detached returns _

end FetcherSpec

namespace ResolverSpec

theorem answerSingle_matched (unseen : R.Unseen) (related : R st st') (lead : String)
    (only code : Option String) (seen : Option Expr) (f : Failure) :
    R.Matched (answerSingle lead only code seen f st) (answerSingle lead only code seen f st') := by
  have noted := unseen.note _ _ related (.array [.string "single", .string f.message])
  have shown := fun e : Expr => unseen.eval noted none e
  by_cases other : only.any (· ≠ f.message) = true
  · simp only [answerSingle, other]
    exact ⟨rfl, noted⟩
  · simp only [answerSingle, other, shown]
    exact ⟨rfl, noted⟩

theorem answerSlow_matched (unseen : R.Unseen) (related : R st st') (messages : List String)
    (f : Failure) : Poll.Matched R (answerSlow messages f st) (answerSlow messages f st') := by
  have slots : st'.slotList = st.slotList := by
    obtain ⟨signals, log, rfl⟩ := unseen.apart _ _ related
    rfl
  simp only [answerSlow, slots]
  exact ⟨_, _, _, _, rfl, rfl, unseen.note _ _ related _⟩

theorem slowResolver_keeps (unseen : R.Unseen) (waits : Nat) (messages : List String) :
    (slowResolver waits messages).Keeps R := by
  rintro ⟨f, left⟩ st st' related
  match left with
  | some 0 => exact answerSlow_matched unseen related messages f
  | some (n + 1) => exact ⟨_, _, _, _, rfl, rfl, related⟩
  | none =>
    have noted := unseen.note _ _ related (.array [.string "resolving", .string f.message])
    cases waits with
    | zero => exact answerSlow_matched unseen noted messages f
    | succ n => exact ⟨_, _, _, _, rfl, rfl, noted⟩

mutual

theorem resolver_keeps (unseen : R.Unseen) (spec : ResolverSpec) : spec.resolver.Keeps R := by
  cases spec with
  | composite rs => exact Resolver.composite_keeps (resolvers_keep unseen rs)
  | single lead only code seen =>
    intro f st st' related
    obtain ⟨same, left⟩ := answerSingle_matched unseen related lead only code seen f
    exact ⟨_, f, _, _, rfl, congrArg (fun errors => (Poll.ready errors, f, _)) same, left⟩
  | multiple errors => exact fun _ _ _ related => ⟨_, _, _, _, rfl, rfl, related⟩
  | slow waits messages => exact slowResolver_keeps unseen waits messages

theorem resolvers_keep (unseen : R.Unseen) (specs : List ResolverSpec) :
    ∀ r ∈ resolvers specs, r.Keeps R := by
  cases specs with
  | nil => simp [resolvers]
  | cons spec specs =>
    exact List.forall_mem_cons.mpr ⟨resolver_keeps unseen spec, resolvers_keep unseen specs⟩

end

end ResolverSpec

namespace AdapterSpec

theorem adapter_holds (ready : ∀ o, P (.ready o)) (first : ∀ id closed, P (.ofChannel id closed))
    (list : ∀ items, Q (.ofList items)) (spec : AdapterSpec) (x : Foreign) (y : Adapted)
    (adapted : spec.adapter x = some y) : y.Holds P Q := by
  cases spec with
  | ticksStream =>
    obtain ⟨n, -, rfl⟩ := Option.map_eq_some_iff.mp adapted
    exact list _
  | ticksSingle =>
    obtain ⟨n, -, rfl⟩ := Option.map_eq_some_iff.mp adapted
    exact ready _
  | ticksEven =>
    obtain ⟨n, -, taken⟩ := Option.bind_eq_some_iff.mp adapted
    split at taken
    · cases taken
      exact list _
    · cases taken
  | laterSingle =>
    obtain ⟨v, -, rfl⟩ := Option.map_eq_some_iff.mp adapted
    exact ready _
  | laterFails =>
    obtain ⟨v, -, rfl⟩ := Option.map_eq_some_iff.mp adapted
    exact ready _
  | boundedSingle =>
    cases x with
    | receiver kind id =>
      cases kind <;> cases adapted
      exact first _ _
    | _ => cases adapted

end AdapterSpec

namespace Adapters

theorem standard_keeps {R : StoreRelation} (h : R.Unseen) :
    standard.Hold (Source.Keeps R) (Stream.Keeps R) :=
  standard_hold (Future.ready_keeps R) (Future.ofTask_keeps h) (Future.ofChannel_keeps h)
    (Stream.ofList_keeps R) (Stream.ofChannel_keeps h)

theorem standard_detached : standard.Hold Source.Detached fun t => t.toSource.Detached :=
  standard_hold Future.ready_detached Future.ofTask_detached Future.ofChannel_detached
    Stream.ofList_detached Stream.ofChannel_detached

end Adapters

structure Decorator.Described (d : Decorator) : Prop where
  delegate : ∃ spec : FetcherSpec, d.delegate = spec.fetcher
  resolver : ∃ spec : ResolverSpec, d.resolver = spec.resolver
  adapters : ∀ a ∈ d.adapters, a ∈ Adapters.standard ∨ ∃ spec : AdapterSpec, a = spec.adapter

namespace Decorator.Described

variable {d : Decorator}

theorem adapters_hold (h : d.Described) (standard : Adapters.standard.Hold P Q)
    (ready : ∀ o, P (.ready o)) (first : ∀ id closed, P (.ofChannel id closed))
    (list : ∀ items, Q (.ofList items)) : d.adapters.Hold P Q := by
  intro a mem
  rcases h.adapters a mem with known | ⟨spec, rfl⟩
  · exact standard a known
  · exact spec.adapter_holds ready first list

theorem repeatable (h : d.Described) (s : Snapshot) : d.Repeatable s := by
  obtain ⟨fetcher, delegate⟩ := h.delegate
  obtain ⟨spec, resolver⟩ := h.resolver
  have unseen := Snapshot.UpToTraces.unseen s
  refine ⟨⟨?_, ?_⟩, fun _ => ⟨?_, ?_, ?_⟩⟩
  · rw [delegate]
    exact fetcher.fetcher_detached
  · exact h.adapters_hold Adapters.standard_detached Future.ready_detached
      Future.ofChannel_detached Stream.ofList_detached
  · rw [delegate]
    exact fetcher.fetcher_keeps unseen (.sets s)
  · rw [resolver]
    exact spec.resolver_keeps unseen
  · exact h.adapters_hold (Adapters.standard_keeps unseen) (Future.ready_keeps _)
      (Future.ofChannel_keeps unseen) (Stream.ofList_keeps _)

end Decorator.Described
end Fieldwork
