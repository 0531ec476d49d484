import Fieldwork.Proofs.Field.Taken

/-!
The order of adapters. A foreign value is offered to one adapter after the other, and the first that
takes it decides. Who is asked shows in what is done while a value is classified, so adapters are
also looked at that do something to the store when they are asked.

Which adapters refuse a value, and where they stand, does not count. Adapters that are typed with
different types never take the same value, so their order does not count either.
-/
namespace Fieldwork

/-- An adapter that may do something when it is asked. -/
abbrev ActiveAdapter := Foreign → Store → Option Adapted × Store

namespace ActiveAdapter

def offer (x : Foreign) : List ActiveAdapter → Store → Option Adapted × Store
  | [], st => (none, st)
  | a :: as, st =>
    match a x st with
    | (some y, st) => (some y, st)
    | (none, st) => offer x as st

def classify (as : List ActiveAdapter) : FieldValue → Store → Classified × Store
  | .future f, st => (.single f, st)
  | .stream t, st => (.stream t, st)
  | .foreign x, st =>
    let (y, st) := offer x as st
    ((y.map Classified.ofAdapted).getD (.passthrough (.foreign x)), st)
  | .value v, st => (.passthrough (.value v), st)
  | .result data errors handed, st => (.passthrough (.result data errors handed), st)

end ActiveAdapter

namespace Adapters

def noting (as : Adapters) (first : Nat := 0) : List ActiveAdapter :=
  (as.zipIdx first).map fun e x st => (e.1 x, st.note (.int e.2))

/-- How many adapters are asked: those up to the first that takes the value. -/
def asked (as : Adapters) : FieldValue → Nat
  | .foreign x => min as.length (as.findIdx (fun a => (a x).isSome) + 1)
  | _ => 0

/-- What values are sorted into. Only foreign ones depend on the adapters. -/
inductive Sorts (as : Adapters) : FieldValue → Classified → Prop
  | future (f : Future) : Sorts as (.future f) (.single f)
  | stream (t : Stream) : Sorts as (.stream t) (.stream t)
  | value (v : Json.Value) : Sorts as (.value v) (.passthrough (.value v))
  | result (data : FieldValue) (errors : List Response.Error) (handed : Option LocalContext) :
      Sorts as (.result data errors handed) (.passthrough (.result data errors handed))
  | taken (order : as = before ++ a :: after) (refused : ∀ b ∈ before, b x = none)
      (taken : a x = some y) : Sorts as (.foreign x) (.ofAdapted y)
  | refused (refused : ∀ a ∈ as, a x = none) : Sorts as (.foreign x) (.passthrough (.foreign x))

/-- The second list is the first without some adapters that refuse the value. -/
inductive Thins (x : Foreign) : Adapters → Adapters → Prop
  | nil : Thins x [] []
  | keep (a : Adapter) (rest : Thins x as bs) : Thins x (a :: as) (a :: bs)
  | leave (refuses : a x = none) (rest : Thins x as bs) : Thins x (a :: as) bs

def typed (kinds : List (ForeignKind × (Foreign → Adapted))) : Adapters :=
  kinds.map fun e => .typed e.1 e.2

variable {as bs : Adapters} {v : FieldValue} {x : Foreign}

theorem adapt_cons (a : Adapter) (as : Adapters) (x : Foreign) :
    adapt (a :: as) x = (a x).or (as.adapt x) := by
  unfold adapt
  rw [List.findSome?_cons]
  cases a x <;> rfl

theorem adapt_append (as more : Adapters) (x : Foreign) :
    adapt (as ++ more) x = (as.adapt x).or (more.adapt x) :=
  List.findSome?_append

theorem classify_congr (same : as.adapt x = bs.adapt x) :
    as.classify (.foreign x) = bs.classify (.foreign x) := by
  simp only [classify, same]

theorem classify_eq_iff {c : Classified} : as.classify v = c ↔ as.Sorts v c := by
  constructor
  · rintro rfl
    cases v with
    | future f => exact .future f
    | stream t => exact .stream t
    | value v => exact .value v
    | result data errors handed => exact .result data errors handed
    | foreign x =>
      by_cases taken : ∃ y, as.Takes (.foreign x) y
      · obtain ⟨y, taken⟩ := taken
        rw [classify_of_takes taken]
        cases taken with
        | foreign order refused taken => exact .taken order refused taken
      · have refused := not_exists.mp taken
        rw [classify_of_not_takes refused]
        refine .refused fun a mem => ?_
        have none : as.adapt x = none :=
          Option.eq_none_iff_forall_ne_some.mpr fun y adapted =>
            refused y (takes_foreign_iff.mpr adapted)
        exact List.findSome?_eq_none_iff.mp none a mem
  · intro sorts
    cases sorts with
    | future f => rfl
    | stream t => rfl
    | value v => rfl
    | result data errors handed => rfl
    | taken order refused taken => exact classify_of_takes (.foreign order refused taken)
    | refused refused =>
      have none : as.adapt _ = none := List.findSome?_eq_none_iff.mpr refused
      simp [classify, none]

theorem Thins.adapt (h : Thins x as bs) : bs.adapt x = as.adapt x := by
  induction h with
  | nil => rfl
  | keep a rest ih => rw [adapt_cons, adapt_cons, ih]
  | leave refuses rest ih => rw [adapt_cons, refuses, ih, Option.none_or]

theorem classify_append (taken : ∀ w, as.classify v ≠ .passthrough w) (more : Adapters) :
    classify (as ++ more) v = as.classify v := by
  cases v with
  | foreign x =>
    refine classify_congr ?_
    rw [adapt_append]
    cases adapted : as.adapt x with
    | some y => rfl
    | none => exact absurd (by simp [classify, adapted]) (taken (.foreign x))
  | future f => rfl
  | stream t => rfl
  | value v => rfl
  | result data errors handed => rfl

def Apart (a b : Adapter) : Prop := ∀ x, a x = none ∨ b x = none

theorem Apart.symm {a b : Adapter} (h : Apart a b) : Apart b a := fun x => (h x).symm

theorem adapt_perm (apart : as.Pairwise Apart) (perm : as.Perm bs) (x : Foreign) :
    as.adapt x = bs.adapt x := by
  induction perm with
  | nil => rfl
  | cons a _ ih => rw [adapt_cons, adapt_cons, ih (List.pairwise_cons.mp apart).2]
  | swap a b l =>
    have one : b x = none ∨ a x = none := (List.pairwise_cons.mp apart).1 a List.mem_cons_self x
    simp only [adapt_cons]
    rcases one with none | none <;> simp [none]
  | trans first _ ih ih' =>
    exact (ih apart).trans (ih' (first.pairwise apart Apart.symm))

theorem typed_refuses {kind : ForeignKind} {g : Foreign → Adapted} (other : x.kind ≠ kind) :
    Adapter.typed kind g x = none := if_neg other

theorem typed_takes {kind : ForeignKind} (g : Foreign → Adapted) (same : x.kind = kind) :
    Adapter.typed kind g x = some (g x) := if_pos same

theorem typed_apart {kinds : List (ForeignKind × (Foreign → Adapted))}
    (distinct : (kinds.map (·.1)).Nodup) : (typed kinds).Pairwise Apart := by
  refine List.pairwise_map.mpr ((List.pairwise_map.mp distinct).imp ?_)
  intro e e' ne x
  by_cases same : x.kind = e.1
  · exact .inr (typed_refuses (same ▸ ne))
  · exact .inl (typed_refuses same)

theorem adapt_typed_perm {kinds kinds' : List (ForeignKind × (Foreign → Adapted))}
    (distinct : (kinds.map (·.1)).Nodup) (perm : kinds.Perm kinds') (x : Foreign) :
    (typed kinds).adapt x = (typed kinds').adapt x := by
  have listed : List.Perm (typed kinds) (typed kinds') := perm.map _
  exact adapt_perm (typed_apart distinct) listed x

theorem adapt_again (before mid after : Adapters) (kind : ForeignKind) (f g : Foreign → Adapted)
    (x : Foreign) :
    adapt (before ++ .typed kind f :: (mid ++ .typed kind g :: after)) x =
      adapt (before ++ .typed kind f :: (mid ++ after)) x := by
  simp only [adapt_append, adapt_cons]
  by_cases same : x.kind = kind
  · rw [typed_takes f same, Option.some_or, Option.some_or]
  · rw [typed_refuses (g := g) same, Option.none_or]

section Noting

theorem asked_of_takes {a : Adapter} (as : Adapters) {y : Adapted} (taken : a x = some y) :
    asked (a :: as) (.foreign x) = 1 := by
  simp [asked, List.findIdx_cons, taken]

theorem asked_of_refuses {a : Adapter} (as : Adapters) (refused : a x = none) :
    asked (a :: as) (.foreign x) = as.asked (.foreign x) + 1 := by
  simp only [asked, List.findIdx_cons, refused, List.length_cons]
  exact Nat.succ_min_succ _ _

theorem asked_le (before after : Adapters) {a : Adapter} {y : Adapted} (taken : a x = some y) :
    asked (before ++ a :: after) (.foreign x) ≤ before.length + 1 := by
  induction before with
  | nil => exact Nat.le_of_eq (asked_of_takes after taken)
  | cons b before ih =>
    cases first : b x with
    | some z =>
      rw [List.cons_append, asked_of_takes _ first]
      exact Nat.succ_le_succ (Nat.zero_le _)
    | none =>
      rw [List.cons_append, asked_of_refuses _ first]
      exact Nat.succ_le_succ ih

theorem offer_noting (as : Adapters) (first : Nat) (st : Store) :
    ActiveAdapter.offer x (as.noting first) st =
      (as.adapt x, { st with
        log := st.log ++ (List.range' first (as.asked (.foreign x))).map fun n => .int n }) := by
  induction as generalizing first st with
  | nil => simp [noting, ActiveAdapter.offer, adapt, asked]
  | cons a as ih =>
    have head : noting (a :: as) first =
        (fun x st => (a x, st.note (.int first))) :: noting as (first + 1) := rfl
    rw [head, ActiveAdapter.offer, adapt_cons]
    cases taken : a x with
    | some y => simp [asked_of_takes as taken, Store.note]
    | none =>
      simp only [ih, asked_of_refuses as taken, Option.none_or, List.range'_succ]
      simp [Store.note]

theorem classify_noting (as : Adapters) (v : FieldValue) (st : Store) :
    ActiveAdapter.classify as.noting v st =
      (as.classify v, { st with
        log := st.log ++ (List.range (as.asked v)).map fun n => .int n }) := by
  cases v with
  | foreign x =>
    simp only [ActiveAdapter.classify, offer_noting, ← List.range_eq_range']
    rfl
  | future f => simp [ActiveAdapter.classify, asked, classify]
  | stream t => simp [ActiveAdapter.classify, asked, classify]
  | value v => simp [ActiveAdapter.classify, asked, classify]
  | result data errors handed => simp [ActiveAdapter.classify, asked, classify]

end Noting
end Adapters

open Adapters

/-- Values are sorted by the first adapter that takes them, and as they are if none does; the
adapters after that one, and for values that are not foreign all of them, are not asked. So further
adapters do not matter for what is taken already, nor do those that refuse a value, nor a second one
for a type, nor the order of those for different types. -/
theorem first_adapter_decides (as : Adapters) :
    (∀ v c, as.classify v = c ↔ as.Sorts v c) ∧
    (∀ v st, ActiveAdapter.classify as.noting v st =
      (as.classify v, { st with
        log := st.log ++ (List.range (as.asked v)).map fun n => .int n })) ∧
    (∀ v more, (∀ w, as.classify v ≠ .passthrough w) →
      classify (as ++ more) v = as.classify v) ∧
    (∀ x bs, Thins x as bs → bs.classify (.foreign x) = as.classify (.foreign x)) ∧
    (∀ kind f g mid after,
      let again := as ++ .typed kind f :: (mid ++ .typed kind g :: after)
      (∀ v, classify again v = classify (as ++ .typed kind f :: (mid ++ after)) v) ∧
        ∀ x, x.kind = kind → asked again (.foreign x) ≤ as.length + 1) ∧
    ∀ kinds kinds' after v, (kinds.map (·.1)).Nodup → kinds.Perm kinds' →
      classify (as ++ typed kinds ++ after) v = classify (as ++ typed kinds' ++ after) v := by
  refine ⟨fun v c => classify_eq_iff, as.classify_noting, fun v more taken => ?_, ?_, ?_, ?_⟩
  · exact classify_append taken more
  · intro x bs thins
    exact classify_congr thins.adapt
  · intro kind f g mid after again
    refine ⟨fun v => ?_, fun x same => asked_le as _ (typed_takes f same)⟩
    cases v with
    | foreign x => exact classify_congr (adapt_again as mid after kind f g x)
    | _ => rfl
  · intro kinds kinds' after v distinct perm
    cases v with
    | foreign x =>
      refine classify_congr ?_
      simp only [adapt_append, adapt_typed_perm distinct perm x]
    | _ => rfl

example (f g : Foreign → Adapted) :
    asked [.typed (.other "ticks") f, .typed (.other "later") g, .typed (.other "later") f]
      (.foreign (.other "later" .null)) = 2 := by
  rfl

end Fieldwork
