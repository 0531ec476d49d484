import Fieldwork.Proofs.Dict
import Fieldwork.Wiring.Table

/-!
What installing does to a wiring that has been built by registrations. The fields keep their order,
and each fetcher is decorated once or not at all, as its kind and the schema say. The table of the
schema's fields is filled type by type; `HasField` says what it holds.
-/
namespace Fieldwork

namespace Schema.Document

/-- The coordinates name a field of an object or interface type. -/
def HasField (d : Document) (c : Coordinates) : Prop :=
  ∃ t ∈ d.types, t.1 = c.type ∧ (t.2.kind = .object ∨ t.2.kind = .interface) ∧ c.field ∈ t.2.fields

instance (d : Document) (c : Coordinates) : Decidable (d.HasField c) :=
  inferInstanceAs (Decidable (∃ t ∈ d.types, _))

theorem mem_fetched {t : TypeDefinition} {field : String} :
    field ∈ t.fetched ↔ (t.kind = .object ∨ t.kind = .interface) ∧ field ∈ t.fields := by
  unfold TypeDefinition.fetched
  cases t.kind <;> simp [TypeKind.hasFields]

theorem mem_coordinates {d : Document} {c : Coordinates} : c ∈ d.coordinates ↔ d.HasField c := by
  simp only [coordinates, List.mem_flatMap, List.mem_map, mem_fetched, HasField]
  constructor
  · rintro ⟨t, mem, field, ⟨kind, listed⟩, rfl⟩
    exact ⟨t, mem, rfl, kind, listed⟩
  · rintro ⟨t, mem, type, kind, listed⟩
    exact ⟨t, mem, c.field, ⟨kind, listed⟩, congrArg (Coordinates.mk · c.field) type⟩

theorem get?_fields (d : Document) (c : Coordinates) :
    Dict.get? d.fields c = if d.HasField c then some (d.isSubscription c) else none := by
  unfold fields Dict.ofList
  rw [Dict.get?_insertAll_map]
  simp only [mem_coordinates, Dict.get?_nil]

end Schema.Document

theorem Schema.Kind.isEligible_iff (k : Kind) :
    k.isEligible = true ↔ k ∈ [.application, .engine .factory, .engine .validation] := by
  cases k with
  | application => simp [isEligible]
  | trivial => simp [isEligible]
  | engine e => cases e <;> simp [isEligible]

namespace Wiring

def built (registrations : List (Fetcher × List Schema.Coordinates)) : Wiring :=
  registrations.foldl (fun w r => w.register r.1 r.2) []

variable {registrations : List (Fetcher × List Schema.Coordinates)}

theorem register_eq (w : Wiring) (f : Fetcher) (fields : List Schema.Coordinates) :
    w.register f fields = Dict.insertAll w (fields.map fun c => (c, f)) := by
  simp only [register, Dict.insertAll, List.foldl_map]

theorem built_eq : built registrations =
    .ofList (registrations.flatMap fun r => r.2.map fun c => (c, r.1)) := by
  unfold built Dict.ofList
  generalize ([] : Wiring) = w
  induction registrations generalizing w with
  | nil => rfl
  | cons r rest ih =>
    rw [List.foldl_cons, ih, register_eq, List.flatMap_cons]
    simp only [Dict.insertAll, List.foldl_append]

theorem nodup_built : (Dict.keys (built registrations)).Nodup := by
  rw [built_eq]
  exact Dict.nodup_insertAll (d := []) List.nodup_nil _

theorem keys_built :
    Dict.keys (built registrations) = (registrations.flatMap (·.2)).eraseDups := by
  have entered : Dict.keys (registrations.flatMap fun r => r.2.map fun c => (c, r.1)) =
      registrations.flatMap (·.2) := by
    simp [Dict.keys, List.map_flatMap, Function.comp_def]
  rw [built_eq, Dict.ofList, Dict.keys_insertAll (d := []) List.nodup_nil, entered]
  rfl

theorem get?_built (c : Schema.Coordinates) :
    Dict.get? (built registrations) c =
      (registrations.reverse.find? fun r => decide (c ∈ r.2)).map (·.1) := by
  unfold built
  rw [← registrations.reverse_reverse, List.foldl_reverse, List.reverse_reverse]
  induction registrations.reverse with
  | nil => rfl
  | cons r before ih =>
    rw [List.foldr_cons, register_eq, Dict.get?_insertAll_map, ih]
    by_cases last : c ∈ r.2 <;> simp [last]

end Wiring

namespace Installer

variable {i : Installer} {d : Schema.Document} {w : Wiring}

theorem install_eq (nodup : (Dict.keys w).Nodup) :
    i.install d w = w.map fun e => (e.1, i.decorate d.fields e.1 e.2) := by
  have same : Dict.keys (w.map fun e => (e.1, i.decorate d.fields e.1 e.2)) = Dict.keys w := by
    simp [Dict.keys, Function.comp_def]
  exact Dict.insertAll_of_nodup (d := []) (by rw [List.nil_append, same]; exact nodup)

theorem keys_install (nodup : (Dict.keys w).Nodup) :
    Dict.keys (i.install d w) = Dict.keys w := by
  simp [install_eq nodup, Dict.keys, Function.comp_def]

theorem get?_install (nodup : (Dict.keys w).Nodup) (c : Schema.Coordinates) :
    Dict.get? (i.install d w) c = (Dict.get? w c).map (i.decorate d.fields c) := by
  rw [install_eq nodup, Dict.get?_map w (i.decorate d.fields)]

/-- Whether installing decorates the fetcher of a field. -/
def Decorates (d : Schema.Document) (c : Schema.Coordinates) (f : Fetcher) : Prop :=
  d.HasField c ∧ f.kind ∈ [.application, .engine .factory, .engine .validation]

instance (c : Schema.Coordinates) (f : Fetcher) : Decidable (Decorates d c f) :=
  inferInstanceAs (Decidable (_ ∧ _))

theorem decorate_eq (c : Schema.Coordinates) (f : Fetcher) :
    i.decorate d.fields c f =
      if Decorates d c f then (i.decorator (d.isSubscription c) f).fetcher else f := by
  simp only [decorate, d.get?_fields, Decorates, ← Schema.Kind.isEligible_iff]
  by_cases field : d.HasField c <;> simp [field]

theorem decorate_shows (fields : Dict Schema.Coordinates Bool) (c : Schema.Coordinates)
    (f : Fetcher) :
    (i.decorate fields c f).kind = f.kind ∧ (i.decorate fields c f).about? = f.about? := by
  unfold decorate
  split
  · exact ⟨rfl, rfl⟩
  · split <;> exact ⟨rfl, rfl⟩

def installAll (passes : List (Installer × Schema.Document)) (w : Wiring) : Wiring :=
  passes.foldl (fun w p => p.1.install p.2 w) w

theorem installAll_keeps (passes : List (Installer × Schema.Document))
    (nodup : (Dict.keys w).Nodup) :
    Dict.keys (installAll passes w) = Dict.keys w ∧
      ∀ c, (Dict.get? (installAll passes w) c).map (fun f => (f.kind, f.about?)) =
        (Dict.get? w c).map fun f => (f.kind, f.about?) := by
  induction passes generalizing w with
  | nil => exact ⟨rfl, fun _ => rfl⟩
  | cons p passes ih =>
    have first := keys_install (i := p.1) (d := p.2) nodup
    obtain ⟨order, shown⟩ := ih (w := p.1.install p.2 w) (first ▸ nodup)
    refine ⟨order.trans first, ?_⟩
    intro c
    refine (shown c).trans ?_
    rw [get?_install nodup, Option.map_map]
    congr 1
    funext f
    obtain ⟨kind, about⟩ := p.1.decorate_shows p.2.fields c f
    exact Prod.ext kind about

end Installer

open Wiring Installer

/-- A wiring that has been built by registrations has its fields in the order of their first
registration, with the fetchers of the last. Installing keeps the order and decorates, once, the
fetchers of eligible kinds for fields of the schema's object and interface types; all others stay
as they are. No number of passes changes what a fetcher tells of itself. -/
theorem install_exact (i : Installer) (d : Schema.Document)
    (registrations : List (Fetcher × List Schema.Coordinates)) :
    let w := built registrations
    Dict.keys w = (registrations.flatMap (·.2)).eraseDups ∧
    (∀ c, Dict.get? w c = (registrations.reverse.find? fun r => decide (c ∈ r.2)).map (·.1)) ∧
    Dict.keys (i.install d w) = Dict.keys w ∧
    (∀ c, Dict.get? (i.install d w) c = (Dict.get? w c).map fun f =>
      if Decorates d c f then
        ({ delegate := f
           subscription := decide (d.subscription = some c.type)
           resolver := .composite i.resolvers
           adapters := i.adapters } : Decorator).fetcher
      else f) ∧
    ∀ passes : List (Installer × Schema.Document),
      Dict.keys (installAll passes w) = Dict.keys w ∧
        ∀ c, (Dict.get? (installAll passes w) c).map (fun f => (f.kind, f.about?)) =
          (Dict.get? w c).map fun f => (f.kind, f.about?) := by
  intro w
  have nodup : (Dict.keys w).Nodup := nodup_built
  refine ⟨keys_built, get?_built, keys_install nodup, ?_, fun passes => installAll_keeps passes nodup⟩
  intro c
  rw [get?_install nodup]
  congr 1
  funext f
  exact decorate_eq c f

end Fieldwork
