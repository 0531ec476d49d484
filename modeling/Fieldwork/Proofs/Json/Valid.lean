import Fieldwork.Json.Value
import Mathlib.Tactic.MkIffOfInductiveProp

/-!
What JSON schemas mean. A schema is a JSON value itself: `true`, or an object whose keywords each
say something about some of the values and nothing about the others. A reference to a definition
stands for it, whatever else is in the object. Keywords that only describe say nothing.

The keywords are those of the schemas of this library: `type`, `required`, `properties`,
`additionalProperties`, `items` with one schema for all items, `allOf`, and references into the
`definitions` of the document.
-/
namespace Fieldwork.Json.Value

/-- The name of the type of a value. Whole numbers have none of their own here. -/
def typeName : Value → String
  | null => "null"
  | bool _ => "boolean"
  | int _ => "number"
  | float _ => "number"
  | string _ => "string"
  | array _ => "array"
  | object _ => "object"

def HasType (type v : Value) : Prop :=
  type = .string v.typeName ∨ ∃ types, type = .array types ∧ .string v.typeName ∈ types

def member? (v : Value) (key : String) : Option Value := v.object?.bind fun m => Dict.get? m key

/-- What the keywords of an object ask of a value, where `holds` says what the schemas in it do. -/
@[mk_iff]
structure Meets (holds : (schema v : Value) → Prop) (m : Object) (v : Value) : Prop where
  type : ∀ t, Dict.get? m "type" = some t → HasType t v
  required : ∀ names, Dict.get? m "required" = some (.array names) →
    ∀ ms, v = .object ms → ∀ name, .string name ∈ names → name ∈ Dict.keys ms
  properties : ∀ ps, Dict.get? m "properties" = some (.object ps) →
    ∀ ms, v = .object ms → ∀ e ∈ ms, ∀ s, Dict.get? ps e.1 = some s → holds s e.2
  additional : ∀ s, Dict.get? m "additionalProperties" = some s →
    ∀ ms, v = .object ms → ∀ e ∈ ms,
      (∀ ps, Dict.get? m "properties" = some (.object ps) → Dict.get? ps e.1 = none) → holds s e.2
  items : ∀ s, Dict.get? m "items" = some s → ∀ vs, v = .array vs → ∀ x ∈ vs, holds s x
  allOf : ∀ schemas, Dict.get? m "allOf" = some (.array schemas) → ∀ s ∈ schemas, holds s v

/-- `v` is valid against `schema`, which stands in the document `root`. -/
inductive Valid (root : Value) : (schema v : Value) → Prop
  | any : Valid root (.bool true) v
  | reference (stated : Dict.get? m "$ref" = some (.string ("#/definitions/" ++ name)))
      (defined : (root.member? "definitions").bind (·.member? name) = some s)
      (valid : Valid root s v) : Valid root (.object m) v
  | keywords (own : Dict.get? m "$ref" = none) (meets : Meets holds m v)
      (inner : ∀ s x, holds s x → Valid root s x) : Valid root (.object m) v

variable {root v s t : Value} {m ps : Object} {name : String} {holds holds' : Value → Value → Prop}

theorem Meets.mono (meets : Meets holds m v) (more : ∀ s x, holds s x → holds' s x) :
    Meets holds' m v where
  type := meets.type
  required := meets.required
  properties ps here ms object e mem s found :=
    more _ _ (meets.properties ps here ms object e mem s found)
  additional s here ms object e mem other :=
    more _ _ (meets.additional s here ms object e mem other)
  items s here vs array x mem := more _ _ (meets.items s here vs array x mem)
  allOf schemas here s mem := more _ _ (meets.allOf schemas here s mem)

theorem valid_iff_meets (own : Dict.get? m "$ref" = none) :
    Valid root (.object m) v ↔ Meets (Valid root) m v := by
  constructor
  · intro valid
    cases valid with
    | reference stated => cases own.symm.trans stated
    | keywords _ meets inner => exact meets.mono inner
  · intro meets
    exact .keywords own meets fun _ _ => id

theorem valid_reference_iff
    (stated : Dict.get? m "$ref" = some (.string ("#/definitions/" ++ name)))
    (defined : (root.member? "definitions").bind (·.member? name) = some s) :
    Valid root (.object m) v ↔ Valid root s v := by
  constructor
  · intro valid
    cases valid with
    | reference stated' defined' valid =>
      -- One reference names one definition: what stands before the name is fixed.
      have same := Option.some.inj (stated.symm.trans stated')
      rw [string.injEq, String.append_right_inj] at same
      rw [← same, defined] at defined'
      exact Option.some.inj defined' ▸ valid
    | keywords own _ _ => cases own.symm.trans stated
  · exact .reference stated defined

theorem not_valid_false : ¬ Valid root (.bool false) v := nofun

theorem valid_record_iff (own : Dict.get? m "$ref" = none)
    (type : Dict.get? m "type" = some (.string "object"))
    (properties : Dict.get? m "properties" = some (.object ps))
    (closed : Dict.get? m "additionalProperties" = some (.bool false))
    (optional : Dict.get? m "required" = none) (alone : Dict.get? m "allOf" = none) :
    Valid root (.object m) v ↔
      ∃ ms, v = .object ms ∧ ∀ e ∈ ms, ∃ s, Dict.get? ps e.1 = some s ∧ Valid root s e.2 := by
  rw [valid_iff_meets own]
  constructor
  · intro meets
    have object : ∃ ms, v = .object ms := by
      have typed := meets.type _ type
      cases v <;> simp [HasType, typeName] at typed
      exact ⟨_, rfl⟩
    obtain ⟨ms, rfl⟩ := object
    refine ⟨ms, rfl, ?_⟩
    intro e mem
    cases found : Dict.get? ps e.1 with
    | some s => exact ⟨s, rfl, meets.properties ps properties ms rfl e mem s found⟩
    | none =>
      have other : ∀ qs, Dict.get? m "properties" = some (.object qs) →
          Dict.get? qs e.1 = none := by
        intro qs here
        cases properties.symm.trans here
        exact found
      exact absurd (meets.additional _ closed ms rfl e mem other) not_valid_false
  · rintro ⟨ms, rfl, each⟩
    constructor
    · intro t here
      cases type.symm.trans here
      exact .inl rfl
    · intro names here
      cases optional.symm.trans here
    · rintro qs here _ ⟨⟩ e mem s found
      cases properties.symm.trans here
      obtain ⟨s', found', valid⟩ := each e mem
      cases found.symm.trans found'
      exact valid
    · rintro s here _ ⟨⟩ e mem other
      obtain ⟨s', found', -⟩ := each e mem
      cases (other ps properties).symm.trans found'
    · rintro s here _ ⟨⟩
    · intro schemas here
      cases alone.symm.trans here

end Fieldwork.Json.Value
