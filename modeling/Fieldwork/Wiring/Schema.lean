import Fieldwork.Schema.Coordinates
/-!
Schemas as far as fetchers need them: which types have which fields, and which type is the root of
subscriptions.
-/
namespace Fieldwork.Schema

inductive TypeKind
  | object
  | interface
  | union
  | enum
  | input
  | scalar
  deriving DecidableEq, Repr

def TypeKind.hasFields : TypeKind → Bool
  | object | interface => true
  | _ => false

structure TypeDefinition where
  kind : TypeKind
  fields : List String
  deriving DecidableEq, Repr

def TypeDefinition.fetched (t : TypeDefinition) : List String :=
  if t.kind.hasFields then t.fields else []

/-- One definition of a schema text: a new type, or more fields for a type of that name. -/
structure Entry where
  name : String
  definition : TypeDefinition
  extends? : Bool := false
  deriving DecidableEq, Repr

structure Document where
  types : Dict String TypeDefinition
  subscription : Option String
  deriving DecidableEq, Repr

namespace Document

/-- The types that every schema has for the introspection of itself. -/
def introspection : Dict String TypeDefinition :=
  [("__Schema", ⟨.object,
     ["description", "types", "queryType", "mutationType", "subscriptionType", "directives"]⟩),
   ("__Type", ⟨.object,
     ["kind", "name", "description", "fields", "interfaces", "possibleTypes", "enumValues",
      "inputFields", "ofType", "specifiedByURL"]⟩),
   ("__Field", ⟨.object,
     ["name", "description", "args", "type", "isDeprecated", "deprecationReason"]⟩),
   ("__InputValue", ⟨.object,
     ["name", "description", "type", "defaultValue", "isDeprecated", "deprecationReason"]⟩),
   ("__EnumValue", ⟨.object, ["name", "description", "isDeprecated", "deprecationReason"]⟩),
   ("__Directive", ⟨.object, ["name", "description", "locations", "args", "isRepeatable"]⟩)]

def define (types : Dict String TypeDefinition) (e : Entry) : Dict String TypeDefinition :=
  if Dict.contains types e.name then types else Dict.insert types e.name e.definition

/-- More fields go to a type of the same kind only. -/
def extend (types : Dict String TypeDefinition) (e : Entry) : Dict String TypeDefinition :=
  match Dict.get? types e.name with
  | none => types
  | some d =>
    if d.kind = e.definition.kind then
      Dict.insert types e.name { d with fields := d.fields ++ e.definition.fields }
    else types

/-- More fields for a type may stand before its definition. -/
def enterAll (entries : List Entry) : Dict String TypeDefinition :=
  (entries.filter (·.extends?)).foldl extend
    ((entries.filter (!·.extends?)).foldl define introspection)

/-- The subscription root where the schema does not name its roots; it is an object type. -/
def impliedSubscription (types : Dict String TypeDefinition) : Option String :=
  if (Dict.get? types "Subscription").any (·.kind = .object) then some "Subscription" else none

def ofEntries (entries : List Entry) (roots : Option (Option String)) : Document :=
  let types := enterAll entries
  { types, subscription := roots.getD (impliedSubscription types) }

def isSubscription (d : Document) (c : Coordinates) : Bool := d.subscription = some c.type

def coordinates (d : Document) : List Coordinates :=
  d.types.flatMap fun t => t.2.fetched.map fun field => ⟨t.1, field⟩

def fields (d : Document) : Dict Coordinates Bool :=
  .ofList (d.coordinates.map fun c => (c, d.isSubscription c))

end Document
end Fieldwork.Schema
