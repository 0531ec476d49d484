import Fieldwork.Settings.Basic
/-!
The published JSON schema of the settings, for editors.
-/
namespace Fieldwork.Settings

def propagationSchema : Json.Value :=
  .object
    [("description", .string "Options of the [`ContextSnapshotFactory`](crate::ContextSnapshotFactory)."),
     ("type", .string "object"),
     ("properties", .object
       [("capture_keys", .object
          [("description", .string
              "Only propagate the thread-local values registered under these keys default: all keys"),
           ("default", .null),
           ("type", .array [.string "array", .string "null"]),
           ("items", .object [("type", .string "string")])]),
        ("clear_missing", .object
          [("description", .string
              "Reset thread-local values that have no captured value while a data fetcher runs default: false"),
           ("default", .bool false),
           ("type", .string "boolean")])]),
     ("additionalProperties", .bool false)]

def jsonSchema : Json.Value :=
  .object
    [("$schema", .string "http://json-schema.org/draft-07/schema#"),
     ("title", .string "Configuration"),
     ("description", .string "The configuration of the data fetcher decoration."),
     ("type", .string "object"),
     ("properties", .object
       [("context_propagation", .object
          [("description", .string "How thread-local state is propagated into data fetchers"),
           ("default", Propagation.toJson {}),
           ("allOf", .array [.object [("$ref", .string "#/definitions/ContextPropagation")]])])]),
     ("additionalProperties", .bool false),
     ("definitions", .object [("ContextPropagation", propagationSchema)])]

end Fieldwork.Settings
