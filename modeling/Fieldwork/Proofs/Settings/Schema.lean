import Fieldwork.Proofs.Json.Valid
import Fieldwork.Proofs.Settings.Format
import Fieldwork.Settings.JsonSchema

/-!
The published schema and the reader of settings agree on values in which neither the settings nor
their options are given as lists: the schema describes the form with names only. Both are told
member by member, so it is one comparison for each of the three keys.
-/
namespace Fieldwork

open Json.Value (Valid HasType EntryOr ListOf OrNull valid_iff_meets meets_iff exists_forall₂_iff
  exists_entryOr_iff)

variable {v root s t text preset : Json.Value} {m : Json.Object}

section Described

/-! Schemas of one key, with what describes them: a text and a default. -/

theorem valid_typed_iff :
    Valid root (.object [("description", text), ("default", preset), ("type", t)]) v ↔
      HasType t v := by
  rw [valid_iff_meets rfl, meets_iff]
  simp [Dict.get?]

theorem valid_listed_iff :
    Valid root (.object [("description", text), ("default", preset), ("type", t), ("items", s)]) v ↔
      HasType t v ∧ ∀ items, v = .array items → ∀ x ∈ items, Valid root s x := by
  rw [valid_iff_meets rfl, meets_iff]
  simp [Dict.get?]

theorem valid_linked_iff :
    Valid root (.object [("description", text), ("default", preset), ("allOf", .array [s])]) v ↔
      Valid root s v := by
  rw [valid_iff_meets rfl, meets_iff]
  simp [Dict.get?]

end Described

theorem hasType_boolean_iff : HasType (.string "boolean") v ↔ ∃ b, v = .bool b := by
  cases v <;> simp [HasType, Json.Value.typeName]

theorem hasType_string_iff : HasType (.string "string") v ↔ ∃ s, v = .string s := by
  cases v <;> simp [HasType, Json.Value.typeName]

theorem hasType_nullable_iff :
    HasType (.array [.string "array", .string "null"]) v ↔
      v = .null ∨ ∃ items, v = .array items := by
  cases v <;> simp [HasType, Json.Value.typeName]

namespace Propagation

theorem exists_keysWritten_iff :
    (∃ keys, KeysWritten v keys) ↔
      v = .null ∨ ∃ items, v = .array items ∧ ∀ x ∈ items, ∃ s, x = .string s := by
  constructor
  · rintro ⟨_, written⟩
    cases written with
    | null => exact .inl rfl
    | present _ listed =>
      obtain ⟨items, rfl, read⟩ := listed
      exact .inr ⟨items, rfl, exists_forall₂_iff.mp ⟨_, read⟩⟩
  · rintro (rfl | ⟨items, rfl, each⟩)
    · exact ⟨none, .null⟩
    · obtain ⟨keys, read⟩ := exists_forall₂_iff.mpr each
      exact ⟨some keys, .present Json.Value.noConfusion ⟨items, rfl, read⟩⟩

theorem valid_keys_iff :
    Valid root (.object [("description", text), ("default", preset),
        ("type", .array [.string "array", .string "null"]),
        ("items", .object [("type", .string "string")])]) v ↔ ∃ keys, KeysWritten v keys := by
  have item : ∀ x, Valid root (.object [("type", .string "string")]) x ↔ ∃ s, x = .string s := by
    intro x
    rw [valid_iff_meets rfl, meets_iff, ← hasType_string_iff]
    simp [Dict.get?]
  rw [valid_listed_iff, hasType_nullable_iff, exists_keysWritten_iff]
  simp only [item]
  constructor
  · rintro ⟨rfl | ⟨items, rfl⟩, each⟩
    · exact .inl rfl
    · exact .inr ⟨items, rfl, each items rfl⟩
  · rintro (rfl | ⟨items, rfl, each⟩)
    · refine ⟨.inl rfl, ?_⟩
      rintro _ ⟨⟩
    · refine ⟨.inr ⟨items, rfl⟩, ?_⟩
      rintro _ ⟨⟩
      exact each

def MemberWritten (e : String × Json.Value) : Prop :=
  e.1 = "clear_missing" ∧ (∃ b, e.2 = .bool b) ∨
    e.1 = "capture_keys" ∧ ∃ keys, KeysWritten e.2 keys

theorem exists_written_iff (named : ∀ items, v ≠ .array items) :
    (∃ p, Written v p) ↔ ∃ m, v = .object m ∧ ∀ e ∈ m, MemberWritten e := by
  constructor
  · rintro ⟨p, written⟩
    cases written with
    | object known spelled =>
      refine ⟨_, rfl, ?_⟩
      rintro ⟨name, x⟩ mem
      rcases known _ mem with rfl | rfl
      · exact .inl ⟨rfl, spelled.clearMissing.reads mem⟩
      · exact .inr ⟨rfl, spelled.captureKeys.reads mem⟩
    | empty => exact absurd rfl (named _)
    | one b => exact absurd rfl (named _)
    | both keys => exact absurd rfl (named _)
  · rintro ⟨m, rfl, each⟩
    have clear : ∃ b, EntryOr (fun v b => v = .bool b) "clear_missing" false m b := by
      rw [exists_entryOr_iff]
      intro x mem
      rcases each _ mem with ⟨_, read⟩ | ⟨other, _⟩
      · exact read
      · simp at other
    have keys : ∃ keys, EntryOr KeysWritten "capture_keys" none m keys := by
      rw [exists_entryOr_iff]
      intro x mem
      rcases each _ mem with ⟨other, _⟩ | ⟨_, read⟩
      · simp at other
      · exact read
    obtain ⟨b, clear⟩ := clear
    obtain ⟨keys, captured⟩ := keys
    exact ⟨⟨b, keys⟩, .object (fun e mem => (each e mem).imp And.left And.left) ⟨clear, captured⟩⟩

theorem valid_iff_memberWritten :
    Valid root Settings.propagationSchema v ↔ ∃ m, v = .object m ∧ ∀ e ∈ m, MemberWritten e := by
  rw [Settings.propagationSchema, Json.Value.valid_record_iff rfl rfl rfl rfl rfl rfl]
  refine exists_congr fun m => and_congr_right fun _ => forall₂_congr fun e _ => ?_
  by_cases clear : e.1 = "clear_missing"
  · simp [Dict.get?, MemberWritten, clear, valid_typed_iff, hasType_boolean_iff]
  · by_cases keys : e.1 = "capture_keys"
    · simp [Dict.get?, MemberWritten, keys, valid_keys_iff]
    · simp [Dict.get?, MemberWritten, clear, keys, Ne.symm clear, Ne.symm keys]

end Propagation

namespace Settings

theorem exists_written_iff (named : ∀ items, v ≠ .array items) :
    (∃ s, Written v s) ↔ ∃ m, v = .object m ∧
      ∀ e ∈ m, e.1 = "context_propagation" ∧ ∃ p, Propagation.Written e.2 p := by
  constructor
  · rintro ⟨s, written⟩
    cases written with
    | object known given =>
      refine ⟨_, rfl, ?_⟩
      rintro ⟨name, x⟩ mem
      obtain rfl := known _ mem
      exact ⟨rfl, given.reads mem⟩
    | empty => exact absurd rfl (named _)
    | one written => exact absurd rfl (named _)
  · rintro ⟨m, rfl, each⟩
    obtain ⟨p, given⟩ := exists_entryOr_iff.mpr fun x mem => (each _ mem).2
    exact ⟨⟨p⟩, .object (fun e mem => (each e mem).1) given⟩

theorem valid_iff_members :
    Valid jsonSchema jsonSchema v ↔ ∃ m, v = .object m ∧
      ∀ e ∈ m, e.1 = "context_propagation" ∧ Valid jsonSchema propagationSchema e.2 := by
  have defined : (jsonSchema.member? "definitions").bind (·.member? "ContextPropagation") =
      some propagationSchema := rfl
  have linked : ∀ x, Valid jsonSchema
      (.object [("$ref", .string "#/definitions/ContextPropagation")]) x ↔
        Valid jsonSchema propagationSchema x :=
    fun x => Json.Value.valid_reference_iff rfl defined
  -- The schema is opened; the document that its reference points into keeps its name.
  conv_lhs => arg 2; rw [jsonSchema]
  rw [Json.Value.valid_record_iff rfl rfl rfl rfl rfl rfl]
  refine exists_congr fun m => and_congr_right fun _ => forall₂_congr fun e _ => ?_
  by_cases known : e.1 = "context_propagation"
  · simp [Dict.get?, known, valid_linked_iff, linked]
  · simp [Dict.get?, known, Ne.symm known]

/-- Of the values that give settings and their options by name, the published schema admits exactly
those that can be read. -/
theorem schema_agrees (named : ∀ items, v ≠ .array items)
    (inner : ∀ m, v = .object m → ∀ x, ("context_propagation", x) ∈ m → ∀ items, x ≠ .array items) :
    Valid jsonSchema jsonSchema v ↔ ∃ s, ofJson v = .ok s := by
  have read : (∃ s, ofJson v = .ok s) ↔ ∃ s, Written v s := exists_congr fun s => reads_settings v s
  rw [read, exists_written_iff named, valid_iff_members]
  refine exists_congr fun m => and_congr_right fun object => forall₂_congr fun e mem => ?_
  refine and_congr_right fun known => ?_
  have options : ∀ items, e.2 ≠ .array items := by
    obtain ⟨name, x⟩ := e
    obtain rfl := known
    exact inner m object x mem
  rw [Propagation.valid_iff_memberWritten, Propagation.exists_written_iff options]

/-- Null stands for all keys, so it is admitted for the keys. It does not stand for a default, so
where a boolean is wanted it is not. -/
theorem schema_agrees_null :
    let options (m : List (String × Json.Value)) : Json.Value :=
      .object [("context_propagation", .object m)]
    let all := options [("capture_keys", .null), ("clear_missing", .bool true)]
    let unset := options [("capture_keys", .array [.string "tenant"]), ("clear_missing", .null)]
    Valid jsonSchema jsonSchema all ∧ ofJson all = .ok ⟨⟨true, none⟩⟩ ∧
      ¬ Valid jsonSchema jsonSchema unset ∧ ∀ s, ofJson unset ≠ .ok s := by
  intro options all unset
  have named : ∀ m items, options m ≠ .array items := fun _ _ => nofun
  have inner : ∀ m m', options m = .object m' → ∀ x, ("context_propagation", x) ∈ m' →
      ∀ items, x ≠ .array items := by
    rintro m _ ⟨⟩ x mem items
    obtain rfl : x = .object m := by simpa using mem
    nofun
  have refused : ∀ s, ofJson unset ≠ .ok s := nofun
  refine ⟨(schema_agrees (named _) (inner _)).mpr ⟨_, rfl⟩, rfl, ?_, refused⟩
  intro valid
  obtain ⟨s, read⟩ := (schema_agrees (named _) (inner _)).mp valid
  exact refused s read

end Settings
end Fieldwork
