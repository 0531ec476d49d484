import Fieldwork.Proofs.Json.Record
import Fieldwork.Proofs.Settings.Repeats
import Fieldwork.Slots.Snapshot

/-!
The JSON form of settings: which values are read, and as which settings. Unknown keys are refused,
what is left out has its default, and the keys to capture may be null, which means all of them,
where an empty list means none. Settings and their parts may be given as lists of their fields.
-/
namespace Fieldwork

open Json.Value (EntryOr ListOf OrNull Reads Gives Field readAll map_eq_ok entryOr_known listOf_map)

theorem toOption_eq_some_iff {ε α : Type} {r : Except ε α} {x : α} :
    r.toOption = some x ↔ r = .ok x := by
  cases r <;> simp [Except.toOption]

namespace Propagation

def KeysWritten : Json.Value → Option (List String) → Prop :=
  OrNull (ListOf fun v s => v = .string s)

structure Spelled (m : List (String × Json.Value)) (p : Propagation) : Prop where
  clearMissing : EntryOr (fun v b => v = .bool b) "clear_missing" false m p.clearMissing
  captureKeys : EntryOr KeysWritten "capture_keys" none m p.captureKeys

inductive Written : Json.Value → Propagation → Prop
  | object (known : ∀ e ∈ m, e.1 = "clear_missing" ∨ e.1 = "capture_keys")
      (spelled : Spelled m p) : Written (.object m) p
  | empty : Written (.array []) {}
  | one (b : Bool) : Written (.array [.bool b]) { clearMissing := b }
  | both (keys : KeysWritten v ks) : Written (.array [.bool b, v]) ⟨b, ks⟩

variable {p p' : Propagation} {name : String} {v : Json.Value}
  {m pairs : List (String × Json.Value)}

theorem reads_keys :
    Reads (Json.Value.asOption (Json.Value.asList Json.Value.asString)) KeysWritten :=
  Json.Value.reads_string.list.orNull

theorem mem_names : name ∈ layout.names ↔ name = "clear_missing" ∨ name = "capture_keys" := by
  simp [Layout.names, layout]

theorem clearMissing_field :
    Field layout readField "clear_missing" Json.Value.asBool id (·.clearMissing) where
  own p v := ⟨fun b => { p with clearMissing := b }, rfl, fun _ => rfl⟩
  other p n v p' known ne read := by
    obtain rfl := (mem_names.mp known).resolve_left ne
    obtain ⟨keys, _, rfl⟩ := map_eq_ok.mp read
    rfl

theorem captureKeys_field :
    Field layout readField "capture_keys"
      (Json.Value.asOption (Json.Value.asList Json.Value.asString)) id (·.captureKeys) where
  own p v := ⟨fun keys => { p with captureKeys := keys }, rfl, fun _ => rfl⟩
  other p n v p' known ne read := by
    obtain rfl := (mem_names.mp known).resolve_right ne
    obtain ⟨b, _, rfl⟩ := map_eq_ok.mp read
    rfl

theorem Spelled.accepts (spelled : Spelled pairs p) (known : ∀ e ∈ pairs, e.1 ∈ layout.names) :
    ∀ e ∈ pairs, ∀ q, ∃ q', readField q e.1 e.2 = .ok q' := by
  rintro ⟨name, v⟩ mem q
  rcases mem_names.mp (known _ mem) with rfl | rfl
  · obtain ⟨b, written⟩ := spelled.clearMissing.reads mem
    exact clearMissing_field.accepts Json.Value.reads_bool written q
  · obtain ⟨keys, written⟩ := spelled.captureKeys.reads mem
    exact captureKeys_field.accepts reads_keys written q

theorem readAll_iff_spelled (known : ∀ e ∈ pairs, e.1 ∈ layout.names) :
    readAll readField {} pairs = .ok p ↔ Spelled pairs p := by
  constructor
  · intro all
    exact ⟨clearMissing_field.entry_default Json.Value.reads_bool known all,
      captureKeys_field.entry_default reads_keys known all⟩
  · intro spelled
    obtain ⟨q, all⟩ := Json.Value.readAll_succeeds (spelled.accepts known) {}
    have clear := clearMissing_field.entry_default Json.Value.reads_bool known all
    have keys := captureKeys_field.entry_default reads_keys known all
    obtain ⟨clearMissing, captureKeys⟩ := p
    obtain ⟨clearMissing', captureKeys'⟩ := q
    rw [all]
    congr
    · exact clear.unique Json.Value.reads_bool spelled.clearMissing
    · exact keys.unique reads_keys spelled.captureKeys

theorem ofJson_iff_spelled :
    ofJson v = .ok p ↔ ∃ pairs, Gives layout true v pairs ∧ Spelled pairs p :=
  Json.Value.asRecord_iff fun _ => readAll_iff_spelled

theorem spelled_known : Spelled (m.filter fun e => e.1 ∈ layout.names) p ↔ Spelled m p := by
  have clear : "clear_missing" ∈ layout.names := by decide
  have keys : "capture_keys" ∈ layout.names := by decide
  constructor
  · intro spelled
    exact ⟨(entryOr_known clear).mp spelled.clearMissing,
      (entryOr_known keys).mp spelled.captureKeys⟩
  · intro spelled
    exact ⟨(entryOr_known clear).mpr spelled.clearMissing,
      (entryOr_known keys).mpr spelled.captureKeys⟩

theorem gives_fields {items : List Json.Value} (few : items.length ≤ 2) :
    Gives layout true (.array items) (layout.names.zip items) := by
  refine .array few ?_
  intro f mem
  have field := List.mem_of_mem_drop mem
  simp only [layout, List.mem_cons, List.not_mem_nil, or_false] at field
  rcases field with rfl | rfl <;> rfl

theorem spelled_none : Spelled [] p ↔ p.clearMissing = false ∧ p.captureKeys = none := by
  constructor
  · intro spelled
    exact ⟨by simpa using spelled.clearMissing, by simpa using spelled.captureKeys⟩
  · rintro ⟨clear, keys⟩
    constructor <;> simpa

theorem spelled_one :
    Spelled [("clear_missing", v)] p ↔ v = .bool p.clearMissing ∧ p.captureKeys = none := by
  constructor
  · intro spelled
    exact ⟨by simpa using spelled.clearMissing, by simpa using spelled.captureKeys⟩
  · rintro ⟨clear, keys⟩
    constructor <;> simpa

theorem spelled_both {w : Json.Value} :
    Spelled [("clear_missing", v), ("capture_keys", w)] p ↔
      v = .bool p.clearMissing ∧ KeysWritten w p.captureKeys := by
  constructor
  · intro spelled
    exact ⟨by simpa using spelled.clearMissing, by simpa using spelled.captureKeys⟩
  · rintro ⟨clear, keys⟩
    constructor <;> simpa

theorem written_toJson (p : Propagation) : Written p.toJson p := by
  refine .object (by simp) ⟨.of_present rfl rfl, ?_⟩
  refine .of_present (v := _) rfl ?_
  cases p.captureKeys with
  | none => exact .null
  | some keys => exact .present Json.Value.noConfusion (listOf_map (f := .string) (fun _ => rfl) keys)

end Propagation

theorem reads_propagation : Reads Propagation.ofJson Propagation.Written := by
  intro v p
  rw [Propagation.ofJson_iff_spelled]
  constructor
  · rintro ⟨pairs, gives, spelled⟩
    cases gives with
    | object known =>
      exact .object (fun e mem => Propagation.mem_names.mp (known rfl e mem))
        (Propagation.spelled_known.mp spelled)
    | array few optional =>
      rename_i items
      obtain ⟨clear, keys⟩ := p
      match items, few, spelled with
      | [], _, spelled =>
        obtain ⟨rfl, rfl⟩ := Propagation.spelled_none.mp spelled
        exact .empty
      | [a], _, spelled =>
        obtain ⟨rfl, rfl⟩ := Propagation.spelled_one.mp spelled
        exact .one clear
      | [a, b], _, spelled =>
        obtain ⟨rfl, keys⟩ := Propagation.spelled_both.mp spelled
        exact .both keys
      | a :: b :: c :: items, few, _ =>
        have many : items.length + 3 ≤ 2 := few
        omega
  · intro written
    cases written with
    | object known spelled =>
      exact ⟨_, .object fun _ e mem => Propagation.mem_names.mpr (known e mem),
        Propagation.spelled_known.mpr spelled⟩
    | empty =>
      exact ⟨_, Propagation.gives_fields (Nat.zero_le 2), Propagation.spelled_none.mpr ⟨rfl, rfl⟩⟩
    | one b =>
      exact ⟨_, Propagation.gives_fields (Nat.le_succ 1), Propagation.spelled_one.mpr ⟨rfl, rfl⟩⟩
    | both keys =>
      exact ⟨_, Propagation.gives_fields (Nat.le_refl 2), Propagation.spelled_both.mpr ⟨rfl, keys⟩⟩

namespace Settings

inductive Written : Json.Value → Settings → Prop
  | object (known : ∀ e ∈ m, e.1 = "context_propagation")
      (given : EntryOr Propagation.Written "context_propagation" {} m p) : Written (.object m) ⟨p⟩
  | empty : Written (.array []) {}
  | one (written : Propagation.Written v p) : Written (.array [v]) ⟨p⟩

variable {s : Settings} {name : String} {v : Json.Value} {pairs : List (String × Json.Value)}

theorem mem_names : name ∈ layout.names ↔ name = "context_propagation" := by
  simp [Layout.names, layout]

theorem propagation_field :
    Field layout readField "context_propagation" Propagation.ofJson id (·.propagation) where
  own s _ := ⟨fun p => { s with propagation := p }, rfl, fun _ => rfl⟩
  other _ _ _ _ known ne _ := absurd (mem_names.mp known) ne

theorem readAll_iff_given (known : ∀ e ∈ pairs, e.1 ∈ layout.names) :
    readAll readField {} pairs = .ok s ↔
      EntryOr Propagation.Written "context_propagation" {} pairs s.propagation := by
  constructor
  · exact propagation_field.entry_default reads_propagation known
  · intro given
    have accepts : ∀ e ∈ pairs, ∀ s, ∃ s', readField s e.1 e.2 = .ok s' := by
      rintro ⟨name, v⟩ mem s
      obtain rfl := mem_names.mp (known _ mem)
      obtain ⟨p, written⟩ := given.reads mem
      exact propagation_field.accepts reads_propagation written s
    obtain ⟨s', all⟩ := Json.Value.readAll_succeeds accepts {}
    have read := propagation_field.entry_default reads_propagation known all
    have same : s'.propagation = s.propagation := read.unique reads_propagation given
    rw [all, Except.ok.injEq]
    exact congrArg Settings.mk same

theorem reads_settings : Reads ofJson Written := by
  intro v s
  refine (Json.Value.asRecord_iff fun _ => readAll_iff_given).trans ?_
  have name : "context_propagation" ∈ layout.names := by decide
  constructor
  · rintro ⟨pairs, gives, given⟩
    cases gives with
    | object known =>
      exact .object (fun e mem => mem_names.mp (known rfl e mem)) ((entryOr_known name).mp given)
    | array few optional =>
      rename_i items
      obtain ⟨p⟩ := s
      match items, few, given with
      | [], _, given =>
        obtain rfl := Json.Value.entryOr_nil.mp given
        exact .empty
      | [a], _, given => exact .one ((Json.Value.entryOr_cons_self (by simp)).mp given)
      | a :: b :: items, few, _ =>
        have many : items.length + 2 ≤ 1 := few
        omega
  · intro written
    cases written with
    | object known given =>
      exact ⟨_, .object fun _ e mem => mem_names.mpr (known e mem), (entryOr_known name).mpr given⟩
    | empty =>
      exact ⟨_, .array (by simp [layout]) (by simp [layout]), Json.Value.entryOr_nil.mpr rfl⟩
    | one written =>
      exact ⟨_, .array (by simp [layout]) (by simp [layout]),
        (Json.Value.entryOr_cons_self (by simp)).mpr written⟩

theorem written_toJson (s : Settings) : Written s.toJson s :=
  .object (by simp) ((Json.Value.entryOr_cons_self (by simp)).mpr s.propagation.written_toJson)

/-- The settings that a JSON value stands for, if it is read and they are not refused. -/
def accept? (v : Json.Value) : Option Settings :=
  (ofJson v).toOption.bind fun s => s.validate.toOption

theorem accept?_eq_some_iff : accept? v = some s ↔ Written v s ∧ s.Distinct := by
  simp only [accept?, Option.bind_eq_some_iff, toOption_eq_some_iff, reads_settings v,
    validate_eq_ok_iff]
  constructor
  · rintro ⟨_, written, rfl, distinct⟩
    exact ⟨written, distinct⟩
  · rintro ⟨written, distinct⟩
    exact ⟨s, written, rfl, distinct⟩

end Settings

namespace CapturePlan

variable {p : CapturePlan} {look : Accessor → Option Json.Value} {a : Accessor} {x : Json.Value}

theorem captures_iff {key : String} :
    p.captures key = true ↔
      p.options.captureKeys = none ∨ ∃ keys, p.options.captureKeys = some keys ∧ key ∈ keys := by
  rw [captures, Propagation.captures]
  cases p.options.captureKeys <;> simp

theorem captured_eq_some_iff {i : Nat} :
    (p.captureWith look).captured[i]? = some (a, some x) ↔
      p.accessors[i]? = some a ∧ look a = some x ∧ p.captures a.key = true := by
  simp only [captureWith, List.getElem?_map, Option.map_eq_some_iff, Prod.mk.injEq]
  constructor
  · rintro ⟨a, here, rfl, found⟩
    cases captured : p.captures a.key with
    | false => simp [captured] at found
    | true => exact ⟨here, by simpa [captured] using found, rfl⟩
  · rintro ⟨here, found, captured⟩
    exact ⟨a, here, rfl, by rw [if_pos captured, found]⟩

theorem isEmpty_captureWith (none : p.options.captureKeys = some []) :
    (p.captureWith look).isEmpty = true := by
  refine List.all_eq_true.mpr ?_
  rintro ⟨a, o⟩ mem
  obtain ⟨a, -, same⟩ := List.mem_map.mp mem
  obtain ⟨rfl, rfl⟩ := Prod.mk.inj same
  simp [captures, Propagation.captures, none]

end CapturePlan

/-- Settings in JSON. A value is accepted exactly if it is written as `Written` says and no key is
listed twice, and it stands for the settings that are written there. Settings that are not refused
are read back. A plan with these options captures, of each accessor, what there is for it exactly if
all keys are to be captured or the key is listed, so with an empty list it captures nothing. -/
theorem settings_format :
    (∀ v s, Settings.accept? v = some s ↔ Settings.Written v s ∧ s.Distinct) ∧
    (∀ s : Settings, s.Distinct → Settings.accept? s.toJson = some s) ∧
    ∀ (s : Settings) (accessors : List Accessor) (look : Accessor → Option Json.Value),
      let taken := (CapturePlan.mk accessors s.propagation).captureWith look
      (∀ (i : Nat) a x, taken.captured[i]? = some (a, some x) ↔
        accessors[i]? = some a ∧ look a = some x ∧
          (s.propagation.captureKeys = none ∨
            ∃ keys, s.propagation.captureKeys = some keys ∧ a.key ∈ keys)) ∧
      (s.propagation.captureKeys = some [] → taken.isEmpty = true) := by
  refine ⟨fun v s => Settings.accept?_eq_some_iff, ?_, ?_⟩
  · intro s distinct
    exact Settings.accept?_eq_some_iff.mpr ⟨s.written_toJson, distinct⟩
  · intro s accessors look taken
    constructor
    · intro i a x
      exact CapturePlan.captured_eq_some_iff.trans
        (and_congr_right' (and_congr_right' CapturePlan.captures_iff))
    · intro none
      exact CapturePlan.isEmpty_captureWith (p := ⟨accessors, s.propagation⟩) none

example : Settings.accept? (.array [.array [.bool true]]) = some ⟨⟨true, none⟩⟩ := by
  rfl

end Fieldwork
