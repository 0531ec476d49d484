import Fieldwork.Proofs.Json.Record
import Fieldwork.Response.Error

/-!
The JSON form of errors. What an error is read from is told for each of its parts: which of them may
be absent or null, and which numbers and strings are the elements of a path. An object and the list
of its values in the order of the fields are read alike, and what is written is read back.
-/
namespace Fieldwork.Response

open Json.Value (Entry EntryOr ListOf OrNull Reads Gives Field readAll asRecord map_eq_ok under
  entry_known entryOr_known entry_perm entryOr_perm listOf_map object_iff_array)

def Nat32 (v : Json.Value) (n : UInt32) : Prop := v = .int n.toNat

inductive PathElement.Written : Json.Value → PathElement → Prop
  | key (s : String) : Written (.string s) (.key s)
  | index (n : UInt64) : Written (.int n.toNat) (.index n)

def Path.Written (v : Json.Value) (p : Path) : Prop := ListOf PathElement.Written v p.elements

structure Location.Spelled (m : List (String × Json.Value)) (l : Location) : Prop where
  line : Entry Nat32 "line" m (some l.line)
  column : Entry Nat32 "column" m (some l.column)

inductive Location.Written : Json.Value → Location → Prop
  | object (spelled : Location.Spelled m l) : Written (.object m) l
  | array (l : Location) : Written (.array [.int l.line.toNat, .int l.column.toNat]) l

/-- What the fields of an error say. There must be a message, a path may be null, and what is absent
is empty. -/
structure Error.Spelled (m : List (String × Json.Value)) (e : Error) : Prop where
  message : Entry (fun v s => v = .string s) "message" m (some e.message)
  locations : EntryOr (ListOf Location.Written) "locations" [] m e.locations
  path : EntryOr (OrNull Path.Written) "path" none m e.path
  extensions : EntryOr (fun v entries => v = .object entries) "extensions" [] m e.extensions

/-- As a list an error has its first three fields, and it may leave out the last. -/
inductive Error.Written : Json.Value → Error → Prop
  | object (spelled : Error.Spelled m e) : Written (.object m) e
  | array (locations : ListOf Location.Written v ls) (path : OrNull Path.Written w p) :
      Written (.array [.string text, v, w]) ⟨text, ls, p, []⟩
  | whole (locations : ListOf Location.Written v ls) (path : OrNull Path.Written w p) :
      Written (.array [.string text, v, w, .object entries]) ⟨text, ls, p, entries⟩

theorem reads_nat32 : Reads Location.asNat32 Nat32 := by
  intro v n
  have reads := (Json.Value.reads_int 0 0xFFFFFFFF "u32").map fun n => UInt32.ofNat n.toNat
  refine (reads v n).trans ?_
  have bound := n.toNat_lt
  constructor
  · rintro ⟨k, ⟨rfl, low, high⟩, rfl⟩
    have small : k.toNat < 2 ^ 32 := by omega
    rw [Nat32, UInt32.toNat_ofNat_of_lt' small, Int.toNat_of_nonneg low]
  · intro written
    refine ⟨n.toNat, ⟨written, by omega, by omega⟩, ?_⟩
    rw [Int.toNat_natCast, UInt32.ofNat_toNat]

theorem reads_element : Reads PathElement.ofJson PathElement.Written := by
  intro v e
  cases v with
  | string s =>
    simp only [PathElement.ofJson, Except.ok.injEq]
    constructor
    · rintro rfl
      exact .key s
    · rintro (_ | _)
      rfl
  | int k =>
    simp only [PathElement.ofJson]
    split
    · next fits =>
      have small : k.toNat < 2 ^ 64 := by omega
      have whole : k = (UInt64.ofNat k.toNat).toNat := by
        rw [UInt64.toNat_ofNat_of_lt' small, Int.toNat_of_nonneg fits.1]
      constructor
      · intro read
        cases read
        have written := PathElement.Written.index (UInt64.ofNat k.toNat)
        rwa [← whole] at written
      · intro written
        cases written with
        | index n => rw [Int.toNat_natCast, UInt64.ofNat_toNat]
    · next out =>
      simp only [reduceCtorEq, false_iff]
      intro written
      cases written with
      | index n =>
        have bound := n.toNat_lt
        omega
  | null => exact ⟨nofun, nofun⟩
  | bool b => exact ⟨nofun, nofun⟩
  | float x => exact ⟨nofun, nofun⟩
  | array items => exact ⟨nofun, nofun⟩
  | object m => exact ⟨nofun, nofun⟩

theorem reads_path : Reads Path.ofJson Path.Written := by
  intro v p
  refine (reads_element.list.map Path.mk v p).trans ?_
  constructor
  · rintro ⟨elements, written, rfl⟩
    exact written
  · intro written
    exact ⟨p.elements, written, rfl⟩

namespace Location

variable {d d' : Draft} {l : Location} {name : String} {v : Json.Value}
  {m pairs : List (String × Json.Value)}

inductive Draft.Takes (d : Draft) : String → Draft → Prop
  | line (n : UInt32) : Takes d "line" { d with line := some n }
  | column (n : UInt32) : Takes d "column" { d with column := some n }

theorem names_cases {P : String → Prop} (known : name ∈ layout.names) (line : P "line")
    (column : P "column") : P name := by
  simp only [Layout.names, layout, List.map_cons, List.map_nil, List.mem_cons, List.not_mem_nil,
    or_false] at known
  rcases known with rfl | rfl
  · exact line
  · exact column

theorem Draft.takes (known : name ∈ layout.names) (read : d.read name v = .ok d') :
    d.Takes name d' := by
  revert read
  refine names_cases (P := fun name => d.read name v = .ok d' → d.Takes name d') known ?_ ?_
  · intro read
    obtain ⟨n, _, rfl⟩ := map_eq_ok.mp read
    exact .line n
  · intro read
    obtain ⟨n, _, rfl⟩ := map_eq_ok.mp read
    exact .column n

theorem line_field : Field layout Draft.read "line" asNat32 some (·.line) where
  own d v := ⟨fun n => { d with line := some n }, rfl, fun _ => rfl⟩
  other d n v d' known ne read := by
    cases Draft.takes known read with
    | line => exact absurd rfl ne
    | column => rfl

theorem column_field : Field layout Draft.read "column" asNat32 some (·.column) where
  own d v := ⟨fun n => { d with column := some n }, rfl, fun _ => rfl⟩
  other d n v d' known ne read := by
    cases Draft.takes known read with
    | line => rfl
    | column => exact absurd rfl ne

theorem Spelled.accepts (spelled : Spelled pairs l) (known : ∀ e ∈ pairs, e.1 ∈ layout.names) :
    ∀ e ∈ pairs, ∀ d, ∃ d', Draft.read d e.1 e.2 = .ok d' := by
  rintro ⟨name, v⟩ mem d
  have field := known _ mem
  revert mem
  refine names_cases (P := fun name => (name, v) ∈ pairs → ∃ d', Draft.read d name v = .ok d')
    field ?_ ?_
  · intro mem
    obtain ⟨n, written⟩ := spelled.line.reads mem
    exact line_field.accepts reads_nat32 written d
  · intro mem
    obtain ⟨n, written⟩ := spelled.column.reads mem
    exact column_field.accepts reads_nat32 written d

theorem readAll_iff_spelled (known : ∀ e ∈ pairs, e.1 ∈ layout.names) :
    readAll Draft.read {} pairs = .ok ⟨some l.line, some l.column⟩ ↔ Spelled pairs l := by
  constructor
  · intro all
    exact ⟨line_field.entry_required reads_nat32 known rfl all,
      column_field.entry_required reads_nat32 known rfl all⟩
  · intro spelled
    obtain ⟨d, all⟩ := Json.Value.readAll_succeeds (spelled.accepts known) {}
    have line := line_field.entry_required reads_nat32 known rfl all
    have column := column_field.entry_required reads_nat32 known rfl all
    rw [all, ← line.unique reads_nat32 spelled.line, ← column.unique reads_nat32 spelled.column]

theorem ofJson_eq_ok :
    ofJson v = .ok l ↔
      asRecord layout false Draft.read {} v = .ok ⟨some l.line, some l.column⟩ := by
  unfold ofJson
  cases asRecord layout false Draft.read {} v with
  | error e => simp [bind, Except.bind]
  | ok d =>
    obtain ⟨line, column⟩ := d
    obtain ⟨line', column'⟩ := l
    cases line <;> cases column <;>
      simp [bind, Except.bind, Json.Value.required, pure, Except.pure]

theorem ofJson_iff_spelled :
    ofJson v = .ok l ↔ ∃ pairs, Gives layout false v pairs ∧ Spelled pairs l :=
  ofJson_eq_ok.trans (Json.Value.asRecord_iff fun _ => readAll_iff_spelled)

theorem spelled_known : Spelled (m.filter fun e => e.1 ∈ layout.names) l ↔ Spelled m l := by
  have line : "line" ∈ layout.names := by decide
  have column : "column" ∈ layout.names := by decide
  constructor
  · intro spelled
    exact ⟨(entry_known line).mp spelled.line, (entry_known column).mp spelled.column⟩
  · intro spelled
    exact ⟨(entry_known line).mpr spelled.line, (entry_known column).mpr spelled.column⟩

theorem spelled_items {a b : Json.Value} :
    Spelled [("line", a), ("column", b)] l ↔ Nat32 a l.line ∧ Nat32 b l.column := by
  constructor
  · intro spelled
    exact ⟨by simpa using spelled.line, by simpa using spelled.column⟩
  · rintro ⟨line, column⟩
    constructor <;> simpa

theorem Spelled.perm (spelled : Spelled m l) (same : m.Perm pairs)
    (distinct : (m.map (·.1)).Nodup) : Spelled pairs l :=
  ⟨(entry_perm same distinct).mp spelled.line, (entry_perm same distinct).mp spelled.column⟩

theorem ofJson_object_iff_array {a b : Json.Value}
    (same : (m.filter fun f => f.1 ∈ layout.names).Perm [("line", a), ("column", b)]) :
    ofJson (.object m) = .ok l ↔ ofJson (.array [a, b]) = .ok l := by
  have optional : ∀ f ∈ layout.fields.drop 2, f.2 = true := by decide
  exact object_iff_array (fun _ => ofJson_iff_spelled)
    (fun m pairs same distinct spelled => spelled.perm same distinct) (by decide) (Nat.le_refl 2)
    optional same

end Location

theorem reads_location : Reads Location.ofJson Location.Written := by
  intro v l
  rw [Location.ofJson_iff_spelled]
  constructor
  · rintro ⟨pairs, gives, spelled⟩
    cases gives with
    | object _ => exact .object (Location.spelled_known.mp spelled)
    | array few optional =>
      rename_i items
      match items, few, optional, spelled with
      | [], _, optional, _ => simp [Location.layout] at optional
      | [a], _, optional, _ => simp [Location.layout] at optional
      | [a, b], _, _, spelled =>
        obtain ⟨rfl, rfl⟩ := Location.spelled_items.mp spelled
        exact .array l
      | a :: b :: c :: items, few, _, _ =>
        have many : items.length + 3 ≤ 2 := few
        omega
  · intro written
    cases written with
    | object spelled => exact ⟨_, .object (by simp), Location.spelled_known.mpr spelled⟩
    | array l =>
      refine ⟨_, .array ?_ ?_, Location.spelled_items.mpr ⟨rfl, rfl⟩⟩
      · exact Nat.le_refl 2
      · simp [Location.layout]

theorem Location.written_toJson (l : Location) : Written l.toJson l := by
  refine .object ⟨?_, ?_⟩ <;> simp [Nat32]

theorem PathElement.written_toJson (e : PathElement) : Written e.toJson e := by
  cases e with
  | index n => exact .index n
  | key s => exact .key s

theorem Path.written_toJson (p : Path) : Written p.toJson p :=
  listOf_map PathElement.written_toJson p.elements

namespace Error

variable {d d' : Draft} {e : Error} {name : String} {v : Json.Value}
  {m pairs : List (String × Json.Value)}

inductive Draft.Takes (d : Draft) : String → Draft → Prop
  | message (s : String) : Takes d "message" { d with message := some s }
  | locations (ls : List Location) : Takes d "locations" { d with locations := ls }
  | path (p : Option Path) : Takes d "path" { d with path := p }
  | extensions (entries : Json.Object) : Takes d "extensions" { d with extensions := entries }

theorem names_cases {P : String → Prop} (known : name ∈ layout.names) (message : P "message")
    (locations : P "locations") (path : P "path") (extensions : P "extensions") : P name := by
  simp only [Layout.names, layout, List.map_cons, List.map_nil, List.mem_cons, List.not_mem_nil,
    or_false] at known
  rcases known with rfl | rfl | rfl | rfl
  · exact message
  · exact locations
  · exact path
  · exact extensions

theorem Draft.takes (known : name ∈ layout.names) (read : d.read name v = .ok d') :
    d.Takes name d' := by
  revert read
  refine names_cases (P := fun name => d.read name v = .ok d' → d.Takes name d') known ?_ ?_ ?_ ?_
  · intro read
    obtain ⟨s, _, rfl⟩ := map_eq_ok.mp read
    exact .message s
  · intro read
    obtain ⟨ls, _, rfl⟩ := map_eq_ok.mp read
    exact .locations ls
  · intro read
    obtain ⟨p, _, rfl⟩ := map_eq_ok.mp read
    exact .path p
  · intro read
    obtain ⟨entries, _, rfl⟩ := map_eq_ok.mp read
    exact .extensions entries

theorem message_field :
    Field layout Draft.read "message" Json.Value.asString some (·.message) where
  own d v := ⟨fun s => { d with message := some s }, rfl, fun _ => rfl⟩
  other d n v d' known ne read := by
    cases Draft.takes known read with
    | message => exact absurd rfl ne
    | locations | path | extensions => rfl

theorem locations_field :
    Field layout Draft.read "locations" (Json.Value.asList Location.ofJson) id (·.locations) where
  own d v := ⟨fun ls => { d with locations := ls }, rfl, fun _ => rfl⟩
  other d n v d' known ne read := by
    cases Draft.takes known read with
    | locations => exact absurd rfl ne
    | message | path | extensions => rfl

theorem path_field :
    Field layout Draft.read "path" (Json.Value.asOption Path.ofJson) id (·.path) where
  own d v := ⟨fun p => { d with path := p }, rfl, fun _ => rfl⟩
  other d n v d' known ne read := by
    cases Draft.takes known read with
    | path => exact absurd rfl ne
    | message | locations | extensions => rfl

theorem extensions_field :
    Field layout Draft.read "extensions" Json.Value.asMembers id (·.extensions) where
  own d v := ⟨fun entries => { d with extensions := entries }, rfl, fun _ => rfl⟩
  other d n v d' known ne read := by
    cases Draft.takes known read with
    | extensions => exact absurd rfl ne
    | message | locations | path => rfl

theorem Spelled.accepts (spelled : Spelled pairs e) (known : ∀ e ∈ pairs, e.1 ∈ layout.names) :
    ∀ e ∈ pairs, ∀ d, ∃ d', Draft.read d e.1 e.2 = .ok d' := by
  rintro ⟨name, v⟩ mem d
  have field := known _ mem
  revert mem
  refine names_cases (P := fun name => (name, v) ∈ pairs → ∃ d', Draft.read d name v = .ok d')
    field ?_ ?_ ?_ ?_
  · intro mem
    obtain ⟨s, written⟩ := spelled.message.reads mem
    exact message_field.accepts Json.Value.reads_string written d
  · intro mem
    obtain ⟨ls, written⟩ := spelled.locations.reads mem
    exact locations_field.accepts reads_location.list written d
  · intro mem
    obtain ⟨p, written⟩ := spelled.path.reads mem
    exact path_field.accepts reads_path.orNull written d
  · intro mem
    obtain ⟨entries, written⟩ := spelled.extensions.reads mem
    exact extensions_field.accepts Json.Value.reads_members written d

theorem readAll_iff_spelled (known : ∀ e ∈ pairs, e.1 ∈ layout.names) :
    readAll Draft.read {} pairs = .ok ⟨some e.message, e.locations, e.path, e.extensions⟩ ↔
      Spelled pairs e := by
  constructor
  · intro all
    exact ⟨message_field.entry_required Json.Value.reads_string known rfl all,
      locations_field.entry_default reads_location.list known all,
      path_field.entry_default reads_path.orNull known all,
      extensions_field.entry_default Json.Value.reads_members known all⟩
  · intro spelled
    obtain ⟨d, all⟩ := Json.Value.readAll_succeeds (spelled.accepts known) {}
    have message := message_field.entry_required Json.Value.reads_string known rfl all
    have locations := locations_field.entry_default reads_location.list known all
    have path := path_field.entry_default reads_path.orNull known all
    have extensions := extensions_field.entry_default Json.Value.reads_members known all
    rw [all, ← message.unique Json.Value.reads_string spelled.message,
      ← locations.unique reads_location.list spelled.locations,
      ← path.unique reads_path.orNull spelled.path,
      ← extensions.unique Json.Value.reads_members spelled.extensions]

theorem ofJson_eq_ok :
    ofJson v = .ok e ↔ asRecord layout false Draft.read {} v =
      .ok ⟨some e.message, e.locations, e.path, e.extensions⟩ := by
  unfold ofJson
  cases asRecord layout false Draft.read {} v with
  | error e => simp [bind, Except.bind]
  | ok d =>
    obtain ⟨message, locations, path, extensions⟩ := d
    obtain ⟨message', locations', path', extensions'⟩ := e
    cases message <;> simp [bind, Except.bind, Json.Value.required, pure, Except.pure]

theorem ofJson_iff_spelled :
    ofJson v = .ok e ↔ ∃ pairs, Gives layout false v pairs ∧ Spelled pairs e :=
  ofJson_eq_ok.trans (Json.Value.asRecord_iff fun _ => readAll_iff_spelled)

theorem spelled_known : Spelled (m.filter fun f => f.1 ∈ layout.names) e ↔ Spelled m e := by
  have message : "message" ∈ layout.names := by decide
  have locations : "locations" ∈ layout.names := by decide
  have path : "path" ∈ layout.names := by decide
  have extensions : "extensions" ∈ layout.names := by decide
  constructor
  · intro spelled
    exact ⟨(entry_known message).mp spelled.message, (entryOr_known locations).mp spelled.locations,
      (entryOr_known path).mp spelled.path, (entryOr_known extensions).mp spelled.extensions⟩
  · intro spelled
    exact ⟨(entry_known message).mpr spelled.message,
      (entryOr_known locations).mpr spelled.locations, (entryOr_known path).mpr spelled.path,
      (entryOr_known extensions).mpr spelled.extensions⟩

theorem Spelled.perm (spelled : Spelled m e) (same : m.Perm pairs)
    (distinct : (m.map (·.1)).Nodup) : Spelled pairs e :=
  ⟨(entry_perm same distinct).mp spelled.message,
    (entryOr_perm same distinct).mp spelled.locations, (entryOr_perm same distinct).mp spelled.path,
    (entryOr_perm same distinct).mp spelled.extensions⟩

theorem spelled_three {a b c : Json.Value} :
    Spelled [("message", a), ("locations", b), ("path", c)] e ↔
      a = .string e.message ∧ ListOf Location.Written b e.locations ∧
        OrNull Path.Written c e.path ∧ e.extensions = [] := by
  constructor
  · intro spelled
    exact ⟨by simpa using spelled.message, by simpa using spelled.locations,
      by simpa using spelled.path, by simpa using spelled.extensions⟩
  · rintro ⟨message, locations, path, extensions⟩
    constructor <;> simpa

theorem spelled_four {a b c d : Json.Value} :
    Spelled [("message", a), ("locations", b), ("path", c), ("extensions", d)] e ↔
      a = .string e.message ∧ ListOf Location.Written b e.locations ∧
        OrNull Path.Written c e.path ∧ d = .object e.extensions := by
  constructor
  · intro spelled
    exact ⟨by simpa using spelled.message, by simpa using spelled.locations,
      by simpa using spelled.path, by simpa using spelled.extensions⟩
  · rintro ⟨message, locations, path, extensions⟩
    constructor <;> simpa

theorem spelled_members (e : Error) : Spelled e.members e := by
  obtain ⟨text, ls, p, entries⟩ := e
  constructor
  · cases ls <;> cases p <;> cases entries <;> simp [members]
  · cases ls with
    | nil =>
      refine .of_absent ?_
      cases p <;> cases entries <;> simp [members, under]
    | cons l ls =>
      refine .of_present (v := .array ((l :: ls).map Location.toJson)) ?_
        (listOf_map Location.written_toJson (l :: ls))
      cases p <;> cases entries <;> simp [members, under]
  · cases p with
    | none =>
      refine .of_absent ?_
      cases ls <;> cases entries <;> simp [members, under]
    | some p =>
      refine .of_present (v := p.toJson) ?_ (.present Json.Value.noConfusion p.written_toJson)
      cases ls <;> cases entries <;> simp [members, under]
  · cases entries with
    | nil =>
      refine .of_absent ?_
      cases ls <;> cases p <;> simp [members, under]
    | cons entry entries =>
      refine .of_present (v := .object (entry :: entries)) ?_ rfl
      cases ls <;> cases p <;> simp [members, under]

theorem ofJson_object_iff_array {items : List Json.Value} (least : 3 ≤ items.length)
    (most : items.length ≤ 4)
    (same : (m.filter fun f => f.1 ∈ layout.names).Perm (layout.names.zip items)) :
    ofJson (.object m) = .ok e ↔ ofJson (.array items) = .ok e := by
  have optional : ∀ f ∈ layout.fields.drop items.length, f.2 = true := by
    have length : items.length = 3 ∨ items.length = 4 := by omega
    rcases length with three | four
    · rw [three]
      decide
    · rw [four]
      decide
  exact object_iff_array (fun _ => ofJson_iff_spelled)
    (fun m pairs same distinct spelled => spelled.perm same distinct) (by decide) most optional same

theorem mem_keys_members (e : Error) (key : String) :
    key ∈ Dict.keys e.members ↔
      key = "message" ∨ key = "locations" ∧ e.locations ≠ [] ∨
        key = "path" ∧ e.path ≠ none ∨ key = "extensions" ∧ e.extensions ≠ [] := by
  obtain ⟨text, ls, p, entries⟩ := e
  cases ls <;> cases p <;> cases entries <;> simp [members, Dict.keys]

end Error

theorem reads_error : Reads Error.ofJson Error.Written := by
  intro v e
  rw [Error.ofJson_iff_spelled]
  constructor
  · rintro ⟨pairs, gives, spelled⟩
    cases gives with
    | object _ => exact .object (Error.spelled_known.mp spelled)
    | array few optional =>
      rename_i items
      obtain ⟨text, ls, p, entries⟩ := e
      match items, few, optional, spelled with
      | [], _, optional, _ => simp [Error.layout] at optional
      | [a], _, optional, _ => simp [Error.layout] at optional
      | [a, b], _, optional, _ => simp [Error.layout] at optional
      | [a, b, c], _, _, spelled =>
        obtain ⟨rfl, locations, path, rfl⟩ := Error.spelled_three.mp spelled
        exact .array locations path
      | [a, b, c, d], _, _, spelled =>
        obtain ⟨rfl, locations, path, rfl⟩ := Error.spelled_four.mp spelled
        exact .whole locations path
      | a :: b :: c :: d :: f :: items, few, _, _ =>
        have many : items.length + 5 ≤ 4 := few
        omega
  · intro written
    cases written with
    | object spelled => exact ⟨_, .object (by simp), Error.spelled_known.mpr spelled⟩
    | array locations path =>
      refine ⟨_, .array ?_ ?_, Error.spelled_three.mpr ⟨rfl, locations, path, rfl⟩⟩
      · exact Nat.le_succ 3
      · simp [Error.layout]
    | whole locations path =>
      refine ⟨_, .array ?_ ?_, Error.spelled_four.mpr ⟨rfl, locations, path, rfl⟩⟩
      · exact Nat.le_refl 4
      · simp [Error.layout]

/-- Errors in JSON. What is written is read back, although what is empty is left out of it; what can
be read, and as which error, is what `Error.Written` says; and the two forms of errors and of
locations are read alike. -/
theorem error_format :
    (∀ e : Error, Error.ofJson e.toJson = .ok e ∧
      ∀ key, key ∈ Dict.keys e.members ↔
        key = "message" ∨ key = "locations" ∧ e.locations ≠ [] ∨
          key = "path" ∧ e.path ≠ none ∨ key = "extensions" ∧ e.extensions ≠ []) ∧
    (∀ v e, Error.ofJson v = .ok e ↔ Error.Written v e) ∧
    (∀ (m : List (String × Json.Value)) (items : List Json.Value),
      3 ≤ items.length → items.length ≤ 4 →
      (m.filter fun f => f.1 ∈ Error.layout.names).Perm (Error.layout.names.zip items) →
      ∀ e, Error.ofJson (.object m) = .ok e ↔ Error.ofJson (.array items) = .ok e) ∧
    (∀ (m : List (String × Json.Value)) (a b : Json.Value),
      (m.filter fun f => f.1 ∈ Location.layout.names).Perm [("line", a), ("column", b)] →
      ∀ l, Location.ofJson (.object m) = .ok l ↔ Location.ofJson (.array [a, b]) = .ok l) ∧
    ∀ v, ((Error.ofJson v).bind fun e => Error.ofJson e.toJson) = Error.ofJson v := by
  have back : ∀ e : Error, Error.ofJson e.toJson = .ok e := fun e =>
    (reads_error _ e).mpr (.object e.spelled_members)
  refine ⟨fun e => ⟨back e, e.mem_keys_members⟩, reads_error, ?_, ?_, ?_⟩
  · intro m items least most same e
    exact Error.ofJson_object_iff_array least most same
  · intro m a b same l
    exact Location.ofJson_object_iff_array same
  · intro v
    cases read : Error.ofJson v with
    | error e => rfl
    | ok e => exact back e

example :
    Error.ofJson (.array [.string "boom", .array [.array [.int 1, .int 2]],
        .array [.string "ticks", .int 0]]) =
      .ok ⟨"boom", [⟨1, 2⟩], some ⟨[.key "ticks", .index 0]⟩, []⟩ := by
  rfl

end Fieldwork.Response
