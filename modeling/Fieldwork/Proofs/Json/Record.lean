import Fieldwork.Json.Decode
import Mathlib.Data.List.Forall2

/-!
What decoders accept. `Reads dec P` says so by a relation between values and what they are read as.
The relations for lists, optional values and the fields of records are made of those of their parts.

A record is read field by field, in the order of its members or of its layout, so of an object with
repeated keys every value must be one that its field accepts, and the last one counts.
-/
namespace Fieldwork.Json.Value

def Reads {α : Type} (dec : Decoder α) (P : Value → α → Prop) : Prop := ∀ v x, dec v = .ok x ↔ P v x

def ListOf {α : Type} (P : Value → α → Prop) (v : Value) (xs : List α) : Prop :=
  ∃ items, v = .array items ∧ List.Forall₂ P items xs

inductive OrNull {α : Type} (P : Value → α → Prop) : Value → Option α → Prop
  | null : OrNull P .null none
  | present (notNull : v ≠ .null) (read : P v x) : OrNull P v (some x)

/-- The fields that a value gives for a record: the members under its names, or its items under the
names in the order of the layout, of which those may be left out that are optional to the end. -/
inductive Gives (l : Layout) (strict : Bool) : Value → List (String × Value) → Prop
  | object (known : strict = true → ∀ e ∈ m, e.1 ∈ l.names) :
      Gives l strict (.object m) (m.filter fun e => e.1 ∈ l.names)
  | array (few : items.length ≤ l.fields.length)
      (optional : ∀ f ∈ l.fields.drop items.length, f.2 = true) :
      Gives l strict (.array items) (l.names.zip items)

variable {α β σ : Type} {dec : Decoder α} {P : Value → α → Prop} {v : Value} {x : α}
  {vs : List Value} {xs : List α} {name : String} {m pairs : List (String × Value)} {o : Option α}

theorem reads_string : Reads asString fun v s => v = .string s := by
  intro v s
  cases v <;> simp [asString]

theorem reads_bool : Reads asBool fun v b => v = .bool b := by
  intro v b
  cases v <;> simp [asBool]

theorem reads_members : Reads asMembers fun v m => v = .object m := by
  intro v m
  cases v <;> simp [asMembers]

theorem reads_int (low high : Int) (name : String) :
    Reads (asInt low high name) fun v n => v = .int n ∧ low ≤ n ∧ n ≤ high := by
  intro v n
  cases v with
  | int k =>
    simp only [asInt, int.injEq]
    split
    · next fits =>
      simp only [Except.ok.injEq]
      constructor
      · rintro rfl
        exact ⟨rfl, fits⟩
      · rintro ⟨rfl, _⟩
        rfl
    · next out =>
      simp only [reduceCtorEq, false_iff]
      rintro ⟨rfl, fits⟩
      exact out fits
  | null => simp [asInt]
  | bool b => simp [asInt]
  | float x => simp [asInt]
  | string s => simp [asInt]
  | array items => simp [asInt]
  | object m => simp [asInt]

theorem map_eq_ok {ε : Type u} {α β : Type v} {r : Except ε α} {f : α → β} {y : β} :
    r.map f = .ok y ↔ ∃ x, r = .ok x ∧ f x = y := by
  cases r <;> simp [Except.map]

theorem Reads.map (reads : Reads dec P) (f : α → β) :
    Reads (fun v => (dec v).map f) fun v y => ∃ x, P v x ∧ f x = y := by
  intro v y
  simp only [map_eq_ok, reads v]

theorem each_eq_ok (reads : Reads dec P) : each dec vs = .ok xs ↔ List.Forall₂ P vs xs := by
  induction vs generalizing xs with
  | nil => simp [each, eq_comm]
  | cons v vs ih =>
    rw [List.forall₂_cons_left_iff]
    cases read : dec v with
    | error e =>
      have refused : ∀ x, ¬ P v x := by
        intro x accepted
        rw [(reads v x).mpr accepted] at read
        cases read
      simp [each, read, refused]
    | ok x =>
      have accepted : ∀ y, P v y ↔ y = x := by
        intro y
        rw [← reads v y, read, Except.ok.injEq, eq_comm]
      simp only [each, read, map_eq_ok, ih, accepted]
      constructor
      · rintro ⟨rest, items, rfl⟩
        exact ⟨x, rest, rfl, items, rfl⟩
      · rintro ⟨_, rest, rfl, items, rfl⟩
        exact ⟨rest, items, rfl⟩

theorem Reads.list (reads : Reads dec P) : Reads (asList dec) (ListOf P) := by
  intro v xs
  cases v with
  | array items => simp [asList, asItems, ListOf, each_eq_ok reads]
  | null => simp [asList, asItems, ListOf]
  | bool b => simp [asList, asItems, ListOf]
  | int n => simp [asList, asItems, ListOf]
  | float x => simp [asList, asItems, ListOf]
  | string s => simp [asList, asItems, ListOf]
  | object m => simp [asList, asItems, ListOf]

theorem listOf_map {f : α → Value} (written : ∀ x, P (f x) x) (xs : List α) :
    ListOf P (.array (xs.map f)) xs := by
  refine ⟨_, rfl, ?_⟩
  rw [List.forall₂_map_left_iff]
  exact List.forall₂_same.mpr fun x _ => written x

theorem exists_forall₂_iff : (∃ xs, List.Forall₂ P vs xs) ↔ ∀ v ∈ vs, ∃ x, P v x := by
  induction vs with
  | nil => exact ⟨fun _ => nofun, fun _ => ⟨[], .nil⟩⟩
  | cons v vs ih =>
    rw [List.forall_mem_cons, ← ih]
    constructor
    · rintro ⟨_, read⟩
      cases read with
      | cons first rest => exact ⟨⟨_, first⟩, ⟨_, rest⟩⟩
    · rintro ⟨⟨x, first⟩, ⟨xs, rest⟩⟩
      exact ⟨x :: xs, .cons first rest⟩

theorem Reads.orNull (reads : Reads dec P) : Reads (asOption dec) (OrNull P) := by
  intro v o
  have present : v ≠ .null → (asOption dec v = .ok o ↔ OrNull P v o) := by
    intro notNull
    have same : asOption dec v = (dec v).map some := by
      cases v <;> first | exact absurd rfl notNull | rfl
    rw [same, map_eq_ok]
    constructor
    · rintro ⟨x, read, rfl⟩
      exact .present notNull ((reads v x).mp read)
    · intro h
      cases h with
      | null => exact absurd rfl notNull
      | present _ read => exact ⟨_, (reads v _).mpr read, rfl⟩
  by_cases null : v = .null
  · subst null
    constructor
    · intro read
      cases read
      exact .null
    · intro h
      cases h with
      | null => rfl
      | present notNull => exact absurd rfl notNull
  · exact present null

section Fields

def under (name : String) (m : List (String × Value)) : List Value :=
  (m.filter fun e => e.1 = name).map (·.2)

/-- The values under the name are read by `P`, and `o` is what the last of them is read as; there is
none if the name does not occur. -/
def Entry (P : Value → α → Prop) (name : String) (m : List (String × Value)) (o : Option α) :
    Prop :=
  ∃ xs, List.Forall₂ P (under name m) xs ∧ xs.getLast? = o

def EntryOr (P : Value → α → Prop) (name : String) (start : α) (m : List (String × Value)) (x : α) :
    Prop :=
  ∃ o, Entry P name m o ∧ x = o.getD start

@[simp] theorem entry_nil : Entry P name [] o ↔ o = none := by
  simp [Entry, under, eq_comm]

@[simp] theorem entry_cons_ne {n : String} (h : n ≠ name) :
    Entry P name ((n, v) :: m) o ↔ Entry P name m o := by
  simp [Entry, under, h]

@[simp] theorem entry_cons_self :
    Entry P name ((name, v) :: m) o ↔
      ∃ x later, P v x ∧ Entry P name m later ∧ o = some (later.getD x) := by
  have first : under name ((name, v) :: m) = v :: under name m := by simp [under]
  constructor
  · rintro ⟨xs, read, rfl⟩
    rw [first] at read
    obtain ⟨x, rest, head, later, rfl⟩ := List.forall₂_cons_left_iff.mp read
    exact ⟨x, rest.getLast?, head, ⟨rest, later, rfl⟩, List.getLast?_cons⟩
  · rintro ⟨x, _, read, ⟨rest, later, rfl⟩, rfl⟩
    exact ⟨x :: rest, first ▸ .cons read later, List.getLast?_cons⟩

theorem mem_under : v ∈ under name m ↔ (name, v) ∈ m := by
  simp only [under, List.mem_map, List.mem_filter, decide_eq_true_eq]
  constructor
  · rintro ⟨⟨n, _⟩, ⟨mem, rfl⟩, rfl⟩
    exact mem
  · intro mem
    exact ⟨(name, v), ⟨mem, rfl⟩, rfl⟩

theorem Entry.reads (h : Entry P name m o) (mem : (name, v) ∈ m) : ∃ x, P v x := by
  obtain ⟨xs, read, -⟩ := h
  exact exists_forall₂_iff.mp ⟨xs, read⟩ v (mem_under.mpr mem)

theorem Entry.unique (reads : Reads dec P) {o' : Option α} (h : Entry P name m o)
    (h' : Entry P name m o') : o = o' := by
  obtain ⟨xs, read, rfl⟩ := h
  obtain ⟨xs', read', rfl⟩ := h'
  have same := (each_eq_ok reads).mpr read
  rw [(each_eq_ok reads).mpr read'] at same
  exact congrArg List.getLast? (Except.ok.inj same).symm

theorem EntryOr.reads {start : α} (h : EntryOr P name start m x) (mem : (name, v) ∈ m) :
    ∃ x, P v x := by
  obtain ⟨o, entry, _⟩ := h
  exact entry.reads mem

theorem exists_entryOr_iff {start : α} :
    (∃ x, EntryOr P name start m x) ↔ ∀ v, (name, v) ∈ m → ∃ x, P v x := by
  constructor
  · rintro ⟨x, given⟩ v mem
    exact given.reads mem
  · intro each
    obtain ⟨xs, read⟩ := exists_forall₂_iff.mpr fun v mem => each v (mem_under.mp mem)
    exact ⟨_, xs.getLast?, ⟨xs, read, rfl⟩, rfl⟩

theorem EntryOr.unique (reads : Reads dec P) {start x' : α} (h : EntryOr P name start m x)
    (h' : EntryOr P name start m x') : x = x' := by
  obtain ⟨o, entry, rfl⟩ := h
  obtain ⟨o', entry', rfl⟩ := h'
  rw [entry.unique reads entry']

theorem EntryOr.of_absent {start : α} (absent : under name m = []) :
    EntryOr P name start m start :=
  ⟨none, ⟨[], absent ▸ .nil, rfl⟩, rfl⟩

theorem EntryOr.of_present {start : α} (present : under name m = [v]) (read : P v x) :
    EntryOr P name start m x :=
  ⟨some x, ⟨[x], present ▸ .cons read .nil, rfl⟩, rfl⟩

@[simp] theorem entryOr_nil {start : α} : EntryOr P name start [] x ↔ x = start := by
  simp [EntryOr]

@[simp] theorem entryOr_cons_ne {n : String} {start : α} (h : n ≠ name) :
    EntryOr P name start ((n, v) :: m) x ↔ EntryOr P name start m x := by
  simp [EntryOr, h]

theorem entry_absent (absent : name ∉ m.map (·.1)) : Entry P name m o ↔ o = none := by
  have nothing : under name m = [] := by
    rw [under, List.map_eq_nil_iff, List.filter_eq_nil_iff]
    rintro ⟨n, v⟩ mem same
    exact absent (of_decide_eq_true same ▸ List.mem_map_of_mem mem)
  simp [Entry, nothing, eq_comm]

@[simp] theorem entryOr_cons_self {start : α} (once : name ∉ m.map (·.1)) :
    EntryOr P name start ((name, v) :: m) x ↔ P v x := by
  simp [EntryOr, entry_absent once]

theorem under_known {l : Layout} (known : name ∈ l.names) (m : List (String × Value)) :
    under name (m.filter fun e => e.1 ∈ l.names) = under name m := by
  unfold under
  rw [List.filter_filter]
  congr 1
  refine List.filter_congr ?_
  intro e _
  by_cases same : e.1 = name
  · simp [same, known]
  · simp [same]

theorem entry_known {l : Layout} (known : name ∈ l.names) :
    Entry P name (m.filter fun e => e.1 ∈ l.names) o ↔ Entry P name m o := by
  unfold Entry
  rw [under_known known]

theorem entryOr_known {l : Layout} {start : α} (known : name ∈ l.names) :
    EntryOr P name start (m.filter fun e => e.1 ∈ l.names) x ↔ EntryOr P name start m x := by
  unfold EntryOr
  simp only [entry_known known]

theorem under_perm (same : m.Perm pairs) (distinct : (m.map (·.1)).Nodup) :
    under name m = under name pairs := by
  have apart : ∀ ps : List (String × Value), (ps.map (·.1)).Nodup →
      (ps.filter fun e => e.1 = name).Pairwise fun a b => a.1 ≠ b.1 := by
    intro ps distinct
    exact (List.pairwise_map.mp distinct).filter _
  unfold under
  congr 1
  refine (same.filter _).eq_of_pairwise ?_ (apart m distinct)
    (apart pairs ((same.map (·.1)).nodup_iff.mp distinct))
  intro a b memA memB unlike
  have nameA : a.1 = name := by simpa using (List.mem_filter.mp memA).2
  have nameB : b.1 = name := by simpa using (List.mem_filter.mp memB).2
  exact absurd (nameA.trans nameB.symm) unlike

theorem entry_perm (same : m.Perm pairs) (distinct : (m.map (·.1)).Nodup) :
    Entry P name m o ↔ Entry P name pairs o := by
  unfold Entry
  rw [under_perm same distinct]

theorem entryOr_perm {start : α} (same : m.Perm pairs) (distinct : (m.map (·.1)).Nodup) :
    EntryOr P name start m x ↔ EntryOr P name start pairs x := by
  unfold EntryOr
  simp only [entry_perm same distinct]

theorem zip_distinct {names : List String} (distinct : names.Nodup) (items : List Value) :
    ((names.zip items).map (·.1)).Nodup := by
  induction names generalizing items with
  | nil => simp
  | cons name names ih =>
    obtain ⟨new, rest⟩ := List.nodup_cons.mp distinct
    cases items with
    | nil => simp
    | cons v items =>
      refine List.nodup_cons.mpr ⟨?_, ih rest items⟩
      intro mem
      obtain ⟨⟨key, _⟩, zipped, same⟩ := List.mem_map.mp mem
      cases same
      exact new (List.of_mem_zip zipped).1

end Fields

section Records

def readAll (read : FieldReader σ) : σ → List (String × Value) → Except DecodeError σ
  | s, [] => .ok s
  | s, (name, v) :: rest =>
    match read s name v with
    | .error e => .error e
    | .ok s => readAll read s rest

variable {l : Layout} {strict : Bool} {read : FieldReader σ} {s s' : σ}

theorem readMembers_eq_ok :
    readMembers l strict read s m = .ok s' ↔
      (strict = true → ∀ e ∈ m, e.1 ∈ l.names) ∧
        readAll read s (m.filter fun e => e.1 ∈ l.names) = .ok s' := by
  induction m generalizing s with
  | nil => simp [readMembers, readAll]
  | cons e m ih =>
    obtain ⟨key, v⟩ := e
    by_cases known : key ∈ l.names
    · simp only [readMembers, known, if_true, List.filter_cons, decide_true, readAll,
        List.forall_mem_cons, true_and]
      cases read s key v with
      | error e => simp
      | ok s => exact ih
    · cases strict with
      | true => simp [readMembers, known]
      | false => simpa [readMembers, known] using ih

theorem readItems_eq_ok {position : Nat} {fields : List (String × Bool)} {items : List Value} :
    readItems l read position s fields items = .ok s' ↔
      items.length ≤ fields.length ∧ (∀ f ∈ fields.drop items.length, f.2 = true) ∧
        readAll read s ((fields.map (·.1)).zip items) = .ok s' := by
  induction fields generalizing position s items with
  | nil => cases items <;> simp [readItems, readAll]
  | cons f fields ih =>
    obtain ⟨name, optional⟩ := f
    cases items with
    | nil =>
      cases optional with
      | false => simp [readItems]
      | true => simpa [readItems, readAll] using @ih s (position + 1) []
    | cons v items =>
      simp only [readItems, List.map_cons, List.zip_cons_cons, readAll, List.length_cons,
        List.drop_succ_cons, Nat.add_le_add_iff_right]
      cases read s name v with
      | error e => simp
      | ok s => exact ih

theorem asRecord_eq_ok :
    asRecord l strict read s v = .ok s' ↔
      ∃ pairs, Gives l strict v pairs ∧ readAll read s pairs = .ok s' := by
  constructor
  · intro record
    cases v with
    | object m =>
      obtain ⟨known, all⟩ := readMembers_eq_ok.mp record
      exact ⟨_, .object known, all⟩
    | array items =>
      obtain ⟨few, optional, all⟩ := readItems_eq_ok.mp record
      exact ⟨_, .array few optional, all⟩
    | null => cases record
    | bool b => cases record
    | int n => cases record
    | float x => cases record
    | string s => cases record
  · rintro ⟨pairs, gives, all⟩
    cases gives with
    | object known => exact readMembers_eq_ok.mpr ⟨known, all⟩
    | array few optional => exact readItems_eq_ok.mpr ⟨few, optional, all⟩

theorem gives_object :
    Gives l false (.object m) pairs ↔ pairs = m.filter fun e => e.1 ∈ l.names := by
  constructor
  · intro gives
    cases gives with
    | object _ => rfl
  · rintro rfl
    exact .object (by simp)

theorem gives_array {items : List Value} :
    Gives l strict (.array items) pairs ↔
      items.length ≤ l.fields.length ∧ (∀ f ∈ l.fields.drop items.length, f.2 = true) ∧
        pairs = l.names.zip items := by
  constructor
  · intro gives
    cases gives with
    | array few optional => exact ⟨few, optional, rfl⟩
  · rintro ⟨few, optional, rfl⟩
    exact .array few optional

theorem Gives.known (h : Gives l strict v pairs) : ∀ e ∈ pairs, e.1 ∈ l.names := by
  cases h with
  | object _ =>
    intro e mem
    simpa using (List.mem_filter.mp mem).2
  | array _ _ =>
    intro e mem
    exact (List.of_mem_zip mem).1

theorem asRecord_iff {T : List (String × Value) → Prop}
    (told : ∀ pairs, (∀ e ∈ pairs, e.1 ∈ l.names) → (readAll read s pairs = .ok s' ↔ T pairs)) :
    asRecord l strict read s v = .ok s' ↔ ∃ pairs, Gives l strict v pairs ∧ T pairs := by
  rw [asRecord_eq_ok]
  constructor
  · rintro ⟨pairs, gives, all⟩
    exact ⟨pairs, gives, (told pairs gives.known).mp all⟩
  · rintro ⟨pairs, gives, spelled⟩
    exact ⟨pairs, gives, (told pairs gives.known).mpr spelled⟩

/-- Where the order of the fields makes no difference, an object is as good as a list of what it has
under the names of the layout. -/
theorem object_iff_array {A : Value → Prop} {T : List (String × Value) → Prop}
    (told : ∀ v, A v ↔ ∃ pairs, Gives l false v pairs ∧ T pairs)
    (perm : ∀ m pairs, m.Perm pairs → (m.map (·.1)).Nodup → T m → T pairs)
    (distinct : l.names.Nodup) {items : List Value} (few : items.length ≤ l.fields.length)
    (optional : ∀ f ∈ l.fields.drop items.length, f.2 = true)
    (same : (m.filter fun e => e.1 ∈ l.names).Perm (l.names.zip items)) :
    A (.object m) ↔ A (.array items) := by
  have once := zip_distinct distinct items
  simp only [told, gives_object, gives_array, exists_eq_left]
  constructor
  · intro spelled
    refine ⟨_, ⟨few, optional, rfl⟩, perm _ _ same ?_ spelled⟩
    exact (same.symm.map (·.1)).nodup_iff.mp once
  · rintro ⟨_, ⟨_, _, rfl⟩, spelled⟩
    exact perm _ _ same.symm once spelled

/-- A field of a record: `dec` reads its value, and the part `get` of what has been read keeps it as
`keep` says. Other fields leave that part alone. -/
structure Field (l : Layout) (read : FieldReader σ) (name : String) (dec : Decoder α)
    (keep : α → β) (get : σ → β) : Prop where
  own : ∀ s v, ∃ set : α → σ, read s name v = (dec v).map set ∧ ∀ x, get (set x) = keep x
  other : ∀ s n v s', n ∈ l.names → n ≠ name → read s n v = .ok s' → get s' = get s

variable {keep : α → β} {get : σ → β}

theorem Field.entry (field : Field l read name dec keep get) (reads : Reads dec P)
    (known : ∀ e ∈ pairs, e.1 ∈ l.names) (all : readAll read s pairs = .ok s') :
    ∃ o, Entry P name pairs o ∧ get s' = (o.map keep).getD (get s) := by
  induction pairs generalizing s with
  | nil =>
    cases all
    exact ⟨none, entry_nil.mpr rfl, rfl⟩
  | cons e pairs ih =>
    obtain ⟨n, v⟩ := e
    obtain ⟨here, later⟩ := List.forall_mem_cons.mp known
    simp only [readAll] at all
    cases first : read s n v with
    | error e =>
      rw [first] at all
      cases all
    | ok mid =>
      rw [first] at all
      obtain ⟨o, entry, kept⟩ := ih later all
      by_cases same : n = name
      · subst same
        obtain ⟨set, taken, put⟩ := field.own s v
        rw [taken] at first
        obtain ⟨x, accepted, rfl⟩ := map_eq_ok.mp first
        have written := (reads v x).mp accepted
        refine ⟨some (o.getD x), entry_cons_self.mpr ⟨x, o, written, entry, rfl⟩, ?_⟩
        rw [kept, put]
        cases o <;> rfl
      · refine ⟨o, (entry_cons_ne same).mpr entry, ?_⟩
        rw [kept, field.other s n v mid here same first]

theorem Field.entry_required {get : σ → Option α} (field : Field l read name dec some get)
    (reads : Reads dec P) (known : ∀ e ∈ pairs, e.1 ∈ l.names) (start : get s = none)
    (all : readAll read s pairs = .ok s') : Entry P name pairs (get s') := by
  obtain ⟨o, entry, kept⟩ := field.entry reads known all
  rw [kept, start]
  cases o <;> exact entry

theorem Field.entry_default {get : σ → α} (field : Field l read name dec id get)
    (reads : Reads dec P) (known : ∀ e ∈ pairs, e.1 ∈ l.names)
    (all : readAll read s pairs = .ok s') : EntryOr P name (get s) pairs (get s') := by
  obtain ⟨o, entry, kept⟩ := field.entry reads known all
  exact ⟨o, entry, by rw [kept, Option.map_id_fun, id]⟩

theorem Field.accepts (field : Field l read name dec keep get) (reads : Reads dec P)
    (accepted : P v x) (s : σ) : ∃ s', read s name v = .ok s' := by
  obtain ⟨set, taken, _⟩ := field.own s v
  exact ⟨set x, by rw [taken, (reads v x).mpr accepted]; rfl⟩

theorem readAll_succeeds (accepts : ∀ e ∈ pairs, ∀ s, ∃ s', read s e.1 e.2 = .ok s') (s : σ) :
    ∃ s', readAll read s pairs = .ok s' := by
  induction pairs generalizing s with
  | nil => exact ⟨s, rfl⟩
  | cons e pairs ih =>
    obtain ⟨here, later⟩ := List.forall_mem_cons.mp accepts
    obtain ⟨mid, first⟩ := here s
    obtain ⟨s', rest⟩ := ih later mid
    exact ⟨s', by simp only [readAll, first, rest]⟩

end Records
end Fieldwork.Json.Value
