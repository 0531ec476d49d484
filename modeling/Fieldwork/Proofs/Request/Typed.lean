import Fieldwork.Proofs.Json.Record
import Fieldwork.Proofs.Request.Lineage
import Fieldwork.Scenario.Contexts

/-!
Entries that are read as typed values. A type is exact if each of its values has a JSON form, which
is what is entered for it, and nothing but these forms is read: a number out of range, a double in
place of a whole number, or one wrong item of a list is refused. Null is a value like any other, so
a key reads as absent only if nothing has ever been stored under it.
-/
namespace Fieldwork

open Json (Value)
open Json.Value

namespace EntryType

variable {α : Type} {t : EntryType α} {write : α → Value}

structure Exact (t : EntryType α) (write : α → Value) : Prop where
  enters : ∀ x, t.encode x = .ok (write x)
  reads : Reads t.decode fun v x => v = write x

theorem json_exact : json.Exact id where
  enters _ := rfl
  reads _ _ := ⟨Except.ok.inj, congrArg Except.ok⟩

theorem int_exact (low high : Int) (name : String) :
    (int low high name).Exact fun n => .int n.1 where
  enters _ := rfl
  reads v n := by
    obtain ⟨n, fits⟩ := n
    have read := reads_int low high name v
    simp only [int]
    cases accepted : asInt low high name v with
    | error e =>
      simp only [reduceCtorEq, false_iff]
      rintro rfl
      simpa [accepted, fits] using read n
    | ok k =>
      obtain ⟨rfl, within⟩ := (read k).mp accepted
      simp [within]

theorem bool_exact : bool.Exact .bool where
  enters _ := rfl
  reads := reads_bool

theorem string_exact : string.Exact .string where
  enters _ := rfl
  reads := reads_string

theorem unit_exact : unit.Exact fun _ => .null where
  enters _ := rfl
  reads v _ := by cases v <;> simp [unit, asUnit]

theorem Exact.option (exact : t.Exact write) (present : ∀ x, write x ≠ .null) :
    t.option.Exact fun o => (o.map write).getD .null where
  enters
    | none => rfl
    | some x => exact.enters x
  reads v o := by
    rw [show t.option.decode = asOption t.decode from rfl, exact.reads.orNull v o]
    constructor
    · intro read
      cases read with
      | null => rfl
      | present notNull read => exact read
    · rintro rfl
      cases o with
      | none => exact .null
      | some x => exact .present (present x) rfl

theorem Exact.mapM_encode (exact : t.Exact write) (xs : List α) :
    xs.mapM t.encode = .ok (xs.map write) := by
  induction xs with
  | nil => rfl
  | cons x xs ih => simp [exact.enters x, ih, bind, Except.bind, pure, Except.pure]

theorem Exact.list (exact : t.Exact write) : t.list.Exact fun xs => .array (xs.map write) where
  enters xs := by
    simp only [EntryType.list, exact.mapM_encode]
    rfl
  reads v xs := by
    rw [show t.list.decode = asList t.decode from rfl, exact.reads.list v xs]
    constructor
    · rintro ⟨items, rfl, read⟩
      have same : List.Forall₂ Eq items (xs.map write) := List.forall₂_map_right_iff.mpr read
      rw [List.forall₂_eq_eq_eq] at same
      rw [same]
    · rintro rfl
      exact ⟨_, rfl, List.forall₂_map_left_iff.mpr (List.forall₂_same.mpr fun _ _ => rfl)⟩

section Entries

variable {st : Store} {c : RequestContext} {key : String} {x : α} {v : Value}

theorem insertAs_unwritable (unwritable : ∀ v, t.encode x ≠ .ok v) :
    ∃ e, st.insertAs t c key x = (.error e, st) := by
  cases entered : t.encode x with
  | error e => exact ⟨e, by simp only [Store.insertAs, entered]⟩
  | ok v => exact absurd entered (unwritable v)

theorem getAs_eq_none_iff : st.getAs t c key = .ok none ↔ st.entry? c key = none := by
  unfold Store.getAs
  cases st.entry? c key with
  | none => simp
  | some v => cases read : t.decode v <;> simp [Except.map, read]

theorem Exact.getAs_eq_some_iff (exact : t.Exact write) :
    st.getAs t c key = .ok (some x) ↔ st.entry? c key = some (write x) := by
  unfold Store.getAs
  cases st.entry? c key with
  | none => simp
  | some v => simp [map_eq_ok, exact.reads v]

theorem Exact.getAs_refuses (exact : t.Exact write) (stored : st.entry? c key = some v)
    (other : ∀ x, v ≠ write x) : ∃ e, st.getAs t c key = .error e := by
  cases read : st.getAs t c key with
  | error e => exact ⟨e, rfl⟩
  | ok o =>
    cases o with
    | none => simp [getAs_eq_none_iff, stored] at read
    | some x =>
      rw [exact.getAs_eq_some_iff, stored] at read
      exact absurd (Option.some.inj read) (other x)

theorem Exact.getAs_insertAs (exact : t.Exact write) (st : Store) (c : RequestContext)
    (key : String) (x : α) :
    ∃ after, st.insertAs t c key x = (.ok (), after) ∧ after.getAs t c key = .ok (some x) := by
  refine ⟨st.putEntry c key (write x), by simp only [Store.insertAs, exact.enters], ?_⟩
  rw [exact.getAs_eq_some_iff]
  simp [Store.entry?, Store.putEntry]

end Entries
end EntryType

namespace Scenario

namespace ReadAs

def Carrier : ReadAs → Type
  | json => Value
  | int32 => { n : Int // -0x80000000 ≤ n ∧ n ≤ 0x7FFFFFFF }
  | nat8 => { n : Int // 0 ≤ n ∧ n ≤ 0xFF }
  | int64 => { n : Int // -0x8000000000000000 ≤ n ∧ n ≤ 0x7FFFFFFFFFFFFFFF }
  | nat64 => { n : Int // 0 ≤ n ∧ n ≤ 0xFFFFFFFFFFFFFFFF }
  | bool => Bool
  | string => String
  | optionalString => Option String
  | listOfInt32 => List { n : Int // -0x80000000 ≤ n ∧ n ≤ 0x7FFFFFFF }
  | unit => Unit

def entryType : (a : ReadAs) → EntryType a.Carrier
  | json => .json
  | int32 => .int32
  | nat8 => .nat8
  | int64 => .int64
  | nat64 => .nat64
  | bool => .bool
  | string => .string
  | optionalString => .option .string
  | listOfInt32 => .list .int32
  | unit => .unit

def write : (a : ReadAs) → a.Carrier → Value
  | json, v => v
  | int32, n => .int n.1
  | nat8, n => .int n.1
  | int64, n => .int n.1
  | nat64, n => .int n.1
  | bool, b => .bool b
  | string, s => .string s
  | optionalString, none => .null
  | optionalString, some s => .string s
  | listOfInt32, ns => .array (ns.map fun n => .int n.1)
  | unit, _ => .null

theorem exact (a : ReadAs) : a.entryType.Exact a.write := by
  cases a with
  | json => exact EntryType.json_exact
  | int32 => exact EntryType.int_exact _ _ _
  | nat8 => exact EntryType.int_exact _ _ _
  | int64 => exact EntryType.int_exact _ _ _
  | nat64 => exact EntryType.int_exact _ _ _
  | bool => exact EntryType.bool_exact
  | string => exact EntryType.string_exact
  | optionalString =>
    have same : write optionalString = fun o => (o.map Value.string).getD .null := by
      funext o
      cases o <;> rfl
    rw [same]
    exact EntryType.string_exact.option fun _ => Value.noConfusion
  | listOfInt32 => exact (EntryType.int_exact _ _ _).list
  | unit => exact EntryType.unit_exact

end ReadAs

namespace Session

variable {s s' : Session} {r : Report} {context key : String}

theorem readAs_eq (s : Session) (c : RequestContext) (key : String) (a : ReadAs) :
    s.readAs c key a = s.readEntry c key a.entryType := by
  cases a <;> rfl

theorem read_same {a : ReadAs} (read : s.read context key a = some (r, s')) : s' = s := by
  obtain ⟨c, -, entry⟩ := Option.bind_eq_some_iff.mp read
  rw [readAs_eq, readEntry] at entry
  split at entry
  · cases entry
    rfl
  · cases entry
    rfl

end Session
end Scenario

/-- In every run a context gives, for what is stored under a key, the value of the type that has it
as its JSON form, and an error if there is none. It gives nothing only where nothing has been
entered through its family and the family was given nothing. Reading changes nothing, and neither
does entering a value without a JSON form. -/
theorem entries_decode_encoded (a : Scenario.ReadAs) (st : Store) (events : List Lineage.Event) :
    let start : Lineage := ⟨st, []⟩
    let w := start.run events
    (∀ m ∈ w.held, ∀ key : String,
      (∀ x, ∃ after, w.store.insertAs a.entryType m.context key x = (.ok (), after) ∧
        after.getAs a.entryType m.context key = .ok (some x)) ∧
      (∀ v, w.store.entry? m.context key = some v →
        (∀ x, w.store.getAs a.entryType m.context key = .ok (some x) ↔ v = a.write x) ∧
        ((∀ x, v ≠ a.write x) → ∃ e, w.store.getAs a.entryType m.context key = .error e)) ∧
      ∃ before birth after, events = before ++ birth :: after ∧ (start.run before).Begins birth ∧
        m.family = (start.run before).held.length ∧
        (w.store.getAs a.entryType m.context key = .ok none ↔
          ((start.run before).step birth).enteredBy m.family key after = [] ∧
            (start.run before).given key birth = none)) ∧
    (∀ (s s' : Scenario.Session) (context key : String) (r : Scenario.Report),
      s.read context key a = some (r, s') → s' = s) ∧
    ∀ {α : Type} (t : EntryType α) (c : RequestContext) (key : String) (x : α),
      (∀ v, t.encode x ≠ .ok v) → ∃ e, w.store.insertAs t c key x = (.error e, w.store) := by
  intro start w
  refine ⟨?_, fun _ _ _ _ _ => Scenario.Session.read_same, ?_⟩
  · intro m mem key
    refine ⟨a.exact.getAs_insertAs w.store m.context key, ?_, ?_⟩
    · intro v stored
      refine ⟨fun x => ?_, a.exact.getAs_refuses stored⟩
      rw [a.exact.getAs_eq_some_iff, stored, Option.some.injEq]
    · have told := Lineage.told (Lineage.sound_start st) events m mem
      obtain ⟨before, birth, after, split, begins, family, reads⟩ :=
        told.resolve_left fun held => List.not_mem_nil held.1
      refine ⟨before, birth, after, split, begins, family, ?_⟩
      rw [EntryType.getAs_eq_none_iff, (reads key).1, Option.or_eq_none_iff,
        List.getLast?_eq_none_iff]
  · intro α t c key x unwritable
    exact EntryType.insertAs_unwritable unwritable

example :
    let pairs : List ((Value × Value) × Value) := [((.int 1, .int 2), .int 3)]
    let w := Lineage.run ⟨.empty, []⟩ [.create none, .insert 0 .string "tenant" "acme",
      .insert 0 .unit "user" (), .insert 0 .pairKeyed "tenant" pairs]
    let c : RequestContext := ⟨0, 0, none⟩
    w.store.getAs .string c "tenant" = .ok (some "acme") ∧
      w.store.getAs .int32 c "tenant" = .error (.wrongType (.string "acme") "i32") ∧
      w.store.getAs (.option .string) c "user" = .ok (some none) ∧
      w.store.getAs (.option .string) c "other" = .ok none :=
  ⟨rfl, rfl, rfl, rfl⟩

end Fieldwork
