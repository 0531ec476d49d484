import Fieldwork.Settings.Text
import Mathlib.Data.List.Nodup

/-!
Settings that list a capture key twice. The search passes the keys once and remembers those it has
passed, so it stops at the first item that stands earlier in the list as well. This is a matter of
the settings alone: a text is refused for it if it reads as such settings, whatever reads it.
-/
namespace Fieldwork

/-- `key` stands at `i` and at an index below `i`, and no smaller `i` has that. -/
structure FirstRepeat (keys : List String) (i : Nat) (key : String) : Prop where
  here : keys[i]? = some key
  below : ∃ j, j < i ∧ keys[j]? = some key
  least : ∀ m n, m < n → n < keys.length → keys[m]? = keys[n]? → i ≤ n

variable {keys before after passed seen : List String} {key key' : String} {i i' : Nat}

/-- The remembered keys are those that have been passed, and these are distinct until the search
stops. -/
theorem firstRepeat_splits (keys : List String) (same : ∀ k, k ∈ seen ↔ k ∈ passed)
    (distinct : passed.Nodup) :
    (firstRepeat seen keys = none ∧ (passed ++ keys).Nodup) ∨
      ∃ before key after, firstRepeat seen keys = some key ∧
        passed ++ keys = before ++ key :: after ∧ before.Nodup ∧ key ∈ before := by
  -- The keys ahead become fewer as the passed ones become more; their whole list stays the same.
  induction keys generalizing seen passed with
  | nil => exact .inl ⟨rfl, by rwa [List.append_nil]⟩
  | cons key keys ih =>
    by_cases again : key ∈ seen
    · exact .inr ⟨passed, key, keys, by rw [firstRepeat, if_pos again], rfl, distinct,
        (same key).mp again⟩
    · have fresh : key ∉ passed := fun mem => again ((same key).mpr mem)
      have longer : ∀ k, k ∈ key :: seen ↔ k ∈ passed ++ [key] := by
        intro k
        simp [same k, or_comm]
      have more : (passed ++ [key]).Nodup := by
        rw [← List.concat_eq_append]
        exact distinct.concat fresh
      have onward : passed ++ key :: keys = passed ++ [key] ++ keys := by simp
      rw [firstRepeat, if_neg again, onward]
      exact ih longer more

theorem FirstRepeat.of_split (distinct : before.Nodup) (again : key ∈ before) :
    FirstRepeat (before ++ key :: after) before.length key where
  here := by simp
  below := by
    obtain ⟨j, inside, found⟩ := List.getElem_of_mem again
    refine ⟨j, inside, ?_⟩
    rw [List.getElem?_append_left inside, List.getElem?_eq_getElem inside, found]
  least := by
    intro m n lt _ equal
    refine Nat.le_of_not_lt fun inside => ?_
    rw [List.getElem?_append_left (Nat.lt_trans lt inside),
      List.getElem?_append_left inside] at equal
    exact List.nodup_iff_getElem?_ne_getElem?.mp distinct m n lt inside equal

theorem FirstRepeat.lt_length (h : FirstRepeat keys i key) : i < keys.length :=
  (List.getElem?_eq_some_iff.mp h.here).1

theorem FirstRepeat.le (h : FirstRepeat keys i key) (h' : FirstRepeat keys i' key') : i ≤ i' := by
  obtain ⟨j, lt, found⟩ := h'.below
  exact h.least j i' lt h'.lt_length (found.trans h'.here.symm)

theorem FirstRepeat.key_eq (h : FirstRepeat keys i key) (h' : FirstRepeat keys i' key') :
    key = key' := by
  have same : i = i' := Nat.le_antisymm (h.le h') (h'.le h)
  have here := h.here
  rw [same, h'.here] at here
  exact (Option.some.inj here).symm

theorem FirstRepeat.not_nodup (h : FirstRepeat keys i key) : ¬ keys.Nodup := by
  intro distinct
  obtain ⟨j, lt, found⟩ := h.below
  have equal : keys[j]? = keys[i]? := found.trans h.here.symm
  exact List.nodup_iff_getElem?_ne_getElem?.mp distinct j i lt h.lt_length equal

theorem firstRepeat_cases (keys : List String) :
    (firstRepeat [] keys = none ∧ keys.Nodup) ∨
      ∃ i key, firstRepeat [] keys = some key ∧ FirstRepeat keys i key := by
  have start : ∀ k, k ∈ ([] : List String) ↔ k ∈ ([] : List String) := fun _ => Iff.rfl
  rcases firstRepeat_splits keys start List.nodup_nil with
    ⟨none, distinct⟩ | ⟨before, key, after, found, split, distinct, again⟩
  · exact .inl ⟨none, distinct⟩
  · rw [List.nil_append] at split
    exact .inr ⟨before.length, key, found, split ▸ .of_split distinct again⟩

theorem firstRepeat_eq_none_iff : firstRepeat [] keys = none ↔ keys.Nodup := by
  rcases firstRepeat_cases keys with ⟨none, distinct⟩ | ⟨i, key, found, first⟩
  · simp [none, distinct]
  · simp [found, first.not_nodup]

theorem firstRepeat_eq_some_iff : firstRepeat [] keys = some key ↔ ∃ i, FirstRepeat keys i key := by
  rcases firstRepeat_cases keys with ⟨none, distinct⟩ | ⟨i, key', found, first⟩
  · rw [none]
    simp only [reduceCtorEq, false_iff]
    rintro ⟨i, first⟩
    exact first.not_nodup distinct
  · rw [found, Option.some.injEq]
    constructor
    · rintro rfl
      exact ⟨i, first⟩
    · rintro ⟨i', first'⟩
      exact first.key_eq first'

namespace Settings

variable {s s' : Settings} {e : SettingsError}

def Distinct (s : Settings) : Prop := ∀ keys, s.propagation.captureKeys = some keys → keys.Nodup

theorem not_distinct_iff :
    ¬ s.Distinct ↔ ∃ keys i j, s.propagation.captureKeys = some keys ∧
      i < j ∧ j < keys.length ∧ keys[i]? = keys[j]? := by
  simp only [Distinct, List.nodup_iff_getElem?_ne_getElem?, not_forall, ne_eq, not_not,
    exists_prop, exists_and_left]

theorem repeatedKey_eq_none_iff : s.repeatedKey = none ↔ s.Distinct := by
  rw [repeatedKey, Option.bind_eq_none_iff]
  exact forall_congr' fun keys => imp_congr_right fun _ => firstRepeat_eq_none_iff

theorem repeatedKey_eq_some_iff :
    s.repeatedKey = some key ↔
      ∃ keys i, s.propagation.captureKeys = some keys ∧ FirstRepeat keys i key := by
  simp only [repeatedKey, Option.bind_eq_some_iff, firstRepeat_eq_some_iff, exists_and_left]

theorem validate_eq_ok_iff : s.validate = .ok s' ↔ s' = s ∧ s.Distinct := by
  rw [validate, ← repeatedKey_eq_none_iff]
  cases s.repeatedKey with
  | none => simp [eq_comm]
  | some key => simp

theorem validate_eq_error_iff :
    s.validate = .error e ↔ ∃ key, s.repeatedKey = some key ∧ e = .duplicateKey key := by
  rw [validate]
  cases s.repeatedKey with
  | none => simp
  | some key => simp [eq_comm]

theorem validate_fails_iff : (∃ e, s.validate = .error e) ↔ ¬ s.Distinct := by
  rw [validate, ← repeatedKey_eq_none_iff]
  cases s.repeatedKey with
  | none => simp
  | some key => simp

def ofTextBy (reader : String → Except SettingsError Settings) (text : String) :
    Except SettingsError Settings :=
  (reader text).bind validate

/-- A reader says nothing of repeated keys. -/
def ReadsOnly (reader : String → Except SettingsError Settings) : Prop :=
  ∀ text key, reader text ≠ .error (.duplicateKey key)

theorem read_readsOnly : ReadsOnly read := by
  intro text key
  -- The documents are kept opaque: which text they come from makes no difference.
  unfold read
  generalize Markup.Document.allOfText? text = documents
  match documents with
  | none => simp
  | some [] => simp
  | some (d :: ds) =>
    dsimp only
    generalize ofDocument d = first
    cases first with
    | error e => simp
    | ok s => cases ds <;> simp

variable {reader : String → Except SettingsError Settings} {text : String}

theorem ofTextBy_eq_ok_iff : ofTextBy reader text = .ok s ↔ reader text = .ok s ∧ s.Distinct := by
  unfold ofTextBy
  cases reader text with
  | error e => simp [Except.bind]
  | ok s' =>
    simp only [Except.bind, validate_eq_ok_iff, Except.ok.injEq]
    constructor
    · rintro ⟨rfl, distinct⟩
      exact ⟨rfl, distinct⟩
    · rintro ⟨rfl, distinct⟩
      exact ⟨rfl, distinct⟩

theorem ofTextBy_eq_duplicateKey_iff (only : ReadsOnly reader) :
    ofTextBy reader text = .error (.duplicateKey key) ↔
      ∃ s, reader text = .ok s ∧ s.validate = .error (.duplicateKey key) := by
  have plain := only text key
  unfold ofTextBy
  cases read : reader text with
  | error e =>
    rw [read] at plain
    simpa [Except.bind] using plain
  | ok s => simp [Except.bind]

/-- Settings are refused exactly if a key stands at two places of their list, and the refusal names
the key at the first place that has it earlier in the list as well. Reading a text and parsing it
agree. With any reader, what a text gives has distinct keys, and the text is refused for a key
exactly if it reads as settings that are refused for this key. -/
theorem repeats_refused :
    (∀ s : Settings, (∃ e, s.validate = .error e) ↔
      ∃ keys i j, s.propagation.captureKeys = some keys ∧
        i < j ∧ j < keys.length ∧ keys[i]? = keys[j]?) ∧
    (∀ (s : Settings) e, s.validate = .error e ↔
      ∃ keys i key, s.propagation.captureKeys = some keys ∧ FirstRepeat keys i key ∧
        e = .duplicateKey key) ∧
    (∀ text, parse text = ofText text ∧ ofText text = ofTextBy read text) ∧
    ReadsOnly read ∧
    ∀ reader, ReadsOnly reader → ∀ text,
      (∀ s, ofTextBy reader text = .ok s ↔ reader text = .ok s ∧ s.Distinct) ∧
      ∀ key, ofTextBy reader text = .error (.duplicateKey key) ↔
        ∃ s, reader text = .ok s ∧ s.validate = .error (.duplicateKey key) := by
  refine ⟨fun s => validate_fails_iff.trans not_distinct_iff, ?_, fun text => ⟨rfl, rfl⟩,
    read_readsOnly, ?_⟩
  · intro s e
    simp only [validate_eq_error_iff, repeatedKey_eq_some_iff]
    constructor
    · rintro ⟨key, ⟨keys, i, listed, first⟩, rfl⟩
      exact ⟨keys, i, key, listed, first, rfl⟩
    · rintro ⟨keys, i, key, listed, first, rfl⟩
      exact ⟨key, ⟨keys, i, listed, first⟩, rfl⟩
  · intro reader only text
    exact ⟨fun s => ofTextBy_eq_ok_iff, fun key => ofTextBy_eq_duplicateKey_iff only⟩

example :
    validate { propagation := { captureKeys := some ["tenant", "user", "user", "tenant"] } } =
      .error (.duplicateKey "user") := by
  rfl

end Settings
end Fieldwork
