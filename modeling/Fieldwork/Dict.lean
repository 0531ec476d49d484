/-!
Ordered dictionaries: a key stands where it was first entered and holds the value entered last.
`get?` is the view that the lemmas speak of; `keys` is the order that a reader sees.
-/
namespace Fieldwork

universe u v

abbrev Dict (κ : Type u) (α : Type v) := List (κ × α)

namespace Dict

variable {κ : Type u} {α : Type v}

def keys (d : Dict κ α) : List κ := d.map (·.1)

variable [DecidableEq κ]

def get? : Dict κ α → κ → Option α
  | [], _ => none
  | (k, x) :: d, q => if k = q then some x else get? d q

def insert : Dict κ α → κ → α → Dict κ α
  | [], q, y => [(q, y)]
  | (k, x) :: d, q, y => if k = q then (k, y) :: d else (k, x) :: insert d q y

def contains (d : Dict κ α) (q : κ) : Bool := (get? d q).isSome

def insertAll (d : Dict κ α) (entries : List (κ × α)) : Dict κ α :=
  entries.foldl (fun d e => insert d e.1 e.2) d

def ofList (entries : List (κ × α)) : Dict κ α := insertAll [] entries

@[simp] theorem get?_nil (q : κ) : get? ([] : Dict κ α) q = none := rfl

@[simp] theorem get?_insert_self (d : Dict κ α) (q : κ) (y : α) :
    get? (insert d q y) q = some y := by
  induction d with
  | nil => simp [insert, get?]
  | cons e d ih => by_cases h : e.1 = q <;> simp [insert, get?, h, ih]

theorem get?_insert_ne (d : Dict κ α) {p q : κ} (h : p ≠ q) (y : α) :
    get? (insert d q y) p = get? d p := by
  induction d with
  | nil => simp [insert, get?, Ne.symm h]
  | cons e d ih =>
    by_cases hq : e.1 = q
    · have hp : e.1 ≠ p := fun hp => h (hp.symm.trans hq)
      simp [insert, get?, hq, Ne.symm h]
    · by_cases hp : e.1 = p <;> simp [insert, get?, hq, hp, ih, h]

theorem get?_insert (d : Dict κ α) (p q : κ) (y : α) :
    get? (insert d q y) p = if p = q then some y else get? d p := by
  split
  · next h => rw [h, get?_insert_self]
  · next h => exact get?_insert_ne d h y

theorem get?_eq_none_iff {d : Dict κ α} {q : κ} : get? d q = none ↔ q ∉ keys d := by
  induction d with
  | nil => simp [keys]
  | cons e d ih =>
    by_cases h : e.1 = q
    · simp [get?, keys, h]
    · simpa [get?, keys, h, Ne.symm h] using ih

theorem keys_insert (d : Dict κ α) (q : κ) (y : α) :
    keys (insert d q y) = if q ∈ keys d then keys d else keys d ++ [q] := by
  induction d with
  | nil => simp [insert, keys]
  | cons e d ih =>
    simp only [keys] at ih
    by_cases h : e.1 = q
    · simp [insert, keys, h]
    · by_cases hq : q ∈ d.map (·.1) <;> simp [insert, keys, h, Ne.symm h, ih, hq]

end Dict
end Fieldwork
