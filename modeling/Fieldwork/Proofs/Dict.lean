import Fieldwork.Dict
import Mathlib.Data.List.Nodup

/-!
What a dictionary holds after many entries: the keys in the order in which they first came, and
under each of them what was entered last.
-/
namespace Fieldwork

namespace Dict

variable {κ : Type u} {α : Type v} {β : Type w} [DecidableEq κ]

theorem eraseDups_of_nodup {ks : List κ} (h : ks.Nodup) : ks.eraseDups = ks := by
  induction ks with
  | nil => rfl
  | cons k ks ih =>
    obtain ⟨fresh, rest⟩ := List.nodup_cons.mp h
    have kept : ks.filter (fun k' => !k' == k) = ks := by
      rw [List.filter_eq_self]
      intro k' mem
      have apart : k' ≠ k := fun same => fresh (same ▸ mem)
      simp [apart]
    rw [List.eraseDups_cons, kept, ih rest]

theorem insertAll_cons (d : Dict κ α) (e : κ × α) (es : List (κ × α)) :
    insertAll d (e :: es) = insertAll (insert d e.1 e.2) es := rfl

theorem insert_of_not_mem {d : Dict κ α} {q : κ} (h : q ∉ keys d) (y : α) :
    insert d q y = d ++ [(q, y)] := by
  induction d with
  | nil => rfl
  | cons e d ih =>
    obtain ⟨apart, fresh⟩ := not_or.mp (mt List.mem_cons.mpr h)
    simp [insert, Ne.symm apart, ih fresh]

theorem nodup_insert {d : Dict κ α} (h : (keys d).Nodup) (q : κ) (y : α) :
    (keys (insert d q y)).Nodup := by
  rw [keys_insert]
  split
  · exact h
  · next new =>
    rw [← List.concat_eq_append]
    exact h.concat new

theorem nodup_insertAll {d : Dict κ α} (h : (keys d).Nodup) (es : List (κ × α)) :
    (keys (insertAll d es)).Nodup := by
  induction es generalizing d with
  | nil => exact h
  | cons e es ih => exact ih (nodup_insert h e.1 e.2)

theorem keys_insertAll {d : Dict κ α} (h : (keys d).Nodup) (es : List (κ × α)) :
    keys (insertAll d es) = (keys d ++ keys es).eraseDups := by
  induction es generalizing d with
  | nil =>
    have whole : keys d ++ keys ([] : List (κ × α)) = keys d := List.append_nil _
    rw [whole, eraseDups_of_nodup h]
    rfl
  | cons e es ih =>
    rw [insertAll_cons, ih (nodup_insert h e.1 e.2), keys_insert]
    split
    · next old =>
      have again : (keys (e :: es)).removeAll (keys d) = (keys es).removeAll (keys d) := by
        rw [keys] at old
        simp [List.removeAll, keys, old]
      rw [List.eraseDups_append, List.eraseDups_append, again]
    · next new => rw [List.append_assoc]; rfl

theorem insertAll_of_nodup {d : Dict κ α} {es : List (κ × α)} (h : (keys (d ++ es)).Nodup) :
    insertAll d es = d ++ es := by
  induction es generalizing d with
  | nil => exact (List.append_nil d).symm
  | cons e es ih =>
    have fresh : e.1 ∉ keys d := by
      intro mem
      simp only [keys, List.map_append, List.map_cons, List.nodup_append] at h
      exact h.2.2 e.1 mem e.1 List.mem_cons_self rfl
    have split : d ++ e :: es = insert d e.1 e.2 ++ es := by
      rw [insert_of_not_mem fresh, List.append_assoc]
      rfl
    rw [split] at h ⊢
    exact ih h

theorem get?_insertAll (d : Dict κ α) (es : List (κ × α)) (q : κ) :
    get? (insertAll d es) q =
      ((es.filter fun e => e.1 = q).map (·.2)).getLast?.or (get? d q) := by
  induction es generalizing d with
  | nil => rfl
  | cons e es ih =>
    rw [insertAll_cons, ih, get?_insert]
    by_cases same : e.1 = q
    · rw [List.filter_cons_of_pos (by simpa using same), List.map_cons, List.getLast?_cons,
        if_pos same.symm]
      cases ((es.filter fun e => e.1 = q).map (·.2)).getLast? <;> rfl
    · rw [List.filter_cons_of_neg (by simpa using same), if_neg (Ne.symm same)]

theorem get?_insertAll_map (d : Dict κ α) (ks : List κ) (g : κ → α) (q : κ) :
    get? (insertAll d (ks.map fun k => (k, g k))) q = if q ∈ ks then some (g q) else get? d q := by
  induction ks generalizing d with
  | nil => rfl
  | cons k ks ih =>
    rw [List.map_cons, insertAll_cons, ih, get?_insert]
    by_cases last : q ∈ ks
    · simp [last]
    · by_cases same : q = k <;> simp [last, same]

theorem get?_map (d : Dict κ α) (g : κ → α → β) (q : κ) :
    get? (d.map fun e => (e.1, g e.1 e.2)) q = (get? d q).map (g q) := by
  induction d with
  | nil => rfl
  | cons e d ih =>
    rw [List.map_cons, get?, get?]
    split
    · next same => rw [same]; rfl
    · exact ih

end Dict

end Fieldwork
