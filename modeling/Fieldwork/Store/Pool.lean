/-!
Pools of cells: cells are numbered as they are allocated and are never given back.
-/
namespace Fieldwork

structure Pool (α : Type) where
  size : Nat
  cell : Nat → α

namespace Pool

variable {α : Type}

def empty (x : α) : Pool α := ⟨0, fun _ => x⟩

def set (p : Pool α) (i : Nat) (x : α) : Pool α :=
  ⟨p.size, fun j => if j = i then x else p.cell j⟩

def alloc (p : Pool α) (x : α) : Nat × Pool α :=
  (p.size, ⟨p.size + 1, fun j => if j = p.size then x else p.cell j⟩)

@[simp] theorem size_set (p : Pool α) (i : Nat) (x : α) : (p.set i x).size = p.size := rfl

@[simp] theorem size_alloc (p : Pool α) (x : α) : (p.alloc x).2.size = p.size + 1 := rfl

theorem cell_set (p : Pool α) (i j : Nat) (x : α) :
    (p.set i x).cell j = if j = i then x else p.cell j := rfl

@[simp] theorem cell_set_self (p : Pool α) (i : Nat) (x : α) : (p.set i x).cell i = x := by
  simp [cell_set]

theorem cell_set_ne (p : Pool α) {i j : Nat} (h : j ≠ i) (x : α) :
    (p.set i x).cell j = p.cell j := by
  simp [cell_set, h]

@[simp] theorem cell_alloc_self (p : Pool α) (x : α) :
    (p.alloc x).2.cell (p.alloc x).1 = x := by
  simp [alloc]

theorem cell_alloc_of_lt (p : Pool α) {j : Nat} (h : j < p.size) (x : α) :
    (p.alloc x).2.cell j = p.cell j := by
  simp [alloc, Nat.ne_of_lt h]

end Pool
end Fieldwork
