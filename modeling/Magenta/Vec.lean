import Magenta.Sys

/-!
# Vectors with a capacity

`MessageBuf` hands the kernel raw pointers into two `Vec`s together with their
capacities, and later exposes what the kernel stored with `set_len`. So a vector
here is its initialised elements and its capacity, with the length bounded by
the capacity as a field.

`Vec::reserve` promises only that the capacity afterwards covers the length plus
the request; how much more it allocates is the allocator's policy, a parameter. The
standard library's policy depends on the size of an element, so every reserve names
the size of its vector's elements.
-/

namespace Magenta

/-- An allocation policy for `Vec::reserve`: the new capacity from the size of an
element, the current capacity and the one required, never below what is required. -/
structure Growth where
  grow : Nat → Nat → Nat → Nat
  le_grow : ∀ elemSize cap required, required ≤ grow elemSize cap required

/-- `size_of::<u8>()`, the element size of a byte vector. -/
def sizeOfU8 : Nat := 1

/-- `size_of::<mx_handle_t>()`: a handle is an `i32`. -/
def sizeOfHandle : Nat := 4

/-- `RawVec`'s smallest non-zero capacity for elements of `elemSize` bytes. -/
def minNonZeroCap (elemSize : Nat) : Nat :=
  if elemSize = 1 then 8 else if elemSize ≤ 1024 then 4 else 1

/-- The standard library's amortised growth: twice the capacity, at least what is
required, and at least the smallest non-zero capacity for the element size. -/
def Growth.amortized : Growth :=
  ⟨fun elemSize cap required => max (minNonZeroCap elemSize) (max (2 * cap) required),
    fun _ _ _ => (Nat.le_max_right _ _).trans (Nat.le_max_right _ _)⟩

/-- A Rust `Vec`: its initialised elements and its capacity. -/
structure RVec (α : Type) where
  elems : List α
  cap : Nat
  len_le_cap : elems.length ≤ cap

namespace RVec

variable {α : Type}

/-- `Vec::new()`. -/
def new : RVec α := ⟨[], 0, le_refl 0⟩

/-- `Vec::len`. -/
def len (v : RVec α) : Nat := v.elems.length

/-- `Vec::clear`: the elements go, the allocation stays. -/
def clear (v : RVec α) : RVec α := ⟨[], v.cap, Nat.zero_le _⟩

/-- Overwriting one element in place, as `mem::replace` through `get_mut` does. -/
def set (v : RVec α) (i : Nat) (a : α) : RVec α :=
  ⟨v.elems.set i a, v.cap, by simpa using v.len_le_cap⟩

/-- The kernel writes `xs` at the start of the allocation and `set_len` exposes them. -/
def store (v : RVec α) (xs : List α) (h : xs.length ≤ v.cap) : RVec α := ⟨xs, v.cap, h⟩

/-- `Vec::reserve(additional)` on a vector of `elemSize`-byte elements: nothing when
the capacity already covers it. -/
def reserve (g : Growth) (elemSize : Nat) (v : RVec α) (additional : Nat) : RVec α :=
  if v.len + additional ≤ v.cap then v
  else ⟨v.elems, g.grow elemSize v.cap (v.len + additional),
    (Nat.le_add_right _ _).trans (g.le_grow _ _ _)⟩

@[simp] theorem new_elems : (new : RVec α).elems = [] := rfl
@[simp] theorem clear_elems (v : RVec α) : v.clear.elems = [] := rfl
@[simp] theorem clear_cap (v : RVec α) : v.clear.cap = v.cap := rfl
@[simp] theorem set_elems (v : RVec α) (i : Nat) (a : α) :
    (v.set i a).elems = v.elems.set i a := rfl
@[simp] theorem store_elems (v : RVec α) (xs : List α) (h : xs.length ≤ v.cap) :
    (v.store xs h).elems = xs := rfl
@[simp] theorem store_cap (v : RVec α) (xs : List α) (h : xs.length ≤ v.cap) :
    (v.store xs h).cap = v.cap := rfl

@[simp] theorem reserve_elems (g : Growth) (elemSize : Nat) (v : RVec α) (n : Nat) :
    (v.reserve g elemSize n).elems = v.elems := by
  unfold reserve; split <;> rfl

/-- After `reserve(n)` the capacity covers the length plus `n`, and never shrinks. -/
theorem reserve_cap (g : Growth) (elemSize : Nat) (v : RVec α) (n : Nat) :
    v.len + n ≤ (v.reserve g elemSize n).cap ∧ v.cap ≤ (v.reserve g elemSize n).cap := by
  unfold reserve
  split
  · exact ⟨‹_›, le_rfl⟩
  · have := g.le_grow elemSize v.cap (v.len + n)
    exact ⟨this, by simp only; omega⟩

end RVec

/-- `ensure_capacity` on a vector of `elemSize`-byte elements: reserve what the length
lacks, not what the capacity lacks. -/
def ensureCapacity {α : Type} (g : Growth) (elemSize : Nat) (vec : RVec α) (size : Nat) :
    RVec α :=
  if size > vec.len then vec.reserve g elemSize (size - vec.len) else vec

@[simp] theorem ensureCapacity_elems {α : Type} (g : Growth) (elemSize : Nat) (v : RVec α)
    (size : Nat) : (ensureCapacity g elemSize v size).elems = v.elems := by
  unfold ensureCapacity; split <;> simp

/-- Whatever the current length, `ensure_capacity` leaves room for `size` elements,
and it never shrinks the allocation. -/
theorem ensureCapacity_cap {α : Type} (g : Growth) (elemSize : Nat) (v : RVec α)
    (size : Nat) :
    size ≤ (ensureCapacity g elemSize v size).cap ∧
      v.cap ≤ (ensureCapacity g elemSize v size).cap := by
  unfold ensureCapacity
  split
  · have := RVec.reserve_cap g elemSize v (size - v.len)
    omega
  · have : v.len ≤ v.cap := v.len_le_cap
    omega

end Magenta
