import Magenta.Vec

/-!
# Wait sets and virtual memory objects

The rest of `lib.rs` that computes anything on the kernel's answers. `WaitSet::wait`
offers its vector's capacity, saturated to a `u32`, and on success exposes the results
the kernel stored; on any status other than `NO_ERROR`, a positive one included, it
clears the vector, so a failed wait never shows results of an earlier one.
`Vmo::read` and `Vmo::write` get an `isize` back: a negative one is an error whose
status is its low 32 bits, so a kernel error is reported unchanged exactly when it
fits in an `mx_status_t`.

## Implementation notes

The bytes a VMO transfer copies are not modelled: the bindings never look at them.
-/

namespace Magenta

/-- `WaitSetResult(sys::mx_waitset_result_t)`. -/
structure WaitSetResult where
  cookie : UInt64
  status : Int
  observed : Nat
  deriving DecidableEq, Repr

/-- The arguments of one `mx_waitset_wait`: the wait set, the deadline, and the number
of results the vector has room for. -/
structure WaitCall where
  handle : Int
  timeout : Nat
  numResults : Nat
  deriving DecidableEq, Repr

/-- The kernel's answer to a wait: the status, `max_results`, and the results stored,
which on success fit in the room the call offered. -/
structure WaitReply (call : WaitCall) where
  status : Int
  maxResults : Nat
  results : List WaitSetResult
  fits : status = noError → results.length ≤ call.numResults

/-- `WaitSet(Handle)`. -/
structure WaitSet where
  handle : Handle

namespace WaitSet

variable {σ : Type} (W : σ → (call : WaitCall) → WaitReply call × σ) (self : WaitSet)
  (timeout : Nat)

/-- The call `wait` makes for a results vector. -/
def waitCall (results : RVec WaitSetResult) : WaitCall :=
  ⟨self.handle.raw, timeout, sizeToU32Sat results.cap⟩

/-- `WaitSet::wait`: any status other than `NO_ERROR` clears the vector; otherwise
`set_len` exposes the results the kernel stored. -/
def wait (results : RVec WaitSetResult) (k : σ) :
    Except Status Nat × RVec WaitSetResult × σ :=
  let res := W k (waitCall self timeout results)
  if h : res.1.status ≠ noError then (.error ⟨res.1.status⟩, results.clear, res.2)
  else (.ok res.1.maxResults,
    results.store res.1.results ((res.1.fits (not_not.mp h)).trans (sizeToU32Sat_le _)), res.2)

/-- A wait never shows stale results: on success the vector holds exactly what the
kernel stored, on every other status, positive ones included, it is empty; its
capacity never changes. -/
theorem wait_spec (results : RVec WaitSetResult) (k : σ) :
    let r := wait W self timeout results k
    let res := W k (waitCall self timeout results)
    r.2.1.cap = results.cap ∧ r.2.2 = res.2 ∧
      ((res.1.status = noError ∧ r.1 = .ok res.1.maxResults ∧ r.2.1.elems = res.1.results) ∨
        (res.1.status ≠ noError ∧ r.1 = .error ⟨res.1.status⟩ ∧ r.2.1.elems = [])) := by
  by_cases h : (W k (waitCall self timeout results)).1.status = noError <;> simp [wait, h]

end WaitSet

/-- `Vmo(Handle)`. -/
structure Vmo where
  handle : Handle

/-- The two transfer calls on a VMO. -/
inductive VmoOp
  /-- `mx_vmo_read`. -/
  | read
  /-- `mx_vmo_write`. -/
  | write
  deriving DecidableEq, Repr

/-- The arguments of one `mx_vmo_read` or `mx_vmo_write`: which call, the object, the
offset, and the length of the slice. -/
structure VmoCall where
  op : VmoOp
  handle : Int
  offset : Nat
  len : Nat
  deriving DecidableEq, Repr

/-- `ssize as sys::mx_status_t`: the low 32 bits of the count, read as signed. -/
def statusOfSsize (ssize : Int) : Int := (BitVec.ofInt 32 ssize).toInt

/-- The cast keeps a negative count exactly when it fits in an `mx_status_t`. -/
theorem statusOfSsize_eq_iff {ssize : Int} (h : ssize < 0) :
    statusOfSsize ssize = ssize ↔ -2147483648 ≤ ssize := by
  rw [statusOfSsize, BitVec.toInt_ofInt, Int.bmod_def,
    show ((2 ^ 32 : Nat) : Int) = 4294967296 from rfl]
  split_ifs <;> omega

namespace Vmo

variable {σ : Type} (V : σ → VmoCall → Int × σ) (self : Vmo)

/-- How `Vmo::read` and `Vmo::write` turn the count into a result. -/
def transfer (ssize : Int) : Except Status Nat :=
  if ssize < 0 then .error ⟨statusOfSsize ssize⟩ else .ok ssize.toNat

/-- `Vmo::read`: `mx_vmo_read` into the slice. -/
def read (data : List UInt8) (offset : Nat) (k : σ) : Except Status Nat × σ :=
  let res := V k ⟨.read, self.handle.raw, offset, data.length⟩
  (transfer res.1, res.2)

/-- `Vmo::write`: `mx_vmo_write` from the slice. -/
def write (data : List UInt8) (offset : Nat) (k : σ) : Except Status Nat × σ :=
  let res := V k ⟨.write, self.handle.raw, offset, data.length⟩
  (transfer res.1, res.2)

/-- A transfer reports a non-negative count as it is, and a negative one as an error
whose status is the count exactly when the count fits in an `mx_status_t`. -/
theorem transfer_spec (ssize : Int) :
    (0 ≤ ssize → transfer ssize = .ok ssize.toNat) ∧
      (ssize < 0 → (transfer ssize = .error ⟨ssize⟩ ↔ -2147483648 ≤ ssize)) := by
  refine ⟨fun h => by simp [transfer, Int.not_lt.mpr h], fun h => ?_⟩
  simp only [transfer, if_pos h, Except.error.injEq, Status.mk.injEq]
  exact statusOfSsize_eq_iff h

example : transfer (-13) = .error ⟨-13⟩ := rfl
example : transfer (-4294967296) = .error ⟨0⟩ := rfl

/-- A kernel whose transfers all fail with `ERR_OUT_OF_RANGE`. -/
def outOfRange : Unit → VmoCall → Int × Unit := fun _ _ => (errOutOfRange, ())

end Vmo

end Magenta
