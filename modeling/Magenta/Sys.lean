import Mathlib.Data.List.Basic

/-!
# Statuses, raw handles and the kernel's call surface

The bindings meet the kernel through integer statuses, raw handle values and
the counts a read or write passes in and gets back. A read's answer carries the
kernel's one promise as a field: on success the stored message fits the
capacities the call offered. Nothing else about the kernel is fixed, so what is
proved over an arbitrary kernel holds for every kernel that keeps that promise.

## Implementation notes

Runs are recorded as a trace of ownership events. `closed` is a call of
`handle_drop`; `taken` is a handle the buffer hands to its caller; `received`
marks a successful read and names the handles it stored.
-/

namespace Magenta

/-- `NO_ERROR`. -/
def noError : Int := 0

/-- `ERR_NOT_SUPPORTED`. -/
def errNotSupported : Int := -2

/-- `ERR_BAD_HANDLE`. -/
def errBadHandle : Int := -12

/-- `ERR_OUT_OF_RANGE`. -/
def errOutOfRange : Int := -13

/-- `ERR_BUFFER_TOO_SMALL`. -/
def errBufferTooSmall : Int := -14

/-- `ERR_BAD_STATE`. -/
def errBadState : Int := -20

/-- `ERR_SHOULD_WAIT`, the answer of a read on an empty endpoint. -/
def errShouldWait : Int := -27

/-- `core::u32::MAX`. -/
def u32Max : Nat := 4294967295

/-- `Status(sys::mx_status_t)`. -/
structure Status where
  raw : Int
  deriving DecidableEq, Repr

/-- `into_result`: every non-negative status is a success, whose value `f` computes. -/
def intoResult {α : Type} (status : Int) (f : Unit → α) : Except Status α :=
  if 0 ≤ status then .ok (f ()) else .error ⟨status⟩

/-- `size_to_u32_sat`. -/
def sizeToU32Sat (size : Nat) : Nat := min size u32Max

theorem sizeToU32Sat_le (size : Nat) : sizeToU32Sat size ≤ size := Nat.min_le_left _ _

/-- Saturation never reports less than a count that itself fits in a `u32`. -/
theorem le_sizeToU32Sat {n size : Nat} (h : n ≤ size) (hn : n ≤ u32Max) :
    n ≤ sizeToU32Sat size := Nat.le_min.mpr ⟨h, hn⟩

/-- `Handle(sys::mx_handle_t)`: the owner of one raw handle. -/
structure Handle where
  raw : Int
  deriving DecidableEq, Repr

/-- The arguments of one `mx_channel_read` or `mx_msgpipe_read`: the endpoint, the
options, and the byte and handle capacities offered. -/
structure ReadCall where
  handle : Int
  options : Nat
  numBytes : Nat
  numHandles : Nat
  deriving DecidableEq, Repr

/-- The kernel's answer to `call`: the status, the two counts written back, and the
message stored in the buffers. On success the kernel reports the stored sizes, which
`set_len` then exposes, and the stored message fits what the call offered. -/
structure ReadReply (call : ReadCall) where
  status : Int
  numBytes : Nat
  numHandles : Nat
  bytes : List UInt8
  handles : List Int
  fits : 0 ≤ status → bytes.length ≤ call.numBytes ∧ handles.length ≤ call.numHandles

/-- The arguments of one `mx_channel_write` or `mx_msgpipe_write`. -/
structure WriteCall where
  handle : Int
  options : Nat
  bytes : List UInt8
  numBytes : Nat
  handles : List Int
  numHandles : Nat
  deriving DecidableEq, Repr

/-- The kernel as the bindings see it: a read and a write on an endpoint, over a state
`σ` of the kernel's own. Channels and message pipes share the shape of both calls. -/
structure Kernel (σ : Type) where
  read : σ → (call : ReadCall) → ReadReply call × σ
  write : σ → WriteCall → Int × σ

/-- One step of handle ownership as a run shows it. -/
inductive Event
  | received (handles : List Int)
  | taken (slot : Nat) (handle : Int)
  | closed (handle : Int)
  deriving DecidableEq, Repr

/-- The raw handle an event moves out of the buffer, if any. -/
def Event.released : Event → Option Int
  | .received _ => none
  | .taken _ h => some h
  | .closed h => some h

/-- The handles an event says a read delivered, if it is a delivery. -/
def Event.receivedHandles : Event → Option (List Int)
  | .received hs => some hs
  | _ => none

@[simp] theorem Event.receivedHandles_received (hs : List Int) :
    (Event.received hs).receivedHandles = some hs := rfl
@[simp] theorem Event.receivedHandles_taken (slot : Nat) (h : Int) :
    (Event.taken slot h).receivedHandles = none := rfl
@[simp] theorem Event.receivedHandles_closed (h : Int) :
    (Event.closed h).receivedHandles = none := rfl

/-- A receive buffer of type `β` between calls: the buffer, the kernel's state, and
the ownership events so far. -/
structure Machine (β σ : Type) where
  buf : β
  kernel : σ
  trace : List Event

variable {σ : Type}

/-- `K` with a ghost log beside its state: the handles of every read it answers with a
non-negative status, in the order it answered them. The bindings never see the log. -/
def Kernel.logged (K : Kernel σ) : Kernel (σ × List (List Int)) where
  read s call := ((K.read s.1 call).1, (K.read s.1 call).2,
    if 0 ≤ (K.read s.1 call).1.status then s.2 ++ [(K.read s.1 call).1.handles] else s.2)
  write s call := ((K.write s.1 call).1, (K.write s.1 call).2, s.2)

/-- A machine seen against `K.logged`, its log the handles its trace says were
delivered. -/
def Machine.logged {β : Type} (m : Machine β σ) : Machine β (σ × List (List Int)) :=
  ⟨m.buf, (m.kernel, m.trace.filterMap Event.receivedHandles), m.trace⟩

end Magenta
