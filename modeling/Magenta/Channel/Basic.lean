import Magenta.Vec

/-!
# Channels and their receive buffer

The model of `channel.rs`. A message's handles sit in the buffer as raw values;
taking one overwrites its slot with `INVALID_HANDLE`, so the number of slots never
changes, and closing skips every slot that holds the literal `0`.
`INVALID_HANDLE` is defined outside the sources, so it is a parameter.

## Implementation notes

`Channel::read` loops until `read_raw` stops answering "too small". Its `loop`
is cut off after `fuel` passes; `none` means the loop had not returned by then.
-/

namespace Magenta

/-- `Channel(Handle)`. -/
structure Channel where
  handle : Handle

/-- `HandleBase::raw_handle`. -/
def Channel.rawHandle (self : Channel) : Int := self.handle.raw

namespace Channel

/-- `channel::MessageBuf`. -/
structure MessageBuf where
  bytes : RVec UInt8
  handles : RVec Int

namespace MessageBuf

/-- `MessageBuf::new()`, the derived default. -/
def new : MessageBuf := ⟨RVec.new, RVec.new⟩

/-- `n_handles`: the slots of the last message, taken or not. -/
def nHandles (b : MessageBuf) : Nat := b.handles.len

/-- `ensure_capacity_bytes`. -/
def ensureCapacityBytes (g : Growth) (b : MessageBuf) (n : Nat) : MessageBuf :=
  { b with bytes := ensureCapacity g sizeOfU8 b.bytes n }

/-- `ensure_capacity_handles`. -/
def ensureCapacityHandles (g : Growth) (b : MessageBuf) (n : Nat) : MessageBuf :=
  { b with handles := ensureCapacity g sizeOfHandle b.handles n }

/-- `take_handle`: the handle at `index`, leaving `INVALID_HANDLE` in its slot; `None`
past the end and on a slot that holds `INVALID_HANDLE`. -/
def takeHandle (invalidHandle : Int) (b : MessageBuf) (index : Nat) :
    Option Handle × MessageBuf :=
  match b.handles.elems[index]? with
  | none => (none, b)
  | some h =>
      if h = invalidHandle then (none, b)
      else (some ⟨h⟩, { b with handles := b.handles.set index invalidHandle })

/-- The arguments of the `handle_drop` calls of `drop_handles`, in slot order: every
slot except those holding the literal `0`. -/
def dropHandles (b : MessageBuf) : List Int := b.handles.elems.filter (· != 0)

/-- `reset_handles`, after its `drop_handles`: no slots remain. -/
def resetHandles (b : MessageBuf) : MessageBuf := { b with handles := b.handles.clear }

/-- The two `set_len` calls of a successful read expose the message the kernel stored. -/
def setLen (b : MessageBuf) {call : ReadCall} (r : ReadReply call)
    (hc : call.numBytes ≤ b.bytes.cap ∧ call.numHandles ≤ b.handles.cap)
    (h : 0 ≤ r.status) : MessageBuf :=
  ⟨b.bytes.store r.bytes ((r.fits h).1.trans hc.1),
    b.handles.store r.handles ((r.fits h).2.trans hc.2)⟩

variable (invalidHandle : Int) (b : MessageBuf) (index : Nat)

@[simp] theorem new_handles : new.handles.elems = [] := rfl
@[simp] theorem resetHandles_bytes : b.resetHandles.bytes = b.bytes := rfl
@[simp] theorem resetHandles_handles : b.resetHandles.handles.elems = [] := rfl
@[simp] theorem dropHandles_resetHandles : b.resetHandles.dropHandles = [] := rfl
@[simp] theorem ensureCapacityBytes_bytes (g : Growth) (n : Nat) :
    (b.ensureCapacityBytes g n).bytes.elems = b.bytes.elems := by
  simp [ensureCapacityBytes]
@[simp] theorem ensureCapacityBytes_handles (g : Growth) (n : Nat) :
    (b.ensureCapacityBytes g n).handles = b.handles := rfl
@[simp] theorem ensureCapacityHandles_bytes (g : Growth) (n : Nat) :
    (b.ensureCapacityHandles g n).bytes = b.bytes := rfl
@[simp] theorem ensureCapacityHandles_handles (g : Growth) (n : Nat) :
    (b.ensureCapacityHandles g n).handles.elems = b.handles.elems := by
  simp [ensureCapacityHandles]

/-- What `take_handle` does, when it hands a handle out. -/
theorem takeHandle_eq_some {h : Handle} {b' : MessageBuf} :
    b.takeHandle invalidHandle index = (some h, b') ↔
      b.handles.elems[index]? = some h.raw ∧ h.raw ≠ invalidHandle ∧
        b' = { b with handles := b.handles.set index invalidHandle } := by
  cases h
  cases hx : b.handles.elems[index]? with
  | none => simp [takeHandle, hx]
  | some x =>
      by_cases hv : x = invalidHandle
      · subst hv; simp [takeHandle, hx]; omega
      · simp only [takeHandle, hx, hv, if_false, Prod.mk.injEq, Option.some.injEq,
          Handle.mk.injEq]
        constructor
        · rintro ⟨rfl, rfl⟩; exact ⟨rfl, hv, rfl⟩
        · rintro ⟨rfl, -, rfl⟩; exact ⟨rfl, rfl⟩

/-- A `take_handle` that returns `None` changes nothing. -/
theorem takeHandle_of_none {b' : MessageBuf}
    (ht : b.takeHandle invalidHandle index = (none, b')) : b' = b := by
  unfold takeHandle at ht
  split at ht
  · exact (Prod.mk.inj ht).2.symm
  · split_ifs at ht
    · exact (Prod.mk.inj ht).2.symm
    · cases ht

/-- `take_handle` never changes the number of slots `n_handles` reports. -/
theorem takeHandle_nHandles :
    (b.takeHandle invalidHandle index).2.nHandles = b.nHandles := by
  unfold takeHandle nHandles RVec.len
  split
  · rfl
  · split <;> simp

/-- A slot that handed its handle out answers `None` from then on. -/
theorem takeHandle_takeHandle {h : Handle} {b' : MessageBuf}
    (ht : b.takeHandle invalidHandle index = (some h, b')) :
    (b'.takeHandle invalidHandle index).1 = none := by
  obtain ⟨hi, -, rfl⟩ := (takeHandle_eq_some invalidHandle b index).mp ht
  have hlt : index < b.handles.elems.length := (List.getElem?_eq_some_iff.mp hi).1
  simp [takeHandle, List.getElem?_set, hlt]

end MessageBuf

variable {σ : Type} (K : Kernel σ) (self : Channel) (opts : Nat)

/-- The call `read_raw` makes for a buffer: both capacities, saturated to a `u32`. -/
def readCall (b : MessageBuf) : ReadCall :=
  ⟨self.rawHandle, opts, sizeToU32Sat b.bytes.cap, sizeToU32Sat b.handles.cap⟩

theorem readCall_le (b : MessageBuf) :
    (readCall self opts b).numBytes ≤ b.bytes.cap ∧
      (readCall self opts b).numHandles ≤ b.handles.cap :=
  ⟨sizeToU32Sat_le _, sizeToU32Sat_le _⟩

/-- `Channel::read_raw`: `Err` with the kernel's counts on "too small", otherwise
`into_result`, whose closure sets both lengths only on a non-negative status. -/
def readRaw (m : Machine MessageBuf σ) :
    Except (Nat × Nat) (Except Status Unit) × Machine MessageBuf σ :=
  let buf := m.buf.resetHandles
  let trace := m.trace ++ m.buf.dropHandles.map .closed
  let res := K.read m.kernel (readCall self opts buf)
  if res.1.status = errBufferTooSmall then
    (.error (res.1.numBytes, res.1.numHandles), ⟨buf, res.2, trace⟩)
  else if h : 0 ≤ res.1.status then
    (.ok (.ok ()), ⟨buf.setLen res.1 (readCall_le self opts buf) h, res.2,
      trace ++ [.received res.1.handles]⟩)
  else (.ok (.error ⟨res.1.status⟩), ⟨buf, res.2, trace⟩)

/-- `Channel::read`: on "too small", grow the buffer to the reported counts and retry. -/
def read (g : Growth) :
    Nat → Machine MessageBuf σ → Option (Except Status Unit) × Machine MessageBuf σ
  | 0, m => (none, m)
  | fuel + 1, m =>
      match readRaw K self opts m with
      | (.ok result, m) => (some result, m)
      | (.error (numBytes, numHandles), m) =>
          read g fuel { m with
            buf := (m.buf.ensureCapacityBytes g numBytes).ensureCapacityHandles g numHandles }

/-- A pass of the loop whose `read_raw` answers `Ok` returns its result. -/
theorem read_succ_of_ok (g : Growth) {m : Machine MessageBuf σ} {fuel : Nat}
    {r : Except Status Unit} (h : (readRaw K self opts m).1 = .ok r) :
    read K self opts g (fuel + 1) m = (some r, (readRaw K self opts m).2) := by
  cases hr : readRaw K self opts m with
  | mk r' m' => rw [hr] at h; cases h; simp [read, hr]

/-- A pass of the loop whose `read_raw` answers "too small" grows the buffer and retries. -/
theorem read_succ_of_error (g : Growth) {m : Machine MessageBuf σ} {fuel numBytes numHandles : Nat}
    (h : (readRaw K self opts m).1 = .error (numBytes, numHandles)) :
    read K self opts g (fuel + 1) m = read K self opts g fuel
      { (readRaw K self opts m).2 with
        buf := (((readRaw K self opts m).2.buf.ensureCapacityBytes g numBytes).ensureCapacityHandles
          g numHandles) } := by
  cases hr : readRaw K self opts m with
  | mk r' m' => rw [hr] at h; cases h; simp [read, hr]

/-- The call `Channel::write` makes once both lengths fit in a `u32`. -/
def writeCall (bytes : List UInt8) (handles : List Handle) : WriteCall :=
  ⟨self.rawHandle, opts, bytes, bytes.length, handles.map Handle.raw, handles.length⟩

/-- `Channel::write`: both lengths are checked by `value_into` before the call, and
`into_result`'s closure forgets the sent handles only on a non-negative status. -/
def write (bytes : List UInt8) (handles : List Handle) (k : σ) :
    Except Status Unit × List Handle × σ :=
  if u32Max < bytes.length then (.error ⟨errOutOfRange⟩, handles, k)
  else if u32Max < handles.length then (.error ⟨errOutOfRange⟩, handles, k)
  else
    let res := K.write k (writeCall self opts bytes handles)
    (intoResult res.1 fun _ => (), if 0 ≤ res.1 then [] else handles, res.2)

/-- Everything `read_raw` can do: "too small", a success storing the kernel's message,
or a failure, each after closing the buffer's handles. -/
theorem readRaw_cases (m : Machine MessageBuf σ) :
    let res := K.read m.kernel (readCall self opts m.buf.resetHandles)
    let trace := m.trace ++ m.buf.dropHandles.map .closed
    (res.1.status = errBufferTooSmall ∧ readRaw K self opts m =
        (.error (res.1.numBytes, res.1.numHandles), ⟨m.buf.resetHandles, res.2, trace⟩)) ∨
      (∃ h : 0 ≤ res.1.status, readRaw K self opts m =
        (.ok (.ok ()), ⟨m.buf.resetHandles.setLen res.1 (readCall_le self opts _) h, res.2,
          trace ++ [.received res.1.handles]⟩)) ∨
      (res.1.status < 0 ∧ res.1.status ≠ errBufferTooSmall ∧ readRaw K self opts m =
        (.ok (.error ⟨res.1.status⟩), ⟨m.buf.resetHandles, res.2, trace⟩)) := by
  intro res trace
  by_cases ht : res.1.status = errBufferTooSmall
  · exact .inl ⟨ht, if_pos ht⟩
  · by_cases h : 0 ≤ res.1.status
    · exact .inr (.inl ⟨h, (if_neg ht).trans (dif_pos h)⟩)
    · exact .inr (.inr ⟨by omega, ht, (if_neg ht).trans (dif_neg h)⟩)

/-- Against `K.logged`, `read_raw` does what it does against `K`, and the kernel logs
the handles of exactly the message the trace says was delivered. -/
theorem readRaw_logged (m : Machine MessageBuf σ) :
    readRaw K.logged self opts m.logged =
      ((readRaw K self opts m).1, (readRaw K self opts m).2.logged) := by
  unfold readRaw
  by_cases ht : (K.read m.kernel (readCall self opts m.buf.resetHandles)).1.status =
    errBufferTooSmall
  · simp [Kernel.logged, Machine.logged, ht, errBufferTooSmall]
  · by_cases h : 0 ≤ (K.read m.kernel (readCall self opts m.buf.resetHandles)).1.status <;>
      simp [Kernel.logged, Machine.logged, ht, h]

/-- The retrying read against `K.logged` is the read against `K`, logging as it goes. -/
theorem read_logged (g : Growth) :
    ∀ fuel (m : Machine MessageBuf σ),
      read K.logged self opts g fuel m.logged =
        ((read K self opts g fuel m).1, (read K self opts g fuel m).2.logged)
  | 0, _ => rfl
  | fuel + 1, m => by
      have h := readRaw_logged K self opts m
      rcases hr : readRaw K self opts m with ⟨_ | r, m'⟩ <;> rw [hr] at h <;>
        simp only [read, h, hr]
      exact read_logged g fuel { m' with buf := _ }

end Channel

end Magenta
