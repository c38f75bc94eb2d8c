import Magenta.Vec

/-!
# Message pipes and their receive buffer

The model of the message-pipe half of `lib.rs`. Handles stay in their slots:
`unused_ix` counts those the iterator has handed out, and only the slots from
there on are closed. `n_handles`, the iterator's indexing and the slice in
`drop_handles` panic when `unused_ix` is past the end; here they return `Option`,
with `none` for the panic.
-/

namespace Magenta

/-- `MessageBuf` of `lib.rs`. -/
structure MessageBuf where
  bytes : RVec UInt8
  handles : RVec Int
  unusedIx : Nat

namespace MessageBuf

/-- `MessageBuf::new()`, the derived default. -/
def new : MessageBuf := ⟨RVec.new, RVec.new, 0⟩

/-- `n_handles`: a `usize` subtraction, which panics when it would underflow. -/
def nHandles (b : MessageBuf) : Option Nat :=
  if b.unusedIx ≤ b.handles.len then some (b.handles.len - b.unusedIx) else none

/-- The arguments of the `handle_drop` calls of `drop_handles`: the slice
`handles[unused_ix..]`, which panics when it starts past the end. -/
def dropHandles (b : MessageBuf) : Option (List Int) :=
  if b.unusedIx ≤ b.handles.len then some (b.handles.elems.drop b.unusedIx) else none

/-- `reset_handles`, after its `drop_handles`. -/
def resetHandles (b : MessageBuf) : MessageBuf :=
  { b with unusedIx := 0, handles := b.handles.clear }

/-- The two `set_len` calls of a successful read expose the message the kernel stored. -/
def setLen (b : MessageBuf) {call : ReadCall} (r : ReadReply call)
    (hc : call.numBytes ≤ b.bytes.cap ∧ call.numHandles ≤ b.handles.cap)
    (h : 0 ≤ r.status) : MessageBuf :=
  ⟨b.bytes.store r.bytes ((r.fits h).1.trans hc.1),
    b.handles.store r.handles ((r.fits h).2.trans hc.2), b.unusedIx⟩

variable (b : MessageBuf)

theorem nHandles_of_le (hv : b.unusedIx ≤ b.handles.len) :
    b.nHandles = some (b.handles.len - b.unusedIx) := if_pos hv

theorem dropHandles_of_le (hv : b.unusedIx ≤ b.handles.len) :
    b.dropHandles = some (b.handles.elems.drop b.unusedIx) := if_pos hv

@[simp] theorem resetHandles_bytes : b.resetHandles.bytes = b.bytes := rfl
@[simp] theorem resetHandles_handles : b.resetHandles.handles.elems = [] := rfl
@[simp] theorem resetHandles_unusedIx : b.resetHandles.unusedIx = 0 := rfl

end MessageBuf

/-- `HandleIter`, which `MessageBuf::handles` builds around the buffer it borrows. -/
structure HandleIter where
  buf : MessageBuf

namespace HandleIter

/-- `HandleIter::next`: `None` once `unused_ix` is the length; the index panics past it. -/
def next (it : HandleIter) : Option (Option Handle × HandleIter) :=
  if it.buf.unusedIx = it.buf.handles.len then some (none, it)
  else
    match it.buf.handles.elems[it.buf.unusedIx]? with
    | none => none
    | some h => some (some ⟨h⟩, ⟨{ it.buf with unusedIx := it.buf.unusedIx + 1 }⟩)

/-- `HandleIter::size_hint`. -/
def sizeHint (it : HandleIter) : Option (Nat × Option Nat) :=
  it.buf.nHandles.map fun size => (size, some size)

/-- `count` further calls of `next`, with what each returned. -/
def nextN : Nat → HandleIter → Option (List (Option Handle) × HandleIter)
  | 0, it => some ([], it)
  | count + 1, it =>
      it.next.bind fun r => (nextN count r.2).map fun rs => (r.1 :: rs.1, rs.2)

/-- Before the end, `next` hands out the slot at `unused_ix` and moves past it. -/
theorem next_of_getElem? {it : HandleIter} {h : Int}
    (hh : it.buf.handles.elems[it.buf.unusedIx]? = some h) :
    it.next = some (some ⟨h⟩, ⟨{ it.buf with unusedIx := it.buf.unusedIx + 1 }⟩) := by
  have hlt := (List.getElem?_eq_some_iff.mp hh).1
  simp [next, RVec.len, Nat.ne_of_lt hlt, hh]

theorem next_of_eq {it : HandleIter} (he : it.buf.unusedIx = it.buf.handles.len) :
    it.next = some (none, it) := if_pos he

/-- From a buffer whose index is within its handles, `count` further calls of `next`
hand out the remaining slots in order and then answer `None`. -/
theorem nextN_of_le (count : Nat) :
    ∀ b : MessageBuf, b.unusedIx ≤ b.handles.len → ∃ it,
      nextN count ⟨b⟩ = some (((b.handles.elems.drop b.unusedIx).take count).map
        (fun h => some (Handle.mk h)) ++ List.replicate (count - (b.handles.len - b.unusedIx)) none,
        it) := by
  induction count with
  | zero => exact fun b _ => ⟨⟨b⟩, by simp [nextN]⟩
  | succ count ih =>
      intro b hv
      by_cases he : b.unusedIx = b.handles.len
      · obtain ⟨it, hit⟩ := ih b hv
        refine ⟨it, ?_⟩
        simp only [nextN, @next_of_eq ⟨b⟩ he, Option.some_bind, hit, Option.map_some']
        simp [he, RVec.len, List.replicate_succ]
      · have hlt : b.unusedIx < b.handles.elems.length := Nat.lt_of_le_of_ne hv he
        obtain ⟨it, hit⟩ := ih { b with unusedIx := b.unusedIx + 1 } hlt
        refine ⟨it, ?_⟩
        simp only [nextN, @next_of_getElem? ⟨b⟩ _ (List.getElem?_eq_getElem hlt),
          Option.some_bind, hit, Option.map_some']
        have : count + 1 - (b.handles.elems.length - b.unusedIx) =
            count - (b.handles.elems.length - (b.unusedIx + 1)) := by omega
        simp only [RVec.len, List.drop_eq_getElem_cons hlt, List.take_succ_cons, List.map_cons,
          List.cons_append, this]

end HandleIter

/-- `MessagePipe(Handle)`. -/
structure MessagePipe where
  handle : Handle

namespace MessagePipe

/-- `HandleBase::raw_handle`. -/
def rawHandle (self : MessagePipe) : Int := self.handle.raw

/-- `HandleBase::into_handle`: the handle, forgotten rather than closed. -/
def intoHandle (self : MessagePipe) : Handle := self.handle

/-- `HandleBase::from_handle`. -/
def fromHandle (handle : Handle) : MessagePipe := ⟨handle⟩

@[simp] theorem rawHandle_fromHandle (h : Handle) : (fromHandle h).rawHandle = h.raw := rfl
@[simp] theorem raw_intoHandle (self : MessagePipe) : self.intoHandle.raw = self.rawHandle := rfl
@[simp] theorem fromHandle_intoHandle (self : MessagePipe) :
    fromHandle self.intoHandle = self := rfl

variable {σ : Type} (K : Kernel σ) (g : Growth) (self : MessagePipe) (flags : Nat)

/-- The call `read` makes for a buffer: both capacities, saturated to a `u32`. -/
def readCall (b : MessageBuf) : ReadCall :=
  ⟨self.rawHandle, flags, sizeToU32Sat b.bytes.cap, sizeToU32Sat b.handles.cap⟩

theorem readCall_le (b : MessageBuf) :
    (readCall self flags b).numBytes ≤ b.bytes.cap ∧
      (readCall self flags b).numHandles ≤ b.handles.cap :=
  ⟨sizeToU32Sat_le _, sizeToU32Sat_le _⟩

/-- The `into_result` that ends `read`, on the last call's answer: on success both
lengths are set to the message the kernel stored. -/
def finish (b : MessageBuf) (res : ReadReply (readCall self flags b) × σ)
    (trace : List Event) : Except Status Unit × Machine MessageBuf σ :=
  if h : 0 ≤ res.1.status then
    (.ok (), ⟨b.setLen res.1 (readCall_le self flags b) h, res.2,
      trace ++ [.received res.1.handles]⟩)
  else (.error ⟨res.1.status⟩, ⟨b, res.2, trace⟩)

/-- `read` after `reset_handles`: one call, and on "too small" a second one after
growing both vectors to the counts the first reported. -/
def receive (b : MessageBuf) (k : σ) (trace : List Event) :
    Except Status Unit × Machine MessageBuf σ :=
  let res := K.read k (readCall self flags b)
  if res.1.status = errBufferTooSmall then
    let b' := { b with bytes := ensureCapacity g sizeOfU8 b.bytes res.1.numBytes,
                       handles := ensureCapacity g sizeOfHandle b.handles res.1.numHandles }
    finish self flags b' (K.read res.2 (readCall self flags b')) trace
  else finish self flags b res trace

/-- `MessagePipe::read`; `none` when `reset_handles` panics. -/
def read (m : Machine MessageBuf σ) : Option (Except Status Unit × Machine MessageBuf σ) :=
  m.buf.dropHandles.map fun dropped =>
    receive K g self flags m.buf.resetHandles m.kernel (m.trace ++ dropped.map .closed)

/-- The end of `read`: on success the index is kept and the trace records the stored
handles; on failure nothing in the buffer changes. -/
theorem finish_spec (b : MessageBuf) (res : ReadReply (readCall self flags b) × σ)
    (trace : List Event) :
    let r := finish self flags b res trace
    r.2.buf.unusedIx = b.unusedIx ∧
      ((r.1 = .ok () ∧ r.2.trace = trace ++ [.received r.2.buf.handles.elems]) ∨
        (∃ s : Status, r.1 = .error s ∧ s.raw < 0 ∧ r.2.buf = b ∧ r.2.trace = trace)) := by
  by_cases h : 0 ≤ res.1.status
  · simp [finish, h, MessageBuf.setLen]
  · simp [finish, h]
    omega

/-- What `read` leaves after its reset, whatever the kernel answers: the index kept;
on success the handles of the last answer's message; on failure the bytes and
handles as they were. -/
theorem receive_spec (b : MessageBuf) (k : σ) (trace : List Event) :
    let r := receive K g self flags b k trace
    r.2.buf.unusedIx = b.unusedIx ∧
      ((r.1 = .ok () ∧ r.2.trace = trace ++ [.received r.2.buf.handles.elems]) ∨
        (∃ s : Status, r.1 = .error s ∧ s.raw < 0 ∧ r.2.buf.bytes.elems = b.bytes.elems ∧
          r.2.buf.handles.elems = b.handles.elems ∧ r.2.trace = trace)) := by
  simp only [receive]
  split
  · obtain ⟨hu, hok | ⟨s, hs, hneg, hb, htr⟩⟩ := finish_spec self flags _
      (K.read (K.read k (readCall self flags b)).2 (readCall self flags _)) trace
    · exact ⟨hu, .inl hok⟩
    · exact ⟨hu, .inr ⟨s, hs, hneg, by simp [hb], by simp [hb], htr⟩⟩
  · obtain ⟨hu, hok | ⟨s, hs, hneg, hb, htr⟩⟩ := finish_spec self flags b
      (K.read k (readCall self flags b)) trace
    · exact ⟨hu, .inl hok⟩
    · exact ⟨hu, .inr ⟨s, hs, hneg, by simp [hb], by simp [hb], htr⟩⟩

/-- Against `K.logged`, the end of `read` logs the handles of the message it delivers. -/
theorem finish_logged (b : MessageBuf) (res : ReadReply (readCall self flags b) × σ)
    (trace : List Event) :
    finish self flags b (res.1, res.2, if 0 ≤ res.1.status then
        trace.filterMap Event.receivedHandles ++ [res.1.handles]
      else trace.filterMap Event.receivedHandles) trace =
      ((finish self flags b res trace).1, (finish self flags b res trace).2.logged) := by
  by_cases h : 0 ≤ res.1.status <;> simp [finish, h, Machine.logged]

/-- Against `K.logged`, `read` after its reset does what it does against `K`, and the
kernel logs the handles of exactly the message the trace says was delivered. -/
theorem receive_logged (b : MessageBuf) (k : σ) (trace : List Event) :
    receive K.logged g self flags b (k, trace.filterMap Event.receivedHandles) trace =
      ((receive K g self flags b k trace).1, (receive K g self flags b k trace).2.logged) := by
  by_cases ht : (K.read k (readCall self flags b)).1.status = errBufferTooSmall
  · have hn : ¬0 ≤ (K.read k (readCall self flags b)).1.status := by
      rw [ht]; decide
    simp only [receive, Kernel.logged, if_pos ht, if_neg hn, finish_logged]
  · simp only [receive, Kernel.logged, if_neg ht, finish_logged]

/-- `read` against `K.logged` is `read` against `K`, logging as it goes. -/
theorem read_logged (m : Machine MessageBuf σ) :
    read K.logged g self flags m.logged =
      (read K g self flags m).map fun r => (r.1, r.2.logged) := by
  cases hd : m.buf.dropHandles with
  | none => simp [read, Machine.logged, hd]
  | some dropped =>
      have hl : m.trace.filterMap Event.receivedHandles =
          (m.trace ++ dropped.map Event.closed).filterMap Event.receivedHandles := by simp
      simp only [read, Machine.logged, hd, Option.map_some', hl, receive_logged]

/-- The call `write_raw` makes once both lengths fit in a `u32`. -/
def writeCall (handle : Int) (bytes : List UInt8) (handles : List Handle) : WriteCall :=
  ⟨handle, flags, bytes, bytes.length, handles.map Handle.raw, handles.length⟩

/-- `write_raw`: out of range before any call when a length exceeds `u32::MAX`; only
`NO_ERROR` forgets the sent handles. -/
def writeRaw (handle : Int) (bytes : List UInt8) (handles : List Handle) (k : σ) :
    Except Status Unit × List Handle × σ :=
  if bytes.length > u32Max ∨ handles.length > u32Max then (.error ⟨errOutOfRange⟩, handles, k)
  else
    let res := K.write k (writeCall flags handle bytes handles)
    if res.1 ≠ noError then (.error ⟨res.1⟩, handles, res.2) else (.ok (), [], res.2)

/-- `MessagePipe::write`. -/
def write (bytes : List UInt8) (handles : List Handle) (k : σ) :
    Except Status Unit × List Handle × σ :=
  writeRaw K flags self.rawHandle bytes handles k

/-- `write_reply`: the endpoint is pushed after the handles and sent with them; on
failure it is popped back, and the `unwrap` of that `pop` panics (`none`) on an
empty vector. -/
def writeReply (bytes : List UInt8) (handles : List Handle) (k : σ) :
    Option (Except (MessagePipe × Status) Unit × List Handle × σ) :=
  let rawHandle := self.rawHandle
  match writeRaw K flags rawHandle bytes (handles ++ [self.intoHandle]) k with
  | (.ok (), handles, k) => some (.ok (), handles, k)
  | (.error status, handles, k) =>
      handles.getLast?.map fun h => (.error (fromHandle h, status), handles.dropLast, k)

end MessagePipe

end Magenta
