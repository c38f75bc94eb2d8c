import Magenta.Endpoint

/-!
# What a failed read leaves behind

Every read starts with `reset_handles`, which closes the untaken handles and clears
the handle slots; nothing clears the byte vector. So a read that does not succeed
leaves no handles but keeps the bytes of whatever message was read before it.
-/

namespace Magenta

variable {σ : Type} (K : Kernel σ) (g : Growth)

namespace Channel

variable (self : Channel) (opts : Nat)

/-- A `read_raw` that does not succeed closed the buffer's handles and kept its bytes. -/
theorem readRaw_of_not_ok {m : Machine MessageBuf σ} (h : (readRaw K self opts m).1 ≠ .ok (.ok ())) :
    let m' := (readRaw K self opts m).2
    m'.buf.bytes = m.buf.bytes ∧ m'.buf.handles.elems = [] ∧
      m'.trace = m.trace ++ m.buf.dropHandles.map .closed := by
  rcases readRaw_cases K self opts m with ⟨-, he⟩ | ⟨_, he⟩ | ⟨-, -, he⟩ <;> rw [he] at h ⊢
  · exact ⟨rfl, rfl, rfl⟩
  · exact absurd rfl h
  · exact ⟨rfl, rfl, rfl⟩

/-- A `Channel::read` that returns `Err` closed the buffer's handles once and kept its
bytes, however many times it grew the buffer first. -/
theorem read_of_error :
    ∀ (fuel : Nat) {m : Machine MessageBuf σ} {s : Status},
      (read K self opts g fuel m).1 = some (.error s) →
      let m' := (read K self opts g fuel m).2
      m'.buf.bytes.elems = m.buf.bytes.elems ∧ m'.buf.handles.elems = [] ∧
        m'.trace = m.trace ++ m.buf.dropHandles.map .closed
  | 0, _, _, h => by simp [read] at h
  | fuel + 1, m, s, h => by
      cases hr : (readRaw K self opts m).1 with
      | ok r =>
          rw [read_succ_of_ok K self opts g hr] at h ⊢
          obtain rfl : r = .error s := by simpa using h
          obtain ⟨hb, hh, htr⟩ := readRaw_of_not_ok K self opts (by rw [hr]; simp)
          exact ⟨by rw [hb], hh, htr⟩
      | error counts =>
          obtain ⟨hb, hh, htr⟩ := readRaw_of_not_ok K self opts (by rw [hr]; simp)
          rw [read_succ_of_error K self opts g hr] at h ⊢
          obtain ⟨hb', hh', htr'⟩ := read_of_error fuel h
          refine ⟨by simp [hb', hb], hh', ?_⟩
          rw [htr', htr]
          simp [MessageBuf.dropHandles, hh]

end Channel

namespace MessagePipe

variable (self : MessagePipe) (flags : Nat)

/-- A `MessagePipe::read` that returns `Err` closed the handles from `unused_ix` on, left
no handles and kept the bytes. -/
theorem read_of_error {m m' : Machine MessageBuf σ} {s : Status}
    (h : read K g self flags m = some (.error s, m')) :
    m'.buf.bytes.elems = m.buf.bytes.elems ∧ m'.buf.handles.elems = [] ∧ m'.buf.unusedIx = 0 ∧
      m'.trace = m.trace ++ (m.buf.handles.elems.drop m.buf.unusedIx).map .closed := by
  by_cases hv : m.buf.unusedIx ≤ m.buf.handles.len
  · simp only [read, MessageBuf.dropHandles_of_le _ hv, Option.map_some',
      Option.some.injEq] at h
    obtain ⟨hu, ⟨hok, -⟩ | ⟨s', hs, -, hb, hh, htr⟩⟩ := receive_spec K g self flags
      m.buf.resetHandles m.kernel (m.trace ++ (m.buf.handles.elems.drop m.buf.unusedIx).map .closed)
    · rw [h] at hok; cases hok
    · rw [h] at hu hb hh htr
      exact ⟨hb, hh, hu, htr⟩
  · simp [read, MessageBuf.dropHandles, hv] at h

end MessagePipe

/-- A read that does not succeed leaves the buffer with no handles, after closing each
handle it still held once, in slot order, and with the byte vector's elements as they
were: for `read_raw` answering "too small" or a failure, for `Channel::read` returning
`Err`, and for `MessagePipe::read` returning `Err`. -/
theorem failed_read_keeps_bytes (ch : Channel) (opts : Nat) (pipe : MessagePipe) (flags : Nat) :
    (∀ m : Machine Channel.MessageBuf σ, (Channel.readRaw K ch opts m).1 ≠ .ok (.ok ()) →
      let m' := (Channel.readRaw K ch opts m).2
      m'.buf.bytes.elems = m.buf.bytes.elems ∧ m'.buf.handles.elems = [] ∧
        m'.trace = m.trace ++ m.buf.dropHandles.map .closed) ∧
    (∀ (fuel : Nat) (m : Machine Channel.MessageBuf σ) (s : Status),
      (Channel.read K ch opts g fuel m).1 = some (.error s) →
      let m' := (Channel.read K ch opts g fuel m).2
      m'.buf.bytes.elems = m.buf.bytes.elems ∧ m'.buf.handles.elems = [] ∧
        m'.trace = m.trace ++ m.buf.dropHandles.map .closed) ∧
    (∀ (m m' : Machine MessageBuf σ) (s : Status),
      MessagePipe.read K g pipe flags m = some (.error s, m') →
      m'.buf.bytes.elems = m.buf.bytes.elems ∧ m'.buf.handles.elems = [] ∧
        m'.buf.unusedIx = 0 ∧
        m'.trace = m.trace ++ (m.buf.handles.elems.drop m.buf.unusedIx).map .closed) :=
  ⟨fun _ h => by
      obtain ⟨hb, hh, htr⟩ := Channel.readRaw_of_not_ok K ch opts h
      exact ⟨by rw [hb], hh, htr⟩,
    fun fuel _ _ h => Channel.read_of_error K g ch opts fuel h,
    fun _ _ _ h => MessagePipe.read_of_error K g pipe flags h⟩

/-- The stale channel buffer of `failed_read_shows_earlier_bytes`: "hello" with handle
`5` in its slot, read from an endpoint that then has nothing pending. -/
def helloRead : Machine Channel.MessageBuf (List Message) :=
  (Channel.read Endpoint.kernel ⟨⟨1⟩⟩ 0 .amortized 2 ⟨.new, [hello], []⟩).2

/-- The same message read into a fresh message-pipe buffer. -/
def helloReadPipe : Machine MessageBuf (List Message) :=
  ((MessagePipe.read Endpoint.kernel .amortized ⟨⟨1⟩⟩ 0 ⟨.new, [hello], []⟩).map
    Prod.snd).getD ⟨.new, [], []⟩

/-- Failed reads on the stale buffers: each closes handle `5` and keeps "hello". -/
theorem failed_read_keeps_bytes_hello :
    (helloRead.buf.bytes.elems = hello.bytes ∧ helloRead.buf.dropHandles = [5] ∧
      helloReadPipe.buf.bytes.elems = hello.bytes ∧ helloReadPipe.buf.handles.elems = [5]) ∧
    ((Channel.readRaw Endpoint.kernel ⟨⟨1⟩⟩ 0 helloRead).1 ≠ .ok (.ok ()) ∧
      (Channel.read Endpoint.kernel ⟨⟨1⟩⟩ 0 .amortized 1 helloRead).1 =
        some (.error ⟨errShouldWait⟩) ∧
      MessagePipe.read Endpoint.kernel .amortized ⟨⟨1⟩⟩ 0 helloReadPipe =
        some (.error ⟨errShouldWait⟩,
          ⟨helloReadPipe.buf.resetHandles, [], helloReadPipe.trace ++ [.closed 5]⟩)) ∧
    ((let m' := (Channel.readRaw Endpoint.kernel ⟨⟨1⟩⟩ 0 helloRead).2
      m'.buf.bytes.elems = helloRead.buf.bytes.elems ∧ m'.buf.handles.elems = [] ∧
        m'.trace = helloRead.trace ++ helloRead.buf.dropHandles.map .closed) ∧
      (let m' := (Channel.read Endpoint.kernel ⟨⟨1⟩⟩ 0 .amortized 1 helloRead).2
      m'.buf.bytes.elems = helloRead.buf.bytes.elems ∧ m'.buf.handles.elems = [] ∧
        m'.trace = helloRead.trace ++ helloRead.buf.dropHandles.map .closed) ∧
      (let m' : Machine MessageBuf (List Message) :=
        ⟨helloReadPipe.buf.resetHandles, [], helloReadPipe.trace ++ [.closed 5]⟩
      m'.buf.bytes.elems = helloReadPipe.buf.bytes.elems ∧ m'.buf.handles.elems = [] ∧
        m'.buf.unusedIx = 0 ∧ m'.trace = helloReadPipe.trace ++
          (helloReadPipe.buf.handles.elems.drop helloReadPipe.buf.unusedIx).map .closed)) :=
  have hraw : (Channel.readRaw Endpoint.kernel ⟨⟨1⟩⟩ 0 helloRead).1 ≠ .ok (.ok ()) := by
    intro h; cases h
  have hread : (Channel.read Endpoint.kernel ⟨⟨1⟩⟩ 0 .amortized 1 helloRead).1 =
      some (.error ⟨errShouldWait⟩) := rfl
  have hpipe : MessagePipe.read Endpoint.kernel .amortized ⟨⟨1⟩⟩ 0 helloReadPipe =
      some (.error ⟨errShouldWait⟩,
        ⟨helloReadPipe.buf.resetHandles, [], helloReadPipe.trace ++ [.closed 5]⟩) := rfl
  ⟨⟨rfl, rfl, rfl, rfl⟩, ⟨hraw, hread, hpipe⟩,
    (failed_read_keeps_bytes Endpoint.kernel .amortized ⟨⟨1⟩⟩ 0 ⟨⟨1⟩⟩ 0).1 _ hraw,
    (failed_read_keeps_bytes Endpoint.kernel .amortized ⟨⟨1⟩⟩ 0 ⟨⟨1⟩⟩ 0).2.1 1 _ _
      hread,
    (failed_read_keeps_bytes Endpoint.kernel .amortized ⟨⟨1⟩⟩ 0 ⟨⟨1⟩⟩ 0).2.2 _ _ _
      hpipe⟩

/-- A failed read still shows the bytes of the message read before it: "hello" is read,
then a read on the now empty endpoint fails with `ERR_SHOULD_WAIT`, and the buffer's
bytes are still "hello". -/
theorem failed_read_shows_earlier_bytes :
    let m := (Channel.read Endpoint.kernel ⟨⟨1⟩⟩ 0 .amortized 2 ⟨.new, [hello], []⟩).2
    let r := Channel.readRaw Endpoint.kernel ⟨⟨1⟩⟩ 0 m
    r.1 = .ok (.error ⟨errShouldWait⟩) ∧ r.2.buf.bytes.elems = [104, 101, 108, 108, 111] :=
  ⟨rfl, rfl⟩

end Magenta
