import Magenta.Channel.Basic
import Magenta.Pipe.Basic

/-!
# A FIFO endpoint and the read protocol

The kernel side the read protocol relies on. An endpoint holds its pending messages
in order, each with at most `u32::MAX` bytes and handles. A read that offers too
little answers "too small" with the exact counts and keeps the message; otherwise it
stores the message and dequeues it. Against such an endpoint both read loops deliver
the first message whatever the buffer held before: growing a vector relative to its
stale length still leaves room for the reported count, and saturating a capacity to
a `u32` never reports less than a count that fits in one.
-/

namespace Magenta

/-- A message pending in an endpoint; both counts fit in a `u32`. -/
structure Message where
  bytes : List UInt8
  handles : List Int
  bytes_le : bytes.length ≤ u32Max
  handles_le : handles.length ≤ u32Max

/-- Whether a read offering `call`'s capacities can take the message. -/
def Message.Fits (msg : Message) (call : ReadCall) : Prop :=
  msg.bytes.length ≤ call.numBytes ∧ msg.handles.length ≤ call.numHandles

instance (msg : Message) (call : ReadCall) : Decidable (msg.Fits call) :=
  inferInstanceAs (Decidable (_ ∧ _))

namespace Endpoint

/-- A read on an endpoint whose pending messages are the list. -/
def read : List Message → (call : ReadCall) → ReadReply call × List Message
  | [], _ => (⟨errShouldWait, 0, 0, [], [], fun h => absurd h (by decide)⟩, [])
  | msg :: rest, call =>
      if h : msg.Fits call then
        (⟨noError, msg.bytes.length, msg.handles.length, msg.bytes, msg.handles, fun _ => h⟩, rest)
      else
        (⟨errBufferTooSmall, msg.bytes.length, msg.handles.length, [], [],
          fun h => absurd h (by decide)⟩, msg :: rest)

/-- The endpoint as a kernel. A write goes to the peer's queue, so it leaves this
endpoint's pending messages as they are. -/
def kernel : Kernel (List Message) := ⟨read, fun q _ => (noError, q)⟩

variable {msg : Message} {rest : List Message} {call : ReadCall}

theorem read_of_fits (h : msg.Fits call) :
    read (msg :: rest) call =
      (⟨noError, msg.bytes.length, msg.handles.length, msg.bytes, msg.handles, fun _ => h⟩,
        rest) := dif_pos h

theorem read_of_not_fits (h : ¬msg.Fits call) :
    (read (msg :: rest) call).1.status = errBufferTooSmall ∧
      (read (msg :: rest) call).1.numBytes = msg.bytes.length ∧
      (read (msg :: rest) call).1.numHandles = msg.handles.length ∧
      (read (msg :: rest) call).2 = msg :: rest := by
  simp [read, h]

/-- A read hands out exactly the handles it dequeues. -/
theorem handles_read (q : List Message) (call : ReadCall) :
    q.flatMap Message.handles =
      (read q call).1.handles ++ (read q call).2.flatMap Message.handles := by
  cases q with
  | nil => rfl
  | cons msg rest => by_cases h : msg.Fits call <;> simp [read, h]

/-- A read that fails hands out no handles. -/
theorem handles_read_of_neg (q : List Message) (call : ReadCall)
    (h : (read q call).1.status < 0) : (read q call).1.handles = [] := by
  cases q with
  | nil => rfl
  | cons msg rest =>
      by_cases hf : msg.Fits call
      · simp [read, hf, noError] at h
      · simp [read, hf]

end Endpoint

/-- Capacities grown to a message's counts, relative to any stale length, offer enough
for it once saturated to a `u32`. -/
theorem fits_of_ensureCapacity (g : Growth) (msg : Message) (bytes : RVec UInt8)
    (handles : RVec Int) (handle : Int) (opts : Nat) :
    msg.Fits ⟨handle, opts, sizeToU32Sat (ensureCapacity g sizeOfU8 bytes msg.bytes.length).cap,
      sizeToU32Sat (ensureCapacity g sizeOfHandle handles msg.handles.length).cap⟩ :=
  ⟨le_sizeToU32Sat (ensureCapacity_cap g _ bytes _).1 msg.bytes_le,
    le_sizeToU32Sat (ensureCapacity_cap g _ handles _).1 msg.handles_le⟩

namespace Channel

variable (g : Growth) (self : Channel) (opts : Nat) {msg : Message} {rest : List Message}

theorem readRaw_endpoint_of_fits {m : Machine MessageBuf (List Message)}
    (hq : m.kernel = msg :: rest) (h : msg.Fits (readCall self opts m.buf.resetHandles)) :
    let r := readRaw Endpoint.kernel self opts m
    r.1 = .ok (.ok ()) ∧ r.2.buf.bytes.elems = msg.bytes ∧
      r.2.buf.handles.elems = msg.handles ∧ r.2.kernel = rest := by
  rcases readRaw_cases Endpoint.kernel self opts m with ⟨hs, -⟩ | ⟨_, he⟩ | ⟨hs, -, -⟩
  · simp [Endpoint.kernel, hq, Endpoint.read_of_fits h, noError, errBufferTooSmall] at hs
  · rw [he]; simp [Endpoint.kernel, hq, Endpoint.read_of_fits h, MessageBuf.setLen]
  · simp [Endpoint.kernel, hq, Endpoint.read_of_fits h, noError] at hs

theorem readRaw_endpoint_of_not_fits {m : Machine MessageBuf (List Message)}
    (hq : m.kernel = msg :: rest) (h : ¬msg.Fits (readCall self opts m.buf.resetHandles)) :
    let r := readRaw Endpoint.kernel self opts m
    r.1 = .error (msg.bytes.length, msg.handles.length) ∧ r.2.buf = m.buf.resetHandles ∧
      r.2.kernel = msg :: rest := by
  obtain ⟨hs, hb, hh, hk⟩ := @Endpoint.read_of_not_fits msg rest _ h
  rcases readRaw_cases Endpoint.kernel self opts m with ⟨-, he⟩ | ⟨h0, -⟩ | ⟨-, hne, -⟩
  · rw [he]; simp [Endpoint.kernel, hq, hb, hh, hk]
  · simp [Endpoint.kernel, hq, hs, errBufferTooSmall] at h0
  · simp [Endpoint.kernel, hq, hs] at hne

/-- Against an endpoint with a message pending, `Channel::read` returns `Ok` within two
passes of its loop, holding exactly that message, the only one dequeued. -/
theorem read_endpoint {m : Machine MessageBuf (List Message)} (hq : m.kernel = msg :: rest)
    {fuel : Nat} (hf : 2 ≤ fuel) :
    let r := read Endpoint.kernel self opts g fuel m
    r.1 = some (.ok ()) ∧ r.2.buf.bytes.elems = msg.bytes ∧
      r.2.buf.handles.elems = msg.handles ∧ r.2.kernel = rest := by
  obtain ⟨fuel, rfl⟩ : ∃ f, fuel = f + 1 + 1 := ⟨fuel - 2, by omega⟩
  by_cases h : msg.Fits (readCall self opts m.buf.resetHandles)
  · obtain ⟨h1, h2⟩ := readRaw_endpoint_of_fits self opts hq h
    rw [read_succ_of_ok _ _ _ g h1]
    exact ⟨rfl, h2⟩
  · obtain ⟨h1, -, hk⟩ := readRaw_endpoint_of_not_fits self opts hq h
    rw [read_succ_of_error _ _ _ g h1]
    generalize (readRaw Endpoint.kernel self opts m).2 = m1 at hk ⊢
    have hfit : msg.Fits (readCall self opts
        ((m1.buf.ensureCapacityBytes g msg.bytes.length).ensureCapacityHandles g
          msg.handles.length).resetHandles) :=
      fits_of_ensureCapacity g msg m1.buf.bytes m1.buf.handles self.rawHandle opts
    obtain ⟨h1', h2'⟩ := @readRaw_endpoint_of_fits self opts msg rest
      { m1 with
        buf := ((m1.buf.ensureCapacityBytes g msg.bytes.length).ensureCapacityHandles g
          msg.handles.length) } hk hfit
    rw [read_succ_of_ok _ _ _ g h1']
    exact ⟨rfl, h2'⟩

end Channel

namespace MessagePipe

variable (g : Growth) (self : MessagePipe) (flags : Nat) {msg : Message} {rest : List Message}

/-- Against an endpoint with a message pending, `MessagePipe::read` on a buffer whose
index is within its handles returns `Ok`, never "too small", holding exactly that
message with none of its handles handed out, the only one dequeued. -/
theorem read_endpoint {m : Machine MessageBuf (List Message)} (hq : m.kernel = msg :: rest)
    (hv : m.buf.unusedIx ≤ m.buf.handles.len) :
    ∃ m', read Endpoint.kernel g self flags m = some (.ok (), m') ∧
      m'.buf.bytes.elems = msg.bytes ∧ m'.buf.handles.elems = msg.handles ∧
      m'.buf.unusedIx = 0 ∧ m'.kernel = rest := by
  obtain ⟨b, k, trace⟩ := m
  subst hq
  simp only [read, MessageBuf.dropHandles_of_le _ hv, Option.map_some', Option.some.injEq,
    receive, Endpoint.kernel]
  by_cases h : msg.Fits (readCall self flags b.resetHandles)
  · simp [Endpoint.read_of_fits h, finish, noError, errBufferTooSmall, MessageBuf.setLen]
  · obtain ⟨hs, hb, hh, hk⟩ := @Endpoint.read_of_not_fits msg rest _ h
    rw [if_pos hs]
    rw [hb, hh, hk]
    have hfit : msg.Fits (readCall self flags
        ⟨ensureCapacity g sizeOfU8 b.resetHandles.bytes msg.bytes.length,
          ensureCapacity g sizeOfHandle b.resetHandles.handles msg.handles.length,
          b.resetHandles.unusedIx⟩) :=
      fits_of_ensureCapacity g msg _ _ _ _
    rw [Endpoint.read_of_fits hfit]
    simp [finish, noError, MessageBuf.setLen]

end MessagePipe

/-- The read protocol against an endpoint whose first pending message is `msg`. For any
channel buffer, whatever its capacities and stale contents, `Channel::read` returns
`Ok` within two calls of `read_raw`, holding `msg`'s bytes and its handles in their
slots, with `msg` alone dequeued. For any message-pipe buffer whose index is within its
handles, as every reachable one is, `MessagePipe::read` does the same and never
answers "too small". -/
theorem read_protocol_delivers (g : Growth) (ch : Channel) (opts : Nat) (pipe : MessagePipe)
    (flags : Nat) (msg : Message) (rest : List Message) :
    (∀ (b : Channel.MessageBuf) (trace : List Event) (fuel : Nat), 2 ≤ fuel →
      let r := Channel.read Endpoint.kernel ch opts g fuel ⟨b, msg :: rest, trace⟩
      r.1 = some (.ok ()) ∧ r.2.buf.bytes.elems = msg.bytes ∧
        r.2.buf.handles.elems = msg.handles ∧ r.2.kernel = rest) ∧
    (∀ (b : MessageBuf) (trace : List Event), b.unusedIx ≤ b.handles.len →
      ∃ m, MessagePipe.read Endpoint.kernel g pipe flags ⟨b, msg :: rest, trace⟩ =
          some (.ok (), m) ∧ m.buf.bytes.elems = msg.bytes ∧ m.buf.handles.elems = msg.handles ∧
        m.buf.unusedIx = 0 ∧ m.kernel = rest) :=
  ⟨fun _ _ _ hf => Channel.read_endpoint g ch opts rfl hf,
    fun _ _ hv => MessagePipe.read_endpoint g pipe flags rfl hv⟩

/-- The message of the `channel_basic` test, with one handle. -/
def hello : Message := ⟨[104, 101, 108, 108, 111], [5], by decide, by decide⟩

theorem read_protocol_delivers_hello :
    (2 ≤ 2 ∧
      let r := Channel.read Endpoint.kernel ⟨⟨1⟩⟩ 0 .amortized 2 ⟨.new, [hello], []⟩
      r.1 = some (.ok ()) ∧ r.2.buf.bytes.elems = hello.bytes ∧
        r.2.buf.handles.elems = hello.handles ∧ r.2.kernel = []) ∧
    (MessageBuf.new.unusedIx ≤ MessageBuf.new.handles.len ∧
      ∃ m, MessagePipe.read Endpoint.kernel .amortized ⟨⟨1⟩⟩ 0 ⟨.new, [hello], []⟩ =
          some (.ok (), m) ∧ m.buf.bytes.elems = hello.bytes ∧
        m.buf.handles.elems = hello.handles ∧ m.buf.unusedIx = 0 ∧ m.kernel = []) :=
  ⟨⟨le_rfl, (read_protocol_delivers .amortized ⟨⟨1⟩⟩ 0 ⟨⟨1⟩⟩ 0 hello []).1 _ _ 2 le_rfl⟩,
    ⟨le_rfl, (read_protocol_delivers .amortized ⟨⟨1⟩⟩ 0 ⟨⟨1⟩⟩ 0 hello []).2 _ _ le_rfl⟩⟩

end Magenta
