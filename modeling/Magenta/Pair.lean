import Magenta.Channel.Ownership
import Magenta.Endpoint
import Mathlib.Data.Multiset.Basic

/-!
# A channel pair

The kernel side of a whole channel: a queue of pending messages at each end. A write
on one end queues its message at the other, and a read on an end takes from its own
queue as the endpoint of `Magenta.Endpoint` does. Seen from one end, the pair is that
endpoint, read for read, so the read protocol carries over: a write on one end and a
read on the other deliver the message exactly.
-/

namespace Magenta

/-- A channel pair in the kernel: the raw handles of its two ends and the messages
pending at each. -/
structure ChannelPair where
  left : Int
  right : Int
  atLeft : List Message
  atRight : List Message

/-- The message a write call carries, when both its counts fit in a `u32`. -/
def WriteCall.message (call : WriteCall) : Option Message :=
  if h : call.bytes.length ≤ u32Max ∧ call.handles.length ≤ u32Max then
    some ⟨call.bytes, call.handles, h.1, h.2⟩
  else none

namespace ChannelPair

/-- The handles of every message pending at either end. -/
def queued (p : ChannelPair) : List Int := (p.atLeft ++ p.atRight).flatMap Message.handles

/-- `mx_channel_read` on an end reads its queue as an endpoint; any other handle is bad. -/
def read (p : ChannelPair) (call : ReadCall) : ReadReply call × ChannelPair :=
  if call.handle = p.left then
    ((Endpoint.read p.atLeft call).1, { p with atLeft := (Endpoint.read p.atLeft call).2 })
  else if call.handle = p.right then
    ((Endpoint.read p.atRight call).1, { p with atRight := (Endpoint.read p.atRight call).2 })
  else (⟨errBadHandle, 0, 0, [], [], fun h => absurd h (by decide)⟩, p)

/-- `mx_channel_write` on an end queues the message at the other end. -/
def write (p : ChannelPair) (call : WriteCall) : Int × ChannelPair :=
  match call.message with
  | none => (errOutOfRange, p)
  | some msg =>
      if call.handle = p.left then (noError, { p with atRight := p.atRight ++ [msg] })
      else if call.handle = p.right then (noError, { p with atLeft := p.atLeft ++ [msg] })
      else (errBadHandle, p)

/-- The pair as the kernel the bindings call. -/
def kernel : Kernel ChannelPair := ⟨read, write⟩

@[simp] theorem kernel_read : kernel.read = read := rfl
@[simp] theorem kernel_write : kernel.write = write := rfl

/-- A read moves the handles it delivers out of the queues, and no others. -/
theorem queued_read (p : ChannelPair) (call : ReadCall) :
    (p.queued : Multiset Int) = (read p call).1.handles + (read p call).2.queued := by
  have hl := Endpoint.handles_read p.atLeft call
  have hr := Endpoint.handles_read p.atRight call
  unfold read queued
  split_ifs
  · simp only [List.flatMap_append, hl, List.append_assoc, Multiset.coe_add]
  · simp only [List.flatMap_append, hr, Multiset.coe_add]
    exact Multiset.coe_eq_coe.mpr (List.perm_append_comm_assoc _ _ _)
  · simp

/-- A read that fails delivers no handles. -/
theorem handles_read_of_neg {p : ChannelPair} {call : ReadCall}
    (h : (read p call).1.status < 0) : (read p call).1.handles = [] := by
  unfold read at h ⊢
  split_ifs at h ⊢
  · exact Endpoint.handles_read_of_neg _ _ h
  · exact Endpoint.handles_read_of_neg _ _ h
  · rfl

/-- A write either queues the handles it carries with `NO_ERROR`, or fails with a
negative status and changes nothing. -/
theorem write_cases (p : ChannelPair) (call : WriteCall) :
    ((write p call).1 = noError ∧
        ((write p call).2.queued : Multiset Int) = p.queued + call.handles) ∨
      ((write p call).1 < 0 ∧ (write p call).2 = p) := by
  unfold write
  cases hm : call.message with
  | none => simp [errOutOfRange]
  | some msg =>
      have hh : msg.handles = call.handles := by
        unfold WriteCall.message at hm
        split_ifs at hm
        cases hm; rfl
      simp only
      split_ifs
      · exact .inl ⟨rfl, by simp [queued, hh]⟩
      · refine .inl ⟨rfl, ?_⟩
        simp only [queued, List.flatMap_append, List.flatMap_cons, List.flatMap_nil, hh,
          List.append_nil, List.append_assoc, Multiset.coe_add]
        exact Multiset.coe_eq_coe.mpr (List.perm_append_comm.append_left _)
      · exact .inr ⟨show errBadHandle < 0 by decide, rfl⟩

/-- A write on the left end queues the message at the right end. -/
theorem write_left {p : ChannelPair} {call : WriteCall} {msg : Message}
    (hm : call.message = some msg) (hl : call.handle = p.left) :
    write p call = (noError, { p with atRight := p.atRight ++ [msg] }) := by
  simp [write, hm, hl]

/-- The pair seen from its right end: the endpoint machine `m` in place of that end. -/
def atRightEnd {β : Type} (p : ChannelPair) (m : Machine β (List Message)) :
    Machine β ChannelPair :=
  ⟨m.buf, { p with atRight := m.kernel }, m.trace⟩

end ChannelPair

namespace Channel

variable (g : Growth) (self : Channel) (opts : Nat)

/-- At the right end, `read_raw` on the pair does what it does on that end's endpoint. -/
theorem readRaw_atRightEnd {p : ChannelPair} (hl : self.rawHandle ≠ p.left)
    (hr : self.rawHandle = p.right) (m : Machine MessageBuf (List Message)) :
    readRaw ChannelPair.kernel self opts (p.atRightEnd m) =
      ((readRaw Endpoint.kernel self opts m).1,
        p.atRightEnd (readRaw Endpoint.kernel self opts m).2) := by
  have hk : ∀ call : ReadCall, call.handle = self.rawHandle →
      ChannelPair.kernel.read { p with atRight := m.kernel } call =
        ((Endpoint.read m.kernel call).1,
          { p with atRight := (Endpoint.read m.kernel call).2 }) := by
    intro call hc
    have hne : p.right ≠ p.left := hr ▸ hl
    simp [ChannelPair.read, hc, hr, hne]
  simp only [readRaw, ChannelPair.atRightEnd, hk (readCall self opts m.buf.resetHandles) rfl,
    Endpoint.kernel]
  split_ifs <;> rfl

/-- At the right end, `Channel::read` on the pair does what it does on that end's
endpoint, pass for pass. -/
theorem read_atRightEnd {p : ChannelPair} (hl : self.rawHandle ≠ p.left)
    (hr : self.rawHandle = p.right) :
    ∀ fuel (m : Machine MessageBuf (List Message)),
      read ChannelPair.kernel self opts g fuel (p.atRightEnd m) =
        ((read Endpoint.kernel self opts g fuel m).1,
          p.atRightEnd (read Endpoint.kernel self opts g fuel m).2)
  | 0, _ => rfl
  | fuel + 1, m => by
      have h1 := readRaw_atRightEnd self opts hl hr m
      cases hr' : (readRaw Endpoint.kernel self opts m).1 with
      | ok r =>
          have hp : (readRaw ChannelPair.kernel self opts (p.atRightEnd m)).1 = .ok r := by
            rw [h1, hr']
          rw [read_succ_of_ok _ _ _ g hp, read_succ_of_ok _ _ _ g hr', h1]
      | error counts =>
          obtain ⟨nb, nh⟩ := counts
          have hp : (readRaw ChannelPair.kernel self opts (p.atRightEnd m)).1 = .error (nb, nh) := by
            rw [h1, hr']
          rw [read_succ_of_error _ _ _ g hp, read_succ_of_error _ _ _ g hr', h1]
          exact read_atRightEnd hl hr fuel { (readRaw Endpoint.kernel self opts m).2 with
            buf := (((readRaw Endpoint.kernel self opts m).2.buf.ensureCapacityBytes g
              nb).ensureCapacityHandles g nh) }

/-- `Channel::write` on the pair either sends the whole vector, queuing its handles, or
fails and leaves the vector and the pair as they were. -/
theorem write_pair (ch : Channel) (bytes : List UInt8) (handles : List Handle)
    (p : ChannelPair) :
    let r := write ChannelPair.kernel ch opts bytes handles p
    (r.2.1 = [] ∧ (r.2.2.queued : Multiset Int) = p.queued + handles.map Handle.raw) ∨
      (r.2.1 = handles ∧ r.2.2 = p) := by
  unfold write
  split_ifs
  · exact .inr ⟨rfl, rfl⟩
  · exact .inr ⟨rfl, rfl⟩
  · rcases ChannelPair.write_cases p (writeCall ch opts bytes handles) with ⟨hs, hq⟩ | ⟨hs, hk⟩
    · exact .inl ⟨by simp [hs, noError], hq⟩
    · exact .inr ⟨by simp [not_le.mpr hs], hk⟩

end Channel

/-- A write on one end of a pair with nothing pending at the other, then a read there
into a buffer in any state. The write succeeds and empties the sender's vector; the
read returns `Ok` within two passes holding exactly the bytes and handles written,
and nothing is left pending at that end. -/
theorem write_read_round_trip (g : Growth) (sender receiver : Channel) (opts : Nat)
    (bytes : List UInt8) (handles : List Handle) (p : ChannelPair) (b : Channel.MessageBuf)
    (trace : List Event) (hl : sender.rawHandle = p.left)
    (hr : receiver.rawHandle = p.right) (hlr : p.left ≠ p.right) (hp : p.atRight = [])
    (hb : bytes.length ≤ u32Max) (hh : handles.length ≤ u32Max) :
    let w := Channel.write ChannelPair.kernel sender opts bytes handles p
    let r := Channel.read ChannelPair.kernel receiver opts g 2 ⟨b, w.2.2, trace⟩
    w.1 = .ok () ∧ w.2.1 = [] ∧ r.1 = some (.ok ()) ∧ r.2.buf.bytes.elems = bytes ∧
      r.2.buf.handles.elems = handles.map Handle.raw ∧ r.2.kernel.atRight = [] := by
  let msg : Message := ⟨bytes, handles.map Handle.raw, hb, by simpa using hh⟩
  have hm : (Channel.writeCall sender opts bytes handles).message = some msg := by
    simp [WriteCall.message, Channel.writeCall, hb, hh, msg]
  have hw : Channel.write ChannelPair.kernel sender opts bytes handles p =
      (.ok (), [], { p with atRight := [msg] }) := by
    simp only [Channel.write, if_neg (not_lt.mpr hb), if_neg (not_lt.mpr hh),
      ChannelPair.kernel_write, ChannelPair.write_left hm hl, hp, List.nil_append]
    rfl
  have hrd := Channel.read_atRightEnd g receiver opts (hr ▸ hlr.symm) hr 2 ⟨b, [msg], trace⟩
  obtain ⟨h1, h2, h3, h4⟩ :=
    @Channel.read_endpoint g receiver opts msg [] ⟨b, [msg], trace⟩ rfl 2 le_rfl
  simp only [hw, true_and]
  rw [show (⟨b, { p with atRight := [msg] }, trace⟩ : Machine Channel.MessageBuf ChannelPair) =
    p.atRightEnd ⟨b, [msg], trace⟩ from rfl, hrd]
  exact ⟨by rw [h1], h2, h3, by simp [ChannelPair.atRightEnd, h4]⟩

theorem write_read_round_trip_hello :
    (⟨⟨1⟩⟩ : Channel).rawHandle = (⟨1, 2, [], []⟩ : ChannelPair).left ∧
    (⟨⟨2⟩⟩ : Channel).rawHandle = (⟨1, 2, [], []⟩ : ChannelPair).right ∧
    (⟨1, 2, [], []⟩ : ChannelPair).left ≠ (⟨1, 2, [], []⟩ : ChannelPair).right ∧
    (⟨1, 2, [], []⟩ : ChannelPair).atRight = [] ∧
    hello.bytes.length ≤ u32Max ∧ [(⟨5⟩ : Handle)].length ≤ u32Max ∧
    let w := Channel.write ChannelPair.kernel ⟨⟨1⟩⟩ 0 hello.bytes [⟨5⟩] ⟨1, 2, [], []⟩
    let r := Channel.read ChannelPair.kernel ⟨⟨2⟩⟩ 0 .amortized 2 ⟨.new, w.2.2, []⟩
    w.1 = .ok () ∧ w.2.1 = [] ∧ r.1 = some (.ok ()) ∧ r.2.buf.bytes.elems = hello.bytes ∧
      r.2.buf.handles.elems = [(⟨5⟩ : Handle)].map Handle.raw ∧ r.2.kernel.atRight = [] :=
  ⟨rfl, rfl, by decide, rfl, by decide, by decide,
    write_read_round_trip .amortized ⟨⟨1⟩⟩ ⟨⟨2⟩⟩ 0 hello.bytes [⟨5⟩] ⟨1, 2, [], []⟩ .new []
      rfl rfl (by decide) rfl (by decide) (by decide)⟩

end Magenta
