import Magenta.PipeTransit
import Magenta.Endpoint

/-!
# Reply pipes end to end

The successful half of `message_pipe_reply_basic`, for every vector and every reply
pipe. The reply end's `write_reply` succeeds, and a read on the first end then delivers
the bytes and the vector's handles followed by the reply end, which the iterator hands
out last: the endpoint comes back as it was sent, and the pair is as it was before the
write.

## Implementation notes

A read against the pair at its first end is a read against that end's queue as an
endpoint (`read_sim`), so the two-call read protocol proved for an endpoint carries
over unchanged.
-/

namespace Magenta

namespace PipePair

/-- A read on the first end reads its queue as an endpoint. -/
theorem read_left {p : PipePair} {call : ReadCall} (hc : call.handle = p.pair.left) :
    read p call = ((Endpoint.read p.pair.atLeft call).1,
      { p with pair := { p.pair with atLeft := (Endpoint.read p.pair.atLeft call).2 } }) := by
  simp [read, ChannelPair.read, hc]

end PipePair

namespace MessagePipe

section Sim

variable {σ τ : Type} (K : Kernel σ) (L : Kernel τ) (f : τ → σ) (g : Growth)
  (self : MessagePipe) (flags : Nat)

theorem finish_map (b : MessageBuf) (res : ReadReply (readCall self flags b) × τ)
    (trace : List Event) :
    finish self flags b (res.1, f res.2) trace =
      ((finish self flags b res trace).1,
        { (finish self flags b res trace).2 with
          kernel := f (finish self flags b res trace).2.kernel }) := by
  unfold finish
  split <;> rfl

/-- If `K` at `f t` answers this endpoint's reads as `L` at `t` does, then `read`'s calls
against `K` are those against `L`, with `f` applied to the state they leave. -/
theorem receive_sim
    (hf : ∀ t (call : ReadCall), call.handle = self.rawHandle →
      K.read (f t) call = ((L.read t call).1, f (L.read t call).2))
    (b : MessageBuf) (t : τ) (trace : List Event) :
    receive K g self flags b (f t) trace =
      ((receive L g self flags b t trace).1, { (receive L g self flags b t trace).2 with
        kernel := f (receive L g self flags b t trace).2.kernel }) := by
  have h1 : ∀ t b', K.read (f t) (readCall self flags b') =
      ((L.read t (readCall self flags b')).1, f (L.read t (readCall self flags b')).2) :=
    fun t _ => hf t _ rfl
  have hc : (K.read (f t) (readCall self flags b)).1 = (L.read t (readCall self flags b)).1 := by
    rw [h1]
  simp only [receive]
  rw [hc]
  split_ifs <;> simp only [h1, finish_map]

theorem read_sim
    (hf : ∀ t (call : ReadCall), call.handle = self.rawHandle →
      K.read (f t) call = ((L.read t call).1, f (L.read t call).2))
    (m : Machine MessageBuf τ) :
    read K g self flags ⟨m.buf, f m.kernel, m.trace⟩ =
      (read L g self flags m).map fun r => (r.1, { r.2 with kernel := f r.2.kernel }) := by
  simp only [read]
  cases m.buf.dropHandles <;> simp [receive_sim K L f g self flags hf]

end Sim

variable (self : MessagePipe) (flags : Nat)

/-- On a reply pipe, the reply end's `write_reply` of a vector without itself, both
lengths within a `u32`, succeeds and queues at the first end the bytes and the vector's
handles followed by the reply end. -/
theorem writeReply_reply_end {p : PipePair} (hr : p.reply = true)
    (hreply : self.rawHandle = p.pair.right) (hlr : p.pair.left ≠ p.pair.right)
    {bytes : List UInt8} {handles : List Handle} (hn : self.rawHandle ∉ handles.map Handle.raw)
    (hb : bytes.length ≤ u32Max) (hh : handles.length + 1 ≤ u32Max) :
    ∃ msg : Message, msg.bytes = bytes ∧ msg.handles = handles.map Handle.raw ++ [self.rawHandle] ∧
      writeReply PipePair.kernel self flags bytes handles p =
        some (.ok (), [], { p with pair := { p.pair with atLeft := p.pair.atLeft ++ [msg] } }) := by
  have hh' : (handles.map Handle.raw ++ [self.rawHandle]).length ≤ u32Max := by simpa using hh
  let msg : Message := ⟨bytes, handles.map Handle.raw ++ [self.rawHandle], hb, hh'⟩
  refine ⟨msg, rfl, rfl, ?_⟩
  have hadm : p.admits (writeCall flags self.rawHandle bytes (handles ++ [self.intoHandle])) := by
    simp only [PipePair.admits, writeCall, hr, hreply, and_self, if_true, List.map_append,
      List.map_cons, List.map_nil, raw_intoHandle, List.getLast?_concat, List.dropLast_concat,
      true_and]
    exact hreply ▸ hn
  have hm : (writeCall flags self.rawHandle bytes (handles ++ [self.intoHandle])).message =
      some msg := by
    simp [WriteCall.message, writeCall, hb, hh, msg]
  have hwr : p.write (writeCall flags self.rawHandle bytes (handles ++ [self.intoHandle])) =
      (noError, { p with pair := { p.pair with atLeft := p.pair.atLeft ++ [msg] } }) := by
    rw [PipePair.write, if_pos hadm, ChannelPair.write, hm]
    simp [writeCall, hreply, hlr.symm, noError]
  have hpre : ¬(bytes.length > u32Max ∨ (handles ++ [self.intoHandle]).length > u32Max) := by
    simp only [List.length_append, List.length_singleton]
    omega
  simp only [writeReply, writeRaw, if_neg hpre, PipePair.kernel_write, hwr, ne_eq,
    not_true_eq_false, if_false]

end MessagePipe

/-- A reply end survives the round trip. On a reply pipe with nothing pending at the
first end, the reply end's `write_reply` of any vector without itself, both lengths
within a `u32`, succeeds. A read on the first end, into a buffer in any reachable
state, then returns `Ok` with the bytes, leaves the pair as it was before the write,
and the buffer's iterator hands out the vector's handles and then the reply end,
which `from_handle` makes the same endpoint again. -/
theorem reply_round_trip (g : Growth) (first reply : MessagePipe) (flags flags' : Nat)
    (bytes : List UInt8) (handles : List Handle) (p : PipePair) (b : MessageBuf)
    (trace : List Event) (hr : p.reply = true) (hfirst : first.rawHandle = p.pair.left)
    (hreply : reply.rawHandle = p.pair.right) (hlr : p.pair.left ≠ p.pair.right)
    (hp : p.pair.atLeft = []) (hn : reply.rawHandle ∉ handles.map Handle.raw)
    (hb : bytes.length ≤ u32Max) (hh : handles.length + 1 ≤ u32Max)
    (hv : b.unusedIx ≤ b.handles.len) :
    ∃ k m it, MessagePipe.writeReply PipePair.kernel reply flags bytes handles p =
        some (.ok (), [], k) ∧
      MessagePipe.read PipePair.kernel g first flags' ⟨b, k, trace⟩ = some (.ok (), m) ∧
      m.buf.bytes.elems = bytes ∧ m.kernel = p ∧
      HandleIter.nextN (handles.length + 1) ⟨m.buf⟩ =
        some ((handles ++ [reply.intoHandle]).map some, it) := by
  obtain ⟨msg, hmb, hmh, hw⟩ := MessagePipe.writeReply_reply_end reply flags hr hreply hlr hn hb hh
  rw [hp, List.nil_append] at hw
  let f : List Message → PipePair := fun q => { p with pair := { p.pair with atLeft := q } }
  have hf : ∀ t (call : ReadCall), call.handle = first.rawHandle →
      PipePair.kernel.read (f t) call = ((Endpoint.kernel.read t call).1,
        f (Endpoint.kernel.read t call).2) :=
    fun _ _ hc => PipePair.read_left (hc.trans hfirst)
  obtain ⟨m', hm', hbytes, hhandles, hu, hk⟩ :=
    @MessagePipe.read_endpoint g first flags' msg [] ⟨b, [msg], trace⟩ rfl hv
  obtain ⟨it, hit⟩ :=
    HandleIter.nextN_of_le (handles.length + 1) m'.buf (by rw [hu]; exact Nat.zero_le _)
  refine ⟨f [msg], { m' with kernel := f m'.kernel }, it, hw, ?_, hbytes.trans hmb, ?_, ?_⟩
  · rw [show (⟨b, f [msg], trace⟩ : Machine MessageBuf PipePair) =
      ⟨(⟨b, [msg], trace⟩ : Machine MessageBuf (List Message)).buf, f [msg], trace⟩ from rfl,
      MessagePipe.read_sim _ _ f g first flags' hf, hm', Option.map_some']
  · obtain ⟨⟨left, right, atLeft, atRight⟩, reply'⟩ := p
    simp only at hp
    simp [f, hk, hp]
  · have hid : (fun h : Int => some (Handle.mk h)) ∘ Handle.raw = some := rfl
    rw [hit, hu, List.drop_zero, RVec.len, hhandles, hmh, ← MessagePipe.raw_intoHandle,
      ← List.map_singleton, ← List.map_append, List.take_of_length_le (by simp), List.map_map, hid]
    simp

/-- The pipe of `message_pipe_reply_basic`: the reply end `2` sends handle `3` and
itself, and end `1` reads. -/
theorem reply_round_trip_replyPair :
    replyPair.reply = true ∧ (⟨⟨1⟩⟩ : MessagePipe).rawHandle = replyPair.pair.left ∧
    (⟨⟨2⟩⟩ : MessagePipe).rawHandle = replyPair.pair.right ∧
    replyPair.pair.left ≠ replyPair.pair.right ∧ replyPair.pair.atLeft = [] ∧
    (⟨⟨2⟩⟩ : MessagePipe).rawHandle ∉ [(⟨3⟩ : Handle)].map Handle.raw ∧
    ([104, 105] : List UInt8).length ≤ u32Max ∧ [(⟨3⟩ : Handle)].length + 1 ≤ u32Max ∧
    MessageBuf.new.unusedIx ≤ MessageBuf.new.handles.len ∧
    ∃ k m it, MessagePipe.writeReply PipePair.kernel ⟨⟨2⟩⟩ 0 [104, 105] [⟨3⟩] replyPair =
        some (.ok (), [], k) ∧
      MessagePipe.read PipePair.kernel .amortized ⟨⟨1⟩⟩ 0 ⟨MessageBuf.new, k, []⟩ =
        some (.ok (), m) ∧
      m.buf.bytes.elems = [104, 105] ∧ m.kernel = replyPair ∧
      HandleIter.nextN ([(⟨3⟩ : Handle)].length + 1) ⟨m.buf⟩ =
        some (([(⟨3⟩ : Handle)] ++ [MessagePipe.intoHandle ⟨⟨2⟩⟩]).map some, it) :=
  ⟨rfl, rfl, rfl, by decide, rfl, by decide, by decide, by decide, by decide,
    reply_round_trip .amortized ⟨⟨1⟩⟩ ⟨⟨2⟩⟩ 0 0 [104, 105] [⟨3⟩] replyPair .new [] rfl rfl rfl
      (by decide) rfl (by decide) (by decide) (by decide) (by decide)⟩

end Magenta
