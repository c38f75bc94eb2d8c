import Magenta.Pair
import Mathlib.Data.Multiset.Nodup

/-!
# Handles in transit

A program holds a vector of handles and a receive buffer on one end of a channel
pair. It writes its vector on either end, reads and takes on its buffer, a taken
handle joining the vector, and drops its vector. Every handle is always in exactly
one place: the vector, a message queued in the kernel, an untaken slot of the
buffer, or closed. Across every interleaving no handle is lost and none is
duplicated, and once the vector and the buffer are dropped each handle has been
closed exactly once or is still queued in the kernel.

## Implementation notes

Places are counted as a multiset, so a step's lemma is an equation between the
multisets before and after it. `INVALID_HANDLE` is the `0` that `drop_handles`
skips, as in `Magenta.Channel.Ownership`.
-/

namespace Magenta

/-- The handle an event closes, if it closes one. -/
def Event.closedHandle : Event → Option Int
  | .closed h => some h
  | _ => none

/-- The handles a trace closes, in order. -/
def closes (trace : List Event) : List Int := trace.filterMap Event.closedHandle

@[simp] theorem closes_nil : closes [] = [] := rfl
@[simp] theorem closes_append (t t' : List Event) : closes (t ++ t') = closes t ++ closes t' :=
  List.filterMap_append _ _ _
@[simp] theorem closes_received (H : List Int) : closes [.received H] = [] := rfl
@[simp] theorem closes_taken (i : Nat) (h : Int) : closes [.taken i h] = [] := rfl
@[simp] theorem closes_map_closed (l : List Int) : closes (l.map .closed) = l := by
  induction l <;> simp_all [closes, Event.closedHandle]

namespace Channel.MessageBuf

/-- Emptying a nonzero slot moves its handle out of the nonzero ones. -/
theorem filter_set_zero : ∀ (l : List Int) (i : Nat) {x : Int}, l[i]? = some x → x ≠ 0 →
    (l.filter (· != 0) : Multiset Int) = x ::ₘ ((l.set i 0).filter (· != 0) : List Int)
  | [], _, _, h, _ => by simp at h
  | y :: l, 0, x, h, hx => by
      simp only [List.getElem?_cons_zero, Option.some.injEq] at h
      subst h
      simp [List.filter_cons, hx]
  | y :: l, i + 1, x, h, hx => by
      have ih := filter_set_zero l i (by simpa using h) hx
      by_cases hy : y = 0
      · simpa [List.filter_cons, hy] using ih
      · simp only [List.set_cons_succ, List.filter_cons, hy, bne_iff_ne, ne_eq,
          not_false_eq_true, decide_True, if_true, ← Multiset.cons_coe, ih]
        exact Multiset.cons_swap _ _ _

/-- A take moves the handle it hands out of the slots `drop_handles` would close. -/
theorem dropHandles_takeHandle {b b' : MessageBuf} {i : Nat} {h : Handle}
    (ht : b.takeHandle 0 i = (some h, b')) :
    (b.dropHandles : Multiset Int) = h.raw ::ₘ b'.dropHandles := by
  obtain ⟨hi, h0, rfl⟩ := (takeHandle_eq_some 0 b i).mp ht
  exact filter_set_zero _ i hi h0

end Channel.MessageBuf

/-- Where the handles of a receiving machine on the pair are: queued at either end,
in an untaken slot of its buffer, or closed. -/
def inFlight (m : Machine Channel.MessageBuf ChannelPair) : Multiset Int :=
  m.kernel.queued + m.buf.dropHandles + closes m.trace

theorem ChannelPair.not_mem_read {p : ChannelPair} (hq : 0 ∉ p.queued) (call : ReadCall) :
    0 ∉ (read p call).1.handles ∧ 0 ∉ (read p call).2.queued := by
  have h := ChannelPair.queued_read p call
  constructor <;> intro h0 <;> apply hq <;> rw [← Multiset.mem_coe, h, Multiset.mem_add] <;>
    simp [h0]

namespace Channel

variable (g : Growth) (self : Channel)

/-- `read_raw` on the pair closes the buffer's untaken handles and moves those it
delivers from the queue into the buffer: nothing is lost or made up. -/
theorem inFlight_readRaw (opts : Nat) {m : Machine MessageBuf ChannelPair}
    (hq : 0 ∉ m.kernel.queued) :
    inFlight (readRaw ChannelPair.kernel self opts m).2 = inFlight m ∧
      0 ∉ (readRaw ChannelPair.kernel self opts m).2.kernel.queued := by
  have hqr := ChannelPair.queued_read m.kernel (readCall self opts m.buf.resetHandles)
  obtain ⟨hh0, hq0⟩ := ChannelPair.not_mem_read hq (readCall self opts m.buf.resetHandles)
  rcases readRaw_cases ChannelPair.kernel self opts m with ⟨hs, he⟩ | ⟨hs, he⟩ | ⟨hs, -, he⟩ <;>
    rw [he] <;> refine ⟨?_, hq0⟩ <;>
    simp only [inFlight, ChannelPair.kernel_read] at hs ⊢
  · rw [hqr, ChannelPair.handles_read_of_neg (by rw [hs]; decide)]
    simp only [MessageBuf.dropHandles_resetHandles, closes_append, closes_map_closed,
      Multiset.coe_nil, zero_add, add_zero, ← Multiset.coe_add]
    ac_rfl
  · have hd : (m.buf.resetHandles.setLen _ (readCall_le self opts _) hs).dropHandles =
        (ChannelPair.read m.kernel (readCall self opts m.buf.resetHandles)).1.handles :=
      List.filter_eq_self.mpr fun a ha => by simpa using ne_of_mem_of_not_mem ha hh0
    rw [hqr, hd]
    simp only [closes_append, closes_map_closed, closes_received, List.append_nil,
      ← Multiset.coe_add]
    ac_rfl
  · rw [hqr, ChannelPair.handles_read_of_neg hs]
    simp only [MessageBuf.dropHandles_resetHandles, closes_append, closes_map_closed,
      Multiset.coe_nil, zero_add, add_zero, ← Multiset.coe_add]
    ac_rfl

/-- `Channel::read` on the pair keeps every handle in flight, however many passes. -/
theorem inFlight_read (opts : Nat) :
    ∀ fuel {m : Machine MessageBuf ChannelPair}, 0 ∉ m.kernel.queued →
      inFlight (read ChannelPair.kernel self opts g fuel m).2 = inFlight m ∧
        0 ∉ (read ChannelPair.kernel self opts g fuel m).2.kernel.queued
  | 0, _, hq => ⟨rfl, hq⟩
  | fuel + 1, m, hq => by
      obtain ⟨h1, hq1⟩ := inFlight_readRaw self opts hq
      cases hr : (readRaw ChannelPair.kernel self opts m).1 with
      | ok r => rw [read_succ_of_ok _ _ _ g hr]; exact ⟨h1, hq1⟩
      | error counts =>
          rw [read_succ_of_error _ _ _ g hr]
          refine (inFlight_read opts fuel ?_).imp_left fun h2 => h2.trans ?_
          · exact hq1
          · simpa [inFlight, MessageBuf.dropHandles] using h1

end Channel

/-- What a program using one end of a pair holds: the vector its next write sends, and
its receive buffer with the kernel and the trace. -/
structure World where
  held : List Handle
  recv : Machine Channel.MessageBuf ChannelPair

/-- What the program does next. -/
inductive Action
  /-- `Channel::write` of the held vector on `ch`. -/
  | write (ch : Channel) (opts : Nat) (bytes : List UInt8)
  /-- An operation on the receive buffer; a taken handle joins the vector. -/
  | recv (op : Channel.Op)
  /-- The vector is dropped, and `Drop for Handle` closes each of its handles. -/
  | dropHeld

/-- The handle an operation on the buffer hands back to the program, if any. -/
def Channel.Op.handOut (b : Channel.MessageBuf) : Channel.Op → List Handle
  | .takeHandle i => (b.takeHandle 0 i).1.toList
  | _ => []

namespace World

variable (g : Growth) (self : Channel)

/-- One action of the program, whose buffer reads on `self`. -/
def step (w : World) : Action → World
  | .write ch opts bytes =>
      let r := Channel.write ChannelPair.kernel ch opts bytes w.held w.recv.kernel
      ⟨r.2.1, { w.recv with kernel := r.2.2 }⟩
  | .recv op => ⟨w.held ++ op.handOut w.recv.buf, Channel.step ChannelPair.kernel g self 0 w.recv op⟩
  | .dropHeld => ⟨[], { w.recv with trace := w.recv.trace ++ w.held.map fun h => .closed h.raw }⟩

/-- The end of a run: the vector is dropped, then the buffer. -/
def finish (w : World) : Machine Channel.MessageBuf ChannelPair :=
  Channel.drop (w.step g self .dropHeld).recv

/-- Every handle of the system, wherever it is. -/
def owned (w : World) : Multiset Int := (w.held.map Handle.raw : List Int) + inFlight w.recv

/-- The run invariant: the handles are those of the start, and none in the vector or in
a queue is `0`. -/
structure Inv (total : Multiset Int) (w : World) : Prop where
  conserved : w.owned = total
  held : 0 ∉ w.held.map Handle.raw
  queued : 0 ∉ w.recv.kernel.queued

variable {g self} {total : Multiset Int} {w : World}

theorem Inv.write (hw : Inv total w) (ch : Channel) (opts : Nat) (bytes : List UInt8) :
    Inv total (w.step g self (.write ch opts bytes)) := by
  rcases Channel.write_pair opts ch bytes w.held w.recv.kernel with ⟨hh, hq⟩ | ⟨hh, hk⟩
  · refine ⟨?_, by simp [step, hh], fun h0 => ?_⟩
    · rw [← hw.conserved]
      simp only [World.owned, inFlight, step, hh, hq, List.map_nil, Multiset.coe_nil, zero_add]
      ac_rfl
    · have : (0 : Int) ∈ (w.recv.kernel.queued : Multiset Int) + (w.held.map Handle.raw : List Int) :=
        hq ▸ Multiset.mem_coe.mpr h0
      rcases Multiset.mem_add.mp this with h | h
      · exact hw.queued (Multiset.mem_coe.mp h)
      · exact hw.held (Multiset.mem_coe.mp h)
  · have : w.step g self (.write ch opts bytes) = w := by simp [step, hh, hk]
    rw [this]; exact hw

theorem Inv.takeHandle (hw : Inv total w) (i : Nat) :
    Inv total (w.step g self (.recv (.takeHandle i))) := by
  rcases ht : w.recv.buf.takeHandle 0 i with ⟨_ | h, b'⟩
  · obtain rfl := Channel.MessageBuf.takeHandle_of_none 0 w.recv.buf i ht
    simpa [step, Channel.step, Channel.Op.handOut, ht] using hw
  · have hd := Channel.MessageBuf.dropHandles_takeHandle ht
    have h0 := ((Channel.MessageBuf.takeHandle_eq_some 0 _ i).mp ht).2.1
    refine ⟨?_, ?_, by simpa [step, Channel.step, ht] using hw.queued⟩
    · rw [← hw.conserved]
      simp only [World.owned, inFlight, step, Channel.step, Channel.Op.handOut, ht, hd,
        Option.toList_some, Option.map_some', List.map_append, List.map_cons, List.map_nil,
        closes_append, closes_taken, List.append_nil, ← Multiset.coe_add,
        Multiset.coe_singleton, ← Multiset.singleton_add]
      ac_rfl
    · simp only [step, Channel.Op.handOut, ht, Option.toList_some, List.map_append,
        List.mem_append, not_or]
      exact ⟨hw.held, fun hm => h0 (List.mem_singleton.mp hm).symm⟩

/-- A buffer operation that keeps every handle in flight keeps the invariant. -/
theorem Inv.of_inFlight (hw : Inv total w) {m : Machine Channel.MessageBuf ChannelPair}
    (h : inFlight m = inFlight w.recv ∧ 0 ∉ m.kernel.queued) : Inv total ⟨w.held, m⟩ :=
  ⟨by simp only [World.owned, h.1]; exact hw.conserved, hw.held, h.2⟩

theorem Inv.recv (hw : Inv total w) : ∀ op, Inv total (w.step g self (.recv op))
  | .readRaw opts => by
      simpa only [step, Channel.step, Channel.Op.handOut, List.append_nil] using
        hw.of_inFlight (Channel.inFlight_readRaw self opts hw.queued)
  | .read opts fuel => by
      simpa only [step, Channel.step, Channel.Op.handOut, List.append_nil] using
        hw.of_inFlight (Channel.inFlight_read g self opts fuel hw.queued)
  | .takeHandle i => hw.takeHandle i

theorem Inv.dropHeld (hw : Inv total w) : Inv total (w.step g self .dropHeld) := by
  refine ⟨?_, by simp [step], hw.queued⟩
  have hc : closes (w.held.map fun h => Event.closed h.raw) = w.held.map Handle.raw := by
    simpa [Function.comp_def] using closes_map_closed (w.held.map Handle.raw)
  rw [← hw.conserved]
  simp only [World.owned, inFlight, step, closes_append, hc, List.map_nil, Multiset.coe_nil,
    zero_add, ← Multiset.coe_add]
  ac_rfl

theorem Inv.step (hw : Inv total w) : ∀ a, Inv total (w.step g self a)
  | .write ch opts bytes => hw.write ch opts bytes
  | .recv op => hw.recv op
  | .dropHeld => hw.dropHeld

theorem Inv.foldl : ∀ (acts : List Action) {w : World}, Inv total w →
    Inv total (acts.foldl (World.step g self) w)
  | [], _, hw => hw
  | a :: acts, _, hw => Inv.foldl acts (hw.step a)

theorem inv_start {held : List Handle} {p : ChannelPair} (hheld : 0 ∉ held.map Handle.raw)
    (hq : 0 ∉ p.queued) :
    Inv ((held.map Handle.raw : List Int) + p.queued) ⟨held, ⟨.new, p, []⟩⟩ :=
  ⟨by simp [World.owned, inFlight, Channel.MessageBuf.dropHandles], hheld, hq⟩

/-- Once the vector and the buffer are dropped, the handles are still queued or closed. -/
theorem Inv.finish (hw : Inv total w) :
    ((w.finish g self).kernel.queued : Multiset Int) + closes (w.finish g self).trace = total := by
  rw [← (@Inv.dropHeld g self _ w hw).conserved]
  simp only [World.finish, Channel.drop, World.owned, World.step, inFlight, closes_append,
    closes_map_closed, List.map_nil, Multiset.coe_nil, zero_add, ← Multiset.coe_add]
  ac_rfl

end World

/-- Handle conservation for a program on a channel pair. Start from a vector of handles,
a fresh receive buffer and a pair whose pending messages carry handles, none of them
`0`. After any run of writes of the vector on either end, reads, retrying reads and
takes on the buffer, and drops of the vector, the handles in the vector, the queues,
the untaken slots and the closes are exactly those of the start. Once the vector and
the buffer are dropped, every handle has been closed exactly once or is still queued. -/
theorem handles_in_transit_conserved (g : Growth) (self : Channel) (held : List Handle)
    (p : ChannelPair) (hheld : 0 ∉ held.map Handle.raw) (hq : 0 ∉ p.queued)
    (acts : List Action) :
    let w := acts.foldl (World.step g self) ⟨held, ⟨.new, p, []⟩⟩
    w.owned = (held.map Handle.raw : List Int) + p.queued ∧
      ((w.finish g self).kernel.queued : Multiset Int) + closes (w.finish g self).trace =
        (held.map Handle.raw : List Int) + p.queued := by
  intro w
  have hw : World.Inv _ w := World.Inv.foldl acts (World.inv_start hheld hq)
  exact ⟨hw.conserved, hw.finish⟩

/-- The pair with ends `1` and `2` and the `channel_basic` message pending at `2`. -/
def helloPair : ChannelPair := ⟨1, 2, [], [hello]⟩

/-- A program reading on end `2` that holds handle `3`, writes it on end `1`, reads
twice and takes one handle. -/
theorem handles_in_transit_conserved_helloPair :
    0 ∉ [(⟨3⟩ : Handle)].map Handle.raw ∧ 0 ∉ helloPair.queued ∧
    let acts := [.write ⟨⟨1⟩⟩ 0 [], .recv (.read 0 2), .recv (.takeHandle 0), .recv (.readRaw 0)]
    let w := acts.foldl (World.step .amortized ⟨⟨2⟩⟩) ⟨[⟨3⟩], ⟨.new, helloPair, []⟩⟩
    w.owned = ([(⟨3⟩ : Handle)].map Handle.raw : List Int) + helloPair.queued ∧
      ((w.finish .amortized ⟨⟨2⟩⟩).kernel.queued : Multiset Int) +
          closes (w.finish .amortized ⟨⟨2⟩⟩).trace =
        ([(⟨3⟩ : Handle)].map Handle.raw : List Int) + helloPair.queued :=
  ⟨by decide, by decide, handles_in_transit_conserved .amortized ⟨⟨2⟩⟩ [⟨3⟩] helloPair
    (by decide) (by decide) _⟩

/-- With distinct handles at the start, as a kernel's handle table has, no run ever
closes a handle twice, so `handle_drop` never closes a handle some other owner holds. -/
theorem no_handle_closed_twice (g : Growth) (self : Channel) (held : List Handle)
    (p : ChannelPair) (hheld : 0 ∉ held.map Handle.raw) (hq : 0 ∉ p.queued)
    (hnd : (held.map Handle.raw ++ p.queued).Nodup) (acts : List Action) :
    (closes ((acts.foldl (World.step g self) ⟨held, ⟨.new, p, []⟩⟩).finish g self).trace).Nodup := by
  have hw : World.Inv _ (acts.foldl (World.step g self) ⟨held, ⟨.new, p, []⟩⟩) :=
    World.Inv.foldl acts (World.inv_start hheld hq)
  have hle : (closes ((acts.foldl (World.step g self) ⟨held, ⟨.new, p, []⟩⟩).finish g self).trace :
      Multiset Int) ≤ held.map Handle.raw ++ p.queued := by
    rw [← Multiset.coe_add, ← hw.finish]
    exact Multiset.le_add_left _ _
  exact Multiset.coe_nodup.mp (Multiset.nodup_of_le hle (Multiset.coe_nodup.mpr hnd))

theorem no_handle_closed_twice_helloPair :
    0 ∉ [(⟨3⟩ : Handle)].map Handle.raw ∧ 0 ∉ helloPair.queued ∧
    ([(⟨3⟩ : Handle)].map Handle.raw ++ helloPair.queued).Nodup ∧
    (closes ((([.write ⟨⟨1⟩⟩ 0 [], .recv (.read 0 2), .recv (.takeHandle 0),
      .recv (.readRaw 0)] : List Action).foldl (World.step .amortized ⟨⟨2⟩⟩)
        ⟨[⟨3⟩], ⟨.new, helloPair, []⟩⟩).finish .amortized ⟨⟨2⟩⟩).trace).Nodup :=
  ⟨by decide, by decide, by decide, no_handle_closed_twice .amortized ⟨⟨2⟩⟩ [⟨3⟩] helloPair
    (by decide) (by decide) (by decide) _⟩

end Magenta
