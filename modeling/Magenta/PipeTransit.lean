import Magenta.ReplyPipe
import Magenta.Transit
import Magenta.Pipe.Ownership

/-!
# Handles and endpoints in transit over a message pipe

A program owns endpoints of a pipe pair, a vector of handles and one receive buffer.
It writes its vector on an endpoint with `write`, or with `write_reply`, which sends
the endpoint after it. It reads into the buffer on an endpoint and calls `next` on
the buffer's iterator; the handle it gets joins the vector. It turns a handle of the
vector into an endpoint with `from_handle` and an endpoint back into a handle with
`into_handle`, and it drops an endpoint or the vector. Every handle is always in
exactly one place: the vector, an endpoint, a message queued in the kernel, a slot of
the buffer the iterator has not reached, or closed. No run panics, and none loses or
duplicates a handle.

On a reply pipe this makes the reply end a token. Every message it writes carries
it, so with distinct handles at the start at most one message from the reply end is
ever pending. While one is, the program holds the reply end nowhere and has not
closed it.

## Implementation notes

The invariant takes a property of the pair that every read and every write keeps:
the run lemma is proved once, and each theorem picks its property.
-/

namespace Magenta

instance : DecidableEq MessagePipe := fun a b =>
  decidable_of_iff (a.handle = b.handle)
    ⟨fun h => by cases a; cases b; cases h; rfl, fun h => h ▸ rfl⟩

/-- The handles a trace closes when it closes each element of a list. -/
@[simp] theorem closes_map_closed_fun {α : Type} (f : α → Int) (l : List α) :
    closes (l.map fun a => .closed (f a)) = l.map f := by
  simpa [Function.comp_def] using closes_map_closed (l.map f)

@[simp] theorem closes_closed (h : Int) : closes [.closed h] = [h] := rfl

/-- Taking one element out of a list takes its image out of the multiset of images. -/
theorem map_erase_coe {α β : Type} [DecidableEq α] (f : α → β) {l : List α} {a : α}
    (h : a ∈ l) : (l.map f : Multiset β) = f a ::ₘ ((l.erase a).map f : List β) :=
  Multiset.coe_eq_coe.mpr ((List.perm_cons_erase h).map f)

namespace MessagePipe

section Read

variable {σ : Type} (K : Kernel σ) (g : Growth) (self : MessagePipe) (flags : Nat)

theorem finish_kernel (b : MessageBuf) (res : ReadReply (readCall self flags b) × σ)
    (trace : List Event) : (finish self flags b res trace).2.kernel = res.2 := by
  unfold finish
  split <;> rfl

/-- A property of the kernel that every read keeps still holds after `read`'s calls. -/
theorem receive_kernel (P : σ → Prop) (hP : ∀ k call, P k → P (K.read k call).2) {k : σ}
    (hk : P k) (b : MessageBuf) (trace : List Event) :
    P (receive K g self flags b k trace).2.kernel := by
  dsimp only [receive]
  split
  · rw [finish_kernel]; exact hP _ _ (hP _ _ hk)
  · rw [finish_kernel]; exact hP _ _ hk

end Read

section Pipe

variable (g : Growth) (self : MessagePipe) (flags : Nat)

/-- The end of `read` on a pipe pair, from a buffer with no handles: the handles the
buffer then holds are exactly those that left the queues. -/
theorem finish_pipe (b : MessageBuf) (hb : b.handles.elems = []) (p : PipePair)
    (trace : List Event) :
    let r := finish self flags b (PipePair.read p (readCall self flags b)) trace
    (p.queued : Multiset Int) = (r.2.buf.handles.elems : Multiset Int) + r.2.kernel.queued ∧
      closes r.2.trace = closes trace := by
  have hq := PipePair.queued_read p (readCall self flags b)
  by_cases h : 0 ≤ (PipePair.read p (readCall self flags b)).1.status
  · simpa [finish, h, MessageBuf.setLen] using hq
  · rw [PipePair.handles_read_of_neg (Int.not_le.mp h)] at hq
    simpa [finish, h, hb] using hq

/-- `read`'s calls on a pipe pair, from a buffer with no handles, move the handles of
the message they deliver from the queues into the buffer, and close nothing. -/
theorem receive_pipe (b : MessageBuf) (hb : b.handles.elems = []) (p : PipePair)
    (trace : List Event) :
    let r := receive PipePair.kernel g self flags b p trace
    (p.queued : Multiset Int) = (r.2.buf.handles.elems : Multiset Int) + r.2.kernel.queued ∧
      closes r.2.trace = closes trace := by
  simp only [receive, PipePair.kernel_read]
  split
  · next hs =>
      have h0 := @PipePair.handles_read_of_neg p (readCall self flags b) (by rw [hs]; decide)
      rw [PipePair.queued_read p, h0, Multiset.coe_nil, zero_add]
      exact finish_pipe self flags _ (by simpa using hb) _ trace
  · exact finish_pipe self flags b hb p trace

/-- `write_raw` on a pipe pair: either the kernel took the whole vector with
`NO_ERROR`, or nothing changed and the caller keeps its vector. -/
theorem writeRaw_pipe (handle : Int) (bytes : List UInt8) (handles : List Handle)
    (p : PipePair) :
    let r := writeRaw PipePair.kernel flags handle bytes handles p
    (r.1 = .ok () ∧ r.2.1 = [] ∧ r.2.2 = (p.write (writeCall flags handle bytes handles)).2 ∧
        (r.2.2.queued : Multiset Int) = p.queued + (handles.map Handle.raw : List Int)) ∨
      ((∃ s, r.1 = .error s) ∧ r.2.1 = handles ∧ r.2.2 = p) := by
  unfold writeRaw
  split
  · exact .inr ⟨⟨_, rfl⟩, rfl, rfl⟩
  · rcases PipePair.write_cases p (writeCall flags handle bytes handles) with ⟨hs, hq⟩ | ⟨hs, hk⟩
    · simp only [PipePair.kernel_write, hs, ne_eq, not_true_eq_false, if_false, true_and]
      exact .inl hq
    · have hne : (p.write (writeCall flags handle bytes handles)).1 ≠ noError := Int.ne_of_lt hs
      simp only [PipePair.kernel_write, hne, ne_eq, not_false_eq_true, if_true, hk, and_true]
      exact .inr ⟨_, rfl⟩

/-- `write_reply` on a pipe pair never panics: either the kernel took the vector and
the endpoint after it, or nothing changed and the endpoint comes back as it was. -/
theorem writeReply_pipe (bytes : List UInt8) (handles : List Handle) (p : PipePair) :
    ∃ r, writeReply PipePair.kernel self flags bytes handles p = some r ∧
      ((r.1 = .ok () ∧ r.2.1 = [] ∧
          r.2.2 =
            (p.write (writeCall flags self.rawHandle bytes (handles ++ [self.intoHandle]))).2 ∧
          (r.2.2.queued : Multiset Int) =
            p.queued + ((handles ++ [self.intoHandle]).map Handle.raw : List Int)) ∨
        ((∃ s, r.1 = .error (self, s)) ∧ r.2.1 = handles ∧ r.2.2 = p)) := by
  have hspec := writeRaw_pipe flags self.rawHandle bytes (handles ++ [self.intoHandle]) p
  rcases hw : writeRaw PipePair.kernel flags self.rawHandle bytes (handles ++ [self.intoHandle]) p
    with ⟨r, hs, k'⟩
  rw [hw] at hspec
  rcases hspec with ⟨rfl, rfl, hk, hq⟩ | ⟨⟨s, rfl⟩, rfl, hk⟩
  · exact ⟨(.ok (), [], k'), by simp [writeReply, hw], .inl ⟨rfl, rfl, hk, hq⟩⟩
  · exact ⟨(.error (self, s), handles, k'), by simp [writeReply, hw], .inr ⟨⟨s, rfl⟩, rfl, hk⟩⟩

end Pipe

end MessagePipe

/-- A property of a pipe pair that every read and every write keeps. -/
structure PipePair.Kept (P : PipePair → Prop) : Prop where
  read : ∀ p call, P p → P (PipePair.read p call).2
  write : ∀ p call, P p → P (PipePair.write p call).2

/-- What a program using message pipes owns: the vector its next write sends, its
endpoints, and its receive buffer with the kernel and the trace. -/
structure PipeWorld where
  held : List Handle
  eps : List MessagePipe
  recv : Machine MessageBuf PipePair

/-- What the program does next. -/
inductive PipeAction
  /-- `MessagePipe::write` of the vector on an endpoint. -/
  | write (ep : MessagePipe) (flags : Nat) (bytes : List UInt8)
  /-- `write_reply` of the vector on an endpoint, which the call consumes. -/
  | writeReply (ep : MessagePipe) (flags : Nat) (bytes : List UInt8)
  /-- `MessagePipe::read` into the buffer on an endpoint. -/
  | read (ep : MessagePipe) (flags : Nat)
  /-- `next` on the buffer's iterator; the handle it yields joins the vector. -/
  | next
  /-- `from_handle` on a handle taken out of the vector. -/
  | adopt (h : Handle)
  /-- `into_handle` on an endpoint; the handle joins the vector. -/
  | release (ep : MessagePipe)
  /-- An endpoint is dropped, and `Drop for Handle` closes it. -/
  | dropEndpoint (ep : MessagePipe)
  /-- The vector is dropped, closing each of its handles. -/
  | dropHeld

/-- The endpoint a `write_reply` hands back: none on success, the consumed one on
failure. -/
def returned : Except (MessagePipe × Status) Unit → List MessagePipe
  | .ok () => []
  | .error e => [e.1]

namespace PipeWorld

variable (g : Growth)

/-- One action; `none` when it panics. An action on an endpoint or a handle the
program does not own changes nothing. -/
def step (w : PipeWorld) : PipeAction → Option PipeWorld
  | .write ep flags bytes =>
      if ep ∈ w.eps then
        let r := MessagePipe.write PipePair.kernel ep flags bytes w.held w.recv.kernel
        some ⟨r.2.1, w.eps, { w.recv with kernel := r.2.2 }⟩
      else some w
  | .writeReply ep flags bytes =>
      if ep ∈ w.eps then
        (MessagePipe.writeReply PipePair.kernel ep flags bytes w.held w.recv.kernel).map fun r =>
          ⟨r.2.1, w.eps.erase ep ++ returned r.1, { w.recv with kernel := r.2.2 }⟩
      else some w
  | .read ep flags =>
      if ep ∈ w.eps then
        (MessagePipe.read PipePair.kernel g ep flags w.recv).map fun r => { w with recv := r.2 }
      else some w
  | .next =>
      (HandleIter.next ⟨w.recv.buf⟩).map fun r =>
        ⟨w.held ++ r.1.toList, w.eps,
          { w.recv with
            buf := r.2.buf
            trace := w.recv.trace ++ (r.1.map fun h => .taken w.recv.buf.unusedIx h.raw).toList }⟩
  | .adopt h =>
      if h ∈ w.held then some ⟨w.held.erase h, w.eps ++ [MessagePipe.fromHandle h], w.recv⟩
      else some w
  | .release ep =>
      if ep ∈ w.eps then some ⟨w.held ++ [ep.intoHandle], w.eps.erase ep, w.recv⟩ else some w
  | .dropEndpoint ep =>
      if ep ∈ w.eps then
        some ⟨w.held, w.eps.erase ep,
          { w.recv with trace := w.recv.trace ++ [.closed ep.rawHandle] }⟩
      else some w
  | .dropHeld =>
      some ⟨[], w.eps, { w.recv with trace := w.recv.trace ++ w.held.map fun h => .closed h.raw }⟩

/-- A program that owns `held` and `eps`, with a fresh buffer, on the pair `p`. -/
def start (held : List Handle) (eps : List MessagePipe) (p : PipePair) : PipeWorld :=
  ⟨held, eps, ⟨MessageBuf.new, p, []⟩⟩

/-- Every handle of the system, wherever it is. -/
def owned (w : PipeWorld) : Multiset Int :=
  (w.held.map Handle.raw : List Int) + (w.eps.map MessagePipe.rawHandle : List Int) +
    w.recv.kernel.queued + (w.recv.buf.handles.elems.drop w.recv.buf.unusedIx : List Int) +
    closes w.recv.trace

/-- The end of a run: the vector and the endpoints are dropped, then the buffer. -/
def finish (w : PipeWorld) : Option (Machine MessageBuf PipePair) :=
  MessagePipe.drop
    { w.recv with
      trace := w.recv.trace ++ w.held.map (fun h => .closed h.raw) ++
        w.eps.map fun ep => .closed ep.rawHandle }

/-- The run invariant, for a property `P` of the pair. -/
structure Inv (P : PipePair → Prop) (total : Multiset Int) (w : PipeWorld) : Prop where
  /-- Every handle of the start is in exactly one place. -/
  conserved : w.owned = total
  /-- The iterator's index is within the buffer's handles. -/
  valid : w.recv.buf.unusedIx ≤ w.recv.buf.handles.len
  /-- The pair has the property. -/
  kernel : P w.recv.kernel

variable {g} {P : PipePair → Prop} {total : Multiset Int} {w : PipeWorld}

/-- An action on an endpoint or a handle keeps the invariant when it does so for one the
program owns: on any other it changes nothing. -/
theorem Inv.guard (hw : Inv P total w) {c : Prop} [Decidable c] {a : Option PipeWorld}
    (h : c → ∃ w', a = some w' ∧ Inv P total w') :
    ∃ w', (if c then a else some w) = some w' ∧ Inv P total w' := by
  by_cases hc : c
  · simpa only [if_pos hc] using h hc
  · exact ⟨w, if_neg hc, hw⟩

theorem Inv.write (hP : PipePair.Kept P) (hw : Inv P total w) (ep : MessagePipe) (flags : Nat)
    (bytes : List UInt8) : ∃ w', w.step g (.write ep flags bytes) = some w' ∧ Inv P total w' :=
  hw.guard fun _ => by
    refine ⟨_, rfl, ?_⟩
    rcases MessagePipe.writeRaw_pipe flags ep.rawHandle bytes w.held w.recv.kernel with
      ⟨-, hh, hk, hq⟩ | ⟨-, hh, hk⟩
    · refine ⟨?_, hw.valid, ?_⟩
      · rw [← hw.conserved]
        simp only [owned, MessagePipe.write, hh, hq, List.map_nil, Multiset.coe_nil, zero_add]
        ac_rfl
      · simp only [MessagePipe.write, hk]
        exact hP.write _ _ hw.kernel
    · simpa only [MessagePipe.write, hh, hk] using hw

theorem Inv.writeReply (hP : PipePair.Kept P) (hw : Inv P total w) (ep : MessagePipe)
    (flags : Nat) (bytes : List UInt8) :
    ∃ w', w.step g (.writeReply ep flags bytes) = some w' ∧ Inv P total w' :=
  hw.guard fun hep => by
    obtain ⟨r, hr, ⟨h1, hh, hk, hq⟩ | ⟨⟨s, h1⟩, hh, hk⟩⟩ :=
      MessagePipe.writeReply_pipe ep flags bytes w.held w.recv.kernel
    · refine ⟨_, by simp only [hr, Option.map_some']; rfl, ?_⟩
      refine ⟨?_, hw.valid, ?_⟩
      · rw [← hw.conserved]
        simp only [owned, hh, hq, h1, returned, List.append_nil, map_erase_coe _ hep,
          List.map_append, List.map_cons, List.map_nil, MessagePipe.raw_intoHandle,
          Multiset.coe_nil, zero_add, ← Multiset.coe_add, Multiset.coe_singleton,
          ← Multiset.singleton_add]
        ac_rfl
      · rw [hk]
        exact hP.write _ _ hw.kernel
    · refine ⟨_, by simp only [hr, Option.map_some']; rfl, ?_⟩
      refine ⟨?_, hw.valid, ?_⟩
      · rw [← hw.conserved]
        simp only [owned, hh, hk, h1, returned, List.map_append, List.map_cons, List.map_nil,
          map_erase_coe MessagePipe.rawHandle hep, ← Multiset.coe_add, Multiset.coe_singleton,
          ← Multiset.singleton_add]
        ac_rfl
      · rw [hk]
        exact hw.kernel

theorem Inv.read (hP : PipePair.Kept P) (hw : Inv P total w) (ep : MessagePipe) (flags : Nat) :
    ∃ w', w.step g (.read ep flags) = some w' ∧ Inv P total w' :=
  hw.guard fun _ => by
    have hu := (MessagePipe.receive_spec PipePair.kernel g ep flags w.recv.buf.resetHandles
      w.recv.kernel (w.recv.trace ++ (w.recv.buf.handles.elems.drop w.recv.buf.unusedIx).map
        .closed)).1
    obtain ⟨hq, hc⟩ := MessagePipe.receive_pipe g ep flags w.recv.buf.resetHandles
      (MessageBuf.resetHandles_handles _) w.recv.kernel (w.recv.trace ++
        (w.recv.buf.handles.elems.drop w.recv.buf.unusedIx).map .closed)
    refine ⟨_, by simp only [MessagePipe.read, MessageBuf.dropHandles_of_le _ hw.valid,
      Option.map_some']; rfl, ?_⟩
    refine ⟨?_, by rw [hu]; exact Nat.zero_le _,
      MessagePipe.receive_kernel _ g ep flags P hP.read hw.kernel _ _⟩
    rw [← hw.conserved]
    simp only [owned, hu, MessageBuf.resetHandles_unusedIx, List.drop_zero, hc, closes_append,
      closes_map_closed, hq, ← Multiset.coe_add]
    ac_rfl

theorem Inv.next (hw : Inv P total w) : ∃ w', w.step g .next = some w' ∧ Inv P total w' := by
  by_cases he : w.recv.buf.unusedIx = w.recv.buf.handles.len
  · exact ⟨w, by simp [step, @HandleIter.next_of_eq ⟨w.recv.buf⟩ he], hw⟩
  · have hlt : w.recv.buf.unusedIx < w.recv.buf.handles.elems.length :=
      Nat.lt_of_le_of_ne hw.valid he
    have hh := List.getElem?_eq_getElem hlt
    refine ⟨_, by simp only [step, @HandleIter.next_of_getElem? ⟨w.recv.buf⟩ _ hh,
      Option.map_some']; rfl, ?_⟩
    refine ⟨?_, hlt, hw.kernel⟩
    rw [← hw.conserved]
    simp only [owned, Option.toList_some, Option.map_some', List.map_append, List.map_cons,
      List.map_nil, closes_append, closes_taken, List.append_nil, List.drop_eq_getElem_cons hlt,
      ← Multiset.coe_add, Multiset.coe_singleton, ← Multiset.cons_coe, ← Multiset.singleton_add]
    ac_rfl

theorem Inv.adopt (hw : Inv P total w) (h : Handle) :
    ∃ w', w.step g (.adopt h) = some w' ∧ Inv P total w' :=
  hw.guard fun hh => by
    refine ⟨_, rfl, ?_, hw.valid, hw.kernel⟩
    rw [← hw.conserved]
    simp only [owned, map_erase_coe Handle.raw hh, List.map_append, List.map_cons, List.map_nil,
      MessagePipe.rawHandle_fromHandle, ← Multiset.coe_add, Multiset.coe_singleton,
      ← Multiset.singleton_add]
    ac_rfl

theorem Inv.release (hw : Inv P total w) (ep : MessagePipe) :
    ∃ w', w.step g (.release ep) = some w' ∧ Inv P total w' :=
  hw.guard fun hep => by
    refine ⟨_, rfl, ?_, hw.valid, hw.kernel⟩
    rw [← hw.conserved]
    simp only [owned, map_erase_coe MessagePipe.rawHandle hep, List.map_append, List.map_cons,
      List.map_nil, MessagePipe.raw_intoHandle, ← Multiset.coe_add, Multiset.coe_singleton,
      ← Multiset.singleton_add]
    ac_rfl

theorem Inv.dropEndpoint (hw : Inv P total w) (ep : MessagePipe) :
    ∃ w', w.step g (.dropEndpoint ep) = some w' ∧ Inv P total w' :=
  hw.guard fun hep => by
    refine ⟨_, rfl, ?_, hw.valid, hw.kernel⟩
    rw [← hw.conserved]
    simp only [owned, map_erase_coe MessagePipe.rawHandle hep, closes_append, closes_closed,
      ← Multiset.coe_add, List.map_cons, List.map_nil, Multiset.coe_singleton,
      ← Multiset.singleton_add]
    ac_rfl

theorem Inv.dropHeld (hw : Inv P total w) :
    ∃ w', w.step g .dropHeld = some w' ∧ Inv P total w' := by
  refine ⟨_, rfl, ?_, hw.valid, hw.kernel⟩
  rw [← hw.conserved]
  simp only [owned, closes_append, closes_map_closed_fun, List.map_nil, Multiset.coe_nil,
    zero_add, ← Multiset.coe_add]
  ac_rfl

theorem Inv.step (hP : PipePair.Kept P) (hw : Inv P total w) :
    ∀ a, ∃ w', w.step g a = some w' ∧ Inv P total w'
  | .write ep flags bytes => hw.write hP ep flags bytes
  | .writeReply ep flags bytes => hw.writeReply hP ep flags bytes
  | .read ep flags => hw.read hP ep flags
  | .next => hw.next
  | .adopt h => hw.adopt h
  | .release ep => hw.release ep
  | .dropEndpoint ep => hw.dropEndpoint ep
  | .dropHeld => hw.dropHeld

theorem Inv.foldlM (hP : PipePair.Kept P) :
    ∀ (acts : List PipeAction) {w : PipeWorld}, Inv P total w →
      ∃ w', acts.foldlM (PipeWorld.step g) w = some w' ∧ Inv P total w'
  | [], w, hw => ⟨w, rfl, hw⟩
  | a :: acts, _, hw => by
      obtain ⟨w', h1, hw'⟩ := @Inv.step g P total _ hP hw a
      simpa [h1] using Inv.foldlM hP acts hw'

theorem inv_start (held : List Handle) (eps : List MessagePipe) {p : PipePair} (hp : P p) :
    Inv P ((held.map Handle.raw : List Int) + (eps.map MessagePipe.rawHandle : List Int) +
      p.queued) (start held eps p) :=
  ⟨by simp [owned, start, MessageBuf.new], Nat.zero_le _, hp⟩

/-- Once the vector, the endpoints and the buffer are dropped, the handles are still
queued or closed. -/
theorem Inv.finish (hw : Inv P total w) :
    ∃ m, w.finish = some m ∧ (m.kernel.queued : Multiset Int) + closes m.trace = total := by
  refine ⟨_, by simp only [PipeWorld.finish, MessagePipe.drop,
    MessageBuf.dropHandles_of_le _ hw.valid, Option.map_some']; rfl, ?_⟩
  rw [← hw.conserved]
  simp only [owned, closes_append, closes_map_closed_fun, closes_map_closed, ← Multiset.coe_add]
  ac_rfl

end PipeWorld

/-- Handle conservation for a program on a message-pipe pair. From a vector of handles,
a list of endpoints, a fresh receive buffer and any pair, no run of writes,
`write_reply`s, reads, `next` calls, `from_handle`, `into_handle` and drops panics, and
every state of it has each handle of the start in exactly one place: the vector, an
endpoint, a queued message, a slot the iterator has not reached, or the closes. Once
the vector, the endpoints and the buffer are dropped, every handle has been closed or
is still queued. -/
theorem pipe_handles_conserved (g : Growth) (held : List Handle) (eps : List MessagePipe)
    (p : PipePair) (acts : List PipeAction) :
    ∃ w, acts.foldlM (PipeWorld.step g) (PipeWorld.start held eps p) = some w ∧
      w.owned = (held.map Handle.raw : List Int) + (eps.map MessagePipe.rawHandle : List Int) +
        p.queued ∧
      ∃ m, w.finish = some m ∧ (m.kernel.queued : Multiset Int) + closes m.trace =
        (held.map Handle.raw : List Int) + (eps.map MessagePipe.rawHandle : List Int) +
          p.queued := by
  obtain ⟨w, hrun, hw⟩ := @PipeWorld.Inv.foldlM g (fun _ => True) _
    ⟨fun _ _ _ => trivial, fun _ _ _ => trivial⟩ acts _ (PipeWorld.inv_start held eps trivial)
  exact ⟨w, hrun, hw.conserved, hw.finish⟩

/-- Messages that all carry `r` carry it at least once each. -/
theorem length_le_count_handles {r : Int} :
    ∀ {msgs : List Message}, (∀ msg ∈ msgs, r ∈ msg.handles) →
      msgs.length ≤ (msgs.flatMap Message.handles).count r
  | [], _ => Nat.zero_le _
  | msg :: msgs, h => by
      have h1 := List.count_pos_iff.mpr (h msg (List.mem_cons_self _ _))
      have h2 := length_le_count_handles fun m hm => h m (List.mem_cons_of_mem _ hm)
      rw [List.flatMap_cons, List.count_append, List.length_cons]
      omega

/-- Reads and writes keep a pair's ends and that its pending messages carry the reply
end. -/
theorem PipePair.kept_ends_carried (e : Int × Int × Bool) :
    PipePair.Kept fun q => q.ends = e ∧ q.Carried :=
  ⟨fun q call h => ⟨(q.ends_read call).trans h.1, h.2.read call⟩,
    fun q call h => ⟨(q.ends_write call).trans h.1, h.2.write call⟩⟩

/-- The reply end of a reply pipe is a token. From distinct handles on a reply pipe
whose pending messages at the first end carry the reply end, every run keeps at most
one message pending at the first end. While one is pending, the reply end is neither
in the vector, nor an endpoint, nor in an untaken slot of the buffer, nor closed: it
is in that message. -/
theorem reply_pipe_one_pending (g : Growth) (held : List Handle) (eps : List MessagePipe)
    (p : PipePair) (hr : p.reply = true) (hc : p.Carried)
    (hnd : (held.map Handle.raw ++ eps.map MessagePipe.rawHandle ++ p.queued).Nodup)
    (acts : List PipeAction) :
    ∃ w, acts.foldlM (PipeWorld.step g) (PipeWorld.start held eps p) = some w ∧
      w.recv.kernel.pair.atLeft.length ≤ 1 ∧
      (w.recv.kernel.pair.atLeft ≠ [] →
        p.pair.right ∉ w.held.map Handle.raw ∧ p.pair.right ∉ w.eps.map MessagePipe.rawHandle ∧
        p.pair.right ∉ w.recv.buf.handles.elems.drop w.recv.buf.unusedIx ∧
        p.pair.right ∉ closes w.recv.trace) := by
  obtain ⟨w, hrun, hw⟩ := @PipeWorld.Inv.foldlM g _ _ (PipePair.kept_ends_carried p.ends) acts _
    (PipeWorld.inv_start held eps ⟨rfl, hc⟩)
  obtain ⟨hends, hcar⟩ := hw.kernel
  have hright : w.recv.kernel.pair.right = p.pair.right :=
    congrArg (fun e : Int × Int × Bool => e.2.1) hends
  have hlen := length_le_count_handles fun msg hm =>
    hright ▸ hcar ((congrArg (fun e : Int × Int × Bool => e.2.2) hends).trans hr) msg hm
  have hone : w.owned.count p.pair.right ≤ 1 := by
    rw [hw.conserved, Multiset.coe_add, Multiset.coe_add]
    exact Multiset.nodup_iff_count_le_one.mp (Multiset.coe_nodup.mpr hnd) _
  simp only [PipeWorld.owned, PipePair.queued, ChannelPair.queued, List.flatMap_append,
    Multiset.count_add, Multiset.coe_count, List.count_append] at hone
  refine ⟨w, hrun, by omega, fun hne => ?_⟩
  have hpos := List.length_pos.mpr hne
  refine ⟨fun h => ?_, fun h => ?_, fun h => ?_, fun h => ?_⟩ <;>
    have := List.count_pos_iff.mpr h <;> omega

/-- The reply pipe of `message_pipe_reply_basic`, ends `1` and `2`, nothing pending. -/
def replyPair : PipePair := ⟨⟨1, 2, [], []⟩, true⟩

/-- A program holding handle `3` and both ends, whose reply end sends `3` and itself:
the run ends with that message pending, where the reply end is. -/
theorem reply_pipe_one_pending_replyPair :
    replyPair.reply = true ∧ replyPair.Carried ∧
    ([(⟨3⟩ : Handle)].map Handle.raw ++
      [(⟨⟨1⟩⟩ : MessagePipe), ⟨⟨2⟩⟩].map MessagePipe.rawHandle ++
        replyPair.queued).Nodup ∧
    Option.map (fun w => w.recv.kernel.pair.atLeft.length)
      (([.writeReply ⟨⟨2⟩⟩ 0 [104, 105]] : List PipeAction).foldlM
        (PipeWorld.step .amortized) (PipeWorld.start [⟨3⟩] [⟨⟨1⟩⟩, ⟨⟨2⟩⟩] replyPair)) = some 1 ∧
    ∃ w, ([.writeReply ⟨⟨2⟩⟩ 0 [104, 105]] : List PipeAction).foldlM
        (PipeWorld.step .amortized) (PipeWorld.start [⟨3⟩] [⟨⟨1⟩⟩, ⟨⟨2⟩⟩] replyPair) =
          some w ∧
      w.recv.kernel.pair.atLeft.length ≤ 1 ∧
      (w.recv.kernel.pair.atLeft ≠ [] →
        replyPair.pair.right ∉ w.held.map Handle.raw ∧
        replyPair.pair.right ∉ w.eps.map MessagePipe.rawHandle ∧
        replyPair.pair.right ∉ w.recv.buf.handles.elems.drop w.recv.buf.unusedIx ∧
        replyPair.pair.right ∉ closes w.recv.trace) :=
  ⟨rfl, fun _ _ h => absurd h (List.not_mem_nil _), by decide, by decide,
    reply_pipe_one_pending .amortized [⟨3⟩] [⟨⟨1⟩⟩, ⟨⟨2⟩⟩] replyPair rfl
      (fun _ _ h => absurd h (List.not_mem_nil _)) (by decide) _⟩

end Magenta
