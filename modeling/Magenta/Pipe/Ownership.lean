import Magenta.Pipe.Basic

/-!
# Where the handles of a message-pipe buffer go

A run applies reads and calls of `next` on iterators over one buffer, then drops
it. No state of such a run has `unused_ix` past the end, so nothing in it panics,
and `size_hint` is exactly the number of handles the iterator has left. Its trace
splits into delivered messages: each message's first handles are handed out in
slot order, and the rest are closed at the next read or at the drop. A delivery in
the trace is a reply of the kernel: against the kernel with a ghost log of its
successful replies (`Kernel.logged`), the run is the same and the log is the trace's
deliveries, in order.
-/

namespace Magenta.MessagePipe

/-- The operations a program applies to a receive buffer before dropping it. Making an
iterator changes nothing; only its `next` does. -/
inductive Op
  | read (flags : Nat)
  | next

/-- The first `u` handles of `H` as the iterator hands them out, with their slots. -/
def yielded (H : List Int) (u : Nat) : List Event :=
  (H.take u).enum.map fun t => .taken t.1 t.2

/-- A delivered message `H` as the iterator leaves it: its first `u` handles handed
out in slot order, then the others closed in slot order. -/
def Drained (H : List Int) (evs : List Event) : Prop :=
  ∃ u ≤ H.length, evs = yielded H u ++ (H.drop u).map .closed

theorem yielded_succ {H : List Int} {u : Nat} {h : Int} (hh : H[u]? = some h) :
    yielded H (u + 1) = yielded H u ++ [.taken u h] := by
  have hlt := (List.getElem?_eq_some_iff.mp hh).1
  simp [yielded, List.take_succ, hh, List.enum_append, Nat.min_eq_left hlt.le]

variable {σ : Type}

/-- The run invariant: the index is within the handles, and the trace is drained
messages followed by the message in the buffer, if any, with what the iterator has
handed out of it. -/
structure Inv (m : Machine MessageBuf σ) : Prop where
  valid : m.buf.unusedIx ≤ m.buf.handles.len
  split : ∃ msgs : List (List Int × List Event), (∀ p ∈ msgs, Drained p.1 p.2) ∧
    (m.trace = msgs.flatMap (fun p => .received p.1 :: p.2) ∧ m.buf.handles.elems = [] ∨
      m.trace = msgs.flatMap (fun p => .received p.1 :: p.2) ++
        .received m.buf.handles.elems :: yielded m.buf.handles.elems m.buf.unusedIx)

theorem inv_init (k : σ) : Inv ⟨MessageBuf.new, k, []⟩ := ⟨le_rfl, [], by simp, .inl ⟨rfl, rfl⟩⟩

/-- Closing the slots from `unused_ix` on drains the message in the buffer. -/
theorem Inv.close {m : Machine MessageBuf σ} (hm : Inv m) :
    ∃ msgs : List (List Int × List Event), (∀ p ∈ msgs, Drained p.1 p.2) ∧
      m.trace ++ (m.buf.handles.elems.drop m.buf.unusedIx).map .closed =
        msgs.flatMap (fun p => .received p.1 :: p.2) := by
  obtain ⟨msgs, hd, ⟨htr, hb⟩ | htr⟩ := hm.split
  · exact ⟨msgs, hd, by simp [htr, hb]⟩
  · refine ⟨msgs ++ [(m.buf.handles.elems, yielded m.buf.handles.elems m.buf.unusedIx ++
      (m.buf.handles.elems.drop m.buf.unusedIx).map .closed)], ?_, by simp [htr]⟩
    intro p hp
    rcases List.mem_append.mp hp with hp | hp
    · exact hd p hp
    · simp only [List.mem_singleton] at hp; subst hp; exact ⟨_, hm.valid, rfl⟩

section Run

variable (K : Kernel σ) (g : Growth) (self : MessagePipe)

/-- One operation; `none` when it panics. `next` records the slot it hands out. -/
def step (m : Machine MessageBuf σ) : Op → Option (Machine MessageBuf σ)
  | .read flags => (read K g self flags m).map Prod.snd
  | .next => (HandleIter.next ⟨m.buf⟩).map fun r =>
      { m with buf := r.2.buf,
               trace := m.trace ++ (r.1.map fun h => .taken m.buf.unusedIx h.raw).toList }

/-- `Drop for MessageBuf`; `none` when `drop_handles` panics. -/
def drop (m : Machine MessageBuf σ) : Option (Machine MessageBuf σ) :=
  m.buf.dropHandles.map fun dropped => { m with trace := m.trace ++ dropped.map .closed }

/-- Against `K.logged`, each operation does what it does against `K`, and the kernel
logs the deliveries the trace records. -/
theorem step_logged (m : Machine MessageBuf σ) :
    ∀ op, step K.logged g self m.logged op = (step K g self m op).map Machine.logged
  | .read flags => by simp only [step, read_logged, Option.map_map]; rfl
  | .next => by
      rcases hn : HandleIter.next ⟨m.buf⟩ with _ | ⟨_ | h, it⟩ <;>
        simp [step, Machine.logged, hn]

theorem foldlM_logged :
    ∀ (ops : List Op) (m : Machine MessageBuf σ),
      ops.foldlM (step K.logged g self) m.logged = (ops.foldlM (step K g self) m).map Machine.logged
  | [], _ => rfl
  | op :: ops, m => by
      simp only [List.foldlM_cons, step_logged]
      cases step K g self m op with
      | none => rfl
      | some m' => exact foldlM_logged ops m'

theorem Inv.read (flags : Nat) {m : Machine MessageBuf σ} (hm : Inv m) :
    ∃ m', step K g self m (.read flags) = some m' ∧ Inv m' := by
  obtain ⟨msgs, hd, htr⟩ := hm.close
  have hstep : step K g self m (.read flags) = some (receive K g self flags m.buf.resetHandles
      m.kernel (m.trace ++ (m.buf.handles.elems.drop m.buf.unusedIx).map .closed)).2 := by
    simp only [step, MessagePipe.read, MessageBuf.dropHandles_of_le _ hm.valid, Option.map_some']
  rw [htr] at hstep
  refine ⟨_, hstep, ?_⟩
  obtain ⟨hu, ⟨-, hok⟩ | ⟨s, -, -, -, hh, htr'⟩⟩ := receive_spec K g self flags
    m.buf.resetHandles m.kernel (msgs.flatMap fun p => .received p.1 :: p.2)
  · exact ⟨by rw [hu]; exact Nat.zero_le _, msgs, hd, .inr (by rw [hok, hu]; simp [yielded])⟩
  · exact ⟨by rw [hu]; exact Nat.zero_le _, msgs, hd, .inl ⟨htr', by simpa using hh⟩⟩

theorem Inv.next {m : Machine MessageBuf σ} (hm : Inv m) :
    ∃ m', step K g self m .next = some m' ∧ Inv m' := by
  by_cases he : m.buf.unusedIx = m.buf.handles.len
  · exact ⟨m, by simp [step, @HandleIter.next_of_eq ⟨m.buf⟩ he], hm⟩
  · have hlt : m.buf.unusedIx < m.buf.handles.elems.length := Nat.lt_of_le_of_ne hm.valid he
    have hh := List.getElem?_eq_getElem hlt
    refine ⟨⟨{ m.buf with unusedIx := m.buf.unusedIx + 1 }, m.kernel,
      m.trace ++ [.taken m.buf.unusedIx m.buf.handles.elems[m.buf.unusedIx]]⟩,
      by simp [step, @HandleIter.next_of_getElem? ⟨m.buf⟩ _ hh], hlt, ?_⟩
    obtain ⟨msgs, hd, ⟨-, hb⟩ | htr⟩ := hm.split
    · simp [hb] at hlt
    · exact ⟨msgs, hd, .inr (by simp [htr, yielded_succ hh])⟩

theorem Inv.foldlM :
    ∀ (ops : List Op) {m : Machine MessageBuf σ}, Inv m →
      ∃ m', ops.foldlM (step K g self) m = some m' ∧ Inv m'
  | [], m, hm => ⟨m, rfl, hm⟩
  | .read flags :: ops, _, hm => by
      obtain ⟨m', h1, hm'⟩ := hm.read K g self flags
      simpa [h1] using Inv.foldlM ops hm'
  | .next :: ops, _, hm => by
      obtain ⟨m', h1, hm'⟩ := hm.next K g self
      simpa [h1] using Inv.foldlM ops hm'

end Run

/-- Handle conservation for a message-pipe buffer. Every state reachable from a fresh
buffer by reads and `next` calls keeps `unused_ix` within the handles, so neither
`n_handles` nor `drop_handles` panics; there `size_hint` is `(n, Some n)` for `n` the
number of further `next` calls that return `Some`, handing out the remaining slots
in order. The messages delivered are, in order, those the kernel answered with
success, as the same run against the kernel with a log of those answers shows.
Ended by the drop, the run's trace splits into delivered messages, each with its
first handles handed out in slot order and every other one closed, at the next read
or at the drop. -/
theorem pipe_handles_drained (K : Kernel σ) (g : Growth) (self : MessagePipe) (k : σ)
    (ops : List Op) :
    ∃ m, ops.foldlM (step K g self) ⟨MessageBuf.new, k, []⟩ = some m ∧
      ops.foldlM (step K.logged g self) ⟨MessageBuf.new, (k, []), []⟩ =
        some ⟨m.buf, (m.kernel, m.trace.filterMap Event.receivedHandles), m.trace⟩ ∧
      m.buf.unusedIx ≤ m.buf.handles.len ∧
      (∃ n, m.buf.nHandles = some n ∧ HandleIter.sizeHint ⟨m.buf⟩ = some (n, some n) ∧
        ∀ count, ∃ it, HandleIter.nextN count ⟨m.buf⟩ =
          some (((m.buf.handles.elems.drop m.buf.unusedIx).take count).map
            (fun h => some (Handle.mk h)) ++ List.replicate (count - n) none, it)) ∧
      ∃ m', drop m = some m' ∧ ∃ msgs : List (List Int × List Event),
        m'.trace = msgs.flatMap (fun p => .received p.1 :: p.2) ∧ ∀ p ∈ msgs, Drained p.1 p.2 := by
  obtain ⟨m, hrun, hm⟩ := Inv.foldlM K g self ops (inv_init k)
  obtain ⟨msgs, hd, htr⟩ := hm.close
  have hn := MessageBuf.nHandles_of_le _ hm.valid
  have hlog := foldlM_logged K g self ops ⟨MessageBuf.new, k, []⟩
  rw [hrun] at hlog
  exact ⟨m, hrun, hlog, hm.valid, ⟨_, hn, by simp [HandleIter.sizeHint, hn],
    fun count => HandleIter.nextN_of_le count _ hm.valid⟩,
    { m with trace := m.trace ++ (m.buf.handles.elems.drop m.buf.unusedIx).map .closed },
    by simp only [drop, MessageBuf.dropHandles_of_le _ hm.valid, Option.map_some'],
    msgs, htr, hd⟩

end Magenta.MessagePipe
