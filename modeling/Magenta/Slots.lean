import Magenta.Channel.Basic
import Magenta.Pipe.Basic
import Mathlib.Data.List.Perm.Basic

/-!
# The receive buffer, abstractly

What both `MessageBuf`s are for: the handle slots of the last message read, each
still owning its handle or emptied by handing it out. Loading a message fills the
slots, handing out empties one slot that owns a handle, and releasing the buffer
closes every slot that still owns one. Whatever is handed out, each loaded handle
leaves the buffer exactly once.

The two buffers of the sources mark an emptied slot in different ways. The channel
buffer writes `INVALID_HANDLE` into it, and `drop_handles` skips `0`; the
message-pipe buffer hands slots out in order and keeps the index of the first one
that still owns its handle. Each refines the abstract buffer: through its
abstraction function every operation of its own is the abstract one.
-/

namespace Magenta

/-- The slots of the last message read: `some h` owns `h`, `none` was handed out. -/
structure Slots where
  slots : List (Option Int)
  deriving DecidableEq

namespace Slots

/-- Reading a message: every slot owns the handle delivered in it. -/
def load (H : List Int) : Slots := ⟨H.map some⟩

/-- Handing out slot `i`: its handle if it still owns one, and the slot emptied. -/
def take (s : Slots) (i : Nat) : Option Int × Slots :=
  match s.slots[i]? with
  | some (some h) => (some h, ⟨s.slots.set i none⟩)
  | _ => (none, s)

/-- The handles still owned, in slot order: those that releasing the buffer closes. -/
def owned (s : Slots) : List Int := s.slots.filterMap id

/-- Handing out the slots `is` in turn: the handles handed out, and the slots left. -/
def takeAll (s : Slots) : List Nat → List Int × Slots
  | [] => ([], s)
  | i :: is =>
      let r := s.take i
      ((r.1.toList ++ (r.2.takeAll is).1), (r.2.takeAll is).2)

@[simp] theorem owned_load (H : List Int) : (load H).owned = H := by
  simp [load, owned, List.filterMap_map, Function.comp_def]

theorem filterMap_set_none : ∀ (l : List (Option Int)) (i : Nat) {h : Int},
    l[i]? = some (some h) → (l.filterMap id).Perm (h :: (l.set i none).filterMap id)
  | [], _, _, hi => by simp at hi
  | x :: l, 0, h, hi => by
      simp only [List.getElem?_cons_zero, Option.some.injEq] at hi
      subst hi
      simp
  | x :: l, i + 1, h, hi => by
      have ih := filterMap_set_none l i (by simpa using hi)
      cases x with
      | none => simpa using ih
      | some y => simpa using (ih.cons y).trans (List.Perm.swap _ _ _)

/-- Handing out a slot moves its handle out of those still owned, and nothing else. -/
theorem owned_take (s : Slots) (i : Nat) :
    s.owned.Perm ((s.take i).1.toList ++ (s.take i).2.owned) := by
  unfold take
  split
  · next h hi => exact filterMap_set_none _ i hi
  · rfl

/-- However slots are handed out, each handle the buffer owned is handed out once or
still owned, never both and never neither. -/
theorem takeAll_perm (s : Slots) :
    ∀ is, s.owned.Perm ((s.takeAll is).1 ++ (s.takeAll is).2.owned)
  | [] => .refl _
  | i :: is => by
      simp only [takeAll, List.append_assoc]
      exact (owned_take s i).trans ((takeAll_perm (s.take i).2 is).append_left _)

end Slots

namespace Channel.MessageBuf

/-- The channel buffer's slots: a slot holding `0` was emptied by `take_handle`. -/
def toSlots (b : MessageBuf) : Slots := ⟨b.handles.elems.map fun h => if h = 0 then none else some h⟩

/-- With `INVALID_HANDLE` the `0` that `drop_handles` skips, the channel buffer refines
the abstract one: a take is the abstract take, the drop closes exactly the handles
still owned, and a read that delivers no `0` loads its handles. `n_handles` counts
every slot, taken or not. -/
theorem channel_buffer_refines_slots (b : MessageBuf) (i : Nat) :
    ((b.takeHandle 0 i).1.map Handle.raw, (b.takeHandle 0 i).2.toSlots) = b.toSlots.take i ∧
      b.dropHandles = b.toSlots.owned ∧ b.nHandles = b.toSlots.slots.length ∧
      (0 ∉ b.handles.elems → b.toSlots = Slots.load b.handles.elems) := by
  refine ⟨?_, ?_, by simp [nHandles, RVec.len, toSlots], fun h0 => ?_⟩
  · cases hx : b.handles.elems[i]? with
    | none => simp [takeHandle, Slots.take, toSlots, hx]
    | some x =>
        by_cases h : x = 0
        · simp [takeHandle, Slots.take, toSlots, hx, h]
        · simp [takeHandle, Slots.take, toSlots, hx, h, List.map_set]
  · simp only [dropHandles, Slots.owned, toSlots, List.filterMap_map]
    rw [← List.filterMap_eq_filter]
    congr 1; funext h
    by_cases h' : h = 0 <;> simp [h', Option.guard]
  · simp only [toSlots, Slots.load]
    congr 1
    exact List.map_congr_left fun h hm => if_neg fun (he : h = 0) => h0 (he ▸ hm)

end Channel.MessageBuf

namespace MessageBuf

/-- The message-pipe buffer's slots: those before `unused_ix` were handed out. -/
def toSlots (b : MessageBuf) : Slots :=
  ⟨(b.handles.elems.take b.unusedIx).map (fun _ => none) ++
    (b.handles.elems.drop b.unusedIx).map some⟩

/-- Handing out the first slot that owns a handle moves the index past it. -/
theorem toSlots_succ (b : MessageBuf) (hlt : b.unusedIx < b.handles.elems.length) :
    (b.toSlots.take b.unusedIx) = (some b.handles.elems[b.unusedIx],
      { b with unusedIx := b.unusedIx + 1 }.toSlots) := by
  have hlen : ((b.handles.elems.take b.unusedIx).map fun _ => (none : Option Int)).length =
      b.unusedIx := by simp [Nat.le_of_lt hlt]
  have hget : b.toSlots.slots[b.unusedIx]? = some (some b.handles.elems[b.unusedIx]) := by
    rw [toSlots, List.getElem?_append_right (by omega), hlen, Nat.sub_self,
      List.drop_eq_getElem_cons hlt]
    simp
  simp only [Slots.take, hget]
  refine Prod.ext rfl (congrArg Slots.mk ?_)
  show (((b.handles.elems.take b.unusedIx).map fun _ => none) ++
      (b.handles.elems.drop b.unusedIx).map some).set b.unusedIx none =
    ((b.handles.elems.take (b.unusedIx + 1)).map fun _ => none) ++
      (b.handles.elems.drop (b.unusedIx + 1)).map some
  rw [List.set_append_right _ _ (by omega), hlen, Nat.sub_self, List.drop_eq_getElem_cons hlt,
    ← List.take_concat_get' _ _ hlt]
  simp only [List.map_cons, List.set_cons_zero, List.map_append, List.map_nil,
    List.append_assoc, List.singleton_append]

/-- Within its invariant the message-pipe buffer refines the abstract one: `next` is the
abstract take of the first slot that owns a handle, the drop closes exactly the
handles still owned, and a read loads its handles. `n_handles` counts only the
handles still owned. -/
theorem pipe_buffer_refines_slots (b : MessageBuf) (hv : b.unusedIx ≤ b.handles.len) :
    (∃ it, HandleIter.next ⟨b⟩ = some ((b.toSlots.take b.unusedIx).1.map Handle.mk, it) ∧
        it.buf.toSlots = (b.toSlots.take b.unusedIx).2 ∧ it.buf.unusedIx ≤ it.buf.handles.len) ∧
      b.dropHandles = some b.toSlots.owned ∧ b.nHandles = some b.toSlots.owned.length ∧
      (b.unusedIx = 0 → b.toSlots = Slots.load b.handles.elems) := by
  have howned : b.toSlots.owned = b.handles.elems.drop b.unusedIx := by
    simp only [toSlots, Slots.owned, List.filterMap_append, List.filterMap_map]
    simp [Function.comp_def]
  refine ⟨?_, by rw [dropHandles_of_le b hv, howned], by
    rw [nHandles_of_le b hv, howned, List.length_drop]; rfl, fun h0 => by simp [toSlots, h0, Slots.load]⟩
  by_cases he : b.unusedIx = b.handles.len
  · have hn : b.toSlots.slots[b.unusedIx]? = none := by
      simp [toSlots, he, RVec.len]
    refine ⟨⟨b⟩, ?_, ?_, hv⟩ <;> simp [@HandleIter.next_of_eq ⟨b⟩ he, Slots.take, hn]
  · have hlt : b.unusedIx < b.handles.elems.length := Nat.lt_of_le_of_ne hv he
    rw [toSlots_succ b hlt]
    exact ⟨_, HandleIter.next_of_getElem? (List.getElem?_eq_getElem hlt), rfl, hlt⟩

/-- A buffer holding handles `7` and `9`, the first already handed out. -/
def sevenNine : MessageBuf := ⟨RVec.new, ⟨[7, 9], 2, le_rfl⟩, 1⟩

theorem pipe_buffer_refines_slots_sevenNine :
    sevenNine.unusedIx ≤ sevenNine.handles.len ∧
    (∃ it, HandleIter.next ⟨sevenNine⟩ =
          some ((sevenNine.toSlots.take sevenNine.unusedIx).1.map Handle.mk, it) ∧
        it.buf.toSlots = (sevenNine.toSlots.take sevenNine.unusedIx).2 ∧
        it.buf.unusedIx ≤ it.buf.handles.len) ∧
      sevenNine.dropHandles = some sevenNine.toSlots.owned ∧
      sevenNine.nHandles = some sevenNine.toSlots.owned.length ∧
      (sevenNine.unusedIx = 0 → sevenNine.toSlots = Slots.load sevenNine.handles.elems) :=
  ⟨by decide, pipe_buffer_refines_slots sevenNine (by decide)⟩

end MessageBuf

end Magenta
