import Magenta.Channel.Basic
import Mathlib.Data.List.Perm.Basic
import Mathlib.Data.List.Nodup

/-!
# Where the handles of a channel buffer go

A run applies reads, retrying reads and takes to one buffer, then drops it. Its
trace splits into the messages successful reads delivered: after each, some of
its slots are taken, each once, and at the next read or the drop every other slot
is closed, in slot order. The taken slots are the ones not closed because
`take_handle` leaves `INVALID_HANDLE` behind and `drop_handles` skips `0`; the
results below take `INVALID_HANDLE` to be `0`.

A delivery in the trace is a reply of the kernel: run against the kernel with a
ghost log of the handles of its successful replies (`Kernel.logged`), the run is the
same and the log is the trace's deliveries, in order.
-/

namespace Magenta.Channel

/-- The operations a program applies to a receive buffer before dropping it. -/
inductive Op
  | readRaw (opts : Nat)
  | read (opts fuel : Nat)
  | takeHandle (index : Nat)

/-- The handles of `H` whose slots are not in `slots`, in slot order. -/
def untaken (H : List Int) (slots : List Nat) : List Int :=
  H.enum.filterMap fun p => if p.1 ∈ slots then none else some p.2

/-- A delivered message `H` and what became of its handles: some taken, each from
its own slot and no slot twice, then every other slot closed in slot order. -/
def Settled (H : List Int) (evs : List Event) : Prop :=
  ∃ takes : List (Nat × Int),
    evs = takes.map (fun t => .taken t.1 t.2) ++ (untaken H (takes.map Prod.fst)).map .closed ∧
      (takes.map Prod.fst).Nodup ∧ ∀ t ∈ takes, H[t.1]? = some t.2

/-- A trace made of delivered messages, each followed by what became of its handles. -/
def Accounted (trace : List Event) : Prop :=
  ∃ msgs : List (List Int × List Event),
    trace = msgs.flatMap (fun p => .received p.1 :: p.2) ∧ ∀ p ∈ msgs, Settled p.1 p.2

theorem accounted_nil : Accounted [] := ⟨[], rfl, by simp⟩

theorem Accounted.append {trace evs : List Event} {H : List Int} (ha : Accounted trace)
    (hs : Settled H evs) : Accounted (trace ++ .received H :: evs) := by
  obtain ⟨msgs, rfl, hm⟩ := ha
  refine ⟨msgs ++ [(H, evs)], by simp, fun p hp => ?_⟩
  rcases List.mem_append.mp hp with hp | hp
  · exact hm p hp
  · simp only [List.mem_singleton] at hp; subst hp; exact hs

theorem filterMap_untaken (slots : List Nat) : ∀ l : List (Nat × Int),
    l.filterMap (fun p => if p.1 ∈ slots then none else some p.2) =
      (l.filter fun p => !decide (p.1 ∈ slots)).map Prod.snd
  | [] => rfl
  | p :: l => by
      by_cases hp : p.1 ∈ slots <;> simp [hp, List.filter_cons, filterMap_untaken slots l]

/-- The takes of a settled message are its slots' own handles, each slot once. -/
theorem perm_enum_filter {H : List Int} {takes : List (Nat × Int)}
    (hnd : (takes.map Prod.fst).Nodup) (hin : ∀ t ∈ takes, H[t.1]? = some t.2) :
    takes.Perm (H.enum.filter fun p => p.1 ∈ takes.map Prod.fst) := by
  have henum : H.enum.Nodup := .of_map Prod.fst (by simpa using List.nodup_range H.length)
  rw [List.perm_ext_iff_of_nodup (hnd.of_map _) (henum.filter _)]
  rintro ⟨i, h⟩
  simp only [List.mem_filter, List.mem_enum_iff_getElem?, decide_eq_true_eq]
  constructor
  · exact fun ht => ⟨hin _ ht, List.mem_map_of_mem _ ht⟩
  · rintro ⟨hh, hs⟩
    obtain ⟨t, ht, rfl⟩ := List.mem_map.mp hs
    have := (hin t ht).symm.trans hh
    cases t; cases this; exact ht

/-- Each handle of a settled message is released exactly once, taken or closed. -/
theorem Settled.perm {H : List Int} {evs : List Event} (hs : Settled H evs) :
    (evs.filterMap Event.released).Perm H := by
  obtain ⟨takes, rfl, hnd, hin⟩ := hs
  have hrel : (takes.map (fun t => Event.taken t.1 t.2) ++
      (untaken H (takes.map Prod.fst)).map Event.closed).filterMap Event.released =
        takes.map Prod.snd ++ untaken H (takes.map Prod.fst) := by
    simp only [List.filterMap_append, List.filterMap_map, Function.comp_def, Event.released]
    exact congrArg₂ _ (congrFun (List.filterMap_eq_map Prod.snd) takes) (List.filterMap_some _)
  have hsplit := List.filter_append_perm
    (fun p : Nat × Int => decide (p.1 ∈ takes.map Prod.fst)) H.enum
  rw [hrel, untaken, filterMap_untaken]
  calc List.Perm (takes.map Prod.snd ++ _)
        ((H.enum.filter fun p => p.1 ∈ takes.map Prod.fst).map Prod.snd ++
          (H.enum.filter fun p => !decide (p.1 ∈ takes.map Prod.fst)).map Prod.snd) :=
        ((perm_enum_filter hnd hin).map _).append_right _
    _ = (H.enum.filter (fun p => p.1 ∈ takes.map Prod.fst) ++
          H.enum.filter fun p => !decide (p.1 ∈ takes.map Prod.fst)).map Prod.snd :=
        (List.map_append _ _ _).symm
    List.Perm _ (H.enum.map Prod.snd) := hsplit.map _
    _ = H := List.enum_map_snd H

/-- The slots of `H` once the handles in `slots` were taken: those hold `0`. -/
def emptied (H : List Int) (slots : List Nat) : List Int :=
  H.enum.map fun p => if p.1 ∈ slots then 0 else p.2

theorem emptied_nil (H : List Int) : emptied H [] = H := by
  simp [emptied, List.enum_map_snd]

@[simp] theorem length_emptied (H : List Int) (slots : List Nat) :
    (emptied H slots).length = H.length := by
  simp [emptied]

theorem getElem?_emptied (H : List Int) (slots : List Nat) (n : Nat) :
    (emptied H slots)[n]? = H[n]?.map fun h => if n ∈ slots then 0 else h := by
  simp [emptied, List.getElem?_enum, Option.map_map, Function.comp_def]

/-- Dropping the nonzero slots of a list of slot-value pairs with no zero value
keeps exactly the pairs whose slot was not emptied. -/
theorem filter_map_emptied (slots : List Nat) :
    ∀ l : List (Nat × Int), (∀ p ∈ l, p.2 ≠ 0) →
      (l.map fun p => if p.1 ∈ slots then 0 else p.2).filter (· != 0) =
        l.filterMap fun p => if p.1 ∈ slots then none else some p.2
  | [], _ => rfl
  | p :: l, h => by
      have ih := filter_map_emptied slots l fun q hq => h q (List.mem_cons_of_mem _ hq)
      have hp := h p (List.mem_cons_self _ _)
      by_cases hs : p.1 ∈ slots <;> simp [hs, hp, ih, List.filter_cons]

/-- Closing the nonzero slots of an emptied message closes its untaken handles. -/
theorem filter_emptied {H : List Int} (hH : 0 ∉ H) (slots : List Nat) :
    (emptied H slots).filter (· != 0) = untaken H slots :=
  filter_map_emptied slots H.enum fun p hp => by
    obtain ⟨hi, hv⟩ := List.mem_enum hp
    exact fun h0 => hH (h0 ▸ hv ▸ List.getElem_mem hi)

/-- Taking an untaken slot empties it. -/
theorem emptied_set {H : List Int} {slots : List Nat} {i : Nat} {h : Int}
    (hi : H[i]? = some h) :
    (emptied H slots).set i 0 = emptied H (slots ++ [i]) := by
  have hlt : i < H.length := (List.getElem?_eq_some_iff.mp hi).1
  apply List.ext_getElem?
  intro n
  rw [List.getElem?_set, getElem?_emptied, getElem?_emptied]
  by_cases hn : i = n
  · subst hn; simp [hlt, hi]
  · simp [hn, Ne.symm hn]

/-- Takes as the trace records them. -/
def takenEvents (takes : List (Nat × Int)) : List Event := takes.map fun t => .taken t.1 t.2

/-- The message `H` in the buffer `b` after the takes `takes`: no slot of `H` holds
`0`, the taken slots are emptied, none was taken twice, and each taken handle is the
one delivered in its slot. -/
structure Current (H : List Int) (takes : List (Nat × Int)) (b : MessageBuf) : Prop where
  valid : 0 ∉ H
  slots : b.handles.elems = emptied H (takes.map Prod.fst)
  nodup : (takes.map Prod.fst).Nodup
  taken : ∀ t ∈ takes, H[t.1]? = some t.2

theorem mem_dropHandles {b : MessageBuf} {h : Int} (hh : h ∈ b.dropHandles) : h ≠ 0 := by
  simpa [MessageBuf.dropHandles] using (List.mem_filter.mp hh).2

/-- Closing what is left of the current message settles it. -/
theorem Current.settled {H : List Int} {takes : List (Nat × Int)} {b : MessageBuf}
    (hc : Current H takes b) : Settled H (takenEvents takes ++ b.dropHandles.map .closed) :=
  ⟨takes, by rw [MessageBuf.dropHandles, hc.slots, filter_emptied hc.valid]; rfl,
    hc.nodup, hc.taken⟩

/-- A take from the current message either changes nothing or empties one more slot. -/
theorem Current.takeHandle {H : List Int} {takes : List (Nat × Int)} {b b' : MessageBuf}
    {i : Nat} {h : Handle} (hc : Current H takes b) (ht : b.takeHandle 0 i = (some h, b')) :
    Current H (takes ++ [(i, h.raw)]) b' := by
  obtain ⟨hi, h0, rfl⟩ := (MessageBuf.takeHandle_eq_some 0 b i).mp ht
  rw [hc.slots, getElem?_emptied] at hi
  obtain ⟨x, hx, hxe⟩ := Option.map_eq_some'.mp hi
  have hs : i ∉ takes.map Prod.fst := fun hs => h0 (by simpa [hs] using hxe.symm)
  have hxh : x = h.raw := by simpa [hs] using hxe
  subst hxh
  refine ⟨hc.valid, ?_, ?_, ?_⟩
  · simp only [RVec.set_elems, hc.slots, emptied_set hx, List.map_append, List.map_cons,
      List.map_nil]
  · simpa using hc.nodup.append (List.nodup_singleton i) (List.disjoint_singleton.mpr hs)
  · intro t ht
    rcases List.mem_append.mp ht with ht | ht
    · exact hc.taken t ht
    · simp only [List.mem_singleton] at ht; subst ht; exact hx

variable {σ : Type}

/-- The run invariant: every closed handle is nonzero, and the trace is accounted up to
the message in the buffer, if any, whose takes the trace records last. -/
structure Inv (m : Machine MessageBuf σ) : Prop where
  closed_ne : ∀ h, Event.closed h ∈ m.trace → h ≠ 0
  split : ∃ done, Accounted done ∧ (m.trace = done ∧ m.buf.handles.elems = [] ∨
    ∃ H takes, m.trace = done ++ .received H :: takenEvents takes ∧ Current H takes m.buf)

theorem inv_init (b : MessageBuf) (k : σ) (hb : b.handles.elems = []) : Inv ⟨b, k, []⟩ :=
  ⟨by simp, [], accounted_nil, .inl ⟨rfl, hb⟩⟩

/-- Closing the buffer's handles leaves an accounted trace of nonzero closes. -/
theorem Inv.close {m : Machine MessageBuf σ} (hm : Inv m) :
    Accounted (m.trace ++ m.buf.dropHandles.map .closed) ∧
      ∀ h, Event.closed h ∈ m.trace ++ m.buf.dropHandles.map .closed → h ≠ 0 := by
  refine ⟨?_, fun h hh => ?_⟩
  · obtain ⟨done, hd, ⟨htr, hb⟩ | ⟨H, takes, htr, hc⟩⟩ := hm.split
    · simpa [htr, MessageBuf.dropHandles, hb] using hd
    · simpa [htr] using hd.append hc.settled
  · rcases List.mem_append.mp hh with hh | hh
    · exact hm.closed_ne h hh
    · obtain ⟨x, hx, hxe⟩ := List.mem_map.mp hh
      cases hxe
      exact mem_dropHandles hx

section Run

variable (K : Kernel σ) (g : Growth) (self : Channel) (invalidHandle : Int)

/-- One operation on the buffer; a take records the handle it hands out. -/
def step (m : Machine MessageBuf σ) : Op → Machine MessageBuf σ
  | .readRaw opts => (readRaw K self opts m).2
  | .read opts fuel => (read K self opts g fuel m).2
  | .takeHandle i =>
      let res := m.buf.takeHandle invalidHandle i
      { m with buf := res.2, trace := m.trace ++ (res.1.map fun h => .taken i h.raw).toList }

/-- `Drop for MessageBuf`: `drop_handles` closes what is left. -/
def drop (m : Machine MessageBuf σ) : Machine MessageBuf σ :=
  { m with trace := m.trace ++ m.buf.dropHandles.map .closed }

/-- A run of a fresh buffer: the operations in order, then the drop. -/
def run (k : σ) (ops : List Op) : Machine MessageBuf σ :=
  drop (ops.foldl (step K g self invalidHandle) ⟨MessageBuf.new, k, []⟩)

/-- Against `K.logged`, each operation does what it does against `K`, and the kernel
logs the deliveries the trace records. -/
theorem step_logged (m : Machine MessageBuf σ) :
    ∀ op, step K.logged g self invalidHandle m.logged op =
      (step K g self invalidHandle m op).logged
  | .readRaw opts => congrArg Prod.snd (readRaw_logged K self opts m)
  | .read opts fuel => congrArg Prod.snd (read_logged K self opts g fuel m)
  | .takeHandle i => by
      cases (m.buf.takeHandle invalidHandle i).1 <;> simp [step, Machine.logged]

theorem drop_logged (m : Machine MessageBuf σ) : drop m.logged = (drop m).logged := by
  simp [drop, Machine.logged]

/-- A run against `K.logged` is the run against `K`, its log the handles the trace
says were delivered. -/
theorem run_logged (k : σ) (ops : List Op) :
    run K.logged g self invalidHandle (k, []) ops = (run K g self invalidHandle k ops).logged :=
  (congrArg drop (List.foldl_hom Machine.logged _ _ ops ⟨MessageBuf.new, k, []⟩
    (step_logged K g self invalidHandle))).trans (drop_logged _)

variable {K} (hvalid : ∀ k c, 0 ≤ (K.read k c).1.status → 0 ∉ (K.read k c).1.handles)
include hvalid

theorem Inv.readRaw (opts : Nat) {m : Machine MessageBuf σ} (hm : Inv m) :
    Inv (Channel.readRaw K self opts m).2 := by
  obtain ⟨hd, hne⟩ := hm.close
  rcases readRaw_cases K self opts m with ⟨-, he⟩ | ⟨hs, he⟩ | ⟨-, -, he⟩ <;> rw [he]
  · exact ⟨hne, _, hd, .inl ⟨rfl, rfl⟩⟩
  · refine ⟨fun h hh => hne h ?_, _, hd, .inr ⟨_, [], rfl, hvalid _ _ hs,
      by simp [MessageBuf.setLen, emptied_nil], List.nodup_nil, by simp⟩⟩
    simpa using hh
  · exact ⟨hne, _, hd, .inl ⟨rfl, rfl⟩⟩

omit hvalid in
theorem Inv.ensure {m : Machine MessageBuf σ} (hm : Inv m) (nb nh : Nat) :
    Inv { m with buf := (m.buf.ensureCapacityBytes g nb).ensureCapacityHandles g nh } := by
  obtain ⟨done, hd, h | ⟨H, takes, htr, hc⟩⟩ := hm.split
  · exact ⟨hm.closed_ne, done, hd, .inl (by simpa using h)⟩
  · exact ⟨hm.closed_ne, done, hd, .inr ⟨H, takes, htr,
      ⟨hc.valid, by simpa using hc.slots, hc.nodup, hc.taken⟩⟩⟩

theorem Inv.read (opts : Nat) :
    ∀ fuel {m : Machine MessageBuf σ}, Inv m → Inv (Channel.read K self opts g fuel m).2
  | 0, _, hm => hm
  | fuel + 1, m, hm => by
      have h1 := hm.readRaw self hvalid opts
      cases hr : (Channel.readRaw K self opts m).1 with
      | ok r => rw [read_succ_of_ok K self opts g hr]; exact h1
      | error counts =>
          rw [read_succ_of_error K self opts g hr]
          exact Inv.read opts fuel (h1.ensure g _ _)

omit hvalid in
theorem Inv.takeHandle (i : Nat) {m : Machine MessageBuf σ} (hm : Inv m) :
    Inv (step K g self 0 m (.takeHandle i)) := by
  rcases ht : m.buf.takeHandle 0 i with ⟨_ | h, b'⟩
  · obtain rfl := MessageBuf.takeHandle_of_none 0 m.buf i ht
    simpa [step, ht] using hm
  · have hi := ((MessageBuf.takeHandle_eq_some 0 m.buf i).mp ht).1
    refine ⟨by simpa [step, ht] using hm.closed_ne, ?_⟩
    obtain ⟨done, hd, ⟨-, hb⟩ | ⟨H, takes, htr, hc⟩⟩ := hm.split
    · simp [hb] at hi
    · have hb : (step K g self 0 m (.takeHandle i)).buf = b' := by simp [step, ht]
      exact ⟨done, hd, .inr ⟨H, takes ++ [(i, h.raw)],
        by simp [step, ht, htr, takenEvents], hb ▸ hc.takeHandle ht⟩⟩

theorem Inv.step {m : Machine MessageBuf σ} (hm : Inv m) :
    ∀ op, Inv (Channel.step K g self 0 m op)
  | .readRaw opts => hm.readRaw self hvalid opts
  | .read opts fuel => hm.read g self hvalid opts fuel
  | .takeHandle i => hm.takeHandle g self i

theorem Inv.foldl :
    ∀ (ops : List Op) {m : Machine MessageBuf σ}, Inv m →
      Inv (ops.foldl (Channel.step K g self 0) m)
  | [], _, hm => hm
  | op :: ops, _, hm => Inv.foldl ops (hm.step g self hvalid op)

end Run

/-- Handle conservation for a channel buffer. In every run of reads, retrying reads and
takes at any indices, ended by the drop, with `INVALID_HANDLE` the `0` that
`drop_handles` skips and a kernel that never delivers `INVALID_HANDLE`: each delivered
handle is taken from its slot once or closed once, by the next read or by the drop,
never both and never neither, and no slot is taken twice; the messages delivered are,
in order, those the kernel answered with success, as the same run against the kernel
with a log of those answers shows; nothing closed is `INVALID_HANDLE`; `take_handle`
never changes `n_handles`, and a slot that handed its handle out answers `None`. -/
theorem channel_handles_conserved (K : Kernel σ) (g : Growth) (self : Channel)
    (invalidHandle : Int) (hinv : invalidHandle = 0)
    (hvalid : ∀ k c, 0 ≤ (K.read k c).1.status → invalidHandle ∉ (K.read k c).1.handles)
    (k : σ) (ops : List Op) :
    (∃ msgs : List (List Int × List Event),
      (run K g self invalidHandle k ops).trace = msgs.flatMap (fun p => .received p.1 :: p.2) ∧
        ∀ p ∈ msgs, Settled p.1 p.2 ∧ (p.2.filterMap Event.released).Perm p.1) ∧
    run K.logged g self invalidHandle (k, []) ops =
      ⟨(run K g self invalidHandle k ops).buf, ((run K g self invalidHandle k ops).kernel,
        (run K g self invalidHandle k ops).trace.filterMap Event.receivedHandles),
        (run K g self invalidHandle k ops).trace⟩ ∧
    (∀ h, Event.closed h ∈ (run K g self invalidHandle k ops).trace → h ≠ invalidHandle) ∧
    (∀ (b : MessageBuf) i, (b.takeHandle invalidHandle i).2.nHandles = b.nHandles) ∧
    (∀ (b b' : MessageBuf) i h, b.takeHandle invalidHandle i = (some h, b') →
      (b'.takeHandle invalidHandle i).1 = none) := by
  subst hinv
  obtain ⟨⟨msgs, htr, hs⟩, hne⟩ :=
    (Inv.foldl g self hvalid ops (inv_init MessageBuf.new k rfl)).close
  exact ⟨⟨msgs, htr, fun p hp => ⟨hs p hp, (hs p hp).perm⟩⟩, run_logged K g self 0 k ops,
    hne, MessageBuf.takeHandle_nHandles 0, fun b _ i _ => MessageBuf.takeHandle_takeHandle 0 b i⟩

/-- A kernel with one message always pending: no bytes and the handle `7`. -/
def oneHandle : Kernel Unit where
  read _ call :=
    if h : 1 ≤ call.numHandles then (⟨noError, 0, 1, [], [7], fun _ => ⟨Nat.zero_le _, h⟩⟩, ())
    else (⟨errBufferTooSmall, 0, 1, [], [], fun h => absurd h (by decide)⟩, ())
  write k _ := (noError, k)

theorem oneHandle_valid :
    ∀ k c, 0 ≤ (oneHandle.read k c).1.status → (0 : Int) ∉ (oneHandle.read k c).1.handles := by
  intro _ c _
  by_cases h : 1 ≤ c.numHandles <;> simp [oneHandle, h]

theorem channel_handles_conserved_oneHandle :
    (0 : Int) = 0 ∧
    (∀ k c, 0 ≤ (oneHandle.read k c).1.status → (0 : Int) ∉ (oneHandle.read k c).1.handles) ∧
    let ops := [.read 0 2, .takeHandle 0, .takeHandle 0, .readRaw 0]
    (∃ msgs : List (List Int × List Event),
      (run oneHandle .amortized ⟨⟨1⟩⟩ 0 () ops).trace =
          msgs.flatMap (fun p => .received p.1 :: p.2) ∧
        ∀ p ∈ msgs, Settled p.1 p.2 ∧ (p.2.filterMap Event.released).Perm p.1) ∧
    run oneHandle.logged .amortized ⟨⟨1⟩⟩ 0 ((), []) ops =
      ⟨(run oneHandle .amortized ⟨⟨1⟩⟩ 0 () ops).buf,
        ((run oneHandle .amortized ⟨⟨1⟩⟩ 0 () ops).kernel,
        (run oneHandle .amortized ⟨⟨1⟩⟩ 0 () ops).trace.filterMap Event.receivedHandles),
        (run oneHandle .amortized ⟨⟨1⟩⟩ 0 () ops).trace⟩ ∧
    (∀ h, Event.closed h ∈ (run oneHandle .amortized ⟨⟨1⟩⟩ 0 () ops).trace → h ≠ 0) ∧
    (∀ (b : MessageBuf) i, (b.takeHandle 0 i).2.nHandles = b.nHandles) ∧
    (∀ (b b' : MessageBuf) i h, b.takeHandle 0 i = (some h, b') →
      (b'.takeHandle 0 i).1 = none) :=
  ⟨rfl, oneHandle_valid, channel_handles_conserved oneHandle .amortized ⟨⟨1⟩⟩ 0 rfl
    oneHandle_valid () _⟩

end Magenta.Channel
