import Magenta.Pair

/-!
# Message-pipe pairs and reply pipes

The kernel side of a message pipe: a pair of queues as for a channel, with one more
rule about the pipe's own endpoints. An endpoint may not send itself through its own
pipe, except the second end of a pipe created with `MX_FLAG_REPLY_PIPE`: that end
must send itself, as the last handle of every message it writes. This is what the
test `message_pipe_reply_basic` exercises. On a plain pipe `write_reply` fails and
`write` succeeds; on a reply pipe the first end behaves the same, while the second
end's `write` fails and its `write_reply` succeeds.

Since a reply end travels with every message it writes, a message it wrote carries
it, and the messages pending at the first end are the reply end's own messages.
-/

namespace Magenta

/-- A message-pipe pair in the kernel: the two queues, and whether the second end is a
reply end. -/
structure PipePair where
  pair : ChannelPair
  reply : Bool

namespace PipePair

/-- Whether the kernel accepts `call`'s handles as far as the pipe's own endpoints go. -/
def admits (p : PipePair) (call : WriteCall) : Prop :=
  if p.reply = true ∧ call.handle = p.pair.right then
    call.handles.getLast? = some call.handle ∧ call.handle ∉ call.handles.dropLast
  else call.handle ∉ call.handles

instance (p : PipePair) (call : WriteCall) : Decidable (p.admits call) :=
  if h : p.reply = true ∧ call.handle = p.pair.right then
    decidable_of_iff (call.handles.getLast? = some call.handle ∧
      call.handle ∉ call.handles.dropLast) (by rw [admits, if_pos h])
  else decidable_of_iff (call.handle ∉ call.handles) (by rw [admits, if_neg h])

/-- `mx_msgpipe_read`: a read of the pair's queues. -/
def read (p : PipePair) (call : ReadCall) : ReadReply call × PipePair :=
  ((p.pair.read call).1, { p with pair := (p.pair.read call).2 })

/-- `mx_msgpipe_write`: refused when it breaks the endpoint rule, otherwise a write on
the pair's queues. A reply end that does not send itself is in a bad state; any other
end sending itself is not supported. -/
def write (p : PipePair) (call : WriteCall) : Int × PipePair :=
  if p.admits call then ((p.pair.write call).1, { p with pair := (p.pair.write call).2 })
  else if p.reply = true ∧ call.handle = p.pair.right then (errBadState, p)
  else (errNotSupported, p)

/-- The pipe pair as the kernel the bindings call. -/
def kernel : Kernel PipePair := ⟨read, write⟩

/-- The handles of every message pending at either end. -/
def queued (p : PipePair) : List Int := p.pair.queued

/-- What never changes: the two ends and the reply flag. -/
def ends (p : PipePair) : Int × Int × Bool := (p.pair.left, p.pair.right, p.reply)

@[simp] theorem kernel_read : kernel.read = read := rfl
@[simp] theorem kernel_write : kernel.write = write := rfl

theorem queued_read (p : PipePair) (call : ReadCall) :
    (p.queued : Multiset Int) = (read p call).1.handles + (read p call).2.queued :=
  ChannelPair.queued_read p.pair call

theorem handles_read_of_neg {p : PipePair} {call : ReadCall} (h : (read p call).1.status < 0) :
    (read p call).1.handles = [] :=
  ChannelPair.handles_read_of_neg h

/-- A write either queues the handles it carries with `NO_ERROR`, or fails with a
negative status and changes nothing. -/
theorem write_cases (p : PipePair) (call : WriteCall) :
    ((write p call).1 = noError ∧
        ((write p call).2.queued : Multiset Int) = p.queued + call.handles) ∨
      ((write p call).1 < 0 ∧ (write p call).2 = p) := by
  unfold write
  split_ifs
  · rcases ChannelPair.write_cases p.pair call with h | h
    · exact .inl h
    · exact .inr ⟨h.1, by simp only [h.2]⟩
  · exact .inr ⟨show errBadState < 0 by decide, rfl⟩
  · exact .inr ⟨show errNotSupported < 0 by decide, rfl⟩

theorem ends_read (p : PipePair) (call : ReadCall) : (read p call).2.ends = p.ends := by
  simp only [read, ends, ChannelPair.read]
  split_ifs <;> rfl

theorem ends_write (p : PipePair) (call : WriteCall) : (write p call).2.ends = p.ends := by
  simp only [write, ends, ChannelPair.write]
  split_ifs <;> (try split) <;> rfl

/-- On a reply pipe, every message pending at the first end carries the reply end. -/
def Carried (p : PipePair) : Prop :=
  p.reply = true → ∀ msg ∈ p.pair.atLeft, p.pair.right ∈ msg.handles

/-- A read only ever dequeues. -/
theorem atLeft_read (p : PipePair) (call : ReadCall) :
    (read p call).2.pair.atLeft ⊆ p.pair.atLeft := by
  have hq (q : List Message) : (Endpoint.read q call).2 ⊆ q := by
    cases q with
    | nil => exact List.Subset.refl _
    | cons m rest => by_cases h : m.Fits call <;> simp [Endpoint.read, h]
  simp only [read, ChannelPair.read]
  split_ifs
  · exact hq _
  · exact List.Subset.refl _
  · exact List.Subset.refl _

theorem WriteCall.handles_of_message {call : WriteCall} {msg : Message}
    (hm : call.message = some msg) : msg.handles = call.handles := by
  unfold WriteCall.message at hm
  split_ifs at hm
  cases hm; rfl

/-- Whatever a write queues at the first end of a reply pipe carries the reply end. -/
theorem carried_write (p : PipePair) (call : WriteCall) (hr : p.reply = true)
    (hc : ∀ msg ∈ p.pair.atLeft, p.pair.right ∈ msg.handles) :
    ∀ msg ∈ (write p call).2.pair.atLeft, p.pair.right ∈ msg.handles := by
  unfold write
  split_ifs with ha
  · simp only [ChannelPair.write]
    cases hm : call.message with
    | none => exact hc
    | some msg =>
        simp only
        split_ifs with hl hright
        · exact hc
        · have hlast : call.handles.getLast? = some p.pair.right := by
            simp only [admits, hr, hright, and_self, if_true] at ha
            exact ha.1
          intro m hm'
          rcases List.mem_append.mp hm' with hm' | hm'
          · exact hc m hm'
          · rw [List.mem_singleton.mp hm', WriteCall.handles_of_message hm]
            exact List.mem_of_getLast?_eq_some hlast
        · exact hc
  · exact hc
  · exact hc

theorem Carried.read {p : PipePair} (hp : p.Carried) (call : ReadCall) :
    (PipePair.read p call).2.Carried := by
  have he : (PipePair.read p call).2.pair.right = p.pair.right :=
    congrArg (·.2.1) (ends_read p call)
  intro hr msg hm
  rw [he]
  exact hp hr msg (atLeft_read p call hm)

theorem Carried.write {p : PipePair} (hp : p.Carried) (call : WriteCall) :
    (PipePair.write p call).2.Carried := by
  have he := ends_write p call
  simp only [ends, Prod.mk.injEq] at he
  intro hr
  rw [he.2.2] at hr
  rw [he.2.1]
  exact carried_write p call hr (hp hr)

end PipePair

end Magenta
