import Magenta.Channel.Basic
import Magenta.Pipe.Basic

/-!
# Handing handles to the kernel

A write gives up the caller's handles only when the kernel accepts them: on success
the caller's vector is emptied, on any failure, the length checks made before the
call included, it is left exactly as it was. `write_reply` sends the endpoint itself
after the handles and, on failure, pops it back so the caller gets it again.

Each write makes at most one kernel call, and its result says which happened: a failed
length check leaves the kernel state untouched, and otherwise the state returned is
the one the call left, whether the kernel accepted the call or refused it.
-/

namespace Magenta

variable {σ : Type} (K : Kernel σ) (k : σ) (bytes : List UInt8) (handles : List Handle)

/-- `Channel::write` empties the vector exactly when the kernel accepts a call carrying
all of it; otherwise it fails before any call, on a length over a `u32`, or on the
status of the call it made. The kernel state returned is the one that call left. -/
theorem Channel.write_handoff (self : Channel) (opts : Nat) :
    let r := Channel.write K self opts bytes handles k
    let res := K.write k (Channel.writeCall self opts bytes handles)
    (r.1 = .ok () ∧ r.2.1 = [] ∧ 0 ≤ res.1 ∧ r.2.2 = res.2) ∨
      (r.2.1 = handles ∧
        ((u32Max < bytes.length ∨ u32Max < handles.length) ∧
            r.1 = .error ⟨errOutOfRange⟩ ∧ r.2.2 = k ∨
          bytes.length ≤ u32Max ∧ handles.length ≤ u32Max ∧ res.1 < 0 ∧
            r.1 = .error ⟨res.1⟩ ∧ r.2.2 = res.2)) := by
  unfold Channel.write
  split_ifs with hb hh
  · exact .inr ⟨rfl, .inl ⟨.inl hb, rfl, rfl⟩⟩
  · exact .inr ⟨rfl, .inl ⟨.inr hh, rfl, rfl⟩⟩
  · by_cases h : 0 ≤ (K.write k (Channel.writeCall self opts bytes handles)).1
    · exact .inl ⟨by simp [intoResult, h], by simp [h], h, rfl⟩
    · exact .inr ⟨by simp [h], .inr ⟨Nat.not_lt.mp hb, Nat.not_lt.mp hh, Int.not_le.mp h,
        by simp [intoResult, h], rfl⟩⟩

namespace MessagePipe

variable (flags : Nat)

/-- `write_raw` empties the vector exactly when the kernel answers `NO_ERROR` to a call
carrying all of it; otherwise it fails before any call, on a length over a `u32`, or
with the status of the call it made. The kernel state returned is the one that call
left. -/
theorem writeRaw_handoff (handle : Int) :
    let r := writeRaw K flags handle bytes handles k
    let res := K.write k (writeCall flags handle bytes handles)
    (r.1 = .ok () ∧ r.2.1 = [] ∧ res.1 = noError ∧ r.2.2 = res.2) ∨
      (r.2.1 = handles ∧
        ((u32Max < bytes.length ∨ u32Max < handles.length) ∧
            r.1 = .error ⟨errOutOfRange⟩ ∧ r.2.2 = k ∨
          bytes.length ≤ u32Max ∧ handles.length ≤ u32Max ∧ res.1 ≠ noError ∧
            r.1 = .error ⟨res.1⟩ ∧ r.2.2 = res.2)) := by
  unfold writeRaw
  dsimp only
  split_ifs with hl h
  · exact .inr ⟨rfl, .inl ⟨hl, rfl, rfl⟩⟩
  · obtain ⟨hb, hh⟩ := not_or.mp hl
    exact .inr ⟨rfl, .inr ⟨Nat.not_lt.mp hb, Nat.not_lt.mp hh, h, rfl, rfl⟩⟩
  · exact .inl ⟨rfl, rfl, not_not.mp h, rfl⟩

/-- `write_reply` never panics. On success the handles and the endpoint went to the
kernel; on failure, before the call or on its status, the vector is as before and the
same endpoint comes back. The kernel state returned is the one the call left. -/
theorem writeReply_handoff (self : MessagePipe) :
    let res := K.write k (writeCall flags self.rawHandle bytes (handles ++ [self.intoHandle]))
    ∃ r, writeReply K self flags bytes handles k = some r ∧
      ((r.1 = .ok () ∧ r.2.1 = [] ∧ res.1 = noError ∧ r.2.2 = res.2) ∨
        (r.2.1 = handles ∧
          ((u32Max < bytes.length ∨ u32Max < handles.length + 1) ∧
              r.1 = .error (self, ⟨errOutOfRange⟩) ∧ r.2.2 = k ∨
            bytes.length ≤ u32Max ∧ handles.length + 1 ≤ u32Max ∧ res.1 ≠ noError ∧
              r.1 = .error (self, ⟨res.1⟩) ∧ r.2.2 = res.2))) := by
  have hspec := writeRaw_handoff K k bytes (handles ++ [self.intoHandle]) flags self.rawHandle
  simp only [List.length_append, List.length_singleton] at hspec
  rcases hw : writeRaw K flags self.rawHandle bytes (handles ++ [self.intoHandle]) k with
    ⟨r, hs, k'⟩
  rw [hw] at hspec
  rcases hspec with
    ⟨rfl, rfl, hok, hk⟩ | ⟨rfl, ⟨hl, rfl, hk⟩ | ⟨hb, hh, hne, rfl, hk⟩⟩
  · exact ⟨(.ok (), [], k'), by simp [writeReply, hw], .inl ⟨rfl, rfl, hok, hk⟩⟩
  · exact ⟨(.error (self, ⟨errOutOfRange⟩), handles, k'), by simp [writeReply, hw],
      .inr ⟨rfl, .inl ⟨hl, rfl, hk⟩⟩⟩
  · exact ⟨(.error (self, ⟨_⟩), handles, k'), by simp [writeReply, hw],
      .inr ⟨rfl, .inr ⟨hb, hh, hne, rfl, hk⟩⟩⟩

end MessagePipe

end Magenta
