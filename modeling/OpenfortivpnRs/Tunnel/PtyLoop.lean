import OpenfortivpnRs.Hdlc.FirstFrame
import OpenfortivpnRs.Tunnel.PtyStream

/-!
# The turns of the PTY loop

`push_bytes` moves an index over its buffer, from the end of one frame to the end of the next.  No
index comes back and none passes the end of the buffer (`turns_bounded`); the turns end where the
loop does (`pushLoop_run`), so a buffer that is kept holds no frame (`pushBytes_keeps_no_frame`).
-/

namespace OpenfortivpnRs.Tunnel

open Hdlc

/-- A turn of the loop after which it goes on, on the packets so far and `consumed_until`. -/
def Turn (buffer : List UInt8) (state state' : List PppPacket × ℕ) : Prop :=
  ∃ frameLen frameStart data, findFrame buffer state.2 = (.ok frameLen, frameStart) ∧
    decode ((buffer.take (frameStart + frameLen)).drop frameStart) = .ok data ∧
    state' = (state.1 ++ [⟨data⟩], frameStart + frameLen)

/-- The loop ends at `state`: no frame is left and it breaks, or the next one does not decode. -/
def Ends (buffer : List UInt8) (state : List PppPacket × ℕ) : Result (List PppPacket × ℕ) → Prop
  | .ok out => out = state ∧ findFrame buffer state.2 = (.error .hdlcNoFrameFound, state.2)
  | .error err => ∃ frameLen frameStart, findFrame buffer state.2 = (.ok frameLen, frameStart) ∧
      decode ((buffer.take (frameStart + frameLen)).drop frameStart) = .error err

/-- **`consumed_until` strictly increases**, and stays inside the buffer. -/
theorem Turn.advances {buffer : List UInt8} {state state' : List PppPacket × ℕ}
    (h : Turn buffer state state') : state.2 < state'.2 ∧ state'.2 < buffer.length := by
  obtain ⟨frameLen, frameStart, data, hfind, -, rfl⟩ := h
  have hb := (findFrame_eq_ok_iff.mp hfind).bounds
  show state.2 < frameStart + frameLen ∧ frameStart + frameLen < buffer.length
  omega

/-- Turn after turn, no more can be taken than there are bytes left. -/
theorem turns_bounded {buffer : List UInt8} (states : List (List PppPacket × ℕ)) :
    ∀ state, List.IsChain (Turn buffer) (state :: states) → states.length ≤ buffer.length - state.2 := by
  induction states with
  | nil => exact fun state _ => Nat.zero_le _
  | cons next states ih =>
    intro state h
    obtain ⟨hturn, hrest⟩ := List.isChain_cons_cons.mp h
    have hadv := hturn.advances
    have hlen := ih next hrest
    rw [List.length_cons]
    omega

/-- **The loop takes its turns and ends**: from every state on there are turns to one where it
ends with what it returns. -/
theorem pushLoop_run (buffer : List UInt8) (packets : List PppPacket) (consumedUntil : ℕ) :
    ∃ states, List.IsChain (Turn buffer) ((packets, consumedUntil) :: states) ∧
      Ends buffer (((packets, consumedUntil) :: states).getLast (List.cons_ne_nil _ _))
        (PppdPtyDecoder.pushLoop buffer packets consumedUntil) := by
  induction hn : buffer.length - consumedUntil using Nat.strong_induction_on
    generalizing consumedUntil packets with
  | _ n ih =>
    rcases findFrame_cases buffer consumedUntil with ⟨frameLen, frameStart, hfind⟩ | hnone
    · cases hdec : decode ((buffer.take (frameStart + frameLen)).drop frameStart) with
      | error err =>
        refine ⟨[], List.isChain_singleton _, ?_⟩
        rw [PppdPtyDecoder.pushLoop_bad packets hfind hdec]
        exact ⟨frameLen, frameStart, hfind, hdec⟩
      | ok data =>
        have hturn : Turn buffer (packets, consumedUntil) (packets ++ [⟨data⟩], frameStart + frameLen) :=
          ⟨frameLen, frameStart, data, hfind, hdec, rfl⟩
        have hadv := hturn.advances
        obtain ⟨states, hchain, hends⟩ :=
          ih (buffer.length - (frameStart + frameLen)) (by simp only at hadv; omega)
            (packets ++ [⟨data⟩]) (frameStart + frameLen) rfl
        refine ⟨(packets ++ [⟨data⟩], frameStart + frameLen) :: states,
          List.isChain_cons_cons.mpr ⟨hturn, hchain⟩, ?_⟩
        rw [PppdPtyDecoder.pushLoop_found packets hfind hdec, List.getLast_cons (List.cons_ne_nil _ _)]
        exact hends
    · refine ⟨[], List.isChain_singleton _, ?_⟩
      rw [PppdPtyDecoder.pushLoop_none packets hnone]
      exact ⟨rfl, hnone⟩

/-- Where the loop breaks, no frame is left. -/
theorem findFrame_of_pushLoop {buffer : List UInt8} {packets out : List PppPacket} {c stop : ℕ}
    (h : PppdPtyDecoder.pushLoop buffer packets c = .ok (out, stop)) :
    findFrame buffer stop = (.error .hdlcNoFrameFound, stop) := by
  obtain ⟨states, -, hends⟩ := pushLoop_run buffer packets c
  rw [h] at hends
  obtain ⟨hout, hnone⟩ := hends
  rw [← hout] at hnone
  exact hnone

/-- **No frame stays behind**: after a push that succeeds, the buffer that is kept holds none. -/
theorem pushBytes_keeps_no_frame {decoder decoder' : PppdPtyDecoder} {bytes : List UInt8}
    {packets : List PppPacket} (h : decoder.pushBytes bytes = (.ok packets, decoder')) :
    ¬ ∃ s len, FrameAt decoder'.buffer 0 s len := by
  unfold PppdPtyDecoder.pushBytes at h
  split at h
  · cases h
  · simp only at h
    split at h
    · cases h
    · rename_i out stop hloop
      have hnone := findFrame_none_iff.mp (findFrame_of_pushLoop hloop)
      have hkept : decoder'.buffer = (decoder.buffer ++ bytes).drop stop := by
        cases h
        rcases Nat.eq_zero_or_pos stop with hstop | hstop
        · simp [hstop]
        · simp [hstop]
      rw [hkept, frameAt_drop]
      exact hnone

/-- **`find_frame` finds exactly the first frame, and `push_bytes` all of them.**  The search succeeds
when there is a frame at or after `start` and then delimits the first one, else it leaves `start`
alone; so each turn of the loop moves `consumed_until` on, there are no more turns than bytes, the
loop ends after them, and what a successful push keeps holds no frame. -/
theorem find_frame_exact :
    (∀ (buffer : List UInt8) (start : ℕ),
      ((∃ len s, findFrame buffer start = (.ok len, s)) ↔ ∃ s len, FrameAt buffer start s len) ∧
      (∀ len s, findFrame buffer start = (.ok len, s) →
        FrameAt buffer start s len ∧ ∀ s' len', FrameAt buffer start s' len' → s ≤ s') ∧
      ∀ err s, findFrame buffer start = (.error err, s) → s = start) ∧
    (∀ (buffer : List UInt8) (state state' : List PppPacket × ℕ), Turn buffer state state' →
      state.2 < state'.2 ∧ state'.2 < buffer.length) ∧
    (∀ (buffer : List UInt8) (state : List PppPacket × ℕ) (states : List (List PppPacket × ℕ)),
      List.IsChain (Turn buffer) (state :: states) → states.length ≤ buffer.length - state.2) ∧
    (∀ (buffer : List UInt8) (packets : List PppPacket) (consumedUntil : ℕ),
      ∃ states, List.IsChain (Turn buffer) ((packets, consumedUntil) :: states) ∧
        Ends buffer (((packets, consumedUntil) :: states).getLast (List.cons_ne_nil _ _))
          (PppdPtyDecoder.pushLoop buffer packets consumedUntil)) ∧
    ∀ (decoder decoder' : PppdPtyDecoder) (bytes : List UInt8) (packets : List PppPacket),
      decoder.pushBytes bytes = (.ok packets, decoder') →
        ¬ ∃ s len, FrameAt decoder'.buffer 0 s len := by
  refine ⟨fun buffer start => ⟨⟨?_, ?_⟩, ?_, ?_⟩, fun _ _ _ => Turn.advances,
    fun _ state states => turns_bounded states state, pushLoop_run, ?_⟩
  · rintro ⟨len, s, h⟩
    exact ⟨s, len, (findFrame_first.mp h).1⟩
  · rintro ⟨s, len, h⟩
    exact h.found
  · exact fun len s h => findFrame_first.mp h
  · intro err s h
    rcases findFrame_cases buffer start with ⟨len, s', hfound⟩ | hnone
    · rw [hfound] at h
      cases h
    · rw [hnone] at h
      cases h
      rfl
  · exact fun _ _ _ _ => pushBytes_keeps_no_frame

end OpenfortivpnRs.Tunnel
