import Ika.Control.ControlMessageReader
import Ika.Control.DeviceMsg
import Ika.Foundation.Machine

/-! The receiver of `receiver.c`, whose buffer fills as the socket delivers, and the control channel
in both directions.
-/

set_option autoImplicit false

namespace Ika.Control

open List

/-- `process_msgs`: how many bytes were consumed, and the messages processed. -/
def processMsgs (buf : List UInt8) : Option Nat × List DeviceMsg :=
  match _done : deserialize buf with
  | .error => (none, [])
  | .incomplete => (some 0, [])
  | .complete consumed msg =>
    if consumed = buf.length then (some consumed, [msg])
    else
      let (others, msgs) := processMsgs (buf.drop consumed)
      (others.map (consumed + ·), msg :: msgs)
termination_by buf.length
decreasing_by
  have := deserialize_consumed _done
  rw [length_drop]
  omega

/-- The loop of `run_receiver`: `pending` is what the buffer holds up to its head. -/
structure Receiver where
  pending : List UInt8 := []
  processed : List DeviceMsg := []
  failed : Bool := false
  socket : List UInt8

def Receiver.receive (receiver : Receiver) (size : Nat) : Receiver :=
  let buf := receiver.pending ++ receiver.socket.take size
  let result := processMsgs buf
  { pending := buf.drop (result.1.getD 0)
    processed := receiver.processed ++ result.2
    failed := result.1.isNone
    socket := receiver.socket.drop size}

/-- A turn of the loop: the socket delivers at least a byte, and no more than there is room for. -/
def Receiver.step (receiver : Receiver) (size : Nat) : Option Receiver :=
  if receiver.failed = false ∧ 0 < size ∧ size ≤ deviceMsgMaxSize - receiver.pending.length ∧
      size ≤ receiver.socket.length then
    some (receiver.receive size)
  else none

def receiverMachine (sent : List UInt8) : Transition.Machine Receiver Nat where
  init receiver := receiver = {socket := sent}
  step := Receiver.step

section Receiving

variable {messages : List DeviceMessage}

theorem processMsgs_spec (sendable : ∀ message ∈ messages, message.Sendable)
    {buf coming : List UInt8} (stream : buf ++ coming = messages.flatMap DeviceMessage.write) :
    ∃ done rest consumed, messages = done ++ rest ∧
      processMsgs buf = (some consumed, done.map DeviceMessage.received) ∧
      buf.drop consumed ++ coming = rest.flatMap DeviceMessage.write ∧
      deserialize (buf.drop consumed) = .incomplete := by
  induction messages generalizing buf with
  | nil =>
    obtain ⟨rfl, rfl⟩ := append_eq_nil_iff.mp stream
    exact ⟨[], [], 0, rfl, by simp [processMsgs, deserialize], rfl, rfl⟩
  | cons message others ih =>
    have first := sendable message (mem_cons_self ..)
    rw [flatMap_cons] at stream
    by_cases whole : message.write.length ≤ buf.length
    · -- the message is in the buffer, and what comes after it too
      obtain ⟨after, rfl⟩ : message.write <+: buf :=
        prefix_of_prefix_length_le ⟨_, stream.symm⟩ ⟨_, rfl⟩ whole
      rw [append_assoc] at stream
      obtain ⟨done, rest, consumed, split, processed, left, partly⟩ :=
        ih (fun other mem => sendable other (mem_cons_of_mem _ mem))
          (append_cancel_left stream)
      have read := deserialize_write first after
      refine ⟨message :: done, rest, message.write.length + consumed, by rw [split]; rfl, ?_, ?_, ?_⟩
      · rw [processMsgs]
        split
        · rename_i failed
          cases read.symm.trans failed
        · rename_i missing
          cases read.symm.trans missing
        · rename_i size msg complete
          cases read.symm.trans complete
          split_ifs with last
          · -- nothing comes after it: the loop ends here
            obtain rfl : after = [] := by
              rw [length_append] at last
              exact length_eq_zero_iff.mp (by omega)
            have nothing : processMsgs [] = (some 0, []) := by rw [processMsgs]; rfl
            obtain ⟨zero, none⟩ := Prod.mk.inj (nothing.symm.trans processed)
            cases zero
            rw [map_cons, ← none, Nat.add_zero]
          · rw [drop_left, processed]
            rfl
      · rw [← drop_drop, drop_left, left]
      · rw [← drop_drop, drop_left, partly]
    · -- its end has not come yet
      obtain ⟨missing, split⟩ : buf <+: message.write :=
        prefix_of_prefix_length_le ⟨_, stream⟩ ⟨_, rfl⟩ (by omega)
      have more : missing ≠ [] := by
        rintro rfl
        rw [← split, append_nil] at whole
        exact whole (Nat.le_refl _)
      have partly := deserialize_partial first split.symm more
      refine ⟨[], message :: others, 0, rfl, ?_, ?_, ?_⟩
      · rw [processMsgs]
        split
        · rename_i failed
          cases partly.symm.trans failed
        · rfl
        · rename_i complete
          cases partly.symm.trans complete
      · exact stream
      · exact partly

/-- The messages are those processed and those whose bytes are pending or still to come. -/
structure Receiver.Receiving (receiver : Receiver) (messages : List DeviceMessage) : Prop where
  split : ∃ done rest, messages = done ++ rest ∧
    receiver.processed = done.map DeviceMessage.received ∧
    receiver.pending ++ receiver.socket = rest.flatMap DeviceMessage.write
  partly : deserialize receiver.pending = .incomplete
  works : receiver.failed = false

theorem Receiver.Receiving.step (sendable : ∀ message ∈ messages, message.Sendable)
    {receiver after : Receiver} {size : Nat} (receiving : receiver.Receiving messages)
    (moved : receiver.step size = some after) : after.Receiving messages := by
  obtain ⟨done, rest, split, processed, stream⟩ := receiving.split
  simp only [Receiver.step] at moved
  split_ifs at moved
  cases moved
  have joined : receiver.pending ++ receiver.socket.take size ++ receiver.socket.drop size =
      rest.flatMap DeviceMessage.write := by
    rw [append_assoc, take_append_drop, stream]
  obtain ⟨more, left, consumed, split', taken, stream', partly⟩ := processMsgs_spec
    (fun message mem => sendable message (by rw [split]; exact mem_append_right _ mem)) joined
  simp only [Receiver.receive, taken]
  refine ⟨⟨done ++ more, left, ?_, ?_, stream'⟩, partly, rfl⟩
  · rw [append_assoc, ← split', split]
  · rw [processed, map_append]

variable {receiver : Receiver}

theorem Receiver.Receiving.room (sendable : ∀ message ∈ messages, message.Sendable)
    (receiving : receiver.Receiving messages) : receiver.pending.length < deviceMsgMaxSize := by
  obtain ⟨done, rest, split, _, stream⟩ := receiving.split
  cases rest with
  | nil =>
    rw [(append_eq_nil_iff.mp stream).1]
    decide
  | cons message others =>
    have first := sendable message (by rw [split]; simp)
    have bound := length_write first
    by_contra full
    -- a full buffer would hold the whole message
    obtain ⟨after, whole⟩ : message.write <+: receiver.pending :=
      prefix_of_prefix_length_le ⟨_, stream.symm⟩ ⟨_, rfl⟩ (by omega)
    have partly := receiving.partly
    rw [← whole, deserialize_write first after] at partly
    cases partly

theorem receiving (sendable : ∀ message ∈ messages, message.Sendable)
    (reached : (receiverMachine (messages.flatMap DeviceMessage.write)).Reachable receiver) :
    receiver.Receiving messages := by
  apply Transition.Machine.Reaches.invariant _ _ reached
  · rintro _ rfl
    exact ⟨⟨[], messages, rfl, rfl, rfl⟩, rfl, rfl⟩
  · intro state size next before _ moved
    exact before.step sendable moved

end Receiving

/-- Every message is received as it was sent, in both directions and whatever the pieces, with its
string cut to the longest prefix that fits. -/
theorem control_channel_agrees (malformed : List UInt8 → List Char) (messages : List ControlMsg)
    (replies : List DeviceMessage) (sendable : ∀ message ∈ replies, message.Sendable) :
    (∀ rest, ByteStream.readMany (ControlMessageReader.read malformed) messages.length
        (messages.flatMap ControlMsg.serialize ++ rest) =
          some (messages.map ControlMsg.received, rest)) ∧
      (∀ msg ∈ messages, msg.serialize.length ≤ controlMsgMaxSize) ∧
      (∀ receiver, (receiverMachine (replies.flatMap DeviceMessage.write)).Reachable receiver →
        receiver.failed = false ∧ receiver.pending.length < deviceMsgMaxSize ∧
          receiver.processed <+: replies.map DeviceMessage.received ∧
          (receiver.socket = [] → receiver.processed = replies.map DeviceMessage.received)) ∧
      ∀ limit text, Utf8.LongestPrefix limit text (Utf8.fitting limit text) := by
  refine ⟨?_, fun msg _ => msg.length_serialize, ?_, Utf8.fitting_longest⟩
  · exact ByteStream.readMany_reads messages fun msg _ => read_serialize malformed msg
  · intro receiver reached
    have received := receiving sendable reached
    obtain ⟨done, rest, split, processed, stream⟩ := received.split
    refine ⟨received.works, received.room sendable, ?_, ?_⟩
    · rw [processed, split, map_append]
      exact prefix_append ..
    · intro delivered
      rw [delivered, append_nil] at stream
      cases rest with
      | nil => rw [processed, split, append_nil]
      | cons message others =>
        -- a message that is left would be in the buffer
        have partly := received.partly
        have first := sendable message (by rw [split]; simp)
        rw [stream, flatMap_cons, deserialize_write first] at partly
        cases partly

def reports : List DeviceMessage := [.uhidOutput 1 [], .uhidOutput 2 [7]]

def reported : Receiver := ({socket := reports.flatMap DeviceMessage.write} : Receiver).receive 11

theorem reports_sendable : ∀ message ∈ reports, message.Sendable := by
  intro message mem
  simp only [reports, mem_cons, not_mem_nil, or_false] at mem
  rcases mem with rfl | rfl <;> simp [DeviceMessage.Sendable]

theorem reported_reached :
    (receiverMachine (reports.flatMap DeviceMessage.write)).Reachable reported :=
  .next (.start rfl) trivial (if_pos (by decide))

theorem control_channel_agrees_reports :
    reported.processed = [.uhidOutput 1 [], .uhidOutput 2 [7]] :=
  ((control_channel_agrees (fun _ => []) [] reports reports_sendable).2.2.1 reported
    reported_reached).2.2.2 rfl

/-- The action of a touch event is sent in one byte. -/
theorem action_cut :
    ¬∀ (malformed : List UInt8 → List Char) (action : UInt32) (pointerId : UInt64)
      (position : Position) (pressure : UInt16) (actionButton buttons : UInt32),
      ∃ read pointer place force button held,
        ControlMessageReader.read malformed (ControlMsg.injectTouchEvent action pointerId position
            pressure actionButton buttons).serialize =
          some (.injectTouchEvent read pointer place force button held, []) ∧
        read.toInt = action.toNat := by
  intro claimed
  obtain ⟨read, pointer, place, force, button, held, received, same⟩ :=
    claimed (fun _ => []) 0xff00 0 ⟨0, 0, 0, 0⟩ 0 0 0
  have expected := read_serialize (fun _ => []) (.injectTouchEvent 0xff00 0 ⟨0, 0, 0, 0⟩ 0 0 0) []
  rw [append_nil, received] at expected
  cases expected
  revert same
  decide

end Ika.Control
