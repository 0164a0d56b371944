import Ika.VhuMedia.MediaBuffers

/-!
The resolution of the emulated camera: who sets it, and what the captures make of it.

The buffers of a session take the resolution the device has when they are requested, and its capture
thread the one the device has when streaming starts.
-/

set_option autoImplicit false

namespace Ika.EmulatedCamera

open Transition Ika.VhuMedia List Function Option

def SUPPORTED_SIZES : List (Nat × Nat) := [(320, 240), (640, 480), (1280, 720)]

inductive TestPattern where
  | Pulse
  | SmpteBars
  | JuliaSet
  deriving DecidableEq, Repr

def raster (height width : Nat) (pixel : Nat → Nat → UInt8) : List UInt8 :=
  (List.range height).flatMap fun y_idx => (List.range width).map (pixel y_idx)

/-- The planes a generator writes; the colours come from outside. -/
def TestPattern.write (pattern : TestPattern) (width height : Nat)
    (colour : Nat → Nat → Nat → UInt8) : List (List UInt8) :=
  match pattern with
  | .Pulse =>
    [List.replicate (width * height / 2) (colour 0 0 0) ++
        List.replicate (width * height / 2) (colour 0 1 0),
      List.replicate (width * height / 4) (colour 1 0 0),
      List.replicate (width * height / 4) (colour 2 0 0)]
  | .SmpteBars =>
    [raster height width (colour 0), raster (height / 2) (width / 2) (colour 1),
      raster (height / 2) (width / 2) (colour 2)]
  | .JuliaSet =>
    [raster height width (colour 0), List.replicate (width * height / 4) (colour 1 0 0),
      List.replicate (width * height / 4) (colour 2 0 0)]

theorem length_raster (height width : Nat) (pixel : Nat → Nat → UInt8) :
    (raster height width pixel).length = height * width := by
  simp [raster, length_flatMap]

theorem write_lengths {size : Nat × Nat} (supported : size ∈ SUPPORTED_SIZES)
    (pattern : TestPattern) (colour : Nat → Nat → Nat → UInt8) :
    (pattern.write size.1 size.2 colour).map List.length = plane_sizes size.1 size.2 := by
  simp only [SUPPORTED_SIZES, mem_cons, not_mem_nil, or_false] at supported
  rcases supported with rfl | rfl | rfl <;>
    cases pattern <;>
      simp only [TestPattern.write, plane_sizes, map_cons, map_nil, length_append,
        length_replicate, length_raster]

inductive FrameCmd where
  | StartCapture (width height : Nat)
  | StopCapture
  | Queue (planes : List MediaPlane)

/-- A capture thread and what was sent to it. -/
structure FrameChannel where
  cmds : List FrameCmd := []
  width : Nat := 640
  height : Nat := 480
  streaming : Bool := false
  pending_requests : List (List MediaPlane) := []

namespace FrameChannel

variable (channel : FrameChannel)

def handle_cmd (channel : FrameChannel) : FrameCmd → FrameChannel
  | .StartCapture width height => {channel with width, height, streaming := true}
  | .StopCapture => {channel with streaming := false, pending_requests := []}
  | .Queue planes => {channel with pending_requests := channel.pending_requests ++ [planes]}

def send_cmd (cmd : FrameCmd) : FrameChannel := {channel with cmds := channel.cmds ++ [cmd]}

def caughtUp : FrameChannel := channel.cmds.foldl handle_cmd {channel with cmds := []}

theorem caughtUp_send_cmd (cmd : FrameCmd) :
    (channel.send_cmd cmd).caughtUp = channel.caughtUp.handle_cmd cmd := by
  simp [caughtUp, send_cmd]

theorem caughtUp_command {cmd : FrameCmd} {cmds : List FrameCmd} (sent : channel.cmds = cmd :: cmds) :
    ({channel with cmds}.handle_cmd cmd).caughtUp = channel.caughtUp := by
  cases cmd <;> simp [caughtUp, sent, handle_cmd]

end FrameChannel

structure FrameWrite where
  bytes : List Nat
  planes : List MediaPlane

structure Camera where
  media : MediaDevice := {}
  width : Nat := 640
  height : Nat := 480
  channels : Nat → FrameChannel := fun _ => {}
  writes : List FrameWrite := []

inductive CameraEvent where
  | s_fmt (expected : Bool) (width height : Nat)
  | media (call : MediaCall)
  | streamon (session_id : Nat) (expected : Bool)
  | streamoff (session_id : Nat) (expected : Bool)
  | command (session_id : Nat)
  /-- A capture thread finds nothing to handle until the deadline. -/
  | tick (session_id : Nat) (pattern : TestPattern) (colour : Nat → Nat → Nat → UInt8)

namespace Camera

variable (camera : Camera)

def s_fmt (expected : Bool) (width height : Nat) : Camera :=
  if expected = false then camera
  else if (width, height) ∈ SUPPORTED_SIZES then {camera with width, height}
  else camera

def sendTo (session_id : Nat) (cmd : FrameCmd) : Nat → FrameChannel :=
  update camera.channels session_id ((camera.channels session_id).send_cmd cmd)

def told : MediaCall → Nat → FrameChannel
  | .new_session session_id _ => update camera.channels session_id {}
  | .reqbufs session_id _ count _ =>
    if count = 0 then camera.sendTo session_id .StopCapture else camera.channels
  | .qbuf session_id buffer_idx _ _ =>
    match (camera.media.sessions session_id).bind (·.buffers[buffer_idx]?) with
    | some host_buffer => camera.sendTo session_id (.Queue host_buffer.planes)
    | none => camera.channels
  | .close_session session_id => update camera.channels session_id {}

def streamon (session_id : Nat) (session : MediaSession) (expected : Bool) : Camera :=
  if expected = false then camera
  else if session.buffers = [] then camera
  else
    {camera with
      media := {camera.media with
        sessions := camera.media.set session_id {session with streaming := true}}
      channels := camera.sendTo session_id (.StartCapture camera.width camera.height)}

def streamoff (session_id : Nat) (session : MediaSession) (expected : Bool) : Camera :=
  if expected = false then camera
  else
    {camera with
      media := {camera.media with
        sessions := camera.media.set session_id {session.reset with streaming := false}}
      channels := camera.sendTo session_id .StopCapture}

def produce_capture (session_id : Nat) (pattern : TestPattern)
    (colour : Nat → Nat → Nat → UInt8) : Camera :=
  let channel := camera.channels session_id
  match channel.pending_requests with
  | [] => camera
  | planes :: pending_requests =>
    let bytes := (pattern.write channel.width channel.height colour).map List.length
    {camera with
      channels := update camera.channels session_id {channel with pending_requests}
      writes := camera.writes ++ [⟨bytes, planes⟩]}

def step (camera : Camera) : CameraEvent → Option Camera
  | .s_fmt expected width height => some (camera.s_fmt expected width height)
  | .media call =>
    (camera.media.called .EmulatedCamera camera.width camera.height call).map fun (media, ok) =>
      {camera with media, channels := if ok then camera.told call else camera.channels}
  | .streamon session_id expected => (camera.media.sessions session_id).map fun session =>
      camera.streamon session_id session expected
  | .streamoff session_id expected => (camera.media.sessions session_id).map fun session =>
      camera.streamoff session_id session expected
  | .command session_id => (camera.media.sessions session_id).bind fun _ =>
      let channel := camera.channels session_id
      match channel.cmds with
      | [] => none
      | cmd :: cmds => some {camera with
          channels := update camera.channels session_id
            ({channel with cmds}.handle_cmd cmd)}
  | .tick session_id pattern colour => (camera.media.sessions session_id).bind fun _ =>
      if (camera.channels session_id).cmds = [] ∧ (camera.channels session_id).streaming then
        some (camera.produce_capture session_id pattern colour)
      else none

def machine : Machine Camera CameraEvent where
  init camera := camera = {}
  step := step

end Camera

def Sized (width height : Nat) (planes : List MediaPlane) : Prop :=
  planes.map MediaPlane.length = plane_sizes width height
  deriving Decidable

def FrameWrite.Fits (write : FrameWrite) : Prop :=
  ∃ size ∈ SUPPORTED_SIZES, write.bytes = plane_sizes size.1 size.2 ∧
    Sized size.1 size.2 write.planes

/-- Streaming starts at the resolution of the session's buffers and requests. -/
def Camera.StartsInTune (camera : Camera) : CameraEvent → Prop
  | .streamon session_id _ =>
    (∀ session ∈ camera.media.sessions session_id, ∀ buffer ∈ session.buffers,
      Sized camera.width camera.height buffer.planes) ∧
    ∀ planes ∈ (camera.channels session_id).caughtUp.pending_requests,
      Sized camera.width camera.height planes
  | _ => True

instance (camera : Camera) (event : CameraEvent) : Decidable (camera.StartsInTune event) :=
  match event with
  | .streamon _ _ => inferInstanceAs (Decidable (_ ∧ _))
  | .s_fmt _ _ _ | .media _ | .streamoff _ _ | .command _ | .tick _ _ _ => isTrue trivial

/-- What the thread will have handled agrees with what the session is doing. -/
structure Tuned (session : MediaSession) (channel : FrameChannel) : Prop where
  streaming : channel.caughtUp.streaming = session.streaming
  supported : session.streaming → (channel.caughtUp.width, channel.caughtUp.height) ∈ SUPPORTED_SIZES
  sized : session.streaming → ∀ planes ∈ session.planes ++ channel.caughtUp.pending_requests,
    Sized channel.caughtUp.width channel.caughtUp.height planes

structure Camera.Kept (camera : Camera) : Prop where
  supported : (camera.width, camera.height) ∈ SUPPORTED_SIZES
  tuned : ∀ session_id session, camera.media.sessions session_id = some session →
    Tuned session (camera.channels session_id)
  fits : ∀ write ∈ camera.writes, write.Fits

namespace Tuned

variable {session after : MediaSession} {channel : FrameChannel}

theorem of_idle (idle : session.streaming = false) (stopped : channel.caughtUp.streaming = false) :
    Tuned session channel where
  streaming := stopped.trans idle.symm
  supported streaming := absurd (idle.symm.trans streaming) nofun
  sized streaming := absurd (idle.symm.trans streaming) nofun

theorem congr (tuned : Tuned session channel) (streaming : after.streaming = session.streaming)
    (planes : after.planes = session.planes) : Tuned after channel := by
  constructor
  · rw [streaming, tuned.streaming]
  · rw [streaming]
    exact tuned.supported
  · rw [streaming, planes]
    exact tuned.sized

theorem stopped (idle : session.streaming = false) : Tuned session (channel.send_cmd .StopCapture) :=
  of_idle idle (by rw [FrameChannel.caughtUp_send_cmd]; rfl)

theorem queued {planes : List MediaPlane} (tuned : Tuned session channel)
    (member : planes ∈ session.planes) : Tuned session (channel.send_cmd (.Queue planes)) := by
  constructor <;> rw [FrameChannel.caughtUp_send_cmd]
  · exact tuned.streaming
  · exact tuned.supported
  · intro streaming other otherMember
    refine tuned.sized streaming other ?_
    simp only [FrameChannel.handle_cmd, mem_append, mem_singleton] at otherMember ⊢
    rcases otherMember with theirs | pending | rfl
    · exact .inl theirs
    · exact .inr pending
    · exact .inl member

theorem started {width height : Nat} (supported : (width, height) ∈ SUPPORTED_SIZES)
    (buffers : ∀ planes ∈ session.planes, Sized width height planes)
    (pending : ∀ planes ∈ channel.caughtUp.pending_requests, Sized width height planes) :
    Tuned {session with streaming := true} (channel.send_cmd (.StartCapture width height)) := by
  constructor <;> rw [FrameChannel.caughtUp_send_cmd]
  · rfl
  · exact fun _ => supported
  · exact fun _ planes member => (mem_append.mp member).elim (buffers planes) (pending planes)

end Tuned

namespace Camera.Kept

variable {camera : Camera}

theorem session (kept : camera.Kept) {after : Camera} (session_id : Nat)
    (size : (after.width, after.height) = (camera.width, camera.height))
    (sessions : ∀ other ≠ session_id, after.media.sessions other = camera.media.sessions other)
    (channels : ∀ other ≠ session_id, after.channels other = camera.channels other)
    (tuned : ∀ session, after.media.sessions session_id = some session →
      Tuned session (after.channels session_id))
    (fits : ∀ write ∈ after.writes, write.Fits) : after.Kept where
  supported := size ▸ kept.supported
  tuned other session found := by
    by_cases same : other = session_id
    · subst same
      exact tuned session found
    · rw [sessions other same] at found
      rw [channels other same]
      exact kept.tuned other session found
  fits := fits

theorem media (kept : camera.Kept) {call : MediaCall} {result : MediaDevice × Bool}
    (answered : camera.media.called .EmulatedCamera camera.width camera.height call = some result) :
    Kept {camera with
      media := result.1, channels := if result.2 then camera.told call else camera.channels} := by
  have aside : ∀ {α : Type} {session_id other : Nat} {own : Nat → α} {value : α},
      other ≠ session_id → update own session_id value other = own other :=
    fun ne => update_of_ne ne _ _
  cases call with
  | new_session session_id spawned =>
    obtain ⟨free, same⟩ := ite_none_right_eq_some.mp answered
    cases same
    unfold MediaDevice.new_session
    split
    · exact kept
    · simp only [Prod.map, id, Except.isOk, Except.toBool, if_true, told]
      refine kept.session session_id rfl (fun _ ne => aside ne)
        (fun _ ne => aside ne) ?_ kept.fits
      intro session found
      cases (update_self _ _ _).symm.trans found
      refine .of_idle rfl ?_
      simp only [update_self]
      rfl
  | reqbufs session_id expected count allocating =>
    obtain ⟨session, opened, rfl⟩ := map_eq_some_iff.mp answered
    have tuned := kept.tuned session_id session opened
    rcases camera.media.reqbufs_spec .EmulatedCamera camera.width camera.height session_id session
      expected count allocating with
      ⟨same, failed⟩ | ⟨idle, active_session, registered, after, still, result⟩
    · simp only [Prod.map, same, failed]
      exact kept
    · simp only [Prod.map, result, told, sendTo]
      refine kept.session session_id rfl (fun _ ne => aside ne) ?_ ?_ kept.fits
      · intro other ne
        dsimp only
        split_ifs
        · exact aside ne
        · rfl
        · rfl
      · intro owner found
        cases (update_self _ _ _).symm.trans found
        dsimp only
        split_ifs
        · -- No buffers were asked for: the thread is told to stop.
          rw [update_self]
          exact .stopped still
        · exact .of_idle still (tuned.streaming.trans idle)
        · exact .of_idle still (tuned.streaming.trans idle)
  | qbuf session_id buffer_idx cloned queued =>
    obtain ⟨session, opened, rfl⟩ := map_eq_some_iff.mp answered
    have tuned := kept.tuned session_id session opened
    rcases camera.media.qbuf_spec .EmulatedCamera session_id session buffer_idx cloned
      queued with ⟨same, failed⟩ | ⟨host_buffer, after, found, streaming, planes, result, -⟩
    · simp only [Prod.map, same, failed]
      exact kept
    · -- The thread gets the planes of a buffer of the session.
      have member : host_buffer.planes ∈ after.planes :=
        planes ▸ List.mem_map_of_mem (mem_of_getElem? found)
      simp only [Prod.map, result, told, sendTo, opened, bind_some, found]
      refine kept.session session_id rfl (fun _ ne => aside ne) ?_ ?_ kept.fits
      · intro other ne
        dsimp only
        split
        · exact aside ne
        · rfl
      · intro owner there
        cases (update_self _ _ _).symm.trans there
        dsimp only
        split
        · rw [update_self]
          exact (tuned.congr streaming planes).queued member
        · exact tuned.congr streaming planes
  | close_session session_id =>
    obtain ⟨session, opened, rfl⟩ := map_eq_some_iff.mp answered
    have sessions : (camera.media.close_session .EmulatedCamera session_id session).sessions =
        update camera.media.sessions session_id none := by
      unfold MediaDevice.close_session
      dsimp only
      split <;> rfl
    simp only [if_true, told]
    refine kept.session session_id rfl ?_ (fun _ ne => aside ne) ?_ kept.fits
    · intro other ne
      rw [sessions]
      exact aside ne
    · intro owner found
      rw [sessions, update_self] at found
      cases found

theorem step (kept : camera.Kept) {event : CameraEvent} {after : Camera}
    (inTune : camera.StartsInTune event) (moved : camera.step event = some after) : after.Kept := by
  cases event with
  | s_fmt expected width height =>
    cases moved
    unfold s_fmt
    split_ifs with _ supported
    · exact kept
    · exact ⟨supported, kept.tuned, kept.fits⟩
    · exact kept
  | media call =>
    obtain ⟨result, answered, rfl⟩ := map_eq_some_iff.mp moved
    exact kept.media answered
  | streamon session_id expected =>
    obtain ⟨session, opened, rfl⟩ := map_eq_some_iff.mp moved
    unfold streamon
    split_ifs
    · exact kept
    · exact kept
    · refine kept.session session_id rfl (fun _ ne => update_of_ne ne _ _)
        (fun _ ne => update_of_ne ne _ _) ?_ kept.fits
      intro owner found
      cases (update_self _ _ _).symm.trans found
      simp only [sendTo, update_self]
      refine .started kept.supported (fun planes member => ?_) inTune.2
      obtain ⟨buffer, there, rfl⟩ := List.mem_map.mp member
      exact inTune.1 session opened buffer there
  | streamoff session_id expected =>
    obtain ⟨session, opened, rfl⟩ := map_eq_some_iff.mp moved
    unfold streamoff
    split_ifs
    · exact kept
    · refine kept.session session_id rfl (fun _ ne => update_of_ne ne _ _)
        (fun _ ne => update_of_ne ne _ _) ?_ kept.fits
      intro owner found
      cases (update_self _ _ _).symm.trans found
      simp only [sendTo, update_self]
      exact .stopped rfl
  | command session_id =>
    obtain ⟨session, opened, moved⟩ := bind_eq_some_iff.mp moved
    dsimp only at moved
    split at moved
    · cases moved
    · rename_i cmd cmds sent
      cases moved
      refine kept.session session_id rfl (fun _ _ => rfl)
        (fun _ ne => update_of_ne ne _ _) (fun owner found => ?_) kept.fits
      have same := (camera.channels session_id).caughtUp_command sent
      have tuned := kept.tuned session_id owner found
      simp only [update_self]
      exact ⟨same ▸ tuned.streaming, same ▸ tuned.supported, same ▸ tuned.sized⟩
  | tick session_id pattern colour =>
    obtain ⟨session, opened, moved⟩ := bind_eq_some_iff.mp moved
    obtain ⟨⟨idle, streaming⟩, same⟩ := ite_none_right_eq_some.mp moved
    cases same
    -- With nothing left to handle the thread is where its commands lead.
    have caughtUp : (camera.channels session_id).caughtUp = camera.channels session_id := by
      unfold FrameChannel.caughtUp
      rw [idle, foldl_nil, ← idle]
    have tuned := kept.tuned session_id session opened
    have playing : session.streaming := by
      rw [← tuned.streaming, caughtUp]
      exact streaming
    have supported := tuned.supported playing
    have sized := tuned.sized playing
    rw [caughtUp] at supported sized
    unfold produce_capture
    dsimp only
    split
    · exact kept
    · rename_i planes pending_requests pending
      refine kept.session session_id rfl (fun _ _ => rfl)
        (fun _ ne => update_of_ne ne _ _) (fun owner found => ?_) fun write member => ?_
      · cases opened.symm.trans found
        simp only [update_self]
        constructor <;> simp only [FrameChannel.caughtUp, idle, foldl_nil]
        · exact streaming.trans playing.symm
        · exact fun _ => supported
        · refine fun _ other otherMember => sized other ?_
          rw [pending]
          exact (mem_append.mp otherMember).elim (mem_append_left _)
            fun later => mem_append_right _ (mem_cons_of_mem _ later)
      · rcases mem_append.mp member with old | latest
        · exact kept.fits write old
        · rw [mem_singleton.mp latest]
          refine ⟨_, supported, write_lengths supported pattern colour, sized planes ?_⟩
          rw [pending]
          exact mem_append_right _ mem_cons_self

theorem of_reaches (reached : machine.Reaches StartsInTune camera) : camera.Kept := by
  refine reached.invariant ?_ fun state event after kept inTune moved => kept.step inTune moved
  rintro _ rfl
  exact ⟨by decide, nofun, nofun⟩

end Camera.Kept

/-- As long as streaming starts in tune, every frame fills the planes it is written to. -/
theorem frames_fit {camera : Camera} (reached : Camera.machine.Reaches Camera.StartsInTune camera) :
    ∀ write ∈ camera.writes, write.Fits ∧ write.bytes = write.planes.map MediaPlane.length := by
  intro write member
  have fits := (Camera.Kept.of_reaches reached).fits write member
  obtain ⟨size, _, bytes, sized⟩ := id fits
  exact ⟨fits, bytes.trans sized.symm⟩

def resizing (width height : Nat) : List CameraEvent :=
  [.media (.new_session 7 true), .media (.reqbufs 7 true 1 (lacking 32)),
    .media (.qbuf 7 0 true true), .s_fmt true width height, .streamon 7 true, .command 7, .command 7]

def resized (width height : Nat) : Camera := (Camera.machine.run {} (resizing width height)).getD {}

def captured (width height : Nat) : Camera :=
  (resized width height).produce_capture 7 .Pulse fun _ _ _ => 0

theorem frames_fit_same : (captured 640 480).writes ≠ [] ∧
    ∀ write ∈ (captured 640 480).writes,
      write.Fits ∧ write.bytes = write.planes.map MediaPlane.length := by
  have started : Camera.machine.Reaches Camera.StartsInTune {} := .start rfl
  have resized : Camera.machine.Reaches Camera.StartsInTune
      ((Camera.machine.runAllowed Camera.StartsInTune {} (resizing 640 480)).getD {}) :=
    started.getD_runAllowed _ (by decide)
  exact ⟨cons_ne_nil _ _,
    frames_fit (resized.take (.tick 7 .Pulse fun _ _ _ => 0) trivial rfl)⟩

/-- Setting the resolution between `reqbufs` and `streamon` has too much written. -/
theorem frames_outgrow :
    ¬∀ camera, Camera.machine.Reachable camera → ∀ write ∈ camera.writes, write.Fits := by
  intro fit
  have reached : Camera.machine.Reachable (resized 1280 720) :=
    .getD_run (resizing 1280 720) (.start rfl) (by decide)
  have ticked : Camera.machine.Reachable (captured 1280 720) :=
    reached.take (.tick 7 .Pulse fun _ _ _ => 0) trivial rfl
  have written : (captured 1280 720).writes =
      [⟨(TestPattern.Pulse.write 1280 720 fun _ _ _ => 0).map List.length,
        [⟨307200, 1⟩, ⟨76800, 2⟩, ⟨76800, 3⟩]⟩] := rfl
  obtain ⟨size, -, bytes, sized⟩ := fit _ ticked _ (written ▸ mem_cons_self)
  rw [write_lengths (by decide : (1280, 720) ∈ SUPPORTED_SIZES)] at bytes
  exact absurd (bytes.trans sized.symm) (by decide)

end Ika.EmulatedCamera
