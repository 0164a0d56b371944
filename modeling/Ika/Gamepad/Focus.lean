import Ika.Foundation.Machine
import Ika.Gamepad.Spec

/-! The filter of `gamepad_focus.c`, which passes the host's gamepads to the device while the window
has the focus.

The warning about one gamepad too many is left out.
-/

set_option autoImplicit false

namespace Ika.Gamepad.Focus

open Transition List Function

structure HostGamepad where
  id : UInt32
  name : Option CString

inductive Message where
  | added (gamepad : HostGamepad)
  | removed (id : UInt32)
  | input (id : UInt32) (event : Event)

def maxGamepads : Nat := 8

/-- `out` is what the device's processor was given, the oldest first. -/
structure GamepadFocus where
  takesStick : Bool
  gamepads : Nat → HostGamepad := fun _ => ⟨0, none⟩
  count : Nat := 0
  focused : Bool
  out : List Message := []

namespace GamepadFocus

variable (gf : GamepadFocus)

def add (i : Nat) : GamepadFocus := {gf with out := gf.out ++ [.added (gf.gamepads i)]}

def remove (i : Nat) : GamepadFocus := {gf with out := gf.out ++ [.removed (gf.gamepads i).id]}

def find (id : UInt32) : Option Nat := (List.range gf.count).find? fun i => (gf.gamepads i).id = id

def processAdded (event : HostGamepad) : GamepadFocus :=
  if (gf.find event.id).isSome then gf
  else if gf.count = maxGamepads then gf
  else
    let i := gf.count
    let gf := {gf with count := i + 1, gamepads := update gf.gamepads i event}
    if gf.focused then gf.add i else gf

/-- `gamepads[j - 1] = gamepads[j]` for each `j` after `i`. -/
def shift (gamepads : Nat → HostGamepad) (i count : Nat) : Nat → HostGamepad :=
  (List.range' (i + 1) (count - (i + 1))).foldl
    (fun gamepads j => update gamepads (j - 1) (gamepads j)) gamepads

def processRemoved (id : UInt32) : GamepadFocus :=
  match gf.find id with
  | none => gf
  | some i =>
    let gf := if gf.focused then gf.remove i else gf
    {gf with gamepads := shift gf.gamepads i gf.count, count := gf.count - 1}

def processInput (id : UInt32) (event : Event) : GamepadFocus :=
  if gf.focused && (gf.find id).isSome then {gf with out := gf.out ++ [.input id event]} else gf

def setFocused (focused : Bool) : GamepadFocus :=
  if gf.focused = focused then gf
  else (List.range gf.count).foldl (fun gf i => if focused then gf.add i else gf.remove i)
    {gf with focused}

end GamepadFocus

inductive Call where
  | process (message : Message)
  | setFocused (focused : Bool)

/-- `process_gamepad_stick` is NULL unless the device's processor has it. -/
def GamepadFocus.call (gf : GamepadFocus) : Call → Option GamepadFocus
  | .process (.added event) => some (gf.processAdded event)
  | .process (.removed id) => some (gf.processRemoved id)
  | .process (.input id (.stick stick x y)) =>
    if gf.takesStick then some (gf.processInput id (.stick stick x y)) else none
  | .process (.input id event) => some (gf.processInput id event)
  | .setFocused focused => some (gf.setFocused focused)

def init (takesStick followFocus : Bool) : GamepadFocus := {takesStick, focused := !followFocus}

def machine (takesStick followFocus : Bool) : Machine GamepadFocus Call where
  init gf := gf = init takesStick followFocus
  step := GamepadFocus.call

def known (gamepads : List HostGamepad) (id : UInt32) : Bool := gamepads.any (·.id = id)

def without (gamepads : List HostGamepad) (id : UInt32) : List HostGamepad :=
  gamepads.eraseP (·.id = id)

/-- The device's gamepads after a message; `none` if the message does not match them. -/
def deliver (gamepads : List HostGamepad) : Message → Option (List HostGamepad)
  | .added gamepad => if known gamepads gamepad.id then none else some (gamepads ++ [gamepad])
  | .removed id => if known gamepads id then some (without gamepads id) else none
  | .input id _ => if known gamepads id then some gamepads else none

structure Host where
  connected : List HostGamepad := []
  focused : Bool

def Host.call (host : Host) : Call → Host
  | .process (.added gamepad) =>
    if known host.connected gamepad.id ∨ host.connected.length = maxGamepads then host
    else {host with connected := host.connected ++ [gamepad]}
  | .process (.removed id) => {host with connected := without host.connected id}
  | .process (.input _ _) => host
  | .setFocused focused => {host with focused}

def Host.shown (host : Host) : List HostGamepad := if host.focused then host.connected else []

def GamepadFocus.connected (gf : GamepadFocus) : List HostGamepad :=
  (List.range gf.count).map gf.gamepads

structure Tracks (gf : GamepadFocus) (host : Host) : Prop where
  connected : gf.connected = host.connected
  focused : gf.focused = host.focused
  distinct : (host.connected.map (·.id)).Nodup
  few : host.connected.length ≤ maxGamepads
  shown : gf.out.foldlM deliver [] = some host.shown

theorem shift_eq (gamepads : Nat → HostGamepad) (i steps : Nat) :
    (List.range' (i + 1) steps).foldl
        (fun gamepads j => update gamepads (j - 1) (gamepads j)) gamepads =
      fun k => if i ≤ k ∧ k < i + steps then gamepads (k + 1) else gamepads k := by
  induction steps with
  | zero =>
    funext k
    rw [if_neg (by omega)]
    rfl
  | succ steps ih =>
    rw [range'_1_concat, foldl_append, ih]
    funext k
    simp only [foldl_cons, foldl_nil, update_apply]
    grind

theorem map_shift {i : Nat} (gamepads : Nat → HostGamepad) {count : Nat} (within : i < count) :
    (List.range (count - 1)).map (GamepadFocus.shift gamepads i count) =
      ((List.range count).map gamepads).eraseIdx i := by
  unfold GamepadFocus.shift
  rw [shift_eq]
  apply ext_getElem
  · simp [length_eraseIdx, within]
  · intro k left _
    simp only [length_map, length_range] at left
    simp only [getElem_map, getElem_range, getElem_eraseIdx]
    grind

variable {gf after : GamepadFocus} {host next : Host} (id : UInt32)

theorem find_eq : gf.find id = gf.connected.findIdx? fun gamepad => gamepad.id = id := by
  unfold GamepadFocus.find
  symm
  cases found : (List.range gf.count).find? fun i => decide ((gf.gamepads i).id = id) with
  | none =>
    rw [find?_range_eq_none] at found
    simpa [GamepadFocus.connected] using found
  | some i =>
    rw [find?_range_eq_some] at found
    rw [findIdx?_eq_some_iff_getElem]
    simpa [GamepadFocus.connected, and_assoc, and_left_comm] using found

namespace Tracks

section

variable (tracks : Tracks gf host)
include tracks

theorem isSome_find : (gf.find id).isSome = known host.connected id := by
  rw [find_eq, tracks.connected, findIdx?_isSome]
  rfl

theorem pass (message : Message)
    (connected : after.connected = next.connected) (focused : after.focused = gf.focused)
    (same : next.focused = host.focused) (distinct : (next.connected.map (·.id)).Nodup)
    (few : next.connected.length ≤ maxGamepads)
    (out : after.out = if gf.focused then gf.out ++ [message] else gf.out)
    (delivered : deliver host.connected message = some next.connected) : Tracks after next := by
  refine ⟨connected, focused.trans (tracks.focused.trans same.symm), distinct, few, ?_⟩
  have shown := tracks.shown
  rw [Host.shown, ← tracks.focused] at shown
  rw [out, Host.shown, same, ← tracks.focused]
  cases focus : gf.focused with
  | false => simpa [focus] using shown
  | true =>
    rw [focus] at shown
    simp only [if_true] at shown ⊢
    simp [shown, delivered]

theorem processAdded (event : HostGamepad) :
    Tracks (gf.processAdded event) (host.call (.process (.added event))) := by
  have length : gf.count = host.connected.length := by
    simp [← tracks.connected, GamepadFocus.connected]
  simp only [GamepadFocus.processAdded, Host.call, tracks.isSome_find, length]
  by_cases used : known host.connected event.id = true
  · simpa [used] using tracks
  by_cases full : host.connected.length = maxGamepads
  · simpa [used, full] using tracks
  have fresh : event.id ∉ host.connected.map (·.id) := by
    simpa [known] using used
  have accepted : ¬(known host.connected event.id = true ∨ host.connected.length = maxGamepads) :=
    not_or.2 ⟨used, full⟩
  rw [if_neg used, if_neg full, if_neg accepted]
  apply tracks.pass (.added event)
  · -- the array is as it was below the new entry
    have below : (List.range gf.count).map (update gf.gamepads gf.count event) =
        gf.connected := by
      apply map_congr_left
      intro i mem
      exact update_of_ne (Nat.ne_of_lt (mem_range.1 mem)) _ _
    rw [← length, ← tracks.connected, ← below]
    split <;> simp [GamepadFocus.add, GamepadFocus.connected, range_succ]
  · split <;> rfl
  · rfl
  · rw [map_append, nodup_append]
    exact ⟨tracks.distinct, by simp, by grind⟩
  · have few := tracks.few
    rw [length_append, length_singleton]
    omega
  · split <;> simp [GamepadFocus.add]
  · simp [deliver, used]

theorem processRemoved : Tracks (gf.processRemoved id) (host.call (.process (.removed id))) := by
  have erased := @eraseP_eq_eraseIdx _ host.connected (fun gamepad => gamepad.id = id)
  have isSome := tracks.isSome_find id
  have listed := @find_eq gf id
  rw [tracks.connected] at listed
  rw [← listed] at erased
  unfold GamepadFocus.processRemoved
  cases found : gf.find id with
  | none =>
    rw [found] at erased
    rw [Host.call, without, erased]
    exact tracks
  | some i =>
    rw [found] at erased isSome
    unfold GamepadFocus.find at found
    have within := mem_range.1 (mem_of_find?_eq_some found)
    have fewer : (without host.connected id).Sublist host.connected := eraseP_sublist
    dsimp only
    apply tracks.pass (.removed id)
    · refine Eq.trans ?_ ((map_shift gf.gamepads within).trans ?_)
      · split <;> rfl
      · exact (congrArg (·.eraseIdx i) tracks.connected).trans erased.symm
    · split <;> rfl
    · rfl
    · exact (fewer.map _).nodup tracks.distinct
    · exact Nat.le_trans fewer.length_le tracks.few
    · have same : (gf.gamepads i).id = id := by simpa using find?_some found
      split <;> simp [GamepadFocus.remove, same]
    · simp [deliver, ← isSome, Host.call]

theorem processInput (event : Event) : Tracks (gf.processInput id event) host := by
  unfold GamepadFocus.processInput
  rw [tracks.isSome_find]
  cases present : known host.connected id with
  | false => simpa using tracks
  | true =>
    apply tracks.pass (.input id event)
    · rw [← tracks.connected]
      split <;> rfl
    · split <;> rfl
    · rfl
    · exact tracks.distinct
    · exact tracks.few
    · rw [Bool.and_true]
      split <;> rfl
    · simp [deliver, present]

end

end Tracks

/-- What a change of the focus says of a gamepad. -/
def change (focused : Bool) (gamepad : HostGamepad) : Message :=
  if focused then .added gamepad else .removed gamepad.id

theorem foldl_change (focused : Bool) (is : List Nat) :
    is.foldl (fun gf i => if focused then gf.add i else gf.remove i) gf =
      {gf with out := gf.out ++ (is.map gf.gamepads).map (change focused)} := by
  induction is generalizing gf with
  | nil => simp
  | cons i is ih =>
    rw [foldl_cons, ih]
    cases focused <;> simp [GamepadFocus.add, GamepadFocus.remove, change]

theorem deliver_added (before gamepads : List HostGamepad)
    (distinct : ((before ++ gamepads).map (·.id)).Nodup) :
    (gamepads.map (change true)).foldlM deliver before = some (before ++ gamepads) := by
  induction gamepads generalizing before with
  | nil => simp
  | cons gamepad rest ih =>
    have fresh : known before gamepad.id = false := by
      simp only [map_append, map_cons, nodup_append] at distinct
      simp only [known, any_eq_false, decide_eq_true_eq]
      intro other mem
      exact distinct.2.2 _ (mem_map_of_mem mem) _ mem_cons_self
    have step := ih (before ++ [gamepad]) (by simpa using distinct)
    simpa [change, deliver, fresh] using step

theorem deliver_removed (gamepads : List HostGamepad) :
    (gamepads.map (change false)).foldlM deliver gamepads = some [] := by
  induction gamepads with
  | nil => rfl
  | cons gamepad rest ih => simpa [change, deliver, known, without] using ih

theorem Tracks.setFocused (tracks : Tracks gf host) (focused : Bool) :
    Tracks (gf.setFocused focused) (host.call (.setFocused focused)) := by
  have shown := tracks.shown
  unfold GamepadFocus.setFocused
  split
  · next same =>
    refine ⟨tracks.connected, same, tracks.distinct, tracks.few, ?_⟩
    rw [shown, Host.shown, Host.shown, ← tracks.focused, same]
    rfl
  · next other =>
    rw [foldl_change]
    refine ⟨tracks.connected, rfl, tracks.distinct, tracks.few, ?_⟩
    have connected : (List.range gf.count).map gf.gamepads = host.connected := tracks.connected
    rw [Host.shown, ← tracks.focused] at shown
    dsimp only [Host.shown, Host.call]
    rw [connected, foldlM_append, shown]
    cases focused with
    | true =>
      rw [eq_false_of_ne_true other]
      exact deliver_added [] host.connected tracks.distinct
    | false =>
      rw [eq_true_of_ne_false other]
      exact deliver_removed host.connected

theorem Tracks.call (tracks : Tracks gf host) {call : Call} (returned : gf.call call = some after) :
    Tracks after (host.call call) := by
  cases call with
  | setFocused focused =>
    cases returned
    exact tracks.setFocused focused
  | process message =>
    cases message with
    | added event =>
      cases returned
      exact tracks.processAdded event
    | removed id =>
      cases returned
      exact tracks.processRemoved id
    | input id event =>
      have taken : gf.processInput id event = after := by
        cases event with
        | button | axis => exact Option.some.inj returned
        | stick =>
          simp only [GamepadFocus.call] at returned
          split at returned
          · exact Option.some.inj returned
          · cases returned
      exact taken ▸ tracks.processInput id event

theorem Tracks.run (tracks : Tracks gf host) {takesStick followFocus : Bool} {calls : List Call}
    (ran : (machine takesStick followFocus).run gf calls = some after) :
    Tracks after (calls.foldl Host.call host) := by
  induction calls generalizing gf host with
  | nil =>
    cases ran
    exact tracks
  | cons call rest ih =>
    obtain ⟨between, returned, ran⟩ := Option.bind_eq_some_iff.1 ran
    exact ih (tracks.call returned) ran

/-- The messages given to the device match its gamepads, which are the connected ones or none
without the focus. -/
theorem downstream_tracks {takesStick followFocus : Bool} {calls : List Call}
    (ran : (machine takesStick followFocus).run (init takesStick followFocus) calls = some gf) :
    let host := calls.foldl Host.call {focused := !followFocus}
    gf.out.foldlM deliver [] = some (if host.focused then host.connected else []) ∧
      gf.connected = host.connected ∧ (host.connected.map (·.id)).Nodup ∧
      host.connected.length ≤ maxGamepads := by
  have first : Tracks (init takesStick followFocus) {focused := !followFocus} := by
    refine ⟨rfl, rfl, nodup_nil, Nat.zero_le _, ?_⟩
    cases followFocus <;> rfl
  have tracks := first.run ran
  exact ⟨tracks.shown, tracks.connected, tracks.distinct, tracks.few⟩

/-- Two gamepads come and go, and so does the focus. -/
def hotplug : List Call := [
  .process (.added ⟨4, none⟩), .setFocused true, .process (.added ⟨5, none⟩),
  .process (.added ⟨4, none⟩), .process (.input 4 (.stick .left 1 2)), .process (.removed 4),
  .process (.input 4 (.button .south true)), .setFocused false, .process (.added ⟨6, none⟩),
  .setFocused true]

theorem downstream_tracks_hotplug :
    ∃ gf, (machine true true).run (init true true) hotplug = some gf ∧
      gf.out = [.added ⟨4, none⟩, .added ⟨5, none⟩, .input 4 (.stick .left 1 2), .removed 4,
        .removed 5, .added ⟨5, none⟩, .added ⟨6, none⟩] ∧
      gf.out.foldlM deliver [] = some [⟨5, none⟩, ⟨6, none⟩] :=
  ⟨_, rfl, rfl, (@downstream_tracks _ true true hotplug rfl).1⟩

end Ika.Gamepad.Focus
