import Ika.Foundation.OpenAddressing
import Ika.Foundation.Machine

/-! The hash tables in which the layer follows pipeline layouts, pipelines and command buffers. -/

set_option autoImplicit false

namespace Ika.DznFix

open OpenAddressing Option

def PC_RANGES : Nat := 4

def PC_BYTES : Nat := 256

def PC_LAYOUTS : Nat := 4096

def PC_PIPELINES : Nat := 16384

def PC_CMDBUFS : Nat := 4096

structure VkPushConstantRange where
  stageFlags : UInt32
  offset : Nat
  size : Nat
  deriving DecidableEq

inductive BindPoint where
  | graphics
  | compute
  deriving DecidableEq

/-- What a command buffer pushed, and the layouts bound on its points. `end` is 0 before a push. -/
structure PcCmdbuf where
  bound : BindPoint → Nat
  «end» : Nat
  bytes : Nat → UInt8

def home (key : Nat) : Nat := key / 8

/-- The slot for a key, or with `add` a free one. -/
def pc_slot {Value : Type} (size : Nat) (table : Table Value) (key : Nat) (add : Bool) :
    Option Nat :=
  if add then place home size table key else find home size table key

def pc_remove {Value : Type} (size : Nat) (table : Table Value) (key : Nat) : Table Value :=
  match pc_slot size table key false with
  | none => table
  | some slot => remove table slot

def sum32 (first second : Nat) : Nat := (first + second) % 2 ^ 32

/-- Only layouts with ranges that the layer can push again have an entry. -/
def layer_CreatePipelineLayout (pc_layouts : Table (List VkPushConstantRange)) (layout : Nat)
    (ranges : List VkPushConstantRange) : Table (List VkPushConstantRange) :=
  if ranges = [] ∨ PC_RANGES < ranges.length then pc_layouts
  else if ranges.any fun range => PC_BYTES < sum32 range.offset range.size then pc_layouts
  else
    match pc_slot PC_LAYOUTS pc_layouts layout true with
    | none => pc_layouts
    | some slot => write pc_layouts slot layout ranges

def layer_DestroyPipelineLayout (pc_layouts : Table (List VkPushConstantRange)) (layout : Nat) :
    Table (List VkPushConstantRange) :=
  if layout = 0 then pc_layouts else pc_remove PC_LAYOUTS pc_layouts layout

/-- Pipelines with their layouts; those that were not made are 0. -/
def pc_add_pipelines (pc_pipelines : Table Nat) (made : List (Nat × Nat)) : Table Nat :=
  made.foldl (fun table pipeline =>
    if pipeline.1 = 0 ∨ pipeline.2 = 0 then table
    else
      match pc_slot PC_PIPELINES table pipeline.1 true with
      | none => table
      | some slot => write table slot pipeline.1 pipeline.2) pc_pipelines

def layer_DestroyPipeline (pc_pipelines : Table Nat) (pipeline : Nat) : Table Nat :=
  if pipeline = 0 then pc_pipelines else pc_remove PC_PIPELINES pc_pipelines pipeline

section

variable {Value : Type} {size : Nat} {table : Table Value} {key : Nat}

variable {other : Nat} {add : Bool} {slot : Nat} (value : Value)

theorem placed_empty : Placed home size fun _ => {key := 0, value} where
  met _ _ used := absurd used (Nat.not_lt_zero 1)
  once _ _ _ _ used := absurd used (Nat.not_lt_zero 1)

theorem lookup_empty (entry : 1 < key) : lookup home size (fun _ => {key := 0, value}) key = none :=
  (lookup_eq_none_iff (placed_empty value) entry).mpr fun _ _ zero => by
    change 0 = key at zero
    omega

section

variable (placed : Placed home size table)
include placed

theorem placed_pc_remove (key : Nat) : Placed home size (pc_remove size table key) := by
  unfold pc_remove
  cases pc_slot size table key false with
  | none => exact placed
  | some slot => exact placed.remove slot

theorem slot_isSome (entry : 1 < key)
    (room : count size table < size ∨ (lookup home size table key).isSome) :
    ∃ slot, pc_slot size table key true = some slot :=
  isSome_iff_exists.mp (place_isSome placed entry room)

theorem slot_eq_none (entry : 1 < key)
    (full : count size table = size) (absent : lookup home size table key = none) :
    pc_slot size table key true = none :=
  place_eq_none placed entry full absent

theorem lookup_pc_remove (entry : 1 < key) (used : 1 < other) :
    lookup home size (pc_remove size table key) other =
      if other = key then none else lookup home size table other := by
  unfold pc_remove
  cases found : pc_slot size table key false with
  | none =>
    split_ifs with same
    · subst same
      change find home size table other = none at found
      rw [lookup, found, map_none]
    · rfl
  | some slot =>
    obtain ⟨within, held⟩ := (find_eq_some_iff placed entry).mp found
    exact held ▸ lookup_remove placed used within

theorem fits_slot (entry : 1 < key)
    (found : pc_slot size table key add = some slot) : Fits home size table key slot := by
  cases add with
  | true => exact Fits.of_place placed entry found
  | false => exact Fits.of_find placed entry found

theorem lookup_written (entry : 1 < key)
    (found : pc_slot size table key add = some slot) (value : Value) (used : 1 < other) :
    lookup home size (write table slot key value) other =
      if other = key then some value else lookup home size table other := by
  have fits := fits_slot placed entry found
  split_ifs with same
  · exact same ▸ lookup_write placed entry fits value
  · exact lookup_write_other placed entry fits value used same

end

theorem lookup_eq_some {value : Value} (held : lookup home size table key = some value) :
    ∃ slot, pc_slot size table key false = some slot ∧ (table slot).value = value :=
  map_eq_some_iff.mp held

theorem lookup_eq_none (absent : lookup home size table key = none) :
    pc_slot size table key false = none :=
  map_eq_none_iff.mp absent

end

/-!
Push constants between an application and the driver below the layer.

A call of the layer is a locked part on the shared tables and calls of the driver before or behind
it, between which other threads may run.
-/

open Function

/-- What the driver knows of pipelines and layouts, and whom a push with some stages is for. -/
structure Driver where
  layoutOf : Nat → Nat
  rangesOf : Nat → List VkPushConstantRange
  reaches : UInt32 → BindPoint → Bool
  more : ∀ stages all point, stages &&& all = stages → reaches stages point → reaches all point

/-- Root constants of a bind point; a byte that is `none` is undefined, and layout 0 is no pipeline.
-/
structure Root where
  layout : Nat
  values : Nat → Option UInt8
  pushed : Nat → Option UInt8

namespace Root

def start : Root := {layout := 0, values := fun _ => none, pushed := fun _ => none}

def bind (root : Root) (layout : Nat) : Root :=
  if root.layout = layout then root else {root with layout, values := fun _ => none}

def push (root : Root) (offset : Nat) (bytes : List UInt8) : Root :=
  {root with
    pushed := fun byte =>
      if offset ≤ byte ∧ byte < offset + bytes.length then bytes[byte - offset]?
      else root.pushed byte}

def seen (root : Root) (byte : Nat) : Option UInt8 := (root.pushed byte).or (root.values byte)

def upload (root : Root) : Root := {root with values := root.seen, pushed := fun _ => none}

end Root

inductive Pass where
  | begin
  | push (stages : UInt32) (offset : Nat) (bytes : List UInt8)

def Driver.pass (driver : Driver) (roots : BindPoint → Root) : Pass → BindPoint → Root
  | .begin => fun _ => .start
  | .push stages offset bytes => fun point =>
    if driver.reaches stages point then (roots point).push offset bytes else roots point

def Driver.passAll (driver : Driver) (roots : BindPoint → Root) (calls : List Pass) :
    BindPoint → Root :=
  calls.foldl driver.pass roots

inductive Doing where
  | passing (calls : List Pass)
  | locking (point : BindPoint) (pipeline : Nat)

structure Buffer where
  doing : Doing
  roots : BindPoint → Root
  recording : Bool
  last : Nat → Option UInt8

structure Draw where
  point : BindPoint
  layout : Nat
  seen : Nat → Option UInt8
  last : Nat → Option UInt8

structure State where
  pc_cmdbufs : Table PcCmdbuf
  buffers : Nat → Buffer
  draws : List Draw

structure Objects where
  driver : Driver
  pc_layouts : Table (List VkPushConstantRange)
  pc_pipelines : Table Nat

inductive Event where
  | begin (cb : Nat)
  | push (cb : Nat) (stages : UInt32) (offset : Nat) (values : List UInt8)
  | bind (cb : Nat) (point : BindPoint) (pipeline : Nat)
  | lock (cb : Nat)
  | pass (cb : Nat)
  | draw (cb : Nat) (point : BindPoint)
  | free (cb : Nat)

namespace State

def setBuffer (state : State) (cb : Nat) (buffer : Buffer) : State :=
  {state with buffers := update state.buffers cb buffer}

def setSlot (state : State) (slot cb : Nat) (entry : PcCmdbuf) : State :=
  {state with pc_cmdbufs := write state.pc_cmdbufs slot cb entry}

def layer_BeginCommandBuffer (state : State) (cb : Nat) : State :=
  match pc_slot PC_CMDBUFS state.pc_cmdbufs cb true with
  | none => state
  | some slot =>
    state.setSlot slot cb
      {bound := fun _ => 0, «end» := 0, bytes := (state.pc_cmdbufs slot).value.bytes}

def store (entry : PcCmdbuf) (offset : Nat) (values : List UInt8) : PcCmdbuf :=
  {entry with
    bytes := fun byte =>
      if offset ≤ byte ∧ byte < offset + values.length then
        values.getD (byte - offset) (entry.bytes byte)
      else entry.bytes byte
    «end» :=
      if entry.end < sum32 offset values.length then sum32 offset values.length else entry.end}

def layer_CmdPushConstants (state : State) (cb offset : Nat) (values : List UInt8) : State :=
  if sum32 offset values.length ≤ PC_BYTES then
    match pc_slot PC_CMDBUFS state.pc_cmdbufs cb false with
    | none => state
    | some slot => state.setSlot slot cb (store (state.pc_cmdbufs slot).value offset values)
  else state

def pushAgain (bytes : Nat → UInt8) (range : VkPushConstantRange) : Pass :=
  .push range.stageFlags range.offset
    ((List.range range.size).map fun byte => bytes (range.offset + byte))

def layer_CmdBindPipeline (state : State) (objects : Objects) (cb : Nat) (point : BindPoint)
    (pipeline : Nat) : State × List Pass :=
  match pc_slot PC_PIPELINES objects.pc_pipelines pipeline false,
    pc_slot PC_CMDBUFS state.pc_cmdbufs cb false with
  | some p, some c =>
    let layout := (objects.pc_pipelines p).value
    let entry := (state.pc_cmdbufs c).value
    if entry.bound point = layout then (state, [])
    else
      -- Only a change from another layout resets the root constants of the driver.
      let ranges :=
        if entry.bound point ≠ 0 ∧ entry.end ≠ 0 then
          match pc_slot PC_LAYOUTS objects.pc_layouts layout false with
          | none => []
          | some l => (objects.pc_layouts l).value
        else []
      (state.setSlot c cb {entry with bound := update entry.bound point layout},
        ranges.map (pushAgain entry.bytes))
  | _, _ => (state, [])

def layer_FreeCommandBuffers (state : State) (cb : Nat) : State :=
  {state with pc_cmdbufs := pc_remove PC_CMDBUFS state.pc_cmdbufs cb}

/-- The state of a command buffer for which no call is being made. -/
def idle (state : State) (cb : Nat) : Option Buffer :=
  match (state.buffers cb).doing with
  | .passing [] => some (state.buffers cb)
  | _ => none

def lock (objects : Objects) (state : State) (cb : Nat) : Option State :=
  match (state.buffers cb).doing with
  | .locking point pipeline =>
    let (after, calls) := state.layer_CmdBindPipeline objects cb point pipeline
    some (after.setBuffer cb {state.buffers cb with doing := .passing calls})
  | .passing _ => none

def pass (objects : Objects) (state : State) (cb : Nat) : Option State :=
  match (state.buffers cb).doing with
  | .passing (call :: calls) =>
    some (state.setBuffer cb
      { state.buffers cb with
        doing := .passing calls
        roots := objects.driver.pass (state.buffers cb).roots call})
  | _ => none

def step (objects : Objects) (state : State) : Event → Option State
  | .begin cb => do
    let buffer ← state.idle cb
    (state.layer_BeginCommandBuffer cb).setBuffer cb
      {buffer with doing := .passing [.begin], recording := true, last := fun _ => none}
  | .push cb stages offset values => do
    let buffer ← state.idle cb
    (state.layer_CmdPushConstants cb offset values).setBuffer cb
      {buffer with
        doing := .passing [.push stages offset values]
        last := fun byte =>
          if offset ≤ byte ∧ byte < offset + values.length then values[byte - offset]?
          else buffer.last byte}
  | .bind cb point pipeline => do
    let buffer ← state.idle cb
    state.setBuffer cb
      {buffer with
        doing := .locking point pipeline
        roots := update buffer.roots point
          ((buffer.roots point).bind (objects.driver.layoutOf pipeline))}
  | .lock cb => state.lock objects cb
  | .pass cb => state.pass objects cb
  | .draw cb point => do
    let buffer ← state.idle cb
    -- There is nothing to draw with before a pipeline is bound.
    if (buffer.roots point).layout = 0 then none
    else
      some { state.setBuffer cb
          {buffer with
            roots := update buffer.roots point (buffer.roots point).upload} with
        draws := state.draws ++
          [{ point, layout := (buffer.roots point).layout, seen := (buffer.roots point).seen,
             last := buffer.last}]}
  | .free cb => do
    let buffer ← state.idle cb
    (state.layer_FreeCommandBuffers cb).setBuffer cb {buffer with recording := false}

/-- Every draw sees what was pushed last of the bytes in its layout's ranges. -/
def Sound (objects : Objects) (state : State) : Prop :=
  ∀ draw ∈ state.draws, ∀ range ∈ objects.driver.rangesOf draw.layout,
    objects.driver.reaches range.stageFlags draw.point →
      ∀ byte, range.offset ≤ byte → byte < range.offset + range.size →
        ∀ value, draw.last byte = some value → draw.seen byte = some value

end State

open Transition

/-- Nothing is recorded yet, and the tables of static storage are zero. -/
def machine (objects : Objects) : Machine State Event where
  init state :=
    (∀ slot, (state.pc_cmdbufs slot).key = 0) ∧
      (∀ cb, (state.buffers cb).doing = .passing [] ∧ (state.buffers cb).recording = false) ∧
        state.draws = []
  step := State.step objects

/-- A pipeline of which the layer and the driver know the same. -/
structure Tracked (objects : Objects) (ranges : List VkPushConstantRange) (pipeline : Nat) :
    Prop where
  known : lookup home PC_PIPELINES objects.pc_pipelines pipeline =
    some (objects.driver.layoutOf pipeline)
  layout : objects.driver.layoutOf pipeline ≠ 0
  alike :
    objects.driver.rangesOf (objects.driver.layoutOf pipeline) = [] ∧
        lookup home PC_LAYOUTS objects.pc_layouts (objects.driver.layoutOf pipeline) = none ∨
      objects.driver.rangesOf (objects.driver.layoutOf pipeline) = ranges ∧
        lookup home PC_LAYOUTS objects.pc_layouts (objects.driver.layoutOf pipeline) = some ranges

/-- Handles are addresses, commands follow the begin, and pushes keep to their ranges and stages. -/
def Proper (objects : Objects) (ranges : List VkPushConstantRange) (state : State) : Event → Prop
  | .begin cb => 1 < cb
  | .push cb stages offset values =>
    (state.buffers cb).recording = true ∧ offset + values.length ≤ PC_BYTES ∧
      ∀ range ∈ ranges, range.offset < offset + values.length →
        offset < range.offset + range.size → range.stageFlags &&& stages = range.stageFlags
  | .bind cb _ pipeline => (state.buffers cb).recording = true ∧ Tracked objects ranges pipeline
  | .draw cb _ => (state.buffers cb).recording = true
  | .free cb => 1 < cb
  | .lock _ => True
  | .pass _ => True

def Room (state : State) : Event → Prop
  | .begin cb =>
    count PC_CMDBUFS state.pc_cmdbufs < PC_CMDBUFS ∨
      (lookup home PC_CMDBUFS state.pc_cmdbufs cb).isSome
  | _ => True

end Ika.DznFix
