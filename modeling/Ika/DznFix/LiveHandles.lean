import Ika.DznFix.Layer

/-! The tables of the layer beside the objects that live.

What Vulkan allows is checked at each call: a handle is new to the objects of its kind, and only
those of an object are used or destroyed.
-/

set_option autoImplicit false

namespace Ika.DznFix

open OpenAddressing Transition Function Option Finset

def ALIAS_TABLE_SIZE : Nat := 4096

def alias_add (alias_images : Table Unit) (image : Nat) : Table Unit :=
  let slots := (List.range ALIAS_TABLE_SIZE).map (position home ALIAS_TABLE_SIZE image)
  match slots.find? fun slot => (alias_images slot).key ≤ 1 ∨ (alias_images slot).key = image with
  | none => alias_images
  | some slot => write alias_images slot image ()

def alias_find_locked (alias_images : Table Unit) (image : Nat) : Option Nat :=
  pc_slot ALIAS_TABLE_SIZE alias_images image false

def alias_contains (alias_images : Table Unit) (image : Nat) : Bool :=
  (alias_find_locked alias_images image).isSome

def layer_DestroyImage (alias_images : Table Unit) (image : Nat) : Table Unit :=
  if image = 0 then alias_images else pc_remove ALIAS_TABLE_SIZE alias_images image

/-- The objects of a kind, and what the layer stored last for each that it follows. -/
structure Live (Value : Type) where
  handles : Finset Nat := ∅
  stored : Nat → Option Value := fun _ => none

namespace Live

variable {Value : Type} (live : Live Value)

def new (handles : List Nat) : Live Value :=
  {live with handles := handles.toFinset ∪ live.handles}

def put (handle : Nat) (value : Value) : Live Value :=
  {live with stored := update live.stored handle (some value)}

def drop (handle : Nat) : Live Value where
  handles := live.handles.erase handle
  stored := update live.stored handle none

variable {handle other : Nat}

@[simp] theorem stored_put {value : Value} :
    (live.put handle value).stored other =
      if other = handle then some value else live.stored other :=
  update_apply ..

@[simp] theorem stored_drop :
    (live.drop handle).stored other = if other = handle then none else live.stored other :=
  update_apply ..

/-- What Vulkan says of new handles, and that no more objects live than the table has slots. -/
def New (size : Nat) (handles : List Nat) : Prop :=
  (∀ handle ∈ handles, 1 < handle ∧ handle ∉ live.handles) ∧ (live.new handles).handles.card ≤ size

def Has (handle : Nat) : Prop := handle = 0 ∨ handle ∈ live.handles

end Live

/-- The entries of a table are those of the objects that live, with what was stored last. -/
structure Exact {Value : Type} (size : Nat) (table : Table Value) (live : Live Value) : Prop where
  placed : Placed home size table
  lookup : ∀ key, 1 < key → lookup home size table key = live.stored key
  known : ∀ key, (live.stored key).isSome → key ∈ live.handles
  handles : ∀ key ∈ live.handles, 1 < key
  few : live.handles.card ≤ size

namespace Exact

variable {Value : Type} {size : Nat} {table : Table Value} {live : Live Value} {key : Nat}

section

variable (exact : Exact size table live)
include exact

theorem listed {slot : Nat} (within : slot < size)
    (used : 1 < (table slot).key) : (live.stored (table slot).key).isSome := by
  rw [← exact.lookup _ used, isSome_iff_ne_none]
  intro absent
  exact (lookup_eq_none_iff exact.placed used).1 absent slot within rfl

section

variable (here : key ∈ live.handles)
include here

theorem room (absent : live.stored key = none) : count size table < size := by
  have inside : ∀ slot ∈ (Finset.range size).filter (fun slot => 1 < (table slot).key),
      (table slot).key ∈ live.handles.erase key := by
    intro slot mem
    obtain ⟨within, used⟩ := mem_filter.1 mem
    have stored := exact.listed (mem_range.1 within) used
    refine mem_erase.2 ⟨fun same => ?_, exact.known _ stored⟩
    rw [same, absent] at stored
    cases stored
  have fewer := card_le_card_of_injOn _ inside fun first one second two same => by
    obtain ⟨within, used⟩ := mem_filter.1 one
    obtain ⟨below, -⟩ := mem_filter.1 two
    exact exact.placed.once first (mem_range.1 within) second (mem_range.1 below)
      used same
  exact Nat.lt_of_lt_of_le (Nat.lt_of_le_of_lt fewer (card_erase_lt_of_mem here)) exact.few

theorem slot : ∃ slot, pc_slot size table key true = some slot := by
  have handle := exact.handles key here
  apply slot_isSome exact.placed handle
  rw [exact.lookup key handle]
  cases stored : live.stored key with
  | none => exact .inl (exact.room here stored)
  | some value => exact .inr rfl

theorem written {slot : Nat} (fits : Fits home size table key slot) (value : Value) :
    Exact size (write table slot key value) (live.put key value) where
  placed := fits.placed exact.placed (exact.handles key here) value
  lookup other used := by
    rw [Live.stored_put]
    split
    · next same =>
      rw [same, lookup_write exact.placed (exact.handles key here) fits value]
    · next apart =>
      rw [lookup_write_other exact.placed (exact.handles key here) fits value used apart,
        exact.lookup other used]
  known other stored := by
    rw [Live.stored_put] at stored
    split at stored
    · next same => exact same ▸ here
    · exact exact.known other stored
  handles := exact.handles
  few := exact.few

theorem put (value : Value) :
    Exact size
      (match pc_slot size table key true with
        | none => table
        | some slot => write table slot key value)
      (live.put key value) := by
  obtain ⟨slot, found⟩ := exact.slot here
  rw [found]
  exact exact.written here (fits_slot exact.placed (exact.handles key here) found) value

theorem found :
    pc_slot size table key false = none ∧ live.stored key = none ∨
      ∃ slot, pc_slot size table key false = some slot ∧
        live.stored key = some (table slot).value ∧ Fits home size table key slot := by
  have handle := exact.handles key here
  rw [← exact.lookup key handle]
  cases found : pc_slot size table key false with
  | none => exact .inl ⟨rfl, congrArg (Option.map _) found⟩
  | some slot =>
    exact .inr ⟨slot, rfl, congrArg (Option.map _) found, fits_slot exact.placed handle found⟩

end

theorem new {handles : List Nat} (new : live.New size handles) :
    Exact size table (live.new handles) where
  placed := exact.placed
  lookup := exact.lookup
  known key stored := mem_union_right _ (exact.known key stored)
  handles key mem := by
    rcases mem_union.1 mem with added | before
    · exact (new.1 key (List.mem_toFinset.1 added)).1
    · exact exact.handles key before
  few := new.2

theorem fewer {handles : Finset Nat}
    (subset : handles ⊆ live.handles) (known : ∀ key, (live.stored key).isSome → key ∈ handles) :
    Exact size table {live with handles} where
  placed := exact.placed
  lookup := exact.lookup
  known := known
  handles key mem := exact.handles key (subset mem)
  few := Nat.le_trans (card_le_card subset) exact.few

theorem drop (handle : key = 0 ∨ 1 < key) :
    Exact size (if key = 0 then table else pc_remove size table key)
      (if key = 0 then live else live.drop key) := by
  split
  · exact exact
  · next given =>
    have used := handle.resolve_left given
    constructor
    · exact placed_pc_remove exact.placed key
    · intro other entry
      rw [lookup_pc_remove exact.placed used entry, exact.lookup other entry, Live.stored_drop]
    · intro other stored
      rw [Live.stored_drop] at stored
      split at stored
      · cases stored
      · next apart => exact mem_erase.2 ⟨apart, exact.known other stored⟩
    · exact fun other mem => exact.handles other (mem_of_mem_erase mem)
    · exact Nat.le_trans (card_le_card (erase_subset ..)) exact.few

theorem handle (has : live.Has key) : key = 0 ∨ 1 < key :=
  has.imp_right (exact.handles key)

end

end Exact

theorem Exact.alias_add {alias_images : Table Unit} {live : Live Unit} {image : Nat}
    (exact : Exact ALIAS_TABLE_SIZE alias_images live) (here : image ∈ live.handles)
    (absent : live.stored image = none) :
    Exact ALIAS_TABLE_SIZE (alias_add alias_images image) (live.put image ()) := by
  have handle := exact.handles image here
  have nowhere := (lookup_eq_none_iff exact.placed handle).1
    ((exact.lookup image handle).trans absent)
  have room := exact.room here absent
  unfold DznFix.alias_add
  dsimp only
  rw [List.find?_map, comp_def]
  cases found : (List.range ALIAS_TABLE_SIZE).find? fun i =>
      decide ((alias_images (position home ALIAS_TABLE_SIZE image i)).key ≤ 1 ∨
        (alias_images (position home ALIAS_TABLE_SIZE image i)).key = image) with
  | none =>
    rw [List.find?_range_eq_none] at found
    refine absurd room (Nat.not_lt.2 (Nat.le_of_eq ?_))
    rw [count, filter_true_of_mem, card_range]
    intro slot mem
    obtain ⟨i, below, rfl⟩ :=
      @position_surjective home ALIAS_TABLE_SIZE image slot (mem_range.1 mem)
    have taken := found i below
    simp only [Bool.not_eq_true', decide_eq_false_iff_not, not_or] at taken
    exact Nat.not_le.1 taken.1
  | some i =>
    rw [List.find?_range_eq_some] at found
    obtain ⟨free, mem, before⟩ := found
    have below := List.mem_range.1 mem
    have apart := nowhere (position home ALIAS_TABLE_SIZE image i) (position_lt below)
    apply exact.written here
    constructor
    · exact position_lt below
    · refine ⟨i, below, rfl, fun j earlier empty => ?_⟩
      have taken := before j earlier
      simp [empty] at taken
    · exact .inr ⟨(of_decide_eq_true free).resolve_right apart, nowhere⟩

/-- The layer and the objects that live above it, with the pool of each command buffer. -/
structure World where
  objects : Objects
  state : State
  alias_images : Table Unit
  layouts : Live (List VkPushConstantRange) := {}
  pipelines : Live Nat := {}
  cmdbufs : Live PcCmdbuf := {}
  pool : Nat → Nat := fun _ => 0
  images : Live Unit := {}

/-- Creations that succeeded, and what changes the entries. -/
inductive Request where
  | createPipelineLayout (layout : Nat) (ranges : List VkPushConstantRange)
  | destroyPipelineLayout (layout : Nat)
  | createPipelines (succeeded : Bool) (made : List (Nat × Nat))
  | destroyPipeline (pipeline : Nat)
  | allocateCommandBuffers (pool : Nat) (cbs : List Nat)
  | beginCommandBuffer (cb : Nat)
  | cmdPushConstants (cb offset : Nat) (values : List UInt8)
  | cmdBindPipeline (cb : Nat) (point : BindPoint) (pipeline : Nat)
  | freeCommandBuffers (cbs : List Nat)
  | destroyCommandPool (pool : Nat)
  | createImage (image : Nat) (aliased : Bool)
  | destroyImage (image : Nat)

namespace World

variable (world : World)

def Valid : Request → Prop
  | .createPipelineLayout layout _ => world.layouts.New PC_LAYOUTS [layout]
  | .destroyPipelineLayout layout => world.layouts.Has layout
  | .createPipelines _ made =>
    world.pipelines.New PC_PIPELINES ((made.map Prod.fst).filter (· ≠ 0))
  | .destroyPipeline pipeline => world.pipelines.Has pipeline
  | .allocateCommandBuffers _ cbs => world.cmdbufs.New PC_CMDBUFS cbs
  | .beginCommandBuffer cb => cb ∈ world.cmdbufs.handles
  | .cmdPushConstants cb _ _ => cb ∈ world.cmdbufs.handles
  | .cmdBindPipeline cb _ pipeline =>
    cb ∈ world.cmdbufs.handles ∧ pipeline ∈ world.pipelines.handles
  | .freeCommandBuffers cbs => ∀ cb ∈ cbs, world.cmdbufs.Has cb
  | .destroyCommandPool _ => True
  | .createImage image _ => world.images.New ALIAS_TABLE_SIZE [image]
  | .destroyImage image => world.images.Has image

def Followed (ranges : List VkPushConstantRange) : Prop :=
  ranges ≠ [] ∧ ranges.length ≤ PC_RANGES ∧
    ∀ range ∈ ranges, sum32 range.offset range.size ≤ PC_BYTES
  deriving Decidable

/-- The entry after a begin: its bytes are what its slot had. -/
def begun (cb : Nat) : PcCmdbuf where
  bound _ := 0
  «end» := 0
  bytes := (pc_slot PC_CMDBUFS world.state.pc_cmdbufs cb true).elim (fun _ => 0) fun slot =>
    (world.state.pc_cmdbufs slot).value.bytes

def pushed (cb offset : Nat) (values : List UInt8) : Live PcCmdbuf :=
  match world.cmdbufs.stored cb with
  | none => world.cmdbufs
  | some entry =>
    if sum32 offset values.length ≤ PC_BYTES then
      world.cmdbufs.put cb (State.store entry offset values)
    else world.cmdbufs

def bound (cb : Nat) (point : BindPoint) (pipeline : Nat) : Live PcCmdbuf :=
  match world.pipelines.stored pipeline, world.cmdbufs.stored cb with
  | some layout, some entry =>
    if entry.bound point = layout then world.cmdbufs
    else world.cmdbufs.put cb {entry with bound := update entry.bound point layout}
  | _, _ => world.cmdbufs

def free (world : World) (cb : Nat) : World :=
  if cb = 0 then world
  else {world with
    state := world.state.layer_FreeCommandBuffers cb
    cmdbufs := world.cmdbufs.drop cb}

/-- `vkDestroyCommandPool` and `vkAllocateCommandBuffers` go to the driver alone. -/
def call : Request → World
  | .createPipelineLayout layout ranges => {world with
    objects.pc_layouts := layer_CreatePipelineLayout world.objects.pc_layouts layout ranges
    layouts :=
      if Followed ranges then (world.layouts.new [layout]).put layout ranges
      else world.layouts.new [layout]}
  | .destroyPipelineLayout layout => {world with
    objects.pc_layouts := layer_DestroyPipelineLayout world.objects.pc_layouts layout
    layouts := if layout = 0 then world.layouts else world.layouts.drop layout}
  | .createPipelines succeeded made =>
    let pipelines := world.pipelines.new ((made.map Prod.fst).filter (· ≠ 0))
    if succeeded then {world with
      objects.pc_pipelines := pc_add_pipelines world.objects.pc_pipelines made
      pipelines := made.foldl (fun live pipeline =>
        if pipeline.1 = 0 ∨ pipeline.2 = 0 then live else live.put pipeline.1 pipeline.2)
          pipelines}
    else {world with pipelines}
  | .destroyPipeline pipeline => {world with
    objects.pc_pipelines := layer_DestroyPipeline world.objects.pc_pipelines pipeline
    pipelines := if pipeline = 0 then world.pipelines else world.pipelines.drop pipeline}
  | .allocateCommandBuffers pool cbs => {world with
    cmdbufs := world.cmdbufs.new cbs
    pool := fun cb => if cb ∈ cbs then pool else world.pool cb}
  | .beginCommandBuffer cb => {world with
    state := world.state.layer_BeginCommandBuffer cb
    cmdbufs := world.cmdbufs.put cb (world.begun cb)}
  | .cmdPushConstants cb offset values => {world with
    state := world.state.layer_CmdPushConstants cb offset values
    cmdbufs := world.pushed cb offset values}
  | .cmdBindPipeline cb point pipeline => {world with
    state := (world.state.layer_CmdBindPipeline world.objects cb point pipeline).1
    cmdbufs := world.bound cb point pipeline}
  | .freeCommandBuffers cbs => cbs.foldl free world
  | .destroyCommandPool pool => {world with
    cmdbufs.handles := world.cmdbufs.handles.filter (world.pool · ≠ pool)
    cmdbufs.stored := fun cb => if world.pool cb = pool then none else world.cmdbufs.stored cb}
  | .createImage image aliased =>
    if aliased then {world with
      alias_images := alias_add world.alias_images image
      images := (world.images.new [image]).put image ()}
    else {world with images := world.images.new [image]}
  | .destroyImage image => {world with
    alias_images := layer_DestroyImage world.alias_images image
    images := if image = 0 then world.images else world.images.drop image}

structure Exact : Prop where
  layouts : DznFix.Exact PC_LAYOUTS world.objects.pc_layouts world.layouts
  pipelines : DznFix.Exact PC_PIPELINES world.objects.pc_pipelines world.pipelines
  cmdbufs : DznFix.Exact PC_CMDBUFS world.state.pc_cmdbufs world.cmdbufs
  images : DznFix.Exact ALIAS_TABLE_SIZE world.alias_images world.images

/-- A pool is destroyed when none of its command buffers has an entry any more. -/
def Emptied : Request → Prop
  | .destroyCommandPool pool =>
    ∀ cb ∈ world.cmdbufs.handles, world.pool cb = pool → world.cmdbufs.stored cb = none
  | _ => True

end World

/-- Of the requests those happen that Vulkan allows. -/
def handles : Machine World Request where
  init world :=
    (∀ slot, (world.objects.pc_layouts slot).key = 0 ∧ (world.objects.pc_pipelines slot).key = 0 ∧
        (world.state.pc_cmdbufs slot).key = 0 ∧ (world.alias_images slot).key = 0) ∧
      world.layouts = {} ∧ world.pipelines = {} ∧ world.cmdbufs = {} ∧ world.images = {}
  step world request := some (world.call request)

section

variable {Value : Type} {size : Nat} {table : Table Value}

theorem Exact.empty (unused : ∀ slot, (table slot).key = 0) : Exact size table {} := by
  have never : ∀ slot, ¬1 < (table slot).key := by
    intro slot used
    rw [unused] at used
    cases used
  have placed : Placed home size table :=
    ⟨fun slot _ used => absurd used (never slot), fun slot _ _ _ used => absurd used (never slot)⟩
  refine ⟨placed, fun key used => ?_, nofun, fun key mem => absurd mem (notMem_empty key),
    Nat.zero_le size⟩
  apply (lookup_eq_none_iff placed used).2
  rintro slot - rfl
  exact never slot used

end

namespace World.Exact

variable {world : World}

theorem createPipelineLayout (exact : world.Exact) {layout : Nat}
    {ranges : List VkPushConstantRange} (new : world.layouts.New PC_LAYOUTS [layout]) :
    (world.call (.createPipelineLayout layout ranges)).Exact := by
  refine ⟨?_, exact.pipelines, exact.cmdbufs, exact.images⟩
  have made := exact.layouts.new new
  have here : layout ∈ (world.layouts.new [layout]).handles := by simp [Live.new]
  have put := made.put here ranges
  dsimp only [call, layer_CreatePipelineLayout]
  split
  · next unranged => rwa [if_neg fun followed => unranged.elim followed.1 followed.2.1.not_gt]
  · next ranged =>
    split
    · next long =>
      rw [if_neg]
      · exact made
      · intro followed
        obtain ⟨range, mem, beyond⟩ := List.any_eq_true.1 long
        exact (followed.2.2 range mem).not_gt (of_decide_eq_true beyond)
    · next short =>
      rw [if_pos]
      · exact put
      · refine ⟨fun none_ => ranged (.inl none_), Nat.not_lt.1 fun many => ranged (.inr many), ?_⟩
        intro range mem
        by_contra beyond
        exact short (List.any_eq_true.2 ⟨range, mem, decide_eq_true (Nat.not_le.1 beyond)⟩)

theorem pc_add_pipelines {pc_pipelines : Table Nat} {live : Live Nat} {made : List (Nat × Nat)}
    (exact : DznFix.Exact PC_PIPELINES pc_pipelines live)
    (here : ∀ pipeline ∈ made, pipeline.1 ≠ 0 → pipeline.1 ∈ live.handles) :
    DznFix.Exact PC_PIPELINES (DznFix.pc_add_pipelines pc_pipelines made)
      (made.foldl (fun live pipeline =>
        if pipeline.1 = 0 ∨ pipeline.2 = 0 then live else live.put pipeline.1 pipeline.2) live) := by
  unfold DznFix.pc_add_pipelines
  induction made generalizing pc_pipelines live with
  | nil => exact exact
  | cons pipeline rest ih =>
    rw [List.forall_mem_cons] at here
    rw [List.foldl_cons, List.foldl_cons]
    split
    · exact ih exact here.2
    · next given =>
      exact ih (exact.put (here.1 fun zero => given (.inl zero)) _) here.2

section

variable (exact : world.Exact)
include exact

theorem createPipelines {succeeded : Bool} {made : List (Nat × Nat)}
    (new : world.pipelines.New PC_PIPELINES ((made.map Prod.fst).filter (· ≠ 0))) :
    (world.call (.createPipelines succeeded made)).Exact := by
  have grown := exact.pipelines.new new
  cases succeeded with
  | true =>
    refine ⟨exact.layouts, pc_add_pipelines grown ?_, exact.cmdbufs, exact.images⟩
    intro pipeline mem given
    apply mem_union_left
    rw [List.mem_toFinset, List.mem_filter]
    exact ⟨List.mem_map_of_mem mem, decide_eq_true given⟩
  | false => exact ⟨exact.layouts, grown, exact.cmdbufs, exact.images⟩

theorem beginCommandBuffer {cb : Nat} (here : cb ∈ world.cmdbufs.handles) :
    (world.call (.beginCommandBuffer cb)).Exact := by
  refine ⟨exact.layouts, exact.pipelines, ?_, exact.images⟩
  obtain ⟨slot, found⟩ := exact.cmdbufs.slot here
  have fits := fits_slot exact.cmdbufs.placed (exact.cmdbufs.handles cb here) found
  dsimp only [call, State.layer_BeginCommandBuffer, begun]
  rw [found]
  exact exact.cmdbufs.written here fits _

theorem cmdPushConstants {cb : Nat} (here : cb ∈ world.cmdbufs.handles)
    (offset : Nat) (values : List UInt8) :
    (world.call (.cmdPushConstants cb offset values)).Exact := by
  refine ⟨exact.layouts, exact.pipelines, ?_, exact.images⟩
  dsimp only [call, State.layer_CmdPushConstants, pushed]
  rcases exact.cmdbufs.found here with ⟨found, stored⟩ | ⟨slot, found, stored, fits⟩
  · rw [found, stored]
    simpa using exact.cmdbufs
  · rw [found, stored]
    split
    · exact exact.cmdbufs.written here fits _
    · exact exact.cmdbufs

theorem cmdBindPipeline {cb pipeline : Nat}
    (here : cb ∈ world.cmdbufs.handles) (made : pipeline ∈ world.pipelines.handles)
    (point : BindPoint) : (world.call (.cmdBindPipeline cb point pipeline)).Exact := by
  refine ⟨exact.layouts, exact.pipelines, ?_, exact.images⟩
  dsimp only [call, State.layer_CmdBindPipeline, bound]
  rcases exact.pipelines.found made with ⟨missing, none_⟩ | ⟨p, known, layout, -⟩
  · rw [missing, none_]
    exact exact.cmdbufs
  rcases exact.cmdbufs.found here with ⟨found, stored⟩ | ⟨slot, found, stored, fits⟩
  · rw [known, layout, found, stored]
    exact exact.cmdbufs
  · rw [known, layout, found, stored]
    dsimp only
    split
    · exact exact.cmdbufs
    · exact exact.cmdbufs.written here fits _

theorem freeCommandBuffers {cbs : List Nat}
    (has : ∀ cb ∈ cbs, cb = 0 ∨ 1 < cb) : (world.call (.freeCommandBuffers cbs)).Exact := by
  change (cbs.foldl free world).Exact
  induction cbs generalizing world with
  | nil => exact exact
  | cons cb rest ih =>
    rw [List.forall_mem_cons] at has
    apply ih _ has.2
    have dropped := exact.cmdbufs.drop has.1
    unfold free
    split
    · exact exact
    · next given =>
      rw [if_neg given, if_neg given] at dropped
      exact ⟨exact.layouts, exact.pipelines, dropped, exact.images⟩

theorem destroyCommandPool {pool : Nat} (emptied : world.Emptied (.destroyCommandPool pool)) :
    (world.call (.destroyCommandPool pool)).Exact := by
  refine ⟨exact.layouts, exact.pipelines, ?_, exact.images⟩
  have stored : (fun cb => if world.pool cb = pool then none else world.cmdbufs.stored cb) =
      world.cmdbufs.stored := by
    funext cb
    split
    · next own =>
      symm
      by_contra some_
      exact some_ (emptied cb (exact.cmdbufs.known cb (isSome_iff_ne_none.2 some_)) own)
    · rfl
  dsimp only [call]
  rw [stored]
  apply exact.cmdbufs.fewer (filter_subset ..)
  intro cb some_
  have mem := exact.cmdbufs.known cb some_
  refine mem_filter.2 ⟨mem, fun own => ?_⟩
  rw [emptied cb mem own] at some_
  cases some_

theorem createImage {image : Nat} {aliased : Bool}
    (new : world.images.New ALIAS_TABLE_SIZE [image]) :
    (world.call (.createImage image aliased)).Exact := by
  have made := exact.images.new new
  have here : image ∈ (world.images.new [image]).handles := by simp [Live.new]
  have absent : world.images.stored image = none := by
    by_contra some_
    exact (new.1 image (List.mem_singleton_self image)).2
      (exact.images.known image (isSome_iff_ne_none.2 some_))
  cases aliased with
  | true =>
    simp only [call, if_true]
    refine ⟨exact.layouts, exact.pipelines, exact.cmdbufs, ?_⟩
    dsimp only
    exact made.alias_add here absent
  | false => exact ⟨exact.layouts, exact.pipelines, exact.cmdbufs, made⟩

theorem call {request : Request} (valid : world.Valid request)
    (emptied : world.Emptied request) : (world.call request).Exact := by
  cases request with
  | createPipelineLayout => exact exact.createPipelineLayout valid
  | destroyPipelineLayout =>
    exact ⟨exact.layouts.drop (exact.layouts.handle valid), exact.pipelines, exact.cmdbufs,
      exact.images⟩
  | createPipelines => exact exact.createPipelines valid
  | destroyPipeline =>
    exact ⟨exact.layouts, exact.pipelines.drop (exact.pipelines.handle valid), exact.cmdbufs,
      exact.images⟩
  | allocateCommandBuffers =>
    exact ⟨exact.layouts, exact.pipelines, exact.cmdbufs.new valid, exact.images⟩
  | beginCommandBuffer => exact exact.beginCommandBuffer valid
  | cmdPushConstants => exact exact.cmdPushConstants valid _ _
  | cmdBindPipeline => exact exact.cmdBindPipeline valid.1 valid.2 _
  | freeCommandBuffers =>
    exact exact.freeCommandBuffers fun cb mem => exact.cmdbufs.handle (valid cb mem)
  | destroyCommandPool => exact exact.destroyCommandPool emptied
  | createImage => exact exact.createImage valid
  | destroyImage =>
    refine ⟨exact.layouts, exact.pipelines, exact.cmdbufs, ?_⟩
    dsimp only [World.call, layer_DestroyImage]
    exact exact.images.drop (exact.images.handle valid)

end

end World.Exact

/-- While no pool is destroyed under a command buffer that has an entry, each table has just the
objects of its kind that live. -/
theorem handles_followed {world : World}
    (reached : handles.Reaches
      (fun world request => world.Valid request ∧ world.Emptied request) world) :
    world.Exact ∧ ∀ image, 1 < image →
      (alias_contains world.alias_images image = true ↔ world.images.stored image = some ()) := by
  have exact : world.Exact := by
    apply reached.invariant
    · rintro world ⟨unused, layouts, pipelines, cmdbufs, images⟩
      constructor
      · exact layouts ▸ .empty fun slot => (unused slot).1
      · exact pipelines ▸ .empty fun slot => (unused slot).2.1
      · exact cmdbufs ▸ .empty fun slot => (unused slot).2.2.1
      · exact images ▸ .empty fun slot => (unused slot).2.2.2
    · intro world request after exact allowed moved
      cases moved
      exact exact.call allowed.1 allowed.2
  refine ⟨exact, fun image handle => ?_⟩
  rw [← exact.images.lookup image handle, alias_contains, alias_find_locked, lookup, pc_slot,
    if_neg Bool.false_ne_true]
  generalize find home ALIAS_TABLE_SIZE world.alias_images image = found
  cases found <;> simp

def World.start : World where
  objects :=
    { driver := ⟨fun _ => 0, fun _ => [], fun _ _ => false, nofun⟩
      pc_layouts := fun _ => ⟨0, []⟩
      pc_pipelines := fun _ => ⟨0, 0⟩}
  state :=
    { pc_cmdbufs := fun _ => ⟨0, ⟨fun _ => 0, 0, fun _ => 0⟩⟩
      buffers := fun _ => ⟨.passing [], fun _ => .start, false, fun _ => none⟩
      draws := []}
  alias_images := fun _ => ⟨0, ()⟩

theorem reached_call {allowed : World → Request → Prop} {world : World}
    (reached : handles.Reaches allowed world) (request : Request)
    (granted : allowed world request) : handles.Reaches allowed (world.call request) :=
  reached.take request granted rfl

def World.allocated : World := World.start.call (.allocateCommandBuffers 1 [8])

def World.recorded : World := World.allocated.call (.beginCommandBuffer 8)

theorem recorded_reached {allowed : World → Request → Prop}
    (granted : ∀ world request, world.Valid request ∧ world.Emptied request →
      allowed world request) : handles.Reaches allowed World.recorded := by
  have start : handles.init World.start := ⟨fun _ => ⟨rfl, rfl, rfl, rfl⟩, rfl, rfl, rfl, rfl⟩
  have new : World.start.cmdbufs.New PC_CMDBUFS [8] := ⟨by decide, by decide⟩
  have here : 8 ∈ World.allocated.cmdbufs.handles := by decide
  have allocated := reached_call (.start start) (.allocateCommandBuffers 1 [8])
    (granted _ _ ⟨new, trivial⟩)
  exact reached_call allocated (.beginCommandBuffer 8) (granted _ _ ⟨here, trivial⟩)

theorem handles_followed_freed :
    ((World.recorded.call (.freeCommandBuffers [8])).call (.destroyCommandPool 1)).Exact := by
  have given : ∀ cb ∈ [8], World.recorded.cmdbufs.Has cb := by
    unfold Live.Has
    decide
  have emptied : (World.recorded.call (.freeCommandBuffers [8])).Emptied
      (.destroyCommandPool 1) := by
    have gone : (World.recorded.call (.freeCommandBuffers [8])).cmdbufs.handles = ∅ := by decide
    intro cb mem
    rw [gone] at mem
    exact absurd mem (notMem_empty cb)
  have freed := reached_call (recorded_reached fun _ _ all => all) (.freeCommandBuffers [8])
    ⟨given, trivial⟩
  exact (handles_followed (reached_call freed (.destroyCommandPool 1) ⟨trivial, emptied⟩)).1

/-- The entry of a command buffer that went with its pool is found still. -/
theorem pool_leaves_entry :
    handles.Reaches World.Valid (World.recorded.call (.destroyCommandPool 1)) ∧
      (find home PC_CMDBUFS World.recorded.state.pc_cmdbufs 8).isSome = true ∧
      8 ∉ (World.recorded.call (.destroyCommandPool 1)).cmdbufs.handles ∧
      ¬∀ world, handles.Reaches World.Valid world → world.Exact := by
  have reached := reached_call (recorded_reached fun _ _ => And.left) (.destroyCommandPool 1) trivial
  have found : (find home PC_CMDBUFS World.recorded.state.pc_cmdbufs 8).isSome = true := by
    decide +kernel
  refine ⟨reached, found, by decide, fun all => ?_⟩
  have same : lookup home PC_CMDBUFS World.recorded.state.pc_cmdbufs 8 = none :=
    (all _ reached).cmdbufs.lookup 8 (by decide)
  rw [lookup, map_eq_none_iff] at same
  rw [same] at found
  cases found

end Ika.DznFix
