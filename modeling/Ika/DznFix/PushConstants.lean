import Ika.DznFix.Layer

/-! Push constants survive changes of the layout.

While a call is being made, the driver is compared after the pushes that the call has yet to pass
on.
-/

set_option autoImplicit false

namespace Ika.DznFix

open OpenAddressing Transition List Function Option

/-! ## Pushes -/

namespace Root

variable {root : Root} {offset byte : Nat} {bytes : List UInt8}

theorem seen_push_inside (low : offset ≤ byte) (high : byte < offset + bytes.length) :
    (root.push offset bytes).seen byte = bytes[byte - offset]? := by
  have within : byte - offset < bytes.length := by omega
  unfold seen push
  dsimp only
  rw [if_pos ⟨low, high⟩, getElem?_eq_getElem within, some_or]

theorem seen_push_outside (outside : ¬(offset ≤ byte ∧ byte < offset + bytes.length)) :
    (root.push offset bytes).seen byte = root.seen byte := by
  unfold seen push
  dsimp only
  rw [if_neg outside]

theorem seen_upload : root.upload.seen = root.seen := by
  funext byte
  unfold upload seen
  dsimp only
  rw [none_or]

end Root

section

variable {driver : Driver} {roots : BindPoint → Root}

theorem passAll_cons (call : Pass) (calls : List Pass) :
    driver.passAll roots (call :: calls) = driver.passAll (driver.pass roots call) calls := rfl

theorem passAll_frame (bytes : Nat → UInt8) (again : List VkPushConstantRange) (point : BindPoint) :
    (driver.passAll roots (again.map (State.pushAgain bytes)) point).layout = (roots point).layout ∧
      (driver.passAll roots (again.map (State.pushAgain bytes)) point).values =
        (roots point).values := by
  induction again generalizing roots with
  | nil => exact ⟨rfl, rfl⟩
  | cons range again ih =>
    rw [map_cons, passAll_cons, ih.1, ih.2]
    unfold State.pushAgain Driver.pass
    dsimp only
    split_ifs
    · exact ⟨rfl, rfl⟩
    · exact ⟨rfl, rfl⟩

variable {range : VkPushConstantRange} {point : BindPoint}

variable {bytes : Nat → UInt8}

theorem seen_pushAgain {byte : Nat} :
    (driver.pass roots (State.pushAgain bytes range) point).seen byte =
      if driver.reaches range.stageFlags point = true ∧ range.offset ≤ byte ∧
          byte < range.offset + range.size then some (bytes byte)
      else (roots point).seen byte := by
  have length : ((List.range range.size).map fun byte => bytes (range.offset + byte)).length =
      range.size := by
    rw [length_map, length_range]
  unfold State.pushAgain Driver.pass
  dsimp only
  by_cases reached : driver.reaches range.stageFlags point = true
  · rw [if_pos reached]
    by_cases inside : range.offset ≤ byte ∧ byte < range.offset + range.size
    · rw [if_pos ⟨reached, inside⟩, Root.seen_push_inside inside.1 (by omega),
        getElem?_map, getElem?_range (by omega), map_some,
        Nat.add_sub_cancel' inside.1]
    · rw [if_neg (fun all => inside all.2), Root.seen_push_outside (by rwa [length])]
  · rw [if_neg reached, if_neg (fun all => reached all.1)]

theorem passAll_keeps (again : List VkPushConstantRange) {byte : Nat}
    (seen : (roots point).seen byte = some (bytes byte)) :
    (driver.passAll roots (again.map (State.pushAgain bytes)) point).seen byte =
      some (bytes byte) := by
  induction again generalizing roots with
  | nil => exact seen
  | cons range again ih =>
    rw [map_cons, passAll_cons]
    refine ih ?_
    rw [seen_pushAgain, seen, ite_self]

theorem passAll_restores {again : List VkPushConstantRange}
    (listed : range ∈ again) (reached : driver.reaches range.stageFlags point = true) {byte : Nat}
    (low : range.offset ≤ byte) (high : byte < range.offset + range.size) :
    (driver.passAll roots (again.map (State.pushAgain bytes)) point).seen byte =
      some (bytes byte) := by
  induction again generalizing roots with
  | nil => cases listed
  | cons first again ih =>
    rw [map_cons, passAll_cons]
    rcases mem_cons.mp listed with rfl | later
    · exact passAll_keeps again (by rw [seen_pushAgain, if_pos ⟨reached, low, high⟩])
    · exact ih later

end

/-! ## One command buffer -/

variable {objects : Objects} {ranges : List VkPushConstantRange}

variable (objects ranges) in
/-- The copy of a command buffer beside the root constants of the driver. -/
structure Steady (entry : PcCmdbuf) (roots : BindPoint → Root) (last : Nat → Option UInt8) :
    Prop where
  bound : ∀ point, (roots point).layout = entry.bound point
  unbound : ∀ point, (roots point).layout = 0 → ∀ byte, (roots point).values byte = none
  known : ∀ point, (roots point).layout ≠ 0 →
    objects.driver.rangesOf (roots point).layout = [] ∨
      objects.driver.rangesOf (roots point).layout = ranges
  copied : ∀ byte value, last byte = some value → entry.bytes byte = value ∧ entry.end ≠ 0
  holds : ∀ point,
    (roots point).layout = 0 ∨ objects.driver.rangesOf (roots point).layout = ranges →
      ∀ range ∈ ranges, objects.driver.reaches range.stageFlags point = true →
        ∀ byte, range.offset ≤ byte → byte < range.offset + range.size →
          ∀ value, last byte = some value → (roots point).seen byte = some value

variable (objects ranges) in
def BufferKept (entry : PcCmdbuf) (buffer : Buffer) : Prop :=
  match buffer.doing with
  | .passing calls =>
    Steady objects ranges entry (objects.driver.passAll buffer.roots calls) buffer.last
  | .locking point pipeline =>
    Tracked objects ranges pipeline ∧
      ∃ before, Steady objects ranges entry before buffer.last ∧
        buffer.roots = update before point
          ((before point).bind (objects.driver.layoutOf pipeline))

theorem Steady.start (bytes : Nat → UInt8) :
    Steady objects ranges {bound := fun _ => 0, «end» := 0, bytes} (fun _ => .start)
      fun _ => none where
  bound _ := rfl
  unbound _ _ _ := rfl
  known _ bound := absurd rfl bound
  copied _ _ pushed := nomatch pushed
  holds _ _ _ _ _ _ _ _ _ pushed := nomatch pushed

variable {entry : PcCmdbuf} {roots : BindPoint → Root} {last : Nat → Option UInt8}

variable {stages : UInt32} {values : List UInt8} {point : BindPoint} {buffer : Buffer}
  {pipeline : Nat}

theorem Steady.push (steady : Steady objects ranges entry roots last) {offset : Nat}
    (short : offset + values.length ≤ PC_BYTES)
    (stated : ∀ range ∈ ranges, range.offset < offset + values.length →
      offset < range.offset + range.size → range.stageFlags &&& stages = range.stageFlags) :
    Steady objects ranges (State.store entry offset values)
      (objects.driver.pass roots (.push stages offset values)) fun byte =>
        if offset ≤ byte ∧ byte < offset + values.length then values[byte - offset]?
        else last byte := by
  have same : ∀ point, (objects.driver.pass roots (.push stages offset values) point).layout =
      (roots point).layout := fun point => by
    unfold Driver.pass
    dsimp only
    split_ifs <;> rfl
  have uploaded : ∀ point, (objects.driver.pass roots (.push stages offset values) point).values =
      (roots point).values := fun point => by
    unfold Driver.pass
    dsimp only
    split_ifs <;> rfl
  have bytes : PC_BYTES = 256 := rfl
  have sum : sum32 offset values.length = offset + values.length :=
    Nat.mod_eq_of_lt (by omega)
  exact
    { bound := fun point => (same point).trans (steady.bound point)
      unbound := fun point free byte => by
        rw [uploaded]
        exact steady.unbound point ((same point).symm.trans free) byte
      known := fun point => by
        rw [same]
        exact steady.known point
      copied := fun byte value pushed => by
        unfold State.store
        dsimp only
        rw [sum]
        by_cases inside : offset ≤ byte ∧ byte < offset + values.length
        · rw [if_pos inside] at pushed
          rw [if_pos inside, getD_eq_getElem?_getD, pushed]
          refine ⟨rfl, ?_⟩
          split_ifs <;> omega
        · rw [if_neg inside] at pushed
          rw [if_neg inside]
          have before := steady.copied byte value pushed
          refine ⟨before.1, ?_⟩
          split_ifs <;> omega
      holds := fun point bound range listed reached byte low high value pushed => by
        rw [same] at bound
        unfold Driver.pass
        dsimp only
        by_cases inside : offset ≤ byte ∧ byte < offset + values.length
        · rw [if_pos inside] at pushed
          -- The byte is in the range, so the push is for the range's stages as well.
          have every := stated range listed (by omega) (by omega)
          rw [if_pos (objects.driver.more _ _ point every reached),
            Root.seen_push_inside inside.1 inside.2, pushed]
        · rw [if_neg inside] at pushed
          have before := steady.holds point bound range listed reached byte low high value pushed
          split_ifs
          · rw [Root.seen_push_outside inside, before]
          · exact before}

theorem Steady.draw (steady : Steady objects ranges entry roots last)
    (used : (roots point).layout ≠ 0) :
    Steady objects ranges entry (update roots point (roots point).upload) last := by
  have same : ∀ other, (update roots point (roots point).upload other).layout =
      (roots other).layout := fun other => by
    by_cases here : other = point
    · subst here
      rw [update_self]
      rfl
    · rw [update_of_ne here]
  have seen : ∀ other, (update roots point (roots point).upload other).seen =
      (roots other).seen := fun other => by
    by_cases here : other = point
    · subst here
      rw [update_self, Root.seen_upload]
    · rw [update_of_ne here]
  exact
    { bound := fun other => (same other).trans (steady.bound other)
      unbound := fun other free byte => by
        rw [same] at free
        have here : other ≠ point := fun here => used (here ▸ free)
        rw [update_of_ne here]
        exact steady.unbound other free byte
      known := fun other => by
        rw [same]
        exact steady.known other
      copied := steady.copied
      holds := fun other => by
        rw [same, seen]
        exact steady.holds other}

theorem Root.bind_same {root : Root} : root.bind root.layout = root := if_pos rfl

theorem Root.layout_bind (root : Root) (layout : Nat) : (root.bind layout).layout = layout := by
  unfold bind
  split_ifs with same
  · exact same
  · rfl

theorem Root.seen_bind {root : Root} (nothing : ∀ byte, root.values byte = none) (layout : Nat) :
    (root.bind layout).seen = root.seen := by
  funext byte
  unfold bind
  split_ifs
  · rfl
  · unfold seen
    rw [nothing]

theorem Steady.bind (steady : Steady objects ranges entry roots last) {point : BindPoint}
    {pipeline : Nat} (tracked : Tracked objects ranges pipeline) {calls : List Pass}
    (again : calls = [] ∧
        (entry.bound point = 0 ∨ entry.end = 0 ∨
          objects.driver.rangesOf (objects.driver.layoutOf pipeline) ≠ ranges) ∨
      calls = ranges.map (State.pushAgain entry.bytes)) :
    Steady objects ranges
      {entry with
        bound := update entry.bound point (objects.driver.layoutOf pipeline)}
      (objects.driver.passAll
        (update roots point ((roots point).bind (objects.driver.layoutOf pipeline)))
        calls) last := by
  have moved : ∀ other,
      (update roots point ((roots point).bind (objects.driver.layoutOf pipeline))
        other).layout =
      update entry.bound point (objects.driver.layoutOf pipeline) other := fun other => by
    by_cases here : other = point
    · subst here
      rw [update_self, update_self, Root.layout_bind]
    · rw [update_of_ne here, update_of_ne here, steady.bound other]
  have unbound : ∀ other, update entry.bound point (objects.driver.layoutOf pipeline)
      other = 0 → ∀ byte,
        (update roots point ((roots point).bind (objects.driver.layoutOf pipeline))
          other).values byte = none := fun other free => by
    have here : other ≠ point := fun here => by
      rw [here, update_self] at free
      exact tracked.layout free
    rw [update_of_ne here] at free ⊢
    exact steady.unbound other ((steady.bound other).trans free)
  have known : ∀ other, update entry.bound point (objects.driver.layoutOf pipeline)
      other ≠ 0 →
        objects.driver.rangesOf (update entry.bound point
            (objects.driver.layoutOf pipeline) other) = [] ∨
          objects.driver.rangesOf (update entry.bound point
            (objects.driver.layoutOf pipeline) other) = ranges := fun other used => by
    by_cases here : other = point
    · subst here
      rw [update_self]
      exact tracked.alike.imp And.left And.left
    · rw [update_of_ne here] at used ⊢
      rw [← steady.bound other] at used ⊢
      exact steady.known other used
  rcases again with ⟨rfl, idle⟩ | rfl
  · exact
      { bound := moved
        unbound := fun other free => unbound other ((moved other).symm.trans free)
        known := fun other used => by
          have same := moved other
          change (update roots point _ other).layout ≠ 0 at used
          change objects.driver.rangesOf (update roots point _ other).layout = [] ∨
            objects.driver.rangesOf (update roots point _ other).layout = ranges
          rw [same] at used ⊢
          exact known other used
        copied := steady.copied
        holds := fun other bound range listed reached byte low high value pushed => by
          change (update roots point _ other).layout = 0 ∨
            objects.driver.rangesOf (update roots point _ other).layout = ranges at bound
          change (update roots point _ other).seen byte = some value
          by_cases here : other = point
          · subst here
            rw [update_self, Root.layout_bind] at bound
            have alike := bound.resolve_left tracked.layout
            rcases idle with first | nothing | other
            · rw [← steady.bound] at first
              rw [update_self, Root.seen_bind (steady.unbound _ first)]
              exact steady.holds _ (.inl first) range listed reached byte low high value pushed
            · exact absurd nothing (steady.copied byte value pushed).2
            · exact absurd alike other
          · rw [update_of_ne here] at bound ⊢
            exact steady.holds other bound range listed reached byte low high value pushed}
  · have frame := @passAll_frame objects.driver (update roots point
      ((roots point).bind (objects.driver.layoutOf pipeline))) entry.bytes ranges
    have same := fun other => (frame other).1.trans (moved other)
    exact
      { bound := same
        unbound := fun other free byte => by
          rw [(frame other).2]
          exact unbound other ((same other).symm.trans free) byte
        known := fun other used => by
          rw [same] at used ⊢
          exact known other used
        copied := steady.copied
        holds := fun other _ range listed reached byte low high value pushed => by
          rw [passAll_restores listed reached low high, (steady.copied byte value pushed).1]}

/-! ## All command buffers -/

variable (objects ranges) in
structure State.Kept (state : State) : Prop where
  placed : Placed home PC_CMDBUFS state.pc_cmdbufs
  buffers : ∀ cb, (state.buffers cb).recording = true → 1 < cb ∧
    ∃ entry, lookup home PC_CMDBUFS state.pc_cmdbufs cb = some entry ∧
      BufferKept objects ranges entry (state.buffers cb)
  active : ∀ cb point pipeline, (state.buffers cb).doing = .locking point pipeline →
    (state.buffers cb).recording = true
  sound : state.Sound objects

variable {state : State} {cb : Nat}

theorem idle_some (idle : state.idle cb = some buffer) :
    buffer = state.buffers cb ∧ buffer.doing = .passing [] := by
  unfold State.idle at idle
  split at idle
  · rename_i nothing
    cases idle
    exact ⟨rfl, nothing⟩
  · cases idle

section

variable (kept : state.Kept objects ranges)
include kept

theorem State.Kept.active_update
    (active : ∀ point pipeline, buffer.doing = .locking point pipeline → buffer.recording = true)
    (other : Nat) (point : BindPoint) (pipeline : Nat)
    (locking : (update state.buffers cb buffer other).doing = .locking point pipeline) :
    (update state.buffers cb buffer other).recording = true := by
  by_cases same : other = cb
  · subst same
    rw [update_self] at locking ⊢
    exact active point pipeline locking
  · rw [update_of_ne same] at locking ⊢
    exact kept.active other point pipeline locking

theorem State.Kept.written (handle : 1 < cb) {add : Bool}
    {slot : Nat} (found : pc_slot PC_CMDBUFS state.pc_cmdbufs cb add = some slot)
    {entry : PcCmdbuf} (good : BufferKept objects ranges entry buffer)
    (active : ∀ point pipeline, buffer.doing = .locking point pipeline → buffer.recording = true) :
    ((state.setSlot slot cb entry).setBuffer cb buffer).Kept objects ranges where
  placed := (fits_slot kept.placed handle found).placed kept.placed handle entry
  buffers other recording := by
    change (update state.buffers cb buffer other).recording = true at recording
    change 1 < other ∧ ∃ entry_1, lookup home PC_CMDBUFS (write state.pc_cmdbufs slot cb entry)
      other = some entry_1 ∧
        BufferKept objects ranges entry_1 (update state.buffers cb buffer other)
    by_cases same : other = cb
    · subst same
      rw [update_self]
      exact ⟨handle, entry, by rw [lookup_written kept.placed handle found entry handle, if_pos rfl],
        good⟩
    · rw [update_of_ne same] at recording ⊢
      obtain ⟨used, before, held, good⟩ := kept.buffers other recording
      exact ⟨used, before,
        by rw [lookup_written kept.placed handle found entry used, if_neg same, held], good⟩
  active := kept.active_update active
  sound := kept.sound

theorem State.Kept.setBuffer {buffer : Buffer}
    (good : buffer.recording = true → 1 < cb ∧
      ∃ entry, lookup home PC_CMDBUFS state.pc_cmdbufs cb = some entry ∧
        BufferKept objects ranges entry buffer)
    (active : ∀ point pipeline, buffer.doing = .locking point pipeline → buffer.recording = true) :
    (state.setBuffer cb buffer).Kept objects ranges :=
  {kept with
    buffers := fun other recording => by
      change (update state.buffers cb buffer other).recording = true at recording
      change 1 < other ∧ ∃ entry, lookup home PC_CMDBUFS state.pc_cmdbufs other = some entry ∧
        BufferKept objects ranges entry (update state.buffers cb buffer other)
      by_cases same : other = cb
      · subst same
        rw [update_self] at recording ⊢
        exact good recording
      · rw [update_of_ne same] at recording ⊢
        exact kept.buffers other recording
    active := kept.active_update active}

theorem State.Kept.begin (handle : 1 < cb) (room : Room state (.begin cb)) :
    ((state.layer_BeginCommandBuffer cb).setBuffer cb
      {buffer with
        doing := .passing [.begin], recording := true, last := fun _ => none}).Kept
      objects ranges := by
  obtain ⟨slot, found⟩ := slot_isSome kept.placed handle room
  unfold State.layer_BeginCommandBuffer
  rw [found]
  exact kept.written handle found (Steady.start _) nofun

theorem State.Kept.push {offset : Nat}
    (proper : Proper objects ranges state (.push cb stages offset values))
    (idle : (state.buffers cb).doing = .passing []) :
    ((state.layer_CmdPushConstants cb offset values).setBuffer cb
      { state.buffers cb with
        doing := .passing [.push stages offset values]
        last := fun byte =>
          if offset ≤ byte ∧ byte < offset + values.length then values[byte - offset]?
          else (state.buffers cb).last byte}).Kept objects ranges := by
  obtain ⟨recording, short, stated⟩ := proper
  obtain ⟨handle, entry, held, good⟩ := kept.buffers cb recording
  obtain ⟨slot, found, rfl⟩ := lookup_eq_some held
  have bytes : PC_BYTES = 256 := rfl
  have sum : sum32 offset values.length = offset + values.length := Nat.mod_eq_of_lt (by omega)
  unfold BufferKept at good
  rw [idle] at good
  unfold State.layer_CmdPushConstants
  rw [sum, if_pos short, found]
  exact kept.written handle found (Steady.push good short stated) nofun

theorem State.Kept.bind {point : BindPoint} {pipeline : Nat}
    (proper : Proper objects ranges state (.bind cb point pipeline))
    (idle : (state.buffers cb).doing = .passing []) :
    (state.setBuffer cb
      { state.buffers cb with
        doing := .locking point pipeline
        roots := update (state.buffers cb).roots point
          (((state.buffers cb).roots point).bind (objects.driver.layoutOf pipeline))}).Kept
      objects ranges := by
  obtain ⟨recording, tracked⟩ := proper
  obtain ⟨handle, entry, held, good⟩ := kept.buffers cb recording
  unfold BufferKept at good
  rw [idle] at good
  exact kept.setBuffer (fun _ => ⟨handle, entry, held, tracked, _, good, rfl⟩)
    fun _ _ _ => recording

theorem State.Kept.lock (locking : (state.buffers cb).doing = .locking point pipeline) :
    ((state.layer_CmdBindPipeline objects cb point pipeline).1.setBuffer cb
      { state.buffers cb with
        doing := .passing (state.layer_CmdBindPipeline objects cb point pipeline).2}).Kept
      objects ranges := by
  have recording := kept.active cb point pipeline locking
  obtain ⟨handle, entry, held, good⟩ := kept.buffers cb recording
  unfold BufferKept at good
  rw [locking] at good
  obtain ⟨tracked, before, steady, roots⟩ := good
  obtain ⟨slot, found, rfl⟩ := lookup_eq_some held
  obtain ⟨p, known, layout⟩ := lookup_eq_some tracked.known
  unfold State.layer_CmdBindPipeline
  rw [known, found]
  dsimp only
  rw [layout]
  by_cases same : (state.pc_cmdbufs slot).value.bound point = objects.driver.layoutOf pipeline
  · rw [if_pos same]
    refine kept.setBuffer (fun _ => ⟨handle, _, held, ?_⟩) nofun
    rw [← steady.bound] at same
    unfold BufferKept
    dsimp only
    rw [roots, ← same, Root.bind_same, update_eq_self]
    exact steady
  · rw [if_neg same]
    refine kept.written handle found ?_ nofun
    unfold BufferKept
    dsimp only
    rw [roots]
    refine steady.bind tracked ?_
    split_ifs with again
    · rcases tracked.alike with ⟨unranged, absent⟩ | ⟨-, present⟩
      · rw [lookup_eq_none absent]
        by_cases none : ranges = []
        · exact .inr (by rw [none])
        · exact .inl ⟨rfl, .inr (.inr (by rw [unranged]; exact Ne.symm none))⟩
      · obtain ⟨l, there, told⟩ := lookup_eq_some present
        rw [there]
        exact .inr (congrArg (List.map _) told)
    · exact .inl ⟨rfl, by tauto⟩

theorem State.Kept.pass {call : Pass} {calls : List Pass}
    (passing : (state.buffers cb).doing = .passing (call :: calls)) :
    (state.setBuffer cb
      { state.buffers cb with
        doing := .passing calls
        roots := objects.driver.pass (state.buffers cb).roots call}).Kept objects ranges := by
  refine kept.setBuffer (fun recording => ?_) nofun
  obtain ⟨handle, entry, held, good⟩ := kept.buffers cb recording
  unfold BufferKept at good
  rw [passing] at good
  exact ⟨handle, entry, held, good⟩

theorem State.Kept.draw (recording : (state.buffers cb).recording = true)
    (idle : (state.buffers cb).doing = .passing [])
    (used : ((state.buffers cb).roots point).layout ≠ 0) :
    State.Kept objects ranges
      { state.setBuffer cb
          { state.buffers cb with
            roots := update (state.buffers cb).roots point
              ((state.buffers cb).roots point).upload} with
        draws := state.draws ++
          [{ point, layout := ((state.buffers cb).roots point).layout
             seen := ((state.buffers cb).roots point).seen, last := (state.buffers cb).last}]} := by
  obtain ⟨handle, entry, held, good⟩ := kept.buffers cb recording
  unfold BufferKept at good
  rw [idle] at good
  have next := @State.Kept.setBuffer _ _ _ cb kept { state.buffers cb with
    roots := update (state.buffers cb).roots point
      ((state.buffers cb).roots point).upload}
    (fun _ => ⟨handle, entry, held, by
      unfold BufferKept
      dsimp only
      rw [idle]
      exact Steady.draw good used⟩) fun _ _ _ => recording
  refine {next with sound := fun draw listed => ?_}
  rcases mem_append.mp listed with before | new
  · exact kept.sound draw before
  · rw [mem_singleton.mp new]
    intro range ranged reached byte low high value pushed
    dsimp only at ranged reached pushed ⊢
    rcases good.known point used with nothing | alike
    · rw [show objects.driver.rangesOf ((state.buffers cb).roots point).layout = [] from nothing]
        at ranged
      cases ranged
    · rw [show objects.driver.rangesOf ((state.buffers cb).roots point).layout = ranges from alike]
        at ranged
      exact good.holds point (.inr alike) range ranged reached byte low high value pushed

theorem State.Kept.free (handle : 1 < cb) (idle : (state.buffers cb).doing = .passing []) :
    ((state.layer_FreeCommandBuffers cb).setBuffer cb
      {state.buffers cb with recording := false}).Kept objects ranges := by
  have absent : ∀ other, other ≠ cb → ∀ used : 1 < other,
      lookup home PC_CMDBUFS (pc_remove PC_CMDBUFS state.pc_cmdbufs cb) other =
        lookup home PC_CMDBUFS state.pc_cmdbufs other := fun other apart used => by
    rw [lookup_pc_remove kept.placed handle used, if_neg apart]
  exact
    { placed := placed_pc_remove kept.placed cb
      buffers := fun other recording => by
        change (update state.buffers cb _ other).recording = true at recording
        change 1 < other ∧ ∃ entry,
          lookup home PC_CMDBUFS (pc_remove PC_CMDBUFS state.pc_cmdbufs cb) other = some entry ∧
            BufferKept objects ranges entry (update state.buffers cb _ other)
        by_cases same : other = cb
        · subst same
          rw [update_self] at recording
          cases recording
        · rw [update_of_ne same] at recording ⊢
          obtain ⟨used, entry, held, good⟩ := kept.buffers other recording
          exact ⟨used, entry, (absent other same used).trans held, good⟩
      active := kept.active_update fun point pipeline locking => by
        change (state.buffers cb).doing = _ at locking
        rw [idle] at locking
        cases locking
      sound := kept.sound}

theorem State.Kept.step {event : Event} {after : State}
    (proper : Proper objects ranges state event) (room : Room state event)
    (moved : state.step objects event = some after) : after.Kept objects ranges := by
  cases event with
  | begin cb =>
    obtain ⟨buffer, idle, same⟩ := bind_eq_some_iff.mp moved
    cases same
    exact kept.begin proper room
  | push cb stages offset values =>
    obtain ⟨buffer, idle, same⟩ := bind_eq_some_iff.mp moved
    cases same
    obtain ⟨rfl, nothing⟩ := idle_some idle
    exact kept.push proper nothing
  | bind cb point pipeline =>
    obtain ⟨buffer, idle, same⟩ := bind_eq_some_iff.mp moved
    cases same
    obtain ⟨rfl, nothing⟩ := idle_some idle
    exact kept.bind proper nothing
  | lock cb =>
    change state.lock objects cb = some after at moved
    unfold State.lock at moved
    split at moved
    · rename_i point pipeline locking
      cases moved
      exact kept.lock locking
    · cases moved
  | pass cb =>
    change state.pass objects cb = some after at moved
    unfold State.pass at moved
    split at moved
    · rename_i call calls passing
      cases moved
      exact kept.pass passing
    · cases moved
  | draw cb point =>
    obtain ⟨buffer, idle, same⟩ := bind_eq_some_iff.mp moved
    obtain ⟨rfl, nothing⟩ := idle_some idle
    split_ifs at same with unbound
    cases same
    exact kept.draw proper nothing unbound
  | free cb =>
    obtain ⟨buffer, idle, same⟩ := bind_eq_some_iff.mp moved
    cases same
    obtain ⟨rfl, nothing⟩ := idle_some idle
    exact kept.free proper nothing

end

theorem State.Kept.start (first : (machine objects).init state) : state.Kept objects ranges where
  placed := by
    obtain ⟨zero, -⟩ := first
    exact
      { met := fun slot _ used => by rw [zero] at used; omega
        once := fun slot _ _ _ used => by rw [zero] at used; omega}
  buffers cb recording := by
    rw [(first.2.1 cb).2] at recording
    cases recording
  active cb point pipeline locking := by
    rw [(first.2.1 cb).1] at locking
    cases locking
  sound draw listed := by
    rw [first.2.2] at listed
    cases listed

/-- Each draw sees what was pushed last, as long as the table has a place for every command buffer
that begins. -/
theorem push_constants_survive (objects : Objects) (ranges : List VkPushConstantRange)
    {state : State}
    (reached : (machine objects).Reaches
      (fun state event => Proper objects ranges state event ∧ Room state event) state) :
    state.Sound objects := by
  have kept : state.Kept objects ranges :=
    reached.invariant (fun _ => State.Kept.start) fun _ _ _ kept granted moved =>
      kept.step granted.1 granted.2 moved
  exact kept.sound

/-! ## Two layouts with the same range -/

def stagesOf : BindPoint → UInt32
  | .graphics => 0x1f
  | .compute => 0x20

def stagesReach (stages : UInt32) (point : BindPoint) : Bool := stages &&& stagesOf point ≠ 0

theorem stagesReach_more (stages all : UInt32) (point : BindPoint) (part : stages &&& all = stages)
    (reached : stagesReach stages point = true) : stagesReach all point = true := by
  unfold stagesReach at reached ⊢
  rw [decide_eq_true_eq] at reached ⊢
  intro none
  rw [← part, UInt32.and_assoc, none, UInt32.and_zero] at reached
  exact reached rfl

def sharedRange : VkPushConstantRange := {stageFlags := 0x21, offset := 0, size := 4}

def twoLayouts : Objects where
  driver :=
    { layoutOf := fun pipeline => if pipeline = 80 then 16 else 24
      rangesOf := fun _ => [sharedRange]
      reaches := stagesReach
      more := stagesReach_more}
  pc_layouts := layer_CreatePipelineLayout
    (layer_CreatePipelineLayout (fun _ => {key := 0, value := []}) 16 [sharedRange]) 24
    [sharedRange]
  pc_pipelines := pc_add_pipelines (fun _ => {key := 0, value := 0}) [(80, 16), (88, 24)]

theorem twoLayouts_tracked (made : pipeline = 80 ∨ pipeline = 88) :
    Tracked twoLayouts [sharedRange] pipeline := by
  rcases made with rfl | rfl
  · exact {known := by decide +kernel, layout := by decide, alike := .inr (by decide +kernel)}
  · exact {known := by decide +kernel, layout := by decide, alike := .inr (by decide +kernel)}

instance (objects : Objects) (ranges : List VkPushConstantRange) (pipeline : Nat) :
    Decidable (Tracked objects ranges pipeline) :=
  decidable_of_iff
    (lookup home PC_PIPELINES objects.pc_pipelines pipeline =
        some (objects.driver.layoutOf pipeline) ∧
      objects.driver.layoutOf pipeline ≠ 0 ∧
      (objects.driver.rangesOf (objects.driver.layoutOf pipeline) = [] ∧
          lookup home PC_LAYOUTS objects.pc_layouts (objects.driver.layoutOf pipeline) = none ∨
        objects.driver.rangesOf (objects.driver.layoutOf pipeline) = ranges ∧
          lookup home PC_LAYOUTS objects.pc_layouts (objects.driver.layoutOf pipeline) =
            some ranges))
    ⟨fun all => ⟨all.1, all.2.1, all.2.2⟩, fun all => ⟨all.known, all.layout, all.alike⟩⟩

instance (objects : Objects) (ranges : List VkPushConstantRange) (state : State) (event : Event) :
    Decidable (Proper objects ranges state event) := by
  cases event <;> unfold Proper <;> infer_instance

instance (state : State) (event : Event) : Decidable (Room state event) := by
  cases event <;> unfold Room <;> infer_instance

def State.zero : State where
  pc_cmdbufs _ := {key := 0, value := {bound := fun _ => 0, «end» := 0, bytes := fun _ => 0}}
  buffers _ :=
    {doing := .passing [], roots := fun _ => .start, recording := false, last := fun _ => none}
  draws := []

theorem State.zero_init (objects : Objects) : (machine objects).init State.zero :=
  ⟨fun _ => rfl, fun _ => ⟨rfl, rfl⟩, rfl⟩

def changes (cb : Nat) : List Event :=
  [.begin cb, .pass cb, .bind cb .graphics 80, .lock cb, .push cb 0x21 0 [1, 2, 3, 4], .pass cb,
    .draw cb .graphics, .bind cb .compute 80, .lock cb, .bind cb .graphics 88, .lock cb, .pass cb,
    .draw cb .graphics, .draw cb .compute]

theorem push_constants_survive_changes :
    (((machine twoLayouts).runAllowed
      (fun state event => Proper twoLayouts [sharedRange] state event ∧ Room state event)
      State.zero (changes 8)).getD State.zero).Sound twoLayouts :=
  push_constants_survive twoLayouts [sharedRange]
    (.getD_runAllowed _ (.start (State.zero_init _)) (by decide +kernel))

end Ika.DznFix
