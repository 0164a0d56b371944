import Mathlib.Algebra.Order.Ring.Int

/-!
The audio server: commands of the guest side and the buffers it announces.

Memory that was not initialised is kept apart from bytes. A packet is sent as a whole or not at all.
The frame counters, which are only logged, are left out.
-/

set_option autoImplicit false

namespace Ika.AudioConnector

inductive AudioStatus where
  | VIRTIO_SND_S_OK
  | VIRTIO_SND_S_BAD_MSG
  | VIRTIO_SND_S_NOT_SUPP
  | VIRTIO_SND_S_IO_ERR
  | NOT_SET
  deriving DecidableEq, Repr

/-- The tables of which items are asked for. -/
inductive InfoKind where
  | JACK_INFO
  | PCM_INFO
  | CHMAP_INFO
  | CTL_INFO
  deriving DecidableEq, Repr

inductive StreamControl where
  | PCM_PREPARE
  | PCM_RELEASE
  | PCM_START
  | PCM_STOP

inductive AudioCommandType where
  | INFO (kind : InfoKind)
  | JACK_REMAP
  | PCM_SET_PARAMS
  | PCM (control : StreamControl)
  | CTL_READ
  | CTL_WRITE

def AudioCommandType.ofCode (code : Nat) : Option AudioCommandType :=
  if code = 1 then some (.INFO .JACK_INFO)
  else if code = 2 then some .JACK_REMAP
  else if code = 0x0100 then some (.INFO .PCM_INFO)
  else if code = 0x0101 then some .PCM_SET_PARAMS
  else if code = 0x0102 then some (.PCM .PCM_PREPARE)
  else if code = 0x0103 then some (.PCM .PCM_RELEASE)
  else if code = 0x0104 then some (.PCM .PCM_START)
  else if code = 0x0105 then some (.PCM .PCM_STOP)
  else if code = 0x0200 then some (.INFO .CHMAP_INFO)
  else if code = 0x0300 then some (.INFO .CTL_INFO)
  else if code = 0x0302 then some .CTL_READ
  else if code = 0x0303 then some .CTL_WRITE
  else none

def InfoKind.size : InfoKind → Nat
  | .JACK_INFO => 24
  | .PCM_INFO => 32
  | .CHMAP_INFO => 24
  | .CTL_INFO => 96

/-- A byte of memory, if it was initialised. -/
abbrev Cell := Option UInt8

def VIRTIO_SND_CHMAP_MAX_SIZE : Nat := 18

/-- What is written of an item: padding and positions that it lacks are left as they are. -/
def InfoKind.fill (kind : InfoKind) (item : List UInt8) : List Cell :=
  match kind with
  | .JACK_INFO | .CTL_INFO => item.map some
  | .PCM_INFO => (item.take 27).map some ++ List.replicate 5 none
  | .CHMAP_INFO =>
    let channels := min VIRTIO_SND_CHMAP_MAX_SIZE (item.getD 5 0).toNat
    (item.take 5).map some ++ some channels.toUInt8 :: ((item.drop 6).take channels).map some ++
      List.replicate (VIRTIO_SND_CHMAP_MAX_SIZE - channels) none

def InfoKind.allocate (kind : InfoKind) (count : Nat) : List Cell :=
  List.replicate (count * kind.size) (if kind = .CTL_INFO then some 0 else none)

structure StreamParams where
  stream_id : Nat
  buffer_bytes : Nat
  period_bytes : Nat
  features : Nat
  channels : UInt8
  format : UInt8
  rate : UInt8

def ctlValueSize : Nat := 512

/-- The answer to a command: the items with the status `VIRTIO_SND_S_OK`, or an error. -/
structure InfoReply (kind : InfoKind) where
  status : AudioStatus
  items : List (Vector UInt8 kind.size)

/-- Whoever executes the commands replies to each, and with the items it was asked for. -/
structure AudioServerExecutor where
  info (kind : InfoKind) (start_id count : Nat) : InfoReply kind
  stream : StreamControl → Nat → AudioStatus
  setStreamParameters : StreamParams → AudioStatus
  control : AudioCommandType → Nat → List UInt8 → AudioStatus × Vector UInt8 ctlValueSize
  info_replied : ∀ kind start_id count, (info kind start_id count).status ≠ .NOT_SET
  info_counted : ∀ kind start_id count, (info kind start_id count).status = .VIRTIO_SND_S_OK →
    (info kind start_id count).items.length = count
  stream_replied : ∀ type stream_id, stream type stream_id ≠ .NOT_SET
  setStreamParameters_replied : ∀ params, setStreamParameters params ≠ .NOT_SET
  control_replied : ∀ type control_id value, (control type control_id value).1 ≠ .NOT_SET

structure Served where
  /-- A `CHECK` failed. -/
  aborted : Bool := false
  allocations : List Nat := []
  replies : List (AudioStatus × List Cell) := []
  /-- The offset and the length of a buffer for the executor. -/
  buffer : Option (Nat × Nat) := none
  kept : Bool
  deriving DecidableEq, Repr

namespace Served

def abort : Served := {aborted := true, kept := false}

def drop : Served := {kept := false}

end Served

def as_uint32_t (message : List UInt8) (offset : Nat) : Nat :=
  (message.getD offset 0).toNat + 2 ^ 8 * (message.getD (offset + 1) 0).toNat +
    2 ^ 16 * (message.getD (offset + 2) 0).toNat + 2 ^ 24 * (message.getD (offset + 3) 0).toNat

/-- The size of a message, which `MSG_TRUNC` has `recv` tell also where the buffer is smaller. -/
def ReceiveMsg (message : List UInt8) (size : Nat) : Option Nat :=
  if message.length ≤ size then some message.length else none

section Commands

variable (executor : AudioServerExecutor) (sent : Bool) (message : List UInt8)

/-- The number of bytes that were sent is compared as a `size_t`. -/
def CmdReply (status : AudioStatus) (data : List Cell) : Served :=
  let size := 4 + data.length
  let status_sent : Int := if sent then size else -1
  { allocations := [size]
    replies := if sent then [(status, data)] else []
    -- As a `size_t` an error is not less than the size.
    kept := ¬status_sent % 2 ^ 64 < size}

def statusReply (status : AudioStatus) (data : List Cell) : Served :=
  if status = .NOT_SET then .abort else CmdReply sent status data

def InfoKind.reply {kind : InfoKind} (count : Nat) (reply : InfoReply kind) : Option (List Cell) :=
  if reply.status = .NOT_SET then none
  -- With an error goes the memory for the items, as it was allocated.
  else if reply.status ≠ .VIRTIO_SND_S_OK then some (kind.allocate count)
  else if reply.items.length = count then
    some (reply.items.flatMap fun item => kind.fill item.toList)
  else none

def queryInfo (kind : InfoKind) : Served :=
  if message.length < 16 then .drop
  else
    let start_id := as_uint32_t message 4
    let count := as_uint32_t message 8
    let reply := executor.info kind start_id count
    match InfoKind.reply count reply with
    | none => .abort
    | some data =>
      let served := CmdReply sent reply.status data
      {served with allocations := count * kind.size :: served.allocations}

def streamControl (control : StreamControl) : Served :=
  if message.length < 8 then .drop
  else statusReply sent (executor.stream control (as_uint32_t message 4)) []

def setParams : Served :=
  if message.length < 24 then .drop
  else
    statusReply sent (executor.setStreamParameters
      ⟨as_uint32_t message 4, as_uint32_t message 8, as_uint32_t message 12, as_uint32_t message 16,
        message.getD 20 0, message.getD 21 0, message.getD 22 0⟩) []

def controlRead : Served :=
  if message.length < 8 then .drop
  else
    let (status, value) := executor.control .CTL_READ (as_uint32_t message 4)
      (List.replicate ctlValueSize 0)
    statusReply sent status (value.toList.map some)

def controlWrite : Served :=
  if message.length < ctlValueSize + 8 then .drop
  else
    let value := (message.drop 8).take ctlValueSize
    statusReply sent (executor.control .CTL_WRITE (as_uint32_t message 4) value).1 []

/-- `sizeof(virtio_snd_ctl_hdr) + sizeof(virtio_snd_ctl_value)`. -/
def kBufSize : Nat := 8 + ctlValueSize

def ReceiveCommands : Served :=
  match ReceiveMsg message kBufSize with
  | none => .abort
  | some recv_size =>
    if recv_size = 0 ∨ recv_size < 4 then .drop
    else
      match AudioCommandType.ofCode (as_uint32_t message 0) with
      | some (.INFO kind) => queryInfo executor sent message kind
      | some .JACK_REMAP => CmdReply sent .VIRTIO_SND_S_NOT_SUPP []
      | some .PCM_SET_PARAMS => setParams executor sent message
      | some (.PCM control) => streamControl executor sent message control
      | some .CTL_READ => controlRead executor sent message
      | some .CTL_WRITE => controlWrite executor sent message
      | none => CmdReply sent .VIRTIO_SND_S_BAD_MSG []

end Commands

section Buffers

variable (shm_len : Nat) (message : List UInt8)

def WithinBounds (offset length : Nat) : Prop := offset < shm_len ∧ shm_len - offset ≥ length
  deriving Decidable

def receiveBuffer : Served :=
  match ReceiveMsg message 12 with
  | none => .abort
  | some recv_size =>
    if recv_size = 0 ∨ recv_size < 12 then .drop
    else
      let buffer_offset := as_uint32_t message 4
      let buffer_len := as_uint32_t message 8
      if WithinBounds shm_len buffer_offset buffer_len then
        {buffer := some (buffer_offset, buffer_len), kept := true}
      else .abort

def ReceivePlayback (tx_shm_len : Nat) : Served := receiveBuffer tx_shm_len message

def ReceiveCapture (rx_shm_len : Nat) : Served := receiveBuffer rx_shm_len message

end Buffers

/-- How many items of each kind the client was told of. -/
structure VioSConfig where
  jacks : Nat
  streams : Nat
  chmaps : Nat
  controls : Nat

def VioSConfig.largestReply (config : VioSConfig) : Nat :=
  4 + max ctlValueSize (max (max (config.jacks * InfoKind.JACK_INFO.size)
    (config.streams * InfoKind.PCM_INFO.size)) (max (config.chmaps * InfoKind.CHMAP_INFO.size)
      (config.controls * InfoKind.CTL_INFO.size)))

/-- A command leaves the server running, and is answered once unless the connection is dropped. -/
structure Served.Sound (limit : Nat) (served : Served) : Prop where
  running : served.aborted = false
  allocated : ∀ allocation ∈ served.allocations, allocation ≤ limit
  answered : served.replies.length = 1 ∨ served.kept = false ∧ served.replies = []
  initialised : ∀ reply ∈ served.replies, reply.1 ≠ .VIRTIO_SND_S_OK → none ∉ reply.2

structure Served.Inside (shm_len : Nat) (served : Served) : Prop where
  running : served.aborted = false
  inside : ∀ buffer, served.buffer = some buffer → buffer.1 + buffer.2 ≤ shm_len

def commandSize : Option AudioCommandType → Nat
  | some (.INFO _) => 16
  | some .PCM_SET_PARAMS => 24
  | some (.PCM _) | some .CTL_READ => 8
  | some .CTL_WRITE => kBufSize
  | some .JACK_REMAP | none => 4

/-- A command that fits the buffer, whose reply can be sent and whose items fit it. -/
def LegalCommand (config : VioSConfig) (executor : AudioServerExecutor) (sent : Bool)
    (message : List UInt8) : Prop :=
  message.length ≤ kBufSize ∧
    let type := AudioCommandType.ofCode (as_uint32_t message 0)
    (commandSize type ≤ message.length → sent ∧ ∀ kind, type = some (.INFO kind) →
      let start_id := as_uint32_t message 4
      let count := as_uint32_t message 8
      4 + count * kind.size ≤ config.largestReply ∧
        (kind ≠ .CTL_INFO → (executor.info kind start_id count).status ≠ .VIRTIO_SND_S_OK →
          count = 0))

def LegalBuffer (shm_len : Nat) (message : List UInt8) : Prop :=
  message.length ≤ 12 ∧ (message.length = 12 →
    as_uint32_t message 4 < shm_len ∧ as_uint32_t message 4 + as_uint32_t message 8 ≤ shm_len)

theorem as_uint32_t_lt (message : List UInt8) (offset : Nat) :
    as_uint32_t message offset < 2 ^ 32 := by
  have b0 := (message.getD offset 0).toNat_lt
  have b1 := (message.getD (offset + 1) 0).toNat_lt
  have b2 := (message.getD (offset + 2) 0).toNat_lt
  have b3 := (message.getD (offset + 3) 0).toNat_lt
  unfold as_uint32_t
  omega

variable (kind : InfoKind)

theorem InfoKind.length_fill (item : Vector UInt8 kind.size) :
    (kind.fill item.toList).length = kind.size := by
  have length : item.toList.length = kind.size := by simp
  cases kind with
  | JACK_INFO | CTL_INFO => simp [fill]
  | PCM_INFO =>
    simp only [size] at length
    simp [fill, length, size]
  | CHMAP_INFO =>
    have channels := Nat.min_le_left VIRTIO_SND_CHMAP_MAX_SIZE (item.toList.getD 5 0).toNat
    simp only [size] at length
    simp only [fill, List.length_append, List.length_map, List.length_take, List.length_cons,
      List.length_drop, List.length_replicate, length, size, VIRTIO_SND_CHMAP_MAX_SIZE] at *
    omega

open List

theorem reply_eq (executor : AudioServerExecutor) (kind : InfoKind) (start_id count : Nat) :
    ∃ data, InfoKind.reply count (executor.info kind start_id count) = some data ∧
      data.length = count * kind.size ∧
      ((executor.info kind start_id count).status ≠ .VIRTIO_SND_S_OK →
        data = kind.allocate count) := by
  unfold InfoKind.reply
  rw [if_neg (executor.info_replied kind start_id count)]
  by_cases ok : (executor.info kind start_id count).status = .VIRTIO_SND_S_OK
  · have counted := executor.info_counted kind start_id count ok
    rw [if_neg (not_not.mpr ok), if_pos counted]
    refine ⟨_, rfl, ?_, fun error => absurd ok error⟩
    rw [length_flatMap, map_congr_left fun item _ => kind.length_fill item,
      map_const', sum_replicate_nat, counted]
  · rw [if_pos ok]
    exact ⟨_, rfl, by simp [InfoKind.allocate], fun _ => rfl⟩

namespace Served

variable {limit : Nat} {sent : Bool}

theorem drop_sound : drop.Sound limit := ⟨rfl, nofun, .inr ⟨rfl, rfl⟩, nofun⟩

theorem abort_not_sound : ¬abort.Sound limit := fun sound => nomatch sound.running

variable {status : AudioStatus} {data : List Cell}

theorem sound_cmdReply_iff (allocations : List Nat) (small : 4 + data.length < 2 ^ 64) :
    { CmdReply sent status data with
        allocations := allocations ++ (CmdReply sent status data).allocations}.Sound limit ↔
      sent ∧ (∀ allocation ∈ allocations, allocation ≤ limit) ∧ 4 + data.length ≤ limit ∧
        (status ≠ .VIRTIO_SND_S_OK → none ∉ data) := by
  cases sent with
  | true =>
    simp only [true_and]
    constructor
    · intro sound
      obtain ⟨before, own⟩ := forall_mem_append.mp sound.allocated
      exact ⟨before, own _ (mem_singleton_self _),
        sound.initialised (status, data) (mem_singleton_self _)⟩
    · rintro ⟨before, own, initialised⟩
      have own : ∀ allocation ∈ [4 + data.length], allocation ≤ limit :=
        forall_mem_singleton.mpr own
      exact ⟨rfl, forall_mem_append.mpr ⟨before, own⟩, .inl rfl,
        forall_mem_singleton.mpr initialised⟩
  | false =>
    refine iff_of_false (fun sound => ?_) (fun legal => nomatch legal.1)
    rcases sound.answered with one | ⟨dropped, -⟩
    · cases one
    · simp only [CmdReply, decide_eq_false_iff_not, Bool.false_eq_true, if_false] at dropped
      omega

theorem sound_statusReply_iff (replied : status ≠ .NOT_SET) (small : data.length ≤ ctlValueSize)
    (large : 4 + ctlValueSize ≤ limit) (initialised : none ∉ data) :
    (statusReply sent status data).Sound limit ↔ sent := by
  unfold ctlValueSize at *
  rw [statusReply, if_neg replied]
  refine (sound_cmdReply_iff [] (by omega)).trans ⟨fun legal => legal.1, fun ok => ?_⟩
  exact ⟨ok, nofun, by omega, fun _ => initialised⟩

theorem sound_refusal_iff (large : 4 + ctlValueSize ≤ limit) :
    (CmdReply sent status []).Sound limit ↔ sent := by
  unfold ctlValueSize at large
  refine (sound_cmdReply_iff [] (by decide)).trans ⟨And.left, fun ok => ?_⟩
  exact ⟨ok, nofun, by simp only [length_nil]; omega, fun _ => not_mem_nil⟩

end Served

theorem InfoKind.none_mem_allocate (count : Nat) :
    none ∈ kind.allocate count ↔ kind ≠ .CTL_INFO ∧ count ≠ 0 := by
  have positive : kind.size ≠ 0 := by cases kind <;> decide
  unfold allocate
  rw [mem_replicate]
  split <;> simp_all

theorem VioSConfig.ctlValueSize_le (config : VioSConfig) : 4 + ctlValueSize ≤ config.largestReply :=
  Nat.add_le_add_left (le_max_left _ _) 4

section Legal

variable {config : VioSConfig} {executor : AudioServerExecutor} {sent : Bool}
  {message : List UInt8}

theorem sound_queryInfo_iff (kind : InfoKind) :
    (queryInfo executor sent message kind).Sound config.largestReply ↔
      (16 ≤ message.length → sent ∧
        4 + as_uint32_t message 8 * kind.size ≤ config.largestReply ∧
          (kind ≠ .CTL_INFO → (executor.info kind (as_uint32_t message 4)
            (as_uint32_t message 8)).status ≠ .VIRTIO_SND_S_OK → as_uint32_t message 8 = 0)) := by
  by_cases short : message.length < 16
  · rw [queryInfo, if_pos short]
    exact iff_of_true Served.drop_sound fun long => absurd short (Nat.not_lt.mpr long)
  rw [imp_iff_right (Nat.not_lt.mp short), queryInfo, if_neg short]
  generalize counted : as_uint32_t message 8 = count
  obtain ⟨data, replied, length, error⟩ := reply_eq executor kind (as_uint32_t message 4) count
  -- No number of items is large enough for the size to wrap.
  have bounded : count * kind.size ≤ 2 ^ 32 * 96 :=
    Nat.mul_le_mul (counted ▸ (as_uint32_t_lt message 8).le) (by cases kind <;> decide)
  simp only [replied]
  refine (Served.sound_cmdReply_iff [count * kind.size] (by omega)).trans ?_
  rw [forall_mem_singleton, length]
  refine and_congr_right fun _ => ⟨fun ⟨_, small, initialised⟩ => ⟨small, fun fresh bad => ?_⟩,
    fun ⟨small, counted⟩ => ⟨by omega, small, fun bad unwritten => ?_⟩⟩
  · by_contra some'
    have := initialised bad
    rw [error bad] at this
    exact this ((kind.none_mem_allocate count).mpr ⟨fresh, some'⟩)
  · rw [error bad] at unwritten
    obtain ⟨fresh, some'⟩ := (kind.none_mem_allocate count).mp unwritten
    exact some' (counted fresh bad)

theorem sound_receiveCommands_iff :
    (ReceiveCommands executor sent message).Sound config.largestReply ↔
      LegalCommand config executor sent message := by
  have large := config.ctlValueSize_le
  unfold ReceiveCommands ReceiveMsg LegalCommand
  by_cases fits : message.length ≤ kBufSize
  case neg =>
    rw [if_neg fits]
    exact iff_of_false Served.abort_not_sound fun legal => fits legal.1
  rw [if_pos fits, and_iff_right fits]
  dsimp only
  -- a command that is too short drops the connection whatever it is
  have guarded : ∀ {size : Nat} {served : Served} {legal : Prop},
      (size ≤ message.length → (served.Sound config.largestReply ↔ legal)) →
      ((if message.length < size then Served.drop else served).Sound config.largestReply ↔
        (size ≤ message.length → legal)) := by
    intro size served legal same
    split
    · exact iff_of_true Served.drop_sound fun long => by omega
    · rename_i long
      rw [same (by omega)]
      exact (imp_iff_right (by omega)).symm
  -- a command that asks for no items is legal if its reply can be sent
  have plain : ∀ type : Option AudioCommandType, (∀ kind, type ≠ some (.INFO kind)) →
      (sent ↔ (sent ∧ ∀ kind, type = some (.INFO kind) →
        4 + as_uint32_t message 8 * kind.size ≤ config.largestReply ∧
          (kind ≠ .CTL_INFO → (executor.info kind (as_uint32_t message 4)
            (as_uint32_t message 8)).status ≠ .VIRTIO_SND_S_OK → as_uint32_t message 8 = 0))) :=
    fun _ other => ⟨fun ok => ⟨ok, fun kind same => absurd same (other kind)⟩, And.left⟩
  generalize AudioCommandType.ofCode (as_uint32_t message 0) = type
  by_cases header : message.length = 0 ∨ message.length < 4
  · rw [if_pos header]
    refine iff_of_true Served.drop_sound fun long => ?_
    have : 4 ≤ commandSize type := by
      rcases type with _ | ⟨_ | _⟩ <;> simp [commandSize, kBufSize, ctlValueSize]
    omega
  rw [if_neg header]
  have long : 4 ≤ message.length := by omega
  rcases type with _ | type
  · exact (Served.sound_refusal_iff large).trans
      ((plain none nofun).trans (imp_iff_right long).symm)
  cases type with
  | INFO kind =>
    refine (sound_queryInfo_iff kind).trans (imp_congr_right fun _ => and_congr_right fun _ => ?_)
    refine ⟨fun legal other same => ?_, fun legal => legal kind rfl⟩
    cases same
    exact legal
  | JACK_REMAP =>
    exact (Served.sound_refusal_iff large).trans
      ((plain (some .JACK_REMAP) nofun).trans (imp_iff_right long).symm)
  | PCM_SET_PARAMS =>
    refine guarded fun _ => Iff.trans ?_ (plain _ nofun)
    exact Served.sound_statusReply_iff (executor.setStreamParameters_replied _) (Nat.zero_le _)
      large not_mem_nil
  | PCM control =>
    refine guarded fun _ => Iff.trans ?_ (plain _ nofun)
    exact Served.sound_statusReply_iff (executor.stream_replied _ _) (Nat.zero_le _) large
      not_mem_nil
  | CTL_READ =>
    refine guarded fun _ => Iff.trans ?_ (plain _ nofun)
    refine Served.sound_statusReply_iff (executor.control_replied _ _ _) (by simp) large ?_
    simp
  | CTL_WRITE =>
    refine guarded fun _ => Iff.trans ?_ (plain _ nofun)
    exact Served.sound_statusReply_iff (executor.control_replied _ _ _) (Nat.zero_le _) large
      not_mem_nil

theorem inside_receiveBuffer_iff {shm_len : Nat} :
    (receiveBuffer shm_len message).Inside shm_len ↔ LegalBuffer shm_len message := by
  unfold receiveBuffer ReceiveMsg LegalBuffer
  by_cases fits : message.length ≤ 12
  case neg =>
    rw [if_neg fits]
    exact iff_of_false (fun inside => nomatch inside.running) fun legal => fits legal.1
  rw [if_pos fits, and_iff_right fits]
  dsimp only
  split
  · exact iff_of_true ⟨rfl, nofun⟩ fun whole => by omega
  rw [imp_iff_right (by omega)]
  split
  · rename_i within
    obtain ⟨below, room⟩ := within
    refine iff_of_true ⟨rfl, fun buffer announced => ?_⟩ ⟨below, by omega⟩
    cases announced
    dsimp only
    omega
  · rename_i outside
    exact iff_of_false (fun inside => nomatch inside.running)
      fun legal => outside ⟨legal.1, by omega⟩

end Legal

/-- Every message is served as it should be exactly when it is legal. -/
theorem audio_messages_served (config : VioSConfig) (executor : AudioServerExecutor) :
    (∀ sent message, (ReceiveCommands executor sent message).Sound config.largestReply ↔
      LegalCommand config executor sent message) ∧
    (∀ tx_shm_len message, (ReceivePlayback message tx_shm_len).Inside tx_shm_len ↔
      LegalBuffer tx_shm_len message) ∧
    ∀ rx_shm_len message, (ReceiveCapture message rx_shm_len).Inside rx_shm_len ↔
      LegalBuffer rx_shm_len message :=
  ⟨fun _ _ => sound_receiveCommands_iff, fun _ _ => inside_receiveBuffer_iff,
    fun _ _ => inside_receiveBuffer_iff⟩

def refusing : AudioServerExecutor where
  info _ _ _ := ⟨.VIRTIO_SND_S_BAD_MSG, []⟩
  stream _ _ := .VIRTIO_SND_S_BAD_MSG
  setStreamParameters _ := .VIRTIO_SND_S_BAD_MSG
  control _ _ _ := (.VIRTIO_SND_S_BAD_MSG, Vector.replicate ctlValueSize 0)
  info_replied _ _ _ := nofun
  info_counted _ _ _ := nofun
  stream_replied _ _ := nofun
  setStreamParameters_replied _ := nofun
  control_replied _ _ _ := nofun

def pcmInfo : List UInt8 := [0, 1, 0, 0, 0, 0, 0, 0, 1, 0, 0, 0, 32, 0, 0, 0]

/-- Commands that abort the server, that are answered with old memory, and that are not answered. -/
theorem audio_server_fails :
    (∀ limit, ¬(ReceiveCommands refusing true (List.replicate 521 0)).Sound limit) ∧
    ¬(ReceivePlayback [0, 0, 0, 0, 0, 16, 0, 0, 1, 0, 0, 0] 4096).Inside 4096 ∧
    (ReceiveCommands refusing true pcmInfo).replies =
      [(.VIRTIO_SND_S_BAD_MSG, List.replicate 32 none)] ∧
    ReceiveCommands refusing false [2, 0, 0, 0] = {allocations := [4], kept := true} := by
  refine ⟨fun limit sound => ?_, fun inside => ?_, by decide, by decide⟩
  · have long : ¬(List.replicate 521 (0 : UInt8)).length ≤ kBufSize := by
      rw [length_replicate]
      decide
    rw [ReceiveCommands, ReceiveMsg, if_neg long] at sound
    exact Served.abort_not_sound sound
  · exact absurd inside.running (by decide)

end Ika.AudioConnector
