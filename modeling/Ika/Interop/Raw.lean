import Ika.Display.Coords
import Ika.Foundation.Handles
import Ika.Foundation.Machine

/-!
The interop for uncompressed frames of `interop_raw.c`.

A frame is in memory, or a DMA-BUF imported through EGL and kept in a cache. SDL textures and
EGLImages are numbered as they are created; which buffer the kernel knows by which inode belongs to
the environment, and so does every call that may fail.
-/

set_option autoImplicit false

namespace Ika.Interop

open Display Function

def dmaBufCacheSize : Nat := 6

/-- The values of `enum AVPixelFormat` that the interop tells apart. -/
inductive PixelFormat where
  | drmPrime
  | bgr0
  | bgra
  | rgb0
  | rgba
  | zeroRgb
  | argb
  | zeroBgr
  | abgr
  | other
  deriving DecidableEq, Repr

inductive SdlFormat where
  | bgrx32
  | rgbx32
  | xrgb32
  | xbgr32
  deriving DecidableEq, Repr

/-- `none` for `SDL_PIXELFORMAT_UNKNOWN`. -/
def getSdlFormat : PixelFormat → Option SdlFormat
  | .bgr0 | .bgra => some .bgrx32
  | .rgb0 | .rgba => some .rgbx32
  | .zeroRgb | .argb => some .xrgb32
  | .zeroBgr | .abgr => some .xbgr32
  | .drmPrime | .other => none

def scFourcc (a b c d : Char) : UInt32 :=
  a.val ||| (b.val <<< 8) ||| (c.val <<< 16) ||| (d.val <<< 24)

def getOpaqueDrmFormat (fourcc : UInt32) : UInt32 :=
  if fourcc = scFourcc 'A' 'R' '2' '4' then scFourcc 'X' 'R' '2' '4'
  else if fourcc = scFourcc 'A' 'B' '2' '4' then scFourcc 'X' 'B' '2' '4'
  else if fourcc = scFourcc 'R' 'A' '2' '4' then scFourcc 'R' 'X' '2' '4'
  else if fourcc = scFourcc 'B' 'A' '2' '4' then scFourcc 'B' 'X' '2' '4'
  else fourcc

/-- What `fstat` tells of the fd of a DMA-BUF. -/
structure Inode where
  dev : Nat
  ino : Nat
  deriving DecidableEq, Repr

/-- `AVDRMFrameDescriptor`; `buffer` is the one its fd refers to. -/
structure DrmDescriptor where
  nbObjects : Int
  nbLayers : Int
  nbPlanes : Int
  buffer : Nat
  format : UInt32
  modifier : UInt64
  offset : Int
  pitch : Int

/-- `AVFrame`; `data` is the descriptor of a DMA-BUF frame. -/
structure Frame where
  format : PixelFormat
  width : Int
  height : Int
  data : Option DrmDescriptor

/-- The initializer `{frame->width, frame->height}` of a `struct sc_size`. -/
def Frame.size (frame : Frame) : Size where
  width := (frame.width % 65536).toNat
  height := (frame.height % 65536).toNat

/-- The layout an entry was imported with. -/
structure Layout where
  drmFormat : UInt32
  width : Int
  height : Int
  offset : UInt32
  pitch : UInt32
  modifier : UInt64
  deriving DecidableEq, Repr

/-- The layout of a frame, in the `uint32_t` of `struct sc_egl_dma_buf_plane`. -/
def Frame.layout (frame : Frame) (desc : DrmDescriptor) : Layout where
  drmFormat := getOpaqueDrmFormat desc.format
  width := frame.width
  height := frame.height
  offset := UInt32.ofInt desc.offset
  pitch := UInt32.ofInt desc.pitch
  modifier := desc.modifier

def Frame.supported (frame : Frame) : Option DrmDescriptor :=
  frame.data.filter fun desc => desc.nbObjects = 1 ∧ desc.nbLayers = 1 ∧ desc.nbPlanes = 1

structure EglImage where
  buffer : Nat
  layout : Layout

structure DmaBuf where
  inode : Inode
  layout : Layout
  texture : Nat
  image : Nat
  lastUse : UInt64

/-- The entries, `none` where `used` is false. -/
abbrev DmaBufs := Fin dmaBufCacheSize → Option DmaBuf

structure InteropRaw where
  texture : Option Nat := none
  frameSize : Size := {}
  textureIsDmaBuf : Bool := false
  textureFormat : Option SdlFormat := none
  hasEgl : Bool
  dmaBufs : DmaBufs := fun _ => none
  dmaBufClock : UInt64 := 0
  textures : Handles := {}
  images : Handles := {}
  imported : Nat → Option EglImage := fun _ => none
  /-- The image that is the storage of a texture, as `gl` knows it. -/
  attached : Nat → Option Nat := fun _ => none

/-- Which calls succeed during an import. -/
structure Outcome where
  stats : Bool := true
  createsTexture : Bool := true
  getsTextureId : Bool := true
  createsImage : Bool := true
  attaches : Bool := true
  updatesTexture : Bool := true

namespace InteropRaw

variable (raw : InteropRaw)

def releaseDmaBuf (index : Fin dmaBufCacheSize) (entry : DmaBuf) : InteropRaw := {raw with
  texture := if raw.texture = some entry.texture then none else raw.texture
  images := raw.images.destroy entry.image
  textures := raw.textures.destroy entry.texture
  dmaBufs := update raw.dmaBufs index none}

/-- One turn of a loop that releases the used entries a condition holds of. -/
def releaseIf (drops : DmaBuf → Bool) (index : Fin dmaBufCacheSize) : InteropRaw :=
  match raw.dmaBufs index with
  | some entry => if drops entry then raw.releaseDmaBuf index entry else raw
  | none => raw

def releaseAll (drops : DmaBuf → Bool) : InteropRaw :=
  (List.finRange dmaBufCacheSize).foldl (fun raw index => raw.releaseIf drops index) raw

def clearDmaBufs : InteropRaw := raw.releaseAll fun _ => true

def destroyTexture (texture : Nat) : InteropRaw :=
  {raw with textures := raw.textures.destroy texture}

def dark : InteropRaw := {raw with texture := none}

/-- The destruction of a texture that is not of a cache entry. -/
def dropRawTexture : InteropRaw :=
  match raw.texture with
  | some texture => if raw.textureIsDmaBuf then raw else (raw.destroyTexture texture).dark
  | none => raw

def reset : InteropRaw := raw.dropRawTexture.dark.clearDmaBufs

def showTexture (texture : Nat) (size : Size) (dmaBuf : Bool) : InteropRaw := {raw with
  texture := some texture
  frameSize := size
  textureIsDmaBuf := dmaBuf}

def HasTexture (size : Size) (format : SdlFormat) : Prop :=
  raw.texture.isSome ∧ raw.textureIsDmaBuf = false ∧ raw.frameSize.width = size.width ∧
    raw.frameSize.height = size.height ∧ raw.textureFormat = some format

instance (size : Size) (format : SdlFormat) : Decidable (raw.HasTexture size format) :=
  inferInstanceAs (Decidable (_ ∧ _))

def withTexture : InteropRaw := {raw with textures := raw.textures.create}

def showNewTexture (size : Size) (format : SdlFormat) : InteropRaw :=
  {raw.withTexture with textureFormat := some format}.showTexture raw.textures.fresh size false

def ensureTexture (size : Size) (format : SdlFormat) (outcome : Outcome) : Bool × InteropRaw :=
  if raw.HasTexture size format then (true, raw)
  else
    let raw := raw.reset
    if outcome.createsTexture then (true, raw.showNewTexture size format) else (false, raw)

def entryOf (inode : Inode) (index : Fin dmaBufCacheSize) : Option (Fin dmaBufCacheSize × DmaBuf) :=
  ((raw.dmaBufs index).filter fun entry => entry.inode = inode).map (index, ·)

def findDmaBuf (inode : Inode) : Option (Fin dmaBufCacheSize × DmaBuf) :=
  (List.finRange dmaBufCacheSize).findSome? (raw.entryOf inode)

/-- The loop of `sc_interop_raw_get_free_dma_buf`. -/
def searchFree (lru : Option (Fin dmaBufCacheSize × DmaBuf)) :
    List (Fin dmaBufCacheSize) → Option (Fin dmaBufCacheSize)
  | [] => lru.map Prod.fst
  | index :: rest =>
    match raw.dmaBufs index, lru with
    | none, _ => some index
    | some entry, none => searchFree (some (index, entry)) rest
    | some entry, some (oldest, found) =>
      if entry.lastUse < found.lastUse then searchFree (some (index, entry)) rest
      else searchFree (some (oldest, found)) rest

/-- The entry to fill, evicted if it was used; `none` would be `assert(lru)` failing. -/
def getFreeDmaBuf : Option (Fin dmaBufCacheSize × InteropRaw) :=
  (raw.searchFree none (List.finRange dmaBufCacheSize)).map fun index =>
    (index, raw.releaseIf (fun _ => true) index)

def withImage (image : EglImage) : InteropRaw := {raw with
  images := raw.images.create
  imported := update raw.imported raw.images.fresh (some image)}

def fillDmaBuf (index : Fin dmaBufCacheSize) (entry : DmaBuf) : InteropRaw := {raw with
  attached := update raw.attached entry.texture (some entry.image)
  dmaBufs := update raw.dmaBufs index (some entry)}

def destroyImage (image : Nat) : InteropRaw :=
  {raw with images := raw.images.destroy image}

/-- What a free entry becomes; its `last_use` is set once it is used. -/
def newDmaBuf (inode : Inode) (image : EglImage) : DmaBuf where
  inode
  layout := image.layout
  texture := raw.textures.fresh
  image := raw.images.fresh
  lastUse := 0

def createDmaBuf (index : Fin dmaBufCacheSize) (inode : Inode) (image : EglImage)
    (outcome : Outcome) : Option DmaBuf × InteropRaw :=
  let entry := raw.newDmaBuf inode image
  if outcome.createsTexture then
    if outcome.getsTextureId ∧ outcome.createsImage then
      if outcome.attaches then
        (some entry, (raw.withTexture.withImage image).fillDmaBuf index entry)
      else
        (none, ((raw.withTexture.withImage image).destroyImage entry.image).destroyTexture
          entry.texture)
    else (none, raw.withTexture.destroyTexture entry.texture)
  else (none, raw)

def useDmaBuf (index : Fin dmaBufCacheSize) (entry : DmaBuf) (size : Size) : InteropRaw :=
  {raw with
    dmaBufClock := raw.dmaBufClock + 1
    dmaBufs := update raw.dmaBufs index
      (some {entry with lastUse := raw.dmaBufClock + 1})}.showTexture entry.texture size true

/-- What does not stay for the image: the texture, and entries of another size. -/
def roomFor (image : EglImage) : InteropRaw :=
  raw.dropRawTexture.releaseAll fun old =>
    old.layout.width ≠ image.layout.width || old.layout.height ≠ image.layout.height

/-- The import of a buffer that is not in the cache. -/
def importNew (inode : Inode) (image : EglImage) (size : Size) (outcome : Outcome) :
    Bool × InteropRaw :=
  match (raw.roomFor image).getFreeDmaBuf with
  | none => (false, raw.roomFor image)
  | some (index, raw) =>
    match raw.createDmaBuf index inode image outcome with
    | (none, raw) => (false, raw)
    | (some entry, raw) => (true, raw.useDmaBuf index entry size)

def importBuffer (inode : Inode) (image : EglImage) (size : Size) (outcome : Outcome) :
    Bool × InteropRaw :=
  match raw.findDmaBuf inode with
  | none => raw.importNew inode image size outcome
  | some (index, entry) =>
    if entry.layout = image.layout then (true, raw.useDmaBuf index entry size)
    else (raw.releaseDmaBuf index entry).importNew inode image size outcome

/-- `fstat` answers with the inode of the buffer. -/
def importDmaBuf (inodeOf : Nat → Option Inode) (frame : Frame) (outcome : Outcome) :
    Bool × InteropRaw :=
  if raw.hasEgl then
    match frame.supported with
    | none => (false, raw)
    | some desc =>
      match inodeOf desc.buffer, outcome.stats with
      | some inode, true =>
        raw.importBuffer inode ⟨desc.buffer, frame.layout desc⟩ frame.size outcome
      | _, _ => (false, raw)
  else (false, raw)

def importFrame (inodeOf : Nat → Option Inode) (frame : Frame) (outcome : Outcome) :
    Bool × InteropRaw :=
  if frame.format = .drmPrime then raw.importDmaBuf inodeOf frame outcome
  else match getSdlFormat frame.format with
    | none => (false, raw)
    | some format =>
      match raw.ensureTexture frame.size format outcome with
      | (true, raw) => (outcome.updatesTexture, raw)
      | (false, raw) => (false, raw)

def Pinned (buffer : Nat) : Prop := ∃ image < raw.images.created,
  raw.images.Live image ∧ (raw.imported image).map EglImage.buffer = some buffer

instance (buffer : Nat) : Decidable (raw.Pinned buffer) :=
  inferInstanceAs (Decidable (∃ image < _, _))

end InteropRaw

structure Client where
  raw : InteropRaw
  buffers : List (Nat × Inode) := []

namespace Client

def inodeOf (client : Client) (buffer : Nat) : Option Inode := client.buffers.lookup buffer

end Client

inductive Event where
  | importFrame (frame : Frame) (outcome : Outcome)
  | reset
  | allocate (buffer : Nat) (inode : Inode)
  | free (buffer : Nat)

/-- An inode is of one buffer at a time, and a buffer with an image is not freed. -/
def step (client : Client) : Event → Option Client
  | .importFrame frame outcome => some {client with
      raw := (client.raw.importFrame client.inodeOf frame outcome).2}
  | .reset => some {client with raw := client.raw.reset}
  | .allocate buffer inode =>
    if buffer ∈ client.buffers.map Prod.fst ∨ inode ∈ client.buffers.map Prod.snd then none
    else some {client with buffers := (buffer, inode) :: client.buffers}
  | .free buffer =>
    if client.raw.Pinned buffer then none
    else some {client with buffers := client.buffers.filter fun known => known.1 ≠ buffer}

/-- `sc_interop_raw_new`; whether EGL can import DMA-BUFs depends on the renderer. -/
def machine : Transition.Machine Client Event where
  init client := ∃ hasEgl, client = {raw := {hasEgl}}
  step := step

end Ika.Interop
