import Ika.Interop.Raw

/-! Textures, images and entries of the DMA-BUF cache, over every run.

`Cached` is what every import and reset keeps: it is followed through the steps
an import is made of, each with its failure exits.
-/

set_option autoImplicit false

namespace Ika.Interop

open Function List Option

inductive TexturePlace where
  | screen
  | entry (index : Fin dmaBufCacheSize)
  deriving DecidableEq

namespace InteropRaw

variable (raw : InteropRaw)

def heldTexture : TexturePlace → Option Nat
  | .screen => if raw.textureIsDmaBuf then none else raw.texture
  | .entry index => (raw.dmaBufs index).map DmaBuf.texture

def heldImage (index : Fin dmaBufCacheSize) : Option Nat := (raw.dmaBufs index).map DmaBuf.image

def Backed (inodeOf : Nat → Option Inode) (entry : DmaBuf) : Prop :=
  raw.attached entry.texture = some entry.image ∧
    ∃ buffer, raw.imported entry.image = some ⟨buffer, entry.layout⟩ ∧
      inodeOf buffer = some entry.inode

/-- No two entries have the same inode or different frame sizes. -/
structure Distinct : Prop where
  inode : ∀ index other first second, raw.dmaBufs index = some first →
    raw.dmaBufs other = some second → first.inode = second.inode → index = other
  size : ∀ index other first second, raw.dmaBufs index = some first →
    raw.dmaBufs other = some second →
      first.layout.width = second.layout.width ∧ first.layout.height = second.layout.height

structure Accounted : Prop where
  textures : raw.textures.Owned raw.heldTexture
  images : raw.images.Owned raw.heldImage

structure Cached (inodeOf : Nat → Option Inode) : Prop where
  accounted : raw.Accounted
  distinct : raw.Distinct
  onScreen : ∀ texture, raw.texture = some texture → raw.textureIsDmaBuf = true →
    ∃ index, raw.heldTexture (.entry index) = some texture
  inMemory : raw.texture.isSome → raw.textureIsDmaBuf = false → ∀ index, raw.dmaBufs index = none
  backed : ∀ index entry, raw.dmaBufs index = some entry → raw.Backed inodeOf entry

def OffMemory : Prop := raw.texture.isSome → raw.textureIsDmaBuf = true

def Shows (image : EglImage) : Prop := ∃ texture handle, raw.texture = some texture ∧
  raw.textures.Live texture ∧ raw.attached texture = some handle ∧ raw.images.Live handle ∧
    raw.imported handle = some image

variable {raw} {inodeOf : Nat → Option Inode} {index other : Fin dmaBufCacheSize}
  {entry : DmaBuf} {drops : DmaBuf → Bool}

theorem Cached.initial (hasEgl : Bool) : ({hasEgl} : InteropRaw).Cached inodeOf where
  accounted := {
    textures := by
      have nowhere : ({hasEgl} : InteropRaw).heldTexture = fun _ => none := by
        funext place
        cases place <;> rfl
      rw [nowhere]
      exact Handles.Owned.none_yet
    images := Handles.Owned.none_yet}
  distinct := {
    inode := by simp
    size := by simp}
  onScreen := by simp
  inMemory := by simp
  backed := by simp

theorem Cached.offMemory (cached : raw.Cached inodeOf) (found : raw.dmaBufs index = some entry) :
    raw.OffMemory := by
  intro shown
  by_contra memory
  rw [Bool.not_eq_true] at memory
  rw [cached.inMemory shown memory index] at found
  cases found

theorem OffMemory.screen_empty (off : raw.OffMemory) : raw.heldTexture .screen = none := by
  unfold OffMemory at off
  cases shown : raw.texture <;> simp_all [heldTexture]

variable {texture : Nat} {before after : InteropRaw}

theorem Cached.texture_held (cached : raw.Cached inodeOf) (shown : raw.texture = some texture) :
    ∃ place, raw.heldTexture place = some texture := by
  cases memory : raw.textureIsDmaBuf with
  | false => exact ⟨.screen, by simp [heldTexture, memory, shown]⟩
  | true =>
    obtain ⟨index, held⟩ := cached.onScreen texture shown memory
    exact ⟨.entry index, held⟩

theorem Cached.texture_live (cached : raw.Cached inodeOf) (shown : raw.texture = some texture) :
    raw.textures.Live texture := by
  obtain ⟨place, held⟩ := cached.texture_held shown
  exact cached.accounted.textures.live place texture held

/-! ## Releasing entries -/

/-- Entries only go, and what the renderer knows of the others stays. -/
structure Fewer (before after : InteropRaw) : Prop where
  kept : ∀ index entry, after.dmaBufs index = some entry → before.dmaBufs index = some entry
  texture : after.texture = none ∨ after.texture = before.texture
  textureIsDmaBuf : after.textureIsDmaBuf = before.textureIsDmaBuf
  attached : after.attached = before.attached
  imported : after.imported = before.imported

theorem Fewer.refl (raw : InteropRaw) : raw.Fewer raw :=
  ⟨fun _ _ found => found, .inr rfl, rfl, rfl, rfl⟩

theorem Fewer.trans {first second third : InteropRaw} (left : first.Fewer second)
    (right : second.Fewer third) : first.Fewer third where
  kept index entry found := left.kept index entry (right.kept index entry found)
  texture := by
    rcases right.texture with gone | same
    · exact .inl gone
    · rw [same]
      exact left.texture
  textureIsDmaBuf := right.textureIsDmaBuf.trans left.textureIsDmaBuf
  attached := right.attached.trans left.attached
  imported := right.imported.trans left.imported

theorem Fewer.offMemory (fewer : before.Fewer after) (off : before.OffMemory) :
    after.OffMemory := by
  intro shown
  rcases fewer.texture with gone | same
  · simp [gone] at shown
  · rw [fewer.textureIsDmaBuf]
    exact off (same ▸ shown)

theorem Cached.fewer (cached : before.Cached inodeOf) (fewer : before.Fewer after)
    (accounted : after.Accounted)
    (onScreen : ∀ texture, after.texture = some texture → after.textureIsDmaBuf = true →
      ∃ index, after.heldTexture (.entry index) = some texture) : after.Cached inodeOf where
  accounted := accounted
  distinct := {
    inode := fun index other first second left right =>
      cached.distinct.inode index other first second (fewer.kept _ _ left) (fewer.kept _ _ right)
    size := fun index other first second left right =>
      cached.distinct.size index other first second (fewer.kept _ _ left) (fewer.kept _ _ right)}
  onScreen := onScreen
  inMemory shown memory index := by
    cases found : after.dmaBufs index with
    | none => rfl
    | some entry =>
      have off := fewer.offMemory (cached.offMemory (fewer.kept index entry found)) shown
      simp [memory] at off
  backed index entry found := by
    obtain ⟨attached, buffer, imported, known⟩ := cached.backed index entry (fewer.kept _ _ found)
    refine ⟨?_, buffer, ?_, known⟩
    · rw [fewer.attached, attached]
    · rw [fewer.imported, imported]

theorem fewer_releaseDmaBuf : raw.Fewer (raw.releaseDmaBuf index entry) where
  kept other kept found := by
    by_cases here : other = index
    · simp [releaseDmaBuf, here] at found
    · simpa [releaseDmaBuf, here] using found
  texture := by
    unfold releaseDmaBuf
    by_cases shown : raw.texture = some entry.texture
    · exact .inl (if_pos shown)
    · exact .inr (if_neg shown)
  textureIsDmaBuf := rfl
  attached := rfl
  imported := rfl

theorem heldTexture_releaseDmaBuf (off : raw.OffMemory) :
    (raw.releaseDmaBuf index entry).heldTexture =
      update raw.heldTexture (.entry index) none := by
  funext place
  cases place with
  | screen =>
    rw [(fewer_releaseDmaBuf.offMemory off).screen_empty, update_of_ne (by simp),
      off.screen_empty]
  | entry other =>
    by_cases here : other = index <;> simp [heldTexture, releaseDmaBuf, update, here]

theorem Cached.releaseDmaBuf (cached : raw.Cached inodeOf)
    (found : raw.dmaBufs index = some entry) :
    (raw.releaseDmaBuf index entry).Cached inodeOf := by
  have off := cached.offMemory found
  have held : raw.heldTexture (.entry index) = some entry.texture := by
    simp [heldTexture, found]
  have moved := @heldTexture_releaseDmaBuf _ index entry off
  apply cached.fewer fewer_releaseDmaBuf
  · constructor
    · rw [moved]
      exact cached.accounted.textures.destroy held
    · have images : (raw.releaseDmaBuf index entry).heldImage =
          update raw.heldImage index none := by
        funext other
        by_cases here : other = index <;>
          simp [heldImage, InteropRaw.releaseDmaBuf, update, here]
      rw [images]
      exact cached.accounted.images.destroy (by simp [heldImage, found])
  · intro texture shown
    -- what is still on screen is not of the entry that goes
    have different : texture ≠ entry.texture ∧ raw.texture = some texture := by
      unfold InteropRaw.releaseDmaBuf at shown
      split_ifs at shown with gone
      · constructor
        · rintro rfl
          exact gone shown
        · exact shown
    intro dmaBuf
    obtain ⟨other, still⟩ := cached.onScreen texture different.2 dmaBuf
    refine ⟨other, ?_⟩
    rw [moved, update_of_ne, still]
    rintro same
    rw [same, held] at still
    exact different.1 (Option.some.inj still).symm

theorem Cached.releaseIf (cached : raw.Cached inodeOf) :
    (raw.releaseIf drops index).Cached inodeOf := by
  unfold InteropRaw.releaseIf
  split
  · rename_i found
    split_ifs
    · exact cached.releaseDmaBuf found
    · exact cached
  · exact cached

theorem fewer_releaseIf : raw.Fewer (raw.releaseIf drops index) := by
  unfold releaseIf
  split
  · split_ifs
    · exact fewer_releaseDmaBuf
    · exact .refl raw
  · exact .refl raw

theorem releaseIf_dropped (found : (raw.releaseIf drops index).dmaBufs index = some entry) :
    drops entry = false := by
  unfold releaseIf at found
  split at found
  · rename_i before
    split_ifs at found with dropped
    · simp [releaseDmaBuf] at found
    · cases before.symm.trans found
      simpa using dropped
  · rename_i before
    cases before.symm.trans found

theorem foldl_releaseIf (indices : List (Fin dmaBufCacheSize)) (cached : raw.Cached inodeOf) :
    let after := indices.foldl (fun raw index => raw.releaseIf drops index) raw
    after.Cached inodeOf ∧ raw.Fewer after ∧
      ∀ index ∈ indices, ∀ entry, after.dmaBufs index = some entry → drops entry = false := by
  induction indices generalizing raw with
  | nil => exact ⟨cached, .refl raw, by simp⟩
  | cons index rest ih =>
    obtain ⟨after, fewer, released⟩ := ih (@Cached.releaseIf _ _ index drops cached)
    refine ⟨after, fewer_releaseIf.trans fewer, ?_⟩
    intro other mem entry found
    rcases mem_cons.mp mem with rfl | mem
    · exact releaseIf_dropped (fewer.kept other entry found)
    · exact released other mem entry found

theorem releaseAll_spec (drops : DmaBuf → Bool) (cached : raw.Cached inodeOf) :
    (raw.releaseAll drops).Cached inodeOf ∧ raw.Fewer (raw.releaseAll drops) ∧
      ∀ index entry, (raw.releaseAll drops).dmaBufs index = some entry → drops entry = false := by
  obtain ⟨after, fewer, released⟩ := @foldl_releaseIf _ _ drops (List.finRange dmaBufCacheSize) cached
  exact ⟨after, fewer, fun index => released index (mem_finRange index)⟩

/-! ## Frames in memory -/

theorem fewer_dropRawTexture : raw.Fewer raw.dropRawTexture := by
  unfold dropRawTexture
  split
  · split_ifs
    · exact .refl raw
    · exact ⟨fun _ _ found => found, .inl rfl, rfl, rfl, rfl⟩
  · exact .refl raw

theorem fewer_dark : raw.Fewer raw.dark :=
  ⟨fun _ _ found => found, .inl rfl, rfl, rfl, rfl⟩

theorem dropRawTexture_offMemory : raw.dropRawTexture.OffMemory := by
  unfold dropRawTexture OffMemory
  split
  · split_ifs with dmaBuf
    · exact fun _ => dmaBuf
    · simp [dark]
  · rename_i nothing
    simp [nothing]

section

variable (cached : raw.Cached inodeOf)
include cached

theorem Cached.dropRawTexture : raw.dropRawTexture.Cached inodeOf := by
  unfold InteropRaw.dropRawTexture
  split
  · rename_i texture shown
    split_ifs with dmaBuf
    · exact cached
    · rw [Bool.not_eq_true] at dmaBuf
      have held : raw.heldTexture .screen = some texture := by simp [heldTexture, dmaBuf, shown]
      have fewer : raw.Fewer (raw.destroyTexture texture).dark :=
        ⟨fun _ _ found => found, .inl rfl, rfl, rfl, rfl⟩
      apply cached.fewer fewer
      · refine ⟨?_, cached.accounted.images⟩
        apply (cached.accounted.textures.destroy held).congr
        intro place
        cases place <;> simp [heldTexture, dark, destroyTexture, dmaBuf]
      · simp [dark]
  · exact cached

theorem Cached.dark (off : raw.OffMemory) : raw.dark.Cached inodeOf := by
  apply cached.fewer fewer_dark
  · refine ⟨cached.accounted.textures.congr ?_, cached.accounted.images⟩
    intro place
    cases place with
    | screen =>
      rw [(fewer_dark.offMemory off).screen_empty, off.screen_empty]
    | entry index => rfl
  · simp [InteropRaw.dark]

theorem reset_spec :
    raw.reset.Cached inodeOf ∧ raw.reset.texture = none ∧ ∀ index, raw.reset.dmaBufs index = none := by
  have dark := cached.dropRawTexture.dark dropRawTexture_offMemory
  obtain ⟨after, fewer, released⟩ := releaseAll_spec (fun _ => true) dark
  refine ⟨after, ?_, ?_⟩
  · rcases fewer.texture with gone | same
    · exact gone
    · exact same
  · intro index
    cases found : raw.reset.dmaBufs index with
    | none => rfl
    | some entry => cases released index entry found

theorem reset_empty (handle : Nat) :
    ¬raw.reset.textures.Live handle ∧ ¬raw.reset.images.Live handle := by
  obtain ⟨after, dark, empty⟩ := reset_spec cached
  constructor
  · apply after.accounted.textures.none_live
    intro place
    cases place <;> simp [heldTexture, dark, empty]
  · apply after.accounted.images.none_live
    simp [heldImage, empty]

theorem Cached.showNewTexture (dark : raw.texture = none)
    (empty : ∀ index, raw.dmaBufs index = none) (size : Display.Size) (format : SdlFormat) :
    (raw.showNewTexture size format).Cached inodeOf where
  accounted := by
    refine ⟨?_, cached.accounted.images⟩
    have nowhere : raw.heldTexture .screen = none := by simp [heldTexture, dark]
    apply (cached.accounted.textures.create nowhere).congr
    intro place
    cases place <;> simp [heldTexture, InteropRaw.showNewTexture, showTexture, withTexture]
  distinct := ⟨cached.distinct.inode, cached.distinct.size⟩
  onScreen := by simp [InteropRaw.showNewTexture, showTexture]
  inMemory _ _ := empty
  backed index entry found := by cases (empty index).symm.trans found

theorem Cached.ensureTexture (size : Display.Size) (format : SdlFormat) (outcome : Outcome) :
    (raw.ensureTexture size format outcome).2.Cached inodeOf := by
  obtain ⟨after, dark, empty⟩ := reset_spec cached
  unfold InteropRaw.ensureTexture
  split_ifs
  · exact cached
  · exact after.showNewTexture dark empty size format
  · exact after

/-! ## DMA-BUFs -/

theorem getFreeDmaBuf_spec (got : raw.getFreeDmaBuf = some (index, after)) :
    after.Cached inodeOf ∧ raw.Fewer after ∧ after.dmaBufs index = none := by
  obtain ⟨chosen, _, same⟩ := map_eq_some_iff.mp got
  cases same
  refine ⟨cached.releaseIf, fewer_releaseIf, ?_⟩
  cases found : (raw.releaseIf (fun _ => true) index).dmaBufs index with
  | none => rfl
  | some entry => cases releaseIf_dropped found

theorem Cached.withTexture_destroyed :
    (raw.withTexture.destroyTexture raw.textures.fresh).Cached inodeOf where
  accounted := ⟨cached.accounted.textures.discard, cached.accounted.images⟩
  distinct := ⟨cached.distinct.inode, cached.distinct.size⟩
  onScreen := cached.onScreen
  inMemory := cached.inMemory
  backed := cached.backed

theorem Cached.backed_fresh {image : EglImage} (found : raw.dmaBufs index = some entry) :
    (raw.withTexture.withImage image).Backed inodeOf entry ∧ entry.texture ≠ raw.textures.fresh := by
  obtain ⟨attached, buffer, imported, known⟩ := cached.backed index entry found
  refine ⟨⟨attached, buffer, ?_, known⟩, ?_⟩
  · have old : entry.image ≠ raw.images.fresh := by
      intro same
      exact cached.accounted.images.fresh_absent index (by simp [heldImage, found, same])
    simpa [withImage, withTexture, update_of_ne old] using imported
  · intro same
    exact cached.accounted.textures.fresh_absent (.entry index) (by simp [heldTexture, found, same])

theorem Cached.withImage_destroyed (image : EglImage) :
    (((raw.withTexture.withImage image).destroyImage raw.images.fresh).destroyTexture
      raw.textures.fresh).Cached inodeOf where
  accounted := ⟨cached.accounted.textures.discard, cached.accounted.images.discard⟩
  distinct := ⟨cached.distinct.inode, cached.distinct.size⟩
  onScreen := cached.onScreen
  inMemory := cached.inMemory
  backed _ _ found := (cached.backed_fresh found).1

end

section Import

variable {inode : Inode} {image : EglImage}

structure Admits (raw : InteropRaw) (inode : Inode) (image : EglImage) : Prop where
  inode : ∀ index entry, raw.dmaBufs index = some entry → entry.inode ≠ inode
  size : ∀ index entry, raw.dmaBufs index = some entry →
    entry.layout.width = image.layout.width ∧ entry.layout.height = image.layout.height

theorem Cached.fillDmaBuf (cached : raw.Cached inodeOf) (off : raw.OffMemory)
    (free : raw.dmaBufs index = none) (admits : raw.Admits inode image)
    (known : inodeOf image.buffer = some inode) :
    ((raw.withTexture.withImage image).fillDmaBuf index
      (raw.newDmaBuf inode image)).Cached inodeOf := by
  generalize filled : (raw.withTexture.withImage image).fillDmaBuf index
    (raw.newDmaBuf inode image) = after
  -- an entry is the new one, or was there before
  have here : after.dmaBufs index = some (raw.newDmaBuf inode image) := by
    simp [← filled, InteropRaw.fillDmaBuf]
  have old : ∀ {other : Fin dmaBufCacheSize}, other ≠ index →
      after.dmaBufs other = raw.dmaBufs other := by
    intro other elsewhere
    simp [← filled, InteropRaw.fillDmaBuf, withImage, withTexture, elsewhere]
  have screen : after.OffMemory := by
    rw [← filled]
    exact off
  constructor
  · constructor
    · have empty : raw.heldTexture (.entry index) = none := by simp [heldTexture, free]
      rw [← filled]
      apply (cached.accounted.textures.create empty).congr
      intro place
      cases place with
      | screen => rw [filled, screen.screen_empty, update_of_ne (by simp), off.screen_empty]
      | entry other =>
        by_cases same : other = index
        · subst same
          rw [filled, update_self, heldTexture, here]
          rfl
        · simp [filled, heldTexture, old same, update, same]
    · have empty : raw.heldImage index = none := by simp [heldImage, free]
      rw [← filled]
      apply (cached.accounted.images.create empty).congr
      intro other
      by_cases same : other = index
      · subst same
        rw [filled, update_self, heldImage, here]
        rfl
      · simp [filled, heldImage, old same, same]
  · constructor
    · intro first second left right atFirst atSecond same
      by_cases new : first = index <;> by_cases new' : second = index
      · rw [new, new']
      · subst new
        cases here.symm.trans atFirst
        rw [old new'] at atSecond
        exact absurd same.symm (admits.inode second right atSecond)
      · subst new'
        cases here.symm.trans atSecond
        rw [old new] at atFirst
        exact absurd same (admits.inode first left atFirst)
      · rw [old new] at atFirst
        rw [old new'] at atSecond
        exact cached.distinct.inode first second left right atFirst atSecond same
    · have size : ∀ place entry, after.dmaBufs place = some entry →
          entry.layout.width = image.layout.width ∧
            entry.layout.height = image.layout.height := by
        intro place entry found
        by_cases new : place = index
        · subst new
          cases here.symm.trans found
          exact ⟨rfl, rfl⟩
        · rw [old new] at found
          exact admits.size place entry found
      intro first second left right atFirst atSecond
      have leftSize := size first left atFirst
      have rightSize := size second right atSecond
      exact ⟨leftSize.1.trans rightSize.1.symm, leftSize.2.trans rightSize.2.symm⟩
  · intro texture shown dmaBuf
    obtain ⟨other, held⟩ := cached.onScreen texture (by rw [← filled] at shown; exact shown)
      (by rw [← filled] at dmaBuf; exact dmaBuf)
    have elsewhere : other ≠ index := by
      rintro rfl
      simp [heldTexture, free] at held
    exact ⟨other, by simpa [heldTexture, old elsewhere] using held⟩
  · intro shown memory
    have := screen shown
    simp [memory] at this
  · intro place entry found
    by_cases new : place = index
    · subst new
      cases here.symm.trans found
      refine ⟨?_, image.buffer, ?_, known⟩
      · simp [← filled, fillDmaBuf, newDmaBuf]
      · simp [← filled, fillDmaBuf, newDmaBuf, withImage, withTexture]
    · rw [old new] at found
      obtain ⟨⟨attached, imported⟩, different⟩ := @Cached.backed_fresh _ _ _ _ cached image found
      rw [← filled]
      refine ⟨?_, imported⟩
      simpa [InteropRaw.fillDmaBuf, newDmaBuf, update_of_ne different] using attached

theorem createDmaBuf_spec (cached : raw.Cached inodeOf) (off : raw.OffMemory)
    (free : raw.dmaBufs index = none) (admits : raw.Admits inode image)
    (known : inodeOf image.buffer = some inode) {outcome : Outcome} {created : Option DmaBuf}
    {after : InteropRaw} (done : raw.createDmaBuf index inode image outcome = (created, after)) :
    after.Cached inodeOf ∧ ∀ entry, created = some entry →
      after.dmaBufs index = some entry ∧ entry.inode = inode ∧ entry.layout = image.layout := by
  unfold createDmaBuf at done
  split_ifs at done
  · cases done
    refine ⟨cached.fillDmaBuf off free admits known, ?_⟩
    rintro entry ⟨⟩
    exact ⟨update_self .., rfl, rfl⟩
  · cases done
    exact ⟨cached.withImage_destroyed image, by simp⟩
  · cases done
    exact ⟨cached.withTexture_destroyed, by simp⟩
  · cases done
    exact ⟨cached, by simp⟩

def Identified (inodeOf : Nat → Option Inode) : Prop :=
  ∀ buffer other inode, inodeOf buffer = some inode → inodeOf other = some inode → buffer = other

theorem useDmaBuf_spec (cached : raw.Cached inodeOf) (identified : Identified inodeOf)
    (found : raw.dmaBufs index = some entry) (known : inodeOf image.buffer = some entry.inode)
    (layout : entry.layout = image.layout) (size : Display.Size) :
    (raw.useDmaBuf index entry size).Cached inodeOf ∧
      (raw.useDmaBuf index entry size).Shows image := by
  have off := cached.offMemory found
  generalize used : raw.useDmaBuf index entry size = after
  -- only the time of the last use changes in the entries
  have alike : ∀ other found, after.dmaBufs other = some found → ∃ before,
      raw.dmaBufs other = some before ∧ found = {before with lastUse := found.lastUse} := by
    intro other changed still
    by_cases here : other = index
    · subst here
      refine ⟨entry, found, ?_⟩
      simp [← used, useDmaBuf, showTexture] at still
      rw [← still]
    · refine ⟨changed, ?_, rfl⟩
      simpa [← used, useDmaBuf, showTexture, here] using still
  have textures : after.heldTexture = raw.heldTexture := by
    funext place
    cases place with
    | screen =>
      rw [off.screen_empty]
      simp [← used, heldTexture, useDmaBuf, showTexture]
    | entry other =>
      by_cases here : other = index
      · subst here
        simp [← used, heldTexture, useDmaBuf, showTexture, found]
      · simp [← used, heldTexture, useDmaBuf, showTexture, here]
  have images : after.heldImage = raw.heldImage := by
    funext other
    by_cases here : other = index
    · subst here
      simp [← used, heldImage, useDmaBuf, showTexture, found]
    · simp [← used, heldImage, useDmaBuf, showTexture, here]
  have kept : after.textures = raw.textures ∧ after.images = raw.images ∧
      after.attached = raw.attached ∧ after.imported = raw.imported ∧
      after.texture = some entry.texture ∧ after.textureIsDmaBuf = true := by
    rw [← used]
    exact ⟨rfl, rfl, rfl, rfl, rfl, rfl⟩
  obtain ⟨sameTextures, sameImages, attached, imported, shown, dmaBuf⟩ := kept
  have held : raw.heldTexture (.entry index) = some entry.texture := by simp [heldTexture, found]
  constructor
  · constructor
    · constructor
      · rw [textures, sameTextures]
        exact cached.accounted.textures
      · rw [images, sameImages]
        exact cached.accounted.images
    · constructor
      · intro first second left right atFirst atSecond same
        obtain ⟨before, atFirst, eqLeft⟩ := alike first left atFirst
        obtain ⟨before', atSecond, eqRight⟩ := alike second right atSecond
        rw [eqLeft, eqRight] at same
        exact cached.distinct.inode first second before before' atFirst atSecond same
      · intro first second left right atFirst atSecond
        obtain ⟨before, atFirst, eqLeft⟩ := alike first left atFirst
        obtain ⟨before', atSecond, eqRight⟩ := alike second right atSecond
        rw [eqLeft, eqRight]
        exact cached.distinct.size first second before before' atFirst atSecond
    · intro texture now _
      cases shown.symm.trans now
      exact ⟨index, by rw [textures, held]⟩
    · intro _ memory
      simp [dmaBuf] at memory
    · intro other changed still
      obtain ⟨before, still, same⟩ := alike other changed still
      rw [same]
      simpa only [Backed, attached, imported] using cached.backed other before still
  · obtain ⟨storage, buffer, created, identity⟩ := cached.backed index entry found
    refine ⟨entry.texture, entry.image, shown, ?_, ?_, ?_, ?_⟩
    · rw [sameTextures]
      exact cached.accounted.textures.live _ _ held
    · rw [attached, storage]
    · rw [sameImages]
      exact cached.accounted.images.live index _ (by simp [heldImage, found])
    · rw [imported, created, identified buffer image.buffer entry.inode identity known, layout]

theorem roomFor_spec (cached : raw.Cached inodeOf) (image : EglImage) :
    (raw.roomFor image).Cached inodeOf ∧ raw.Fewer (raw.roomFor image) ∧
      (raw.roomFor image).OffMemory ∧ ∀ index entry, (raw.roomFor image).dmaBufs index = some entry →
        entry.layout.width = image.layout.width ∧ entry.layout.height = image.layout.height := by
  obtain ⟨released, fewer, sized⟩ := releaseAll_spec (fun old =>
    old.layout.width ≠ image.layout.width || old.layout.height ≠ image.layout.height)
    cached.dropRawTexture
  refine ⟨released, fewer_dropRawTexture.trans fewer, fewer.offMemory dropRawTexture_offMemory, ?_⟩
  intro index entry found
  simpa using sized index entry found

theorem importNew_spec (cached : raw.Cached inodeOf) (identified : Identified inodeOf)
    (known : inodeOf image.buffer = some inode)
    (missing : ∀ index entry, raw.dmaBufs index = some entry → entry.inode ≠ inode)
    (size : Display.Size) (outcome : Outcome) :
    (raw.importNew inode image size outcome).2.Cached inodeOf ∧
      ((raw.importNew inode image size outcome).1 = true →
        (raw.importNew inode image size outcome).2.Shows image) := by
  obtain ⟨room, fewer, off, sized⟩ := roomFor_spec cached image
  unfold importNew
  split
  · exact ⟨room, by simp⟩
  · rename_i index free got
    obtain ⟨freed, fewerFree, empty⟩ := getFreeDmaBuf_spec room got
    have admits : free.Admits inode image := by
      constructor
      · intro other entry found
        exact missing other entry (fewer.kept _ _ (fewerFree.kept _ _ found))
      · intro other entry found
        exact sized other entry (fewerFree.kept _ _ found)
    have spec : ∀ {created after}, free.createDmaBuf index inode image outcome = (created, after) →
        _ := createDmaBuf_spec freed (fewerFree.offMemory off) empty admits known
    split
    · rename_i done
      exact ⟨(spec done).1, by simp⟩
    · rename_i entry after done
      obtain ⟨created, filled⟩ := spec done
      obtain ⟨found, rfl, layout⟩ := filled entry rfl
      have shown := useDmaBuf_spec created identified found known layout size
      exact ⟨shown.1, fun _ => shown.2⟩

theorem findDmaBuf_some (found : raw.findDmaBuf inode = some (index, entry)) :
    raw.dmaBufs index = some entry ∧ entry.inode = inode := by
  obtain ⟨other, _, here⟩ := exists_of_findSome?_eq_some found
  obtain ⟨value, matched, same⟩ := map_eq_some_iff.mp here
  cases same
  simpa [filter_eq_some_iff] using matched

theorem findDmaBuf_none (missing : raw.findDmaBuf inode = none) :
    ∀ index entry, raw.dmaBufs index = some entry → entry.inode ≠ inode := by
  intro index entry found same
  have absent := findSome?_eq_none_iff.mp missing index (mem_finRange index)
  simp [entryOf, found, same] at absent

theorem importBuffer_spec (cached : raw.Cached inodeOf) (identified : Identified inodeOf)
    (known : inodeOf image.buffer = some inode) (size : Display.Size) (outcome : Outcome) :
    (raw.importBuffer inode image size outcome).2.Cached inodeOf ∧
      ((raw.importBuffer inode image size outcome).1 = true →
        (raw.importBuffer inode image size outcome).2.Shows image) := by
  unfold importBuffer
  split
  · rename_i missing
    exact importNew_spec cached identified known (findDmaBuf_none missing) size outcome
  · rename_i index entry present
    obtain ⟨found, rfl⟩ := findDmaBuf_some present
    split_ifs with layout
    · have shown := useDmaBuf_spec cached identified found known layout size
      exact ⟨shown.1, fun _ => shown.2⟩
    · apply importNew_spec (cached.releaseDmaBuf found) identified known
      intro other kept still same
      -- the entry of the inode is the one that has just gone
      have before := fewer_releaseDmaBuf.kept other kept still
      cases cached.distinct.inode other index kept entry before found same
      simp [releaseDmaBuf] at still

theorem importFrame_spec (cached : raw.Cached inodeOf) (identified : Identified inodeOf)
    (frame : Frame) (outcome : Outcome) :
    (raw.importFrame inodeOf frame outcome).2.Cached inodeOf ∧
      (frame.format = .drmPrime → (raw.importFrame inodeOf frame outcome).1 = true →
        ∃ desc, frame.supported = some desc ∧
          (raw.importFrame inodeOf frame outcome).2.Shows ⟨desc.buffer, frame.layout desc⟩) := by
  unfold importFrame
  split_ifs with format
  · unfold importDmaBuf
    split_ifs
    · split
      · exact ⟨cached, by simp⟩
      · rename_i desc described
        split
        · rename_i known _
          have spec := @importBuffer_spec _ _ _ ⟨desc.buffer, frame.layout desc⟩ cached
            identified known frame.size outcome
          exact ⟨spec.1, fun _ done => ⟨desc, described, spec.2 done⟩⟩
        · exact ⟨cached, by simp⟩
    · exact ⟨cached, by simp⟩
  · refine ⟨?_, fun same => absurd same format⟩
    split
    · exact cached
    · rename_i sdl _
      have ensured := cached.ensureTexture frame.size sdl outcome
      split <;> rename_i same <;> rw [same] at ensured <;> exact ensured

end Import

end InteropRaw

/-! What the interop guarantees over every run of imports and resets. -/

namespace InteropRaw

variable (raw : InteropRaw)

def OnScreen : Prop := ∀ texture, raw.texture = some texture → raw.textures.Live texture ∧
  (raw.textureIsDmaBuf = true ↔
    ∃ index entry, raw.dmaBufs index = some entry ∧ entry.texture = texture)

variable {raw} {inodeOf : Nat → Option Inode}

theorem Cached.screen (cached : raw.Cached inodeOf) : raw.OnScreen := by
  intro texture shown
  refine ⟨cached.texture_live shown, ?_⟩
  constructor
  · intro dmaBuf
    obtain ⟨index, held⟩ := cached.onScreen texture shown dmaBuf
    obtain ⟨entry, found, same⟩ := Option.map_eq_some_iff.mp held
    exact ⟨index, entry, found, same⟩
  · rintro ⟨index, entry, found, _⟩
    exact cached.offMemory found (by simp [shown])

theorem Cached.pinned {known : Nat → Option Inode} (cached : raw.Cached inodeOf)
    (agree : ∀ buffer inode, raw.Pinned buffer → inodeOf buffer = some inode →
      known buffer = some inode) : raw.Cached known where
  accounted := cached.accounted
  distinct := cached.distinct
  onScreen := cached.onScreen
  inMemory := cached.inMemory
  backed index entry found := by
    obtain ⟨attached, buffer, imported, identity⟩ := cached.backed index entry found
    have alive : raw.images.Live entry.image :=
      cached.accounted.images.live index _ (by simp [heldImage, found])
    exact ⟨attached, buffer, imported,
      agree _ _ ⟨entry.image, alive.1, alive, by simp [imported]⟩ identity⟩

end InteropRaw

variable {buffers : List (Nat × Inode)} {buffer : Nat} {inode : Inode} {freed : Nat}

theorem lookup_mem (found : buffers.lookup buffer = some inode) : (buffer, inode) ∈ buffers := by
  obtain ⟨before, after, same, _⟩ := List.lookup_eq_some_iff.mp found
  simp [same]

theorem lookup_allocated (buffers : List (Nat × Inode)) (buffer other : Nat) (inode : Inode) :
    ((buffer, inode) :: buffers).lookup other =
      if other = buffer then some inode else buffers.lookup other := by
  rw [lookup_cons]
  by_cases same : other = buffer <;> simp [same, beq_eq_false_iff_ne.mpr]

theorem lookup_freed (kept : buffer ≠ freed) :
    (buffers.filter fun known => known.1 ≠ freed).lookup buffer = buffers.lookup buffer := by
  induction buffers with
  | nil => rfl
  | cons known rest ih =>
    by_cases gone : known.1 = freed
    · rw [filter_cons_of_neg (by simp [gone]), ih, lookup_allocated, if_neg]
      rwa [gone]
    · rw [filter_cons_of_pos (by simp [gone]), lookup_allocated, lookup_allocated, ih]

theorem lookup_of_freed
    (found : (buffers.filter fun known => known.1 ≠ freed).lookup buffer = some inode) :
    buffers.lookup buffer = some inode := by
  have kept : buffer ≠ freed := by simpa using (mem_filter.mp (lookup_mem found)).2
  rwa [lookup_freed kept] at found

namespace Client

variable {client after : Client}

structure Sound (client : Client) : Prop where
  cached : client.raw.Cached client.inodeOf
  identified : InteropRaw.Identified client.inodeOf

variable {buffer : Nat}

theorem Sound.allocate (sound : client.Sound) {inode : Inode}
    (newBuffer : buffer ∉ client.buffers.map Prod.fst)
    (newInode : inode ∉ client.buffers.map Prod.snd) :
    Sound {client with buffers := (buffer, inode) :: client.buffers} where
  cached := by
    apply sound.cached.pinned
    intro other known _ found
    have different : other ≠ buffer := by
      rintro rfl
      exact newBuffer (mem_map_of_mem (lookup_mem found))
    simpa [inodeOf, lookup_allocated, different] using found
  identified := by
    have absent : ∀ other, client.buffers.lookup other ≠ some inode := by
      intro other found
      exact newInode (mem_map_of_mem (lookup_mem found))
    intro first second known left right
    simp only [inodeOf, lookup_allocated] at left right
    split_ifs at left right with new new' new'
    · rw [new, new']
    · cases left
      exact absurd right (absent second)
    · cases right
      exact absurd left (absent first)
    · exact sound.identified first second known left right

theorem Sound.free (sound : client.Sound) (unused : ¬client.raw.Pinned buffer) :
    Sound {client with buffers := client.buffers.filter fun known => known.1 ≠ buffer} where
  cached := by
    apply sound.cached.pinned
    intro other known pinned found
    have kept : other ≠ buffer := by
      rintro rfl
      exact unused pinned
    exact (lookup_freed kept).trans found
  identified first second known left right :=
    sound.identified first second known (lookup_of_freed left) (lookup_of_freed right)

theorem Sound.step (sound : client.Sound) {event : Event}
    (moved : step client event = some after) : after.Sound := by
  cases event with
  | importFrame frame outcome =>
    cases moved
    exact ⟨(InteropRaw.importFrame_spec sound.cached sound.identified frame outcome).1,
      sound.identified⟩
  | reset =>
    cases moved
    exact ⟨(InteropRaw.reset_spec sound.cached).1, sound.identified⟩
  | allocate buffer inode =>
    simp only [Interop.step] at moved
    split_ifs at moved with known
    cases moved
    obtain ⟨newBuffer, newInode⟩ := not_or.mp known
    exact sound.allocate newBuffer newInode
  | free buffer =>
    simp only [Interop.step] at moved
    split_ifs at moved with pinned
    cases moved
    exact sound.free pinned

theorem sound (reached : machine.Reachable client) : client.Sound := by
  apply Transition.Machine.Reaches.invariant _ _ reached
  · rintro _ ⟨hasEgl, rfl⟩
    exact ⟨.initial hasEgl, by simp [InteropRaw.Identified, inodeOf]⟩
  · intro state event next before _ moved
    exact before.step moved

end Client

/-- In every state textures and images are destroyed once or held in one place, what is on screen is
live, and entries differ in their inodes; a successful import shows its buffer, and a reset leaves
nothing. -/
theorem imports_accounted {client : Client} (reached : machine.Reachable client) :
    client.raw.Accounted ∧ client.raw.OnScreen ∧ client.raw.Distinct ∧
      (∀ frame outcome, frame.format = .drmPrime →
        (client.raw.importFrame client.inodeOf frame outcome).1 = true →
          ∃ desc, frame.supported = some desc ∧
            (client.raw.importFrame client.inodeOf frame outcome).2.Shows
              ⟨desc.buffer, frame.layout desc⟩) ∧
      ∀ handle, ¬client.raw.reset.textures.Live handle ∧ ¬client.raw.reset.images.Live handle := by
  have sound := Client.sound reached
  refine ⟨sound.cached.accounted, sound.cached.screen, sound.cached.distinct, ?_, ?_⟩
  · intro frame outcome
    exact (InteropRaw.importFrame_spec sound.cached sound.identified frame outcome).2
  · exact InteropRaw.reset_empty sound.cached

def alphaFrame : Frame where
  format := .drmPrime
  width := 640
  height := 480
  data := some {
    nbObjects := 1, nbLayers := 1, nbPlanes := 1, buffer := 0
    format := scFourcc 'A' 'R' '2' '4', modifier := 0, offset := 0, pitch := 2560}

def beforeAlpha : Client where
  raw := {hasEgl := true}
  buffers := [(0, ⟨1, 1⟩)]

theorem beforeAlpha_reached : machine.Reachable beforeAlpha :=
  .of_run [.allocate 0 ⟨1, 1⟩] (.start ⟨true, rfl⟩) rfl

theorem imports_accounted_alpha :
    ∃ desc, alphaFrame.supported = some desc ∧
      (beforeAlpha.raw.importFrame beforeAlpha.inodeOf alphaFrame {}).2.Shows
        ⟨desc.buffer, alphaFrame.layout desc⟩ :=
  (imports_accounted beforeAlpha_reached).2.2.2.1 alphaFrame {} rfl rfl

/-- A frame with alpha is not imported with its own format. -/
theorem alpha_imported_opaque :
    ¬∀ client, machine.Reachable client → ∀ frame outcome, frame.format = .drmPrime →
      (client.raw.importFrame client.inodeOf frame outcome).1 = true →
        ∃ desc image, frame.supported = some desc ∧
          (client.raw.importFrame client.inodeOf frame outcome).2.Shows image ∧
          image.layout.drmFormat = desc.format := by
  intro claimed
  obtain ⟨desc, image, described, shows, format⟩ :=
    claimed beforeAlpha beforeAlpha_reached alphaFrame {} rfl rfl
  obtain ⟨texture, handle, shown, _, attached, _, imported⟩ := shows
  cases described
  cases shown
  cases attached
  cases imported
  revert format
  decide

end Ika.Interop
