import Ika.BufferedZip.Callbacks

/-! A reader over a buffered zip source, as the zip library hands its calls to the callbacks. -/

set_option autoImplicit false

namespace Ika.BufferedZip

open List Int

inductive Whence where
  | SEEK_SET
  | SEEK_CUR
  | SEEK_END

def seekTarget (offset : Int) (length : Nat) (distance : Int) : Whence → Int
  | .SEEK_SET => distance
  | .SEEK_CUR => offset + distance
  | .SEEK_END => length + distance

/-- Where a seek of the library goes to; it refuses positions outside of the source. -/
structure Libzip where
  zip_source_seek_compute_offset : Int → Nat → Int → Whence → Int
  inside : ∀ {offset : Int} {length : Nat} {distance : Int} {whence : Whence},
    0 ≤ seekTarget offset length distance whence →
    seekTarget offset length distance whence ≤ length →
    zip_source_seek_compute_offset offset length distance whence =
      seekTarget offset length distance whence
  outside : ∀ {offset : Int} {length : Nat} {distance : Int} {whence : Whence},
    ¬(0 ≤ seekTarget offset length distance whence ∧
      seekTarget offset length distance whence ≤ length) →
    zip_source_seek_compute_offset offset length distance whence = -1

structure Reader where
  callbacks : Callbacks
  /-- The library remembers that a read came to the end. -/
  eof : Bool := false

def Outcome.after (data : List UInt8) : Outcome → Outcome
  | .returned more => .returned (data ++ more)
  | .failed => .returned data
  | outcome => outcome

/-- What came of a read, whether the data provider failed in it, and the reader then. -/
structure Reading where
  outcome : Outcome
  failure : Bool
  reader : Reader

namespace Reader

/-- The library gives the read command for all that is left, as often as it likes until then. -/
def readOn (len : Nat) : Reader → List (List Answer) → Reading
  | reader, [] => ⟨.returned [], false, reader⟩
  | reader, answers :: commands =>
    if len = 0 then ⟨.returned [], false, reader⟩
    else
      let call := reader.callbacks.Read len answers
      match call.outcome with
      | .returned [] => ⟨.returned [], call.failure, ⟨call.callbacks, true⟩⟩
      | .returned data =>
        let more := readOn (len - data.length) ⟨call.callbacks, reader.eof⟩ commands
        ⟨more.outcome.after data, call.failure || more.failure, more.reader⟩
      | outcome => ⟨outcome, call.failure, ⟨call.callbacks, reader.eof⟩⟩

variable (lib : Libzip) (reader : Reader)

def zip_source_read (len : Nat) (commands : List (List Answer)) : Reading :=
  if commands = [] then
    -- without a command the library only returns something at the end, or for nothing
    ⟨if len = 0 ∨ reader.eof then .returned [] else .failed, false, reader⟩
  else reader.readOn len commands

/-- The callback for a seek command never fails, and the library forgets the end. -/
def zip_source_seek (offset : Int) (whence : Whence) : Reader where
  callbacks := reader.callbacks.SetOffset
    (lib.zip_source_seek_compute_offset reader.callbacks.offset_ reader.callbacks.size_ offset whence)
  eof := false

def Seek (offset : Int) (whence : Whence) : Option Nat × Reader :=
  let reader := reader.zip_source_seek lib offset whence
  let tell := reader.callbacks.offset_
  (if 0 ≤ tell then some tell.toNat else none, reader)

def SeekSet (offset : Nat) : Option Nat × Reader := reader.Seek lib (asInt64 offset) .SEEK_SET

def SeekCur (offset : Int) : Option Nat × Reader := reader.Seek lib offset .SEEK_CUR

def SeekEnd (offset : Int) : Option Nat × Reader := reader.Seek lib offset .SEEK_END

/-- The reader where the read of a `PRead` is made. -/
def atOffset (offset : Nat) : Reader := ((reader.SeekCur lib 0).2.SeekSet lib offset).2

/-- Reading elsewhere is seeking there, reading, and seeking back. -/
def PRead (count offset : Nat) (commands : List (List Answer)) : Reading :=
  match reader.SeekCur lib 0 with
  | (none, reader) => ⟨.failed, false, reader⟩
  | (some original_offset, reader) =>
    match reader.SeekSet lib offset with
    | (none, reader) => ⟨.failed, false, reader⟩
    | (some _, reader) =>
      let read_res := reader.zip_source_read count commands
      match read_res.outcome with
      | .overran | .reading => read_res
      | outcome =>
        match read_res.reader.SeekSet lib original_offset with
        | (none, reader) => ⟨.failed, read_res.failure, reader⟩
        | (some _, reader) => ⟨outcome, read_res.failure, reader⟩

section Along

variable (source : List UInt8)
  (asked : Callbacks → List UInt8 → Nat → List Answer → Prop)

def Along (len : Nat) : Callbacks → List (List Answer) → Prop
  | _, [] => True
  | callbacks, answers :: commands =>
    len ≠ 0 → asked callbacks source len answers ∧
      match (callbacks.Read len answers).outcome with
      | .returned [] => True
      | .returned (byte :: data) =>
        Along (len - (byte :: data).length) (callbacks.Read len answers).callbacks commands
      | _ => True

def decidableAlong
    (decide' : ∀ callbacks len answers, Decidable (asked callbacks source len answers)) :
    ∀ (len : Nat) (callbacks : Callbacks) (commands : List (List Answer)),
      Decidable (Along source asked len callbacks commands)
  | _, _, [] => isTrue trivial
  | len, callbacks, answers :: commands => by
    unfold Along
    refine @instDecidableForall _ _ _ (@instDecidableAnd _ _ (decide' callbacks len answers) ?_)
    exact match (callbacks.Read len answers).outcome with
      | .returned [] => isTrue trivial
      | .returned (_ :: _) => decidableAlong decide' _ _ commands
      | .failed | .overran | .reading => isTrue trivial

instance [decide' : ∀ callbacks len answers, Decidable (asked callbacks source len answers)]
    (len : Nat) (callbacks : Callbacks) (commands : List (List Answer)) :
    Decidable (Along source asked len callbacks commands) :=
  decidableAlong source asked decide' len callbacks commands

end Along

structure Coherent (source : Source) (position : Nat) : Prop where
  callbacks : reader.callbacks.Coherent source position
  ended : reader.eof = true → source.data.length ≤ position

end Reader

/-- What a read may come to that began at the position, where the library may have stopped. -/
def Reading.Good (reading : Reading) (source : Source) (position len : Nat) (stopped : Prop) :
    Prop :=
  match reading.outcome with
  | .returned data =>
    data <+: source.data.drop position ∧ data.length ≤ len ∧
      (data = [] → stopped ∨ len = 0 ∨ source.data.length ≤ position) ∧
      (reading.failure = true → data ≠ []) ∧
      reading.reader.Coherent source (position + data.length)
  | .failed => reading.reader.Coherent source position
  | _ => False

namespace Reader.Coherent

variable {reader : Reader} {source : Source} {position len : Nat} {commands : List (List Answer)}

theorem stay (coherent : reader.Coherent source position) (stopped : Prop)
    (why : stopped ∨ len = 0 ∨ source.data.length ≤ position) :
    Reading.Good ⟨.returned [], false, reader⟩ source position len stopped :=
  ⟨ nil_prefix, Nat.zero_le _, fun _ => why, nofun, coherent⟩

theorem join {data more : List UInt8} (starts : data <+: source.data.drop position)
    (continues : more <+: source.data.drop (position + data.length)) :
    data ++ more <+: source.data.drop position := by
  obtain ⟨rest, same⟩ := starts
  rw [← drop_drop, ← same, drop_left] at continues
  rw [← same]
  exact (prefix_append_right_inj data).mpr continues

theorem readOn (coherent : reader.Coherent source position)
    (honest : Along source.data Callbacks.Honest len reader.callbacks commands)
    (sound : Along source.data Callbacks.Sound len reader.callbacks commands) :
    (reader.readOn len commands).Good source position len (commands = []) := by
  induction commands generalizing reader position len with
  | nil => exact coherent.stay _ (.inl rfl)
  | cons answers commands ih =>
    unfold readOn
    split
    · rename_i zero
      exact coherent.stay _ (.inr (.inl zero))
    · rename_i some
      obtain ⟨honest, honestRest⟩ := honest some
      obtain ⟨sound, soundRest⟩ := sound some
      have good := coherent.callbacks.Read honest sound
      revert good honestRest soundRest
      dsimp only
      generalize reader.callbacks.Read len answers = call
      obtain ⟨outcome, callbacks, failure⟩ := call
      intro honestRest soundRest good
      cases outcome with
      | returned data =>
        obtain ⟨starts, short, empty, fine, after⟩ := good
        cases data with
        | nil =>
          have ended := (empty rfl).resolve_left some
          refine ⟨starts, short, fun _ => .inr (empty rfl), fun failed => ?_, after, fun _ => ended⟩
          exact absurd (fine.symm.trans failed) nofun
        | cons byte data =>
          -- reading goes on behind the bytes that were read
          have rest := @ih ⟨callbacks, reader.eof⟩ _ (len - (byte :: data).length)
            ⟨after, fun eof => Nat.le_add_right_of_le (coherent.ended eof)⟩ honestRest soundRest
          revert rest
          dsimp only
          generalize readOn (len - (byte :: data).length) ⟨callbacks, reader.eof⟩ commands =
            reading
          obtain ⟨outcome, failure', reader'⟩ := reading
          intro rest
          cases outcome with
          | returned more =>
            obtain ⟨continues, fits, -, -, there⟩ := rest
            refine ⟨join starts continues, ?_, nofun, fun _ => nofun, ?_⟩
            · rw [length_append]
              omega
            · rw [length_append, ← Nat.add_assoc]
              exact there
          | failed => exact ⟨starts, short, nofun, fun _ => nofun, rest⟩
          | overran => exact rest
          | reading => exact rest
      | failed => exact ⟨good, coherent.ended⟩
      | overran => exact good
      | reading => exact good

theorem zip_source_read (coherent : reader.Coherent source position)
    (honest : Along source.data Callbacks.Honest len reader.callbacks commands)
    (sound : Along source.data Callbacks.Sound len reader.callbacks commands) :
    (reader.zip_source_read len commands).Good source position len False := by
  unfold Reader.zip_source_read
  split
  · split
    · rename_i zero
      exact coherent.stay _ (.inr (zero.imp_right coherent.ended))
    · exact coherent
  · rename_i some
    have good := coherent.readOn honest sound
    unfold Reading.Good at good ⊢
    split at good
    · exact ⟨good.1, good.2.1, fun none => (good.2.2.1 none).imp_left some, good.2.2.2⟩
    · exact good
    · exact good.elim

variable {lib : Libzip}

theorem Seek {distance : Int} {whence : Whence}
    (coherent : reader.Coherent source position) {target : Nat}
    (there : seekTarget position source.size distance whence = target)
    (within : target ≤ source.size) :
    (reader.Seek lib distance whence).1 = some target ∧
      (reader.Seek lib distance whence).2.Coherent source target := by
  have goes : lib.zip_source_seek_compute_offset reader.callbacks.offset_ reader.callbacks.size_
      distance whence = target := by
    rw [coherent.callbacks.placed, coherent.callbacks.sized, lib.inside, there]
    · rw [there]
      exact natCast_nonneg _
    · rw [there]
      exact ofNat_le.mpr within
  have moved := coherent.callbacks.SetOffset within
  unfold Reader.Seek Reader.zip_source_seek
  rw [goes]
  dsimp only
  rw [moved.placed, if_pos (natCast_nonneg _)]
  exact ⟨rfl, moved, nofun⟩

theorem SeekSet {offset : Nat} (coherent : reader.Coherent source position)
    (within : offset ≤ source.size) :
    (reader.SeekSet lib offset).1 = some offset ∧
      (reader.SeekSet lib offset).2.Coherent source offset := by
  have fits := source.fits
  refine coherent.Seek ?_ within
  unfold seekTarget asInt64
  exact if_pos (by omega)

theorem stands (coherent : reader.Coherent source position) :
    (reader.SeekCur lib 0).1 = some position ∧ (reader.SeekCur lib 0).2.Coherent source position :=
  coherent.Seek (Int.add_zero _) coherent.callbacks.below

theorem PRead {offset : Nat} (coherent : reader.Coherent source position)
    (within : offset ≤ source.size)
    (honest : Along source.data Callbacks.Honest len (reader.atOffset lib offset).callbacks commands)
    (sound : Along source.data Callbacks.Sound len (reader.atOffset lib offset).callbacks commands) :
    (reader.PRead lib len offset commands).reader.Coherent source position ∧
      ∃ there, Reading.Good ⟨(reader.PRead lib len offset commands).outcome,
        (reader.PRead lib len offset commands).failure, there⟩ source offset len False := by
  obtain ⟨stands, still⟩ := @stands _ _ _ lib coherent
  obtain ⟨went, moved⟩ := @SeekSet _ _ _ lib _ still within
  have good := moved.zip_source_read honest sound
  have first : reader.SeekCur lib 0 = (some position, (reader.SeekCur lib 0).2) :=
    Prod.ext stands rfl
  have second : (reader.SeekCur lib 0).2.SeekSet lib offset =
      (some offset, ((reader.SeekCur lib 0).2.SeekSet lib offset).2) := Prod.ext went rfl
  unfold Reader.PRead
  rw [first]
  dsimp only
  rw [second]
  dsimp only
  revert good
  generalize ((reader.SeekCur lib 0).2.SeekSet lib offset).2.zip_source_read len commands = reading
  obtain ⟨outcome, failure, there⟩ := reading
  -- wherever the read came to, the reader goes back from there
  have goesBack : ∀ end', there.Coherent source end' →
      there.SeekSet lib position = (some position, (there.SeekSet lib position).2) ∧
        (there.SeekSet lib position).2.Coherent source position := fun end' after =>
    have back := @SeekSet _ _ _ lib _ after coherent.callbacks.below
    ⟨Prod.ext back.1 rfl, back.2⟩
  intro good
  cases outcome with
  | returned data =>
    obtain ⟨back, home⟩ := goesBack _ good.2.2.2.2
    dsimp only
    rw [back]
    exact ⟨home, there, good⟩
  | failed =>
    obtain ⟨back, home⟩ := goesBack _ good
    dsimp only
    rw [back]
    exact ⟨home, there, good⟩
  | overran => exact good.elim
  | reading => exact good.elim

end Reader.Coherent

end Ika.BufferedZip
