import Mathlib.Data.FinEnum
import Ika.Foundation.Contents
import Ika.LazyFile.Canonical
import Ika.Foundation.Machine

/-! A local file that is filled from its source where it is read. -/

set_option autoImplicit false

namespace Ika.LazyFile

open Contents List

def kMinReadSize : Nat := 1 <<< 26

def sizes : Nat := 2 ^ 64

structure Impl where
  already_downloaded_ : DisjointRangeSet
  seek_pos_ : Nat
  size_ : Nat
  extended_read_buffer_ : List UInt8

/-- The metadata were read before; they are empty for a new file. -/
def Create (metadata : DisjointRangeSet) (size : Nat) : Impl where
  already_downloaded_ := metadata.reload
  seek_pos_ := 0
  size_ := size
  extended_read_buffer_ := .replicate kMinReadSize 0

namespace Impl

variable (impl : Impl)

def Seek (location : Nat) : Impl := {impl with seek_pos_ := location}

def present : Option Nat := impl.already_downloaded_.EndOfContainingRange impl.seek_pos_

def request (size : Nat) : Nat :=
  if size < kMinReadSize then min kMinReadSize ((sizes + impl.size_ - impl.seek_pos_) % sizes)
  else size

def extended (data : List UInt8) : List UInt8 :=
  data ++ impl.extended_read_buffer_.drop data.length

/-- What was read, the file's own state and the contents of the local file. -/
def Read (contents : List UInt8) (size : Nat) (answer : Option (List UInt8)) :
    Option (List UInt8 × Impl × List UInt8) :=
  -- as an `off_t` the position would be negative
  if 2 ^ 63 ≤ impl.seek_pos_ then none
  else
    match impl.present with
    | some end_of_present_data =>
      let read_request := min (end_of_present_data - impl.seek_pos_) size
      let data := (contents.drop impl.seek_pos_).take read_request
      some (data, {impl with seek_pos_ := impl.seek_pos_ + data.length}, contents)
    | none =>
      match answer with
      | none => none
      | some data =>
        let already_downloaded_ :=
          impl.already_downloaded_.InsertRange impl.seek_pos_ (impl.seek_pos_ + data.length)
        if size < kMinReadSize then
          -- the whole buffer is written, not only what was read into it
          some (data.take size,
            {impl with
              already_downloaded_
              seek_pos_ := impl.seek_pos_ + min data.length size
              extended_read_buffer_ := impl.extended data},
            overwrite contents impl.seek_pos_ (impl.extended data))
        else
          some (data,
            {impl with already_downloaded_, seek_pos_ := impl.seek_pos_ + data.length},
            overwrite contents impl.seek_pos_ data)

def Honest (source : List UInt8) (size : Nat) (answer : Option (List UInt8)) : Prop :=
  ∀ data ∈ answer, data <+: source.drop impl.seek_pos_ ∧ data.length ≤ impl.request size

/-- What earlier reads left in the buffer does not change recorded bytes. -/
def Spares (source : List UInt8) (recorded : Nat → Prop) (size : Nat)
    (answer : Option (List UInt8)) : Prop :=
  impl.seek_pos_ < 2 ^ 63 → impl.present = none → size < kMinReadSize → ∀ data ∈ answer,
    ∀ position, recorded position → impl.seek_pos_ + data.length ≤ position →
      position < impl.seek_pos_ + (impl.extended data).length →
      (impl.extended data)[position - impl.seek_pos_]? = source[position]?

/-- The recorded positions are looked at range by range. -/
instance (source : List UInt8) (size : Nat) (answer : Option (List UInt8)) :
    Decidable (impl.Spares source impl.already_downloaded_.Covers size answer) :=
  decidable_of_iff
    (impl.seek_pos_ < 2 ^ 63 → impl.present = none → size < kMinReadSize → ∀ data ∈ answer,
      ∀ range ∈ impl.already_downloaded_, ∀ position < range.end, range.start ≤ position →
        impl.seek_pos_ + data.length ≤ position →
        position < impl.seek_pos_ + (impl.extended data).length →
        (impl.extended data)[position - impl.seek_pos_]? = source[position]?)
    ⟨fun spares low missing small data answered position covered =>
      covered.elim fun range listed =>
        spares low missing small data answered range listed.1 position listed.2.2 listed.2.1,
      fun spares low missing small data answered range listed position below above =>
        spares low missing small data answered position ⟨range, listed, above, below⟩⟩

end Impl

def Held (source contents : List UInt8) (position : Nat) : Prop :=
  position < source.length ∧ contents[position]? = source[position]?

section Held

variable {source contents data : List UInt8} {position start : Nat}

theorem prefix_getElem? {longer : List UInt8} (begins : data <+: longer) {index : Nat}
    (inside : index < data.length) : data[index]? = longer[index]? := by
  obtain ⟨rest, rfl⟩ := begins
  exact (getElem?_append_left inside).symm

theorem getElem_of_ahead (starts : data <+: source.drop start) {index : Nat}
    (inside : index < data.length) :
    start + index < source.length ∧ data[index]? = source[start + index]? := by
  have same := prefix_getElem? starts inside
  have short := starts.length_le
  rw [length_drop] at short
  rw [same, getElem?_drop]
  exact ⟨by omega, rfl⟩

theorem take_of_held {length : Nat}
    (held : ∀ position, start ≤ position → position < start + length →
      Held source contents position) :
    (contents.drop start).take length <+: source.drop start := by
  have same : (contents.drop start).take length = (source.drop start).take length := by
    refine ext_getElem? fun index => ?_
    rw [getElem?_take, getElem?_take]
    split
    · rw [getElem?_drop, getElem?_drop]
      exact (held (start + index) (by omega) (by omega)).2
    · rfl
  rw [same]
  exact take_prefix _ _

theorem held_overwrite {written : List UInt8} (starts : data <+: source.drop start)
    (begins : data <+: written)
    (held : Held source contents position ∨ start ≤ position ∧ position < start + data.length)
    (spared : start + data.length ≤ position → position < start + written.length →
      written[position - start]? = source[position]?) :
    Held source (overwrite contents start written) position := by
  have longer := begins.length_le
  by_cases touched : start ≤ position ∧ position < start + written.length
  · have read := @overwrite_inside contents _ _ _ touched.1 touched.2
    by_cases inside : position < start + data.length
    · obtain ⟨within, same⟩ := @getElem_of_ahead _ _ _ starts (position - start) (by omega)
      have back : start + (position - start) = position := by omega
      rw [back] at within same
      refine ⟨within, read.trans ?_⟩
      exact (prefix_getElem? begins (by omega)).symm.trans same
    · have kept := held.resolve_right fun inside' => inside inside'.2
      exact ⟨kept.1, read.trans (spared (by omega) touched.2)⟩
  · have kept := held.resolve_right fun inside' => touched ⟨inside'.1, by omega⟩
    have within : position < contents.length := by
      by_contra out
      have none := kept.2
      rw [getElem?_eq_none (by omega)] at none
      have beyond := List.getElem?_eq_none_iff.mp none.symm
      have := kept.1
      omega
    refine ⟨kept.1, (overwrite_outside within ?_).trans kept.2⟩
    omega

end Held

namespace Impl

variable {impl after : Impl} {source contents data contents' : List UInt8} {size : Nat}
  {answer : Option (List UInt8)} {recorded : Nat → Prop}

theorem Read_spec (covers : ∀ position, impl.already_downloaded_.Covers position → recorded position)
    (held : ∀ position, recorded position → Held source contents position)
    (honest : impl.Honest source size answer) (spares : impl.Spares source recorded size answer)
    (read : impl.Read contents size answer = some (data, after, contents')) :
    data <+: source.drop impl.seek_pos_ ∧ after.seek_pos_ = impl.seek_pos_ + data.length ∧
      (∀ position, impl.already_downloaded_.Covers position →
        after.already_downloaded_.Covers position) ∧
      ∀ position, recorded position ∨ after.already_downloaded_.Covers position →
        Held source contents' position := by
  unfold Read at read
  have small : ¬2 ^ 63 ≤ impl.seek_pos_ := fun large => by
    rw [if_pos large] at read
    cases read
  rw [if_neg small] at read
  split at read
  · rename_i end_of_present_data found
    cases read
    obtain ⟨-, present⟩ := DisjointRangeSet.EndOfContainingRange_spec (by omega) found
    refine ⟨take_of_held fun position above below => held _ (covers _ (present _ above ?_)), rfl,
      fun _ => id, fun position known => held _ (known.elim id (covers _))⟩
    omega
  · rename_i missing
    split at read
    · cases read
    · rename_i answered
      obtain ⟨starts, -⟩ := honest answered rfl
      -- what is recorded after the insertion was so before, or has just been read
      have known : ∀ position, recorded position ∨
          (impl.already_downloaded_.InsertRange impl.seek_pos_
            (impl.seek_pos_ + answered.length)).Covers position →
          recorded position ∨
            impl.seek_pos_ ≤ position ∧ position < impl.seek_pos_ + answered.length :=
        fun position either => either.elim .inl fun covered =>
          (DisjointRangeSet.covers_InsertRange.mp covered).imp_left (covers _)
      split_ifs at read with extends'
      · cases read
        refine ⟨( take_prefix _ _).trans starts, ?_,
          fun _ covered => DisjointRangeSet.covers_InsertRange.mpr (.inl covered),
          fun position either => ?_⟩
        · rw [length_take, Nat.min_comm]
        · have either := known position either
          refine held_overwrite starts (prefix_append _ _) (either.imp_left (held _)) ?_
          intro behind reached
          have old := either.resolve_right (by omega)
          exact spares (by omega) missing extends' answered rfl position old behind reached
      · cases read
        refine ⟨starts, rfl,
          fun _ covered => DisjointRangeSet.covers_InsertRange.mpr (.inl covered),
          fun position either => ?_⟩
        refine held_overwrite starts (prefix_refl _) ((known position either).imp_left (held _)) ?_
        omega

end Impl

/-! A lazily loaded file over its whole life: it is read, closed and created again. -/

open Transition Option

structure State where
  contents : List UInt8 := []
  metadata : DisjointRangeSet := []
  file : Option Impl := none
  position : Nat := 0
  reads : List (Nat × List UInt8) := []

inductive Event where
  | Create
  | Seek (location : Nat)
  | Read (size : Nat) (answer : Option (List UInt8))
  /-- The metadata are not written where that fails, or where the program is killed. -/
  | close (written : Bool)

namespace State

variable (state : State)

def read (size : Nat) (answer : Option (List UInt8)) (impl : Impl) : State :=
  match impl.Read state.contents size answer with
  | none => state
  | some (data, impl, contents) =>
    {state with
      contents, file := some impl, position := state.position + data.length
      reads := state.reads ++ [(state.position, data)]}

def close (written : Bool) (impl : Impl) : State :=
  {state with
    file := none
    metadata := if written then impl.already_downloaded_ else state.metadata}

def step (size : Nat) : Event → Option State
  | .Create =>
    if state.file = none then
      some {state with file := some (Create state.metadata size), position := 0}
    else none
  | .Seek location =>
    state.file.map fun impl =>
      {state with file := some (impl.Seek location), position := location}
  | .Read asked answer => state.file.map (state.read asked answer)
  | .close written => state.file.map (state.close written)

end State

def machine (size : Nat) : Machine State Event where
  init state := state = {}
  step state := state.step size

section Conditions

variable (source : List UInt8) (state : State)

def Answered : Event → Prop
  | .Read size answer => ∀ impl ∈ state.file, impl.Honest source size answer
  | _ => True

instance (event : Event) : Decidable (Answered source state event) := by
  cases event <;> unfold Answered <;> unfold Impl.Honest <;> infer_instance

/-- No bytes left in the buffer are written over other ones that are recorded. -/
def Spared : Event → Prop
  | .Read size answer =>
    ∀ impl ∈ state.file, impl.Spares source impl.already_downloaded_.Covers size answer
  | _ => True

instance (event : Event) : Decidable (Spared source state event) := by
  cases event <;> unfold Spared <;> infer_instance

def Allowed (event : Event) : Prop := Answered source state event ∧ Spared source state event
  deriving Decidable

/-- What is returned is the source's, and so is the local file where the ranges tell. -/
structure State.Transparent : Prop where
  returned : ∀ read ∈ state.reads, read.2 <+: source.drop read.1
  agrees : ∀ impl ∈ state.file, ∀ position, impl.already_downloaded_.Covers position →
    state.contents[position]? = source[position]?

structure State.Kept : Prop where
  returned : ∀ read ∈ state.reads, read.2 <+: source.drop read.1
  placed : ∀ impl ∈ state.file, impl.seek_pos_ = state.position
  /-- A file has all that the metadata said when it was opened. -/
  loaded : ∀ impl ∈ state.file, ∀ position, state.metadata.Covers position →
    impl.already_downloaded_.Covers position
  held : ∀ position, state.metadata.Covers position → Held source state.contents position
  open' : ∀ impl ∈ state.file, ∀ position, impl.already_downloaded_.Covers position →
    Held source state.contents position

end Conditions

namespace State.Kept

variable {source : List UInt8} {state : State} {size : Nat} {answer : Option (List UInt8)}
  {impl : Impl}

section

variable (kept : state.Kept source)
include kept

theorem create :
    Kept source {state with file := some (Create state.metadata size), position := 0} :=
  {kept with
    placed := fun impl same => by
      cases same
      rfl
    loaded := fun impl same position covered => by
      cases same
      exact DisjointRangeSet.covers_reload.mpr covered
    open' := fun impl same position covered => by
      cases same
      exact kept.held _ (DisjointRangeSet.covers_reload.mp covered)}

theorem seek (here : state.file = some impl) (location : Nat) :
    Kept source {state with file := some (impl.Seek location), position := location} :=
  {kept with
    placed := fun impl same => by
      cases same
      rfl
    loaded := fun _ same => by
      cases same
      exact kept.loaded impl here
    open' := fun _ same => by
      cases same
      exact kept.open' impl here}

theorem read (here : state.file = some impl) (honest : impl.Honest source size answer)
    (spares : impl.Spares source impl.already_downloaded_.Covers size answer) :
    (state.read size answer impl).Kept source := by
  unfold State.read
  split
  · exact kept
  · rename_i data after contents did
    obtain ⟨starts, moved, grown, held⟩ :=
      Impl.Read_spec (fun _ => id) (kept.open' impl here) honest spares did
    exact
      { returned := fun read listed => by
          rcases List.mem_append.mp listed with old | new
          · exact kept.returned read old
          · cases List.mem_singleton.mp new
            rw [← kept.placed impl here]
            exact starts
        placed := fun _ same => by
          cases same
          rw [← kept.placed impl here]
          exact moved
        loaded := fun _ same position covered => by
          cases same
          exact grown _ (kept.loaded impl here _ covered)
        held := fun position covered => held _ (.inl (kept.loaded impl here _ covered))
        open' := fun _ same position covered => by
          cases same
          exact held _ (.inr covered)}

theorem close (here : state.file = some impl) (written : Bool) :
    (state.close written impl).Kept source :=
  {kept with
    placed := nofun
    loaded := nofun
    held := fun position covered => by
      unfold State.close at covered
      cases written with
      | true => exact kept.open' impl here _ covered
      | false => exact kept.held _ covered
    open' := nofun}

theorem step {event : Event} {after : State}
    (allowed : Allowed source state event) (moved : state.step size event = some after) :
    after.Kept source := by
  cases event with
  | Create =>
    unfold State.step at moved
    dsimp only at moved
    split at moved
    · cases moved
      exact kept.create
    · cases moved
  | Seek location =>
    obtain ⟨impl, here, rfl⟩ := map_eq_some_iff.mp moved
    exact kept.seek here location
  | Read asked answer =>
    obtain ⟨impl, here, rfl⟩ := map_eq_some_iff.mp moved
    exact kept.read here (allowed.1 impl here) (allowed.2 impl here)
  | close written =>
    obtain ⟨impl, here, rfl⟩ := map_eq_some_iff.mp moved
    exact kept.close here written

end

end State.Kept

theorem kept {source : List UInt8} {size : Nat} {state : State}
    (reached : (machine size).Reaches (Allowed source) state) : state.Kept source := by
  refine reached.invariant (fun first new => ?_) fun _ _ _ known allowed moved =>
    known.step allowed moved
  subst new
  exact ⟨nofun, nofun, nofun, nofun, nofun⟩

/-- While nothing recorded is overwritten by what was left in the buffer, the file reads as its
source does. -/
theorem lazy_transparent {source : List UInt8} {size : Nat} {state : State}
    (reached : (machine size).Reaches (Allowed source) state) : state.Transparent source :=
  have known := kept reached
  ⟨known.returned, fun impl here position covered => (known.open' impl here position covered).2⟩

/-- A file is read from the source and from what was kept, closed and created again. -/
theorem lazy_transparent_reopened :
    State.Transparent [7, 8, 9]
      (((machine 3).runAllowed (Allowed [7, 8, 9]) {}
        [.Create, .Seek 1, .Read 1 (some [8, 9]), .Read 5 none, .close true, .Create,
          .Read kMinReadSize (some [7]), .Read 1 none]).getD {}) :=
  lazy_transparent (Machine.Reaches.getD_runAllowed _ (.start rfl) (by decide +kernel))

/-- A short answer to a read that was extended: the rest of the buffer is written too. -/
theorem stale_buffer_written :
    (machine 4).Reaches (Answered [1, 2, 3, 4])
        (((machine 4).runAllowed (Answered [1, 2, 3, 4]) {}
          [.Create, .Seek 2, .Read kMinReadSize (some [3, 4]), .Seek 0, .Read 1 (some [1]),
            .Seek 2, .Read 2 none]).getD {}) ∧
      ¬State.Transparent [1, 2, 3, 4]
        (((machine 4).runAllowed (Answered [1, 2, 3, 4]) {}
          [.Create, .Seek 2, .Read kMinReadSize (some [3, 4]), .Seek 0, .Read 1 (some [1]),
            .Seek 2, .Read 2 none]).getD {}) := by
  refine ⟨Machine.Reaches.getD_runAllowed _ (.start rfl) (by decide +kernel), fun transparent => ?_⟩
  have wrong := transparent.returned (2, [0, 0])
  revert wrong
  decide +kernel

open DisjointRangeSet

def State.Tidy (state : State) : Prop :=
  Apart state.metadata ∧ ∀ impl ∈ state.file, Apart impl.already_downloaded_

theorem Impl.Read_apart {impl after : Impl} {contents data contents' : List UInt8} {size : Nat}
    {answer : Option (List UInt8)} (apart : Apart impl.already_downloaded_)
    (read : impl.Read contents size answer = some (data, after, contents')) :
    Apart after.already_downloaded_ := by
  have inserted (count : Nat) := apart.InsertRange (Nat.le_add_right impl.seek_pos_ count)
  unfold Read at read
  split at read
  · cases read
  split at read
  · cases read
    exact apart
  split at read
  · cases read
  · split at read <;> cases read <;> exact inserted _

theorem State.Tidy.step {state after : State} {size : Nat} {event : Event} (tidy : state.Tidy)
    (moved : state.step size event = some after) : after.Tidy := by
  cases event with
  | Create =>
    unfold State.step at moved
    dsimp only at moved
    split at moved
    · cases moved
      refine ⟨tidy.1, fun impl same => ?_⟩
      cases same
      apply foldlRecOn (motive := Apart) _ _ .nil
      exact fun _ apart range listed => apart.InsertRange (tidy.1.ordered range listed)
    · cases moved
  | Seek location =>
    obtain ⟨impl, here, rfl⟩ := map_eq_some_iff.mp moved
    exact ⟨tidy.1, fun _ same => by cases same; exact tidy.2 impl here⟩
  | Read asked answer =>
    obtain ⟨impl, here, rfl⟩ := map_eq_some_iff.mp moved
    unfold State.read
    split
    · exact tidy
    · rename_i did
      exact ⟨tidy.1, fun _ same => by cases same; exact Impl.Read_apart (tidy.2 impl here) did⟩
  | close written =>
    obtain ⟨impl, here, rfl⟩ := map_eq_some_iff.mp moved
    cases written with
    | true => exact ⟨tidy.2 impl here, nofun⟩
    | false => exact ⟨tidy.1, nofun⟩

/-- Where the file was filled once, a read returns bytes of the source without asking it. -/
theorem recorded_read_alone {source : List UInt8} {size : Nat} {state : State}
    (reached : (machine size).Reaches (Allowed source) state) {impl : Impl}
    (here : state.file = some impl) (low : impl.seek_pos_ < 2 ^ 63)
    (recorded : impl.already_downloaded_.Covers impl.seek_pos_) {asked : Nat} (some_ : 0 < asked) :
    ∃ data, data ≠ [] ∧ data <+: source.drop impl.seek_pos_ ∧ ∀ answer,
      impl.Read state.contents asked answer =
        some (data, {impl with seek_pos_ := impl.seek_pos_ + data.length}, state.contents) := by
  have tidy : state.Tidy := reached.invariant (fun _ first => first ▸ ⟨.nil, nofun⟩)
    fun _ _ _ tidy _ moved => tidy.step moved
  have held := (kept reached).open' impl here
  obtain ⟨range, listed, above, below⟩ := recorded
  have present : impl.present = some range.end :=
    ((tidy.2 impl here).EndOfContainingRange_iff (by omega) _).mpr ⟨range, listed, ⟨above, below⟩, rfl⟩
  refine ⟨(state.contents.drop impl.seek_pos_).take (min (range.end - impl.seek_pos_) asked), ?_,
    take_of_held fun position low high => held _ ⟨range, listed, by omega, by omega⟩, fun answer => ?_⟩
  · obtain ⟨inside, same⟩ := held _ ⟨range, listed, above, below⟩
    rw [getElem?_eq_getElem inside] at same
    obtain ⟨within, -⟩ := List.getElem?_eq_some_iff.mp same
    rw [← length_pos_iff, length_take, length_drop]
    omega
  · simp only [Impl.Read, present, Nat.not_le.mpr low, if_false]

/-- Near the end of what an earlier life has read. -/
theorem recorded_read_alone_reopened :
    let state := ((machine 3).runAllowed (Allowed [7, 8, 9]) {} [.Create, .Seek 1,
      .Read kMinReadSize (some [8, 9]), .close true, .Create, .Seek 2]).getD {}
    ∃ impl ∈ state.file, ∃ data, data ≠ [] ∧ ∀ answer, impl.Read state.contents 5 answer =
      some (data, {impl with seek_pos_ := impl.seek_pos_ + data.length}, state.contents) := by
  intro state
  have reached : (machine 3).Reaches (Allowed [7, 8, 9]) state :=
    .getD_runAllowed _ (.start rfl) (by decide +kernel)
  obtain ⟨impl, here, low, recorded⟩ : ∃ impl ∈ state.file, impl.seek_pos_ < 2 ^ 63 ∧
    impl.already_downloaded_.Covers impl.seek_pos_ := by decide +kernel
  obtain ⟨data, some_, -, alone⟩ := recorded_read_alone reached here low recorded (Nat.succ_pos 4)
  exact ⟨impl, here, data, some_, alone⟩

end Ika.LazyFile
