import Ika.UrlDownload.Download

/-! Every step of a download keeps what calls may rely on. -/

set_option autoImplicit false

namespace Ika.UrlDownload

open List Option Nat

namespace State

variable {Version Hash : Type}
variable {versionHash : Version → Hash} {source : Version → List UInt8}
variable {state after : State Version Hash} {pid : Nat} {version : Version}

variable {honest : Prop} {other id : Nat} {place : Place Hash} {attempt part : Nat}
    {object : List UInt8}
  {count : Nat} {chunk : List UInt8} {offset written : Nat} {todo : List Hash} {name : Hash}

theorem leaves_release (differ : other ≠ pid) : state.Leaves (state.release pid) other :=
  { Leaves.refl state with
    locks := fun id locked => by
      refine (if_neg fun same => differ ?_).trans locked
      exact some_inj.mp (locked.symm.trans same)}

theorem leaves_unlock (differ : other ≠ pid) : state.Leaves (state.unlock id pid) other :=
  { Leaves.refl state with
    locks := fun one locked => by
      refine (if_neg fun same => differ ?_).trans locked
      obtain ⟨rfl, held⟩ := same
      exact some_inj.mp (locked.symm.trans held)}

theorem leaves_lock (free : state.locks id = none) : state.Leaves (state.lock id pid) other :=
  { Leaves.refl state with
    locks := fun one locked => by
      refine (if_neg fun same => ?_).trans locked
      rw [same, free] at locked
      cases locked}

section

variable (kept : state.Kept versionHash source honest)
include kept

theorem Kept.finish {success : Bool} (put : honest → success = true → source version ∈ state.puts) :
    (state.finish pid version success).Kept versionHash source honest :=
  kept.goTo rfl {kept.sound with} (fun _ differ => leaves_release differ) put

theorem Kept.only (placed : state.Placed versionHash source honest pid version place) :
    (state.goTo pid version place).Kept versionHash source honest :=
  kept.goTo rfl kept.sound (fun _ _ => Leaves.refl state) placed

theorem Kept.flock (placed : state.Placed versionHash source honest pid version (.locking attempt part))
    (moved : state.flock pid version attempt part = some after) :
    after.Kept versionHash source honest := by
  unfold State.flock at moved
  split at moved
  · cases moved
  · rename_i free
    cases moved
    exact kept.goTo rfl {kept.sound with} (fun _ _ => leaves_lock free) ⟨placed, if_pos rfl⟩

theorem Kept.check
    (placed : state.Placed versionHash source honest pid version (.checking attempt part)) :
    (state.check versionHash pid version attempt part).Kept versionHash source honest := by
  obtain ⟨opened, locked⟩ := placed
  unfold State.check HoldsFileAt
  split_ifs with linked
  · exact kept.only ⟨opened, locked, of_decide_eq_true linked⟩
  · exact kept.only ⟨opened, fun same => linked (decide_eq_true same)⟩

theorem Kept.setContents {contents : List UInt8}
    (owned : state.Owned versionHash pid version part) (starts : contents <+: source version)
    (placed : (state.setContents part contents).Owned versionHash pid version part →
      (state.setContents part contents).contents part = contents →
        (state.setContents part contents).Placed versionHash source honest pid version place) :
    ((state.setContents part contents).goTo pid version place).Kept versionHash source honest := by
  obtain ⟨⟨file, found, rfl⟩, locked, linked⟩ := owned
  have files : ∀ id, (state.setContents part contents).files id =
      if id = part then some {file with contents} else state.files id := by
    intro id
    change (if id = part then (state.files part).map _ else _) = _
    rw [found]
    rfl
  have now : (state.setContents part contents).files part = some {file with contents} := by
    rw [files, if_pos rfl]
  -- the versions of the files are what they were
  have same : ∀ id after, (state.setContents part contents).files id = some after →
      ∃ before, state.files id = some before ∧ before.version = after.version := by
    intro id after here
    rw [files] at here
    split_ifs at here with this
    · cases here
      exact ⟨file, this ▸ found, rfl⟩
    · exact ⟨after, here, rfl⟩
  refine kept.goTo rfl ?_ (fun other differ => ?_) (placed ⟨⟨_, now, rfl⟩, locked, linked⟩ ?_)
  · exact {kept.sound with
      known := fun id after here => by
        obtain ⟨before, here, -⟩ := same id after here
        exact kept.sound.known id before here
      prefixes := fun id after here => by
        rw [files] at here
        split_ifs at here
        · cases here
          exact starts
        · exact kept.sound.prefixes id after here
      parts := fun hash id there => by
        obtain ⟨before, here, version⟩ := kept.sound.parts hash id there
        by_cases this : id = part
        · subst this
          cases found.symm.trans here
          exact ⟨_, now, version⟩
        · exact ⟨before, (files id).trans ((if_neg this).trans here), version⟩
      whole := fun id there => by
        obtain ⟨⟨before, here, complete⟩, apart⟩ := kept.sound.whole id there
        have this : id ≠ part := fun same => apart _ (same ▸ linked)
        exact ⟨⟨before, (files id).trans ((if_neg this).trans here), complete⟩, apart⟩
      fate := fun id after here => by
        obtain ⟨before, here, version⟩ := same id after here
        rw [← version]
        exact kept.sound.fate id before here
      put := fun id after here renamed => by
        obtain ⟨before, here, version⟩ := same id after here
        rw [← version]
        exact kept.sound.put id before here renamed}
  · exact { Leaves.refl state with
      files := fun id before here => by
        by_cases this : id = part
        · subst this
          cases found.symm.trans here
          refine ⟨_, now, rfl, fun held => ?_⟩
          exact absurd (some_inj.mp (locked.symm.trans held)).symm differ
        · exact ⟨before, (files id).trans ((if_neg this).trans here), rfl, fun _ => rfl⟩
      stays := fun hash id _ _ apart => apart}
  · unfold State.contents
    rw [now]
    rfl

end

theorem write_take {size : Nat} (inside : size ≤ object.length) :
    write (object.take size) size ((object.drop size).take count) = object.take (size + count) := by
  have length : (object.take size).length = size := by
    rw [length_take]
    omega
  have behind : (object.take size).drop (size + ((object.drop size).take count).length) = [] :=
    drop_eq_nil_of_le (by omega)
  unfold write
  rw [take_of_length_le (Nat.le_of_eq length), behind, append_nil, take_add]

theorem part_of_chunk (read : chunk = (object.drop offset).take chunk.length)
    (inside : written + count ≤ chunk.length) :
    (chunk.drop written).take count = (object.drop (offset + written)).take count := by
  generalize chunk.length = length at read inside
  rw [read, drop_take, drop_drop, take_take]
  congr 1
  omega

section

variable (kept : state.Kept versionHash source honest)
include kept

theorem Kept.setMore
    (owned : state.Owned versionHash pid version part) (inside : offset ≤ (source version).length) :
    ((state.setContents part ((source version).take offset)).more source pid version part
      offset).Kept versionHash source honest := by
  unfold more
  split_ifs with left
  · exact kept.setContents owned ( take_prefix _ _) fun owned same => ⟨owned, same, inside⟩
  · refine kept.setContents owned ( take_prefix _ _) fun owned same => ⟨owned, ?_⟩
    rw [same, take_of_length_le (Nat.le_of_not_lt left)]

theorem Kept.resume (owned : state.Owned versionHash pid version part) :
    (state.resume source pid version part).Kept versionHash source honest := by
  unfold State.resume
  dsimp only
  split_ifs with full
  · exact kept.setMore owned (Nat.zero_le _)
  · obtain ⟨file, found, rfl⟩ := owned.opened
    have contents : state.contents part = file.contents := by
      unfold contents
      rw [found]
      rfl
    have read : state.contents part = (source file.version).take (state.contents part).length := by
      rw [contents]
      exact prefix_iff_eq_take.mp (kept.sound.prefixes part file found)
    unfold more
    rw [if_pos (Nat.lt_of_not_le full)]
    exact kept.only ⟨owned, read, Nat.le_of_not_le full⟩

theorem Kept.read (placed : state.Placed versionHash source honest pid version (.reading part offset))
    (moved : state.read source pid version part offset count = some after) :
    after.Kept versionHash source honest := by
  obtain ⟨owned, contents, inside⟩ := placed
  unfold State.read at moved
  split_ifs at moved with most none
  · cases moved
    exact kept.finish (fun _ => nofun)
  · cases moved
    have within : count ≤ (source version).length - offset :=
      Nat.le_trans (Nat.le_of_not_lt most) (Nat.min_le_right _ _)
    have length : (((source version).drop offset).take count).length = count := by
      rw [length_take, length_drop]
      omega
    refine kept.only ⟨owned, contents, ?_, Nat.zero_le _, ?_⟩
    · rw [length]
    · rw [length]
      omega

theorem Kept.readError (owned : state.Owned versionHash pid version part) :
    (state.readError pid version part offset).Kept versionHash source honest := by
  unfold State.readError
  split_ifs
  · exact kept.only owned
  · exact kept.finish (fun _ => nofun)

theorem Kept.writeSome
    (placed : state.Placed versionHash source honest pid version (.writing part offset chunk written))
    (moved : state.writeSome source pid version part offset chunk written count = some after) :
    after.Kept versionHash source honest := by
  obtain ⟨owned, contents, read, before, inside⟩ := placed
  unfold State.writeSome at moved
  dsimp only at moved
  have amount : ¬(count = 0 ∨ chunk.length < written + count) := by
    intro wrong
    rw [if_pos wrong] at moved
    cases moved
  rw [if_neg amount] at moved
  have within : written + count ≤ chunk.length := by omega
  have now : write (state.contents part) (offset + written) ((chunk.drop written).take count) =
      (source version).take (offset + (written + count)) := by
    rw [contents, part_of_chunk read within, write_take (by omega), Nat.add_assoc]
  rw [now] at moved
  split_ifs at moved with last
  · cases moved
    rw [last]
    exact kept.setMore owned inside
  · cases moved
    exact kept.setContents owned ( take_prefix _ _) fun owned same =>
      ⟨owned, same, read, within, inside⟩

end

section Names

variable [DecidableEq Hash]

theorem link_other {name other : Name Hash} {file : Option Nat} (differ : other ≠ name) :
    (state.link name file).dir other = state.dir other := if_neg differ

theorem Kept.openPart {attempt : Nat} (injective : Function.Injective versionHash)
    (kept : state.Kept versionHash source honest) :
    (state.openPart versionHash pid version attempt).Kept versionHash source honest := by
  unfold State.openPart
  dsimp only
  split
  · rename_i part linked
    obtain ⟨file, found, same⟩ := kept.sound.parts _ part linked
    exact kept.only ⟨file, found, injective same⟩
  · rename_i absent
    have older : ∀ id file, state.files id = some file → id ≠ state.nextFile := by
      rintro id file found rfl
      exact absurd (kept.sound.known _ file found) (Nat.lt_irrefl _)
    have stays : ∀ id file, state.files id = some file →
        (state.create version).files id = some file := fun id file found =>
      (if_neg (older id file found)).trans found
    have created : (state.create version).files state.nextFile = some ⟨[], version⟩ := if_pos rfl
    have dir : ∀ name, ((state.create version).link (PartialFilePath versionHash version)
        (some state.nextFile)).dir name =
          if name = PartialFilePath versionHash version then some state.nextFile
          else state.dir name := fun _ => rfl
    have part : ∀ hash id, ((state.create version).link (PartialFilePath versionHash version)
        (some state.nextFile)).dir (.part hash) = some id →
          id = state.nextFile ∧ versionHash version = hash ∨ state.dir (.part hash) = some id := by
      intro hash id linked
      rw [dir] at linked
      split_ifs at linked with here
      · exact .inl ⟨(some_inj.mp linked).symm, (Name.part.inj here).symm⟩
      · exact .inr linked
    refine kept.goTo rfl ?_ (fun other _ => ?_) ⟨_, created, rfl⟩
    · exact {kept.sound with
        known := fun id file found => by
          change (if id = state.nextFile then some _ else state.files id) = some file at found
          split_ifs at found with here
          · rw [here]
            exact lt_succ_self _
          · exact lt_succ_of_lt (kept.sound.known id file found)
        prefixes := fun id file found => by
          change (if id = state.nextFile then some _ else state.files id) = some file at found
          split_ifs at found with here
          · cases found
            exact nil_prefix
          · exact kept.sound.prefixes id file found
        parts := fun hash id linked => by
          rcases part hash id linked with ⟨rfl, same⟩ | before
          · exact ⟨_, created, same⟩
          · obtain ⟨file, found, same⟩ := kept.sound.parts hash id before
            exact ⟨file, stays id file found, same⟩
        whole := fun id linked => by
          obtain ⟨⟨file, found, complete⟩, apart⟩ := kept.sound.whole id linked
          refine ⟨⟨file, stays id file found, complete⟩, fun hash here => ?_⟩
          rcases part hash id here with ⟨new, -⟩ | before
          · exact older id file found new
          · exact apart hash before
        fate := fun id file found => by
          change (if id = state.nextFile then some _ else state.files id) = some file at found
          split_ifs at found with here
          · cases found
            exact .inl ((if_pos rfl).trans (congrArg some here.symm))
          · refine (kept.sound.fate id file found).imp_left fun linked => ?_
            rw [dir, if_neg, linked]
            rintro same
            cases absent.symm.trans (same ▸ linked)
        past := fun id renamed => lt_succ_of_lt (kept.sound.past id renamed)
        put := fun id file found renamed => by
          change (if id = state.nextFile then some _ else state.files id) = some file at found
          rw [if_neg (Nat.ne_of_lt (kept.sound.past id renamed))] at found
          exact kept.sound.put id file found renamed}
    · exact { Leaves.refl state with
        files := fun id file found => ⟨file, stays id file found, rfl, fun _ => rfl⟩
        links := fun hash id _ linked => by
          rw [dir, if_neg, linked]
          intro same
          cases absent.symm.trans (same ▸ linked)
        stays := fun hash id file found apart here => by
          rcases part hash id here with ⟨new, -⟩ | before
          · exact older id file found new
          · exact apart before}

variable {hash : Hash} {id other part : Nat}

theorem Sound.unlink (sound : state.Sound versionHash source)
    (linked : state.dir (.part hash) = some id) :
    (state.unlink (.part hash) id).Sound versionHash source := by
  have dir : ∀ name, (state.unlink (.part hash) id).dir name =
      if name = .part hash then none else state.dir name := fun _ => rfl
  have before : ∀ other one, (state.unlink (.part hash) id).dir (.part other) = some one →
      state.dir (.part other) = some one := by
    intro other one here
    rw [dir] at here
    split_ifs at here
    exact here
  exact {sound with
    parts := fun other one here => sound.parts other one (before other one here)
    whole := fun one there => by
      obtain ⟨complete, apart⟩ := sound.whole one there
      exact ⟨complete, fun other here => apart other (before other one here)⟩
    fate := fun one file found => by
      rcases sound.fate one file found with here | renamed | removed
      · by_cases same : Name.part (versionHash file.version) = .part hash
        · rw [same, linked] at here
          rw [← some_inj.mp here]
          exact .inr (.inr (mem_append_right _ (mem_singleton_self _)))
        · exact .inl ((dir _).trans ((if_neg same).trans here))
      · exact .inr (.inl renamed)
      · exact .inr (.inr (mem_append_left _ removed))}

theorem leaves_unlink (linked : state.dir (.part hash) = some id)
    (locked : state.locks id = some pid) (differ : other ≠ pid) :
    state.Leaves (state.unlink (.part hash) id) other :=
  { Leaves.refl state with
    links := fun name one held here => by
      refine (if_neg fun same => differ ?_).trans here
      rw [same, linked] at here
      cases here
      exact some_inj.mp (held.symm.trans locked)
    stays := fun name one _ _ apart here => by
      change (if Name.part name = .part hash then none else state.dir (.part name)) = _ at here
      split_ifs at here
      exact apart here}

section

variable (kept : state.Kept versionHash source honest)
include kept

theorem Kept.RemoveFile (owned : state.Owned versionHash pid version part) :
    (state.RemoveFile versionHash pid version).Kept versionHash source honest := by
  unfold State.RemoveFile
  have linked : state.dir (.part (versionHash version)) = some part := owned.linked
  simp only [PartialFilePath, linked]
  exact kept.goTo rfl {kept.sound.unlink linked with}
    (fun _ differ => (leaves_unlink linked owned.locked differ).trans (leaves_release differ)) nofun

theorem Kept.Rename (owned : state.Owned versionHash pid version part)
    (complete : state.contents part = source version) :
    (state.Rename versionHash pid version part).Kept versionHash source honest := by
  obtain ⟨file, found, rfl⟩ := owned.opened
  have linked : state.dir (.part (versionHash file.version)) = some part := owned.linked
  have contents : file.contents = source file.version := by
    unfold contents at complete
    rw [found] at complete
    exact complete
  unfold Rename
  simp only [PartialFilePath, linked]
  have before : ∀ hash id, (if Name.part hash = .part (versionHash file.version) then none
      else state.dir (.part hash)) = some id →
        hash ≠ versionHash file.version ∧ state.dir (.part hash) = some id := by
    intro hash id here
    split_ifs at here with same
    exact ⟨fun equal => same (congrArg _ equal), here⟩
  have parts : ∀ hash, (((state.link .path (some part)).link (.part (versionHash file.version))
      none).dir (.part hash)) = if Name.part hash = .part (versionHash file.version) then none
        else state.dir (.part hash) := by
    intro hash
    have path := @link_other _ _ state _ .path (.part hash) (some part) nofun
    rw [← path]
    rfl
  refine kept.goTo rfl ?_ (fun other differ => ?_) ?_
  · exact {kept.sound with
      parts := fun hash id here => by
        have := before hash id ((parts hash).symm.trans here)
        exact kept.sound.parts hash id this.2
      whole := fun id there => by
        have here : some part = some id := there
        cases here
        refine ⟨⟨file, found, contents⟩, fun hash here => ?_⟩
        obtain ⟨differ, here⟩ := before hash part ((parts hash).symm.trans here)
        obtain ⟨other, found', same⟩ := kept.sound.parts hash part here
        cases found.symm.trans found'
        exact differ same.symm
      fate := fun id other found' => by
        rcases kept.sound.fate id other found' with here | renamed | removed
        · by_cases same : Name.part (versionHash other.version) = .part (versionHash file.version)
          · rw [same, linked] at here
            rw [← some_inj.mp here]
            exact .inr (.inl (mem_append_right _ (mem_singleton_self _)))
          · exact .inl ((parts _).trans ((if_neg same).trans here))
        · exact .inr (.inl (mem_append_left _ renamed))
        · exact .inr (.inr removed)
      past := fun id renamed => by
        rcases mem_append.mp renamed with old | new
        · exact kept.sound.past id old
        · rw [mem_singleton.mp new]
          exact kept.sound.known part file found
      put := fun id other found' renamed => by
        rcases mem_append.mp renamed with old | new
        · exact mem_append_left _ (kept.sound.put id other found' old)
        · cases mem_singleton.mp new
          cases found.symm.trans found'
          exact mem_append_right _ (mem_singleton.mpr complete.symm)}
  · exact { Leaves.refl state with
      links := fun hash id held here => by
        refine (parts hash).trans ((if_neg fun same => differ ?_).trans here)
        rw [same, linked] at here
        cases here
        exact some_inj.mp (held.symm.trans owned.locked)
      stays := fun hash id _ _ apart here =>
        apart (before hash id ((parts hash).symm.trans here)).2
      puts := fun bytes put => mem_append_left _ put}
  · exact mem_append_right _ (mem_singleton.mpr complete.symm)

theorem Kept.removeOther {name : Hash} {todo : List Hash}
    (put : source version ∈ state.puts) (locked : state.locks other = some pid)
    (linked : state.dir (.part name) = some other) :
    (state.removeOther pid version part name other todo).Kept versionHash source honest := by
  unfold State.removeOther
  simp only [linked]
  exact kept.goTo rfl {kept.sound.unlink linked with}
    (fun _ differ => (leaves_unlink linked locked differ).trans (leaves_unlock differ)) put

end

end Names

section

variable (kept : state.Kept versionHash source honest)
include kept

section

variable (put : source version ∈ state.puts)
include put

theorem Kept.openOther : (state.openOther pid version part todo).Kept versionHash source honest := by
  unfold State.openOther
  cases todo with
  | nil => exact kept.finish fun _ _ => put
  | cons name todo =>
    dsimp only
    split
    · exact kept.only put
    · exact kept.only put

theorem Kept.flockOther :
    (state.flockOther pid version part name other todo).Kept versionHash source honest := by
  unfold State.flockOther
  split
  · exact kept.only put
  · rename_i free
    exact kept.goTo rfl {kept.sound with} (fun _ _ => leaves_lock free) ⟨put, if_pos rfl⟩

theorem Kept.checkOther (locked : state.locks other = some pid) :
    (state.checkOther pid version part name other todo).Kept versionHash source honest := by
  unfold State.checkOther HoldsFileAt
  split_ifs with linked
  · exact kept.only ⟨put, locked, of_decide_eq_true linked⟩
  · exact kept.goTo rfl {kept.sound with} (fun _ differ => leaves_unlock differ) put

end

theorem Kept.look (placed : state.Placed versionHash source honest pid version (.looking attempt part))
    (stayed : honest → (state.dir .path).isSome = true → part ∉ state.removed) :
    (state.look pid version attempt part).Kept versionHash source honest := by
  obtain ⟨⟨file, found, rfl⟩, gone⟩ := placed
  unfold look
  split_ifs with present
  · refine kept.finish fun told _ => kept.sound.put part file found ?_
    rcases kept.sound.fate part file found with here | renamed | removed
    · exact absurd here gone
    · exact renamed
    · exact absurd removed (stayed told present)
  · exact kept.goTo rfl {kept.sound with} (fun _ differ => leaves_unlock differ) trivial
  · exact kept.finish (fun _ => nofun)

end

end State

/-! The runs of downloads to one path. -/

open Transition.Machine

section Runs

variable {Version Hash : Type}
variable (versionHash : Version → Hash) (source : Version → List UInt8)

/-- Contents are not mixed, and a call that succeeds has seen its version at the path. -/
structure Faithful (state : State Version Hash) : Prop where
  partials : ∀ version id, state.dir (State.PartialFilePath versionHash version) = some id →
    state.contents id <+: source version
  path : ∀ id, state.dir .path = some id → ∃ version, state.contents id = source version
  success : ∀ pid version, state.calls pid = some ⟨version, .done true⟩ →
    source version ∈ state.puts

variable {versionHash source}

variable {state : State Version Hash} {honest : Prop}

theorem State.Kept.faithful
    (injective : Function.Injective versionHash) (kept : state.Kept versionHash source True) :
    Faithful versionHash source state where
  partials := by
    intro version id linked
    obtain ⟨file, found, same⟩ := kept.sound.parts _ id linked
    cases injective same
    have starts := kept.sound.prefixes id file found
    unfold contents
    rw [found]
    exact starts
  path := by
    intro id linked
    obtain ⟨⟨file, found, complete⟩, -⟩ := kept.sound.whole id linked
    refine ⟨file.version, ?_⟩
    unfold contents
    rw [found]
    exact complete
  success := fun pid version done => kept.placed pid _ done trivial rfl

theorem State.Kept.empty : State.Kept versionHash source honest {} where
  sound := by
    refine ⟨nofun, nofun, nofun, nofun, nofun, nofun, nofun⟩
  placed := nofun

def Place.gone : Place Hash → Option Nat
  | .looking _ part => some part
  | _ => none

/-- A partial file that is gone was renamed and not removed. -/
def Allowed (state : State Version Hash) : Event Version Hash → Prop
  | .act pid .look => ∀ part ∈ (state.calls pid).bind fun call => call.place.gone,
    (state.dir .path).isSome = true → part ∉ state.removed
  | _ => True

/-- The partial file that a call downloads into. -/
def Place.mine : Place Hash → Option Nat
  | .resuming part | .reading part _ | .removing part | .writing part _ _ _ | .complete part =>
    some part
  | _ => none

theorem State.Placed.owned {pid part : Nat} {version : Version}
    {place : Place Hash} (placed : state.Placed versionHash source honest pid version place)
    (mine : place.mine = some part) : state.Owned versionHash pid version part := by
  cases place <;> cases mine
  case resuming | removing => exact placed
  case reading | writing | complete => exact placed.1

variable [DecidableEq Hash]

theorem State.Kept.act {state after : State Version Hash} {pid : Nat} {version : Version}
    {place : Place Hash} {action : Action Hash} (injective : Function.Injective versionHash)
    (kept : state.Kept versionHash source honest)
    (placed : state.Placed versionHash source honest pid version place)
    (stayed : honest → action = .look → ∀ attempt part, place = .looking attempt part →
      (state.dir .path).isSome = true → part ∉ state.removed)
    (moved : act versionHash source state pid version place action = some after) :
    after.Kept versionHash source honest := by
  unfold UrlDownload.act at moved
  split at moved
  · cases moved
    exact kept.openPart injective
  · exact kept.flock placed moved
  · cases moved
    exact kept.check placed
  · cases moved
    exact kept.resume placed
  · exact kept.read placed moved
  · cases moved
    exact kept.readError placed.1
  · cases moved
    exact kept.RemoveFile placed
  · exact kept.writeSome placed moved
  · cases moved
    exact kept.Rename placed.1 placed.2
  · cases moved
    exact kept.only placed
  · cases moved
    exact kept.openOther placed
  · cases moved
    exact kept.flockOther placed
  · cases moved
    exact kept.checkOther placed.1 placed.2
  · cases moved
    exact kept.removeOther placed.1 placed.2.1 placed.2.2
  · cases moved
    exact kept.look placed fun told => stayed told rfl _ _ rfl
  · cases moved
  · cases moved
    exact kept.finish (fun _ => nofun)
  · cases moved

theorem State.Kept.step {state after : State Version Hash} {event : Event Version Hash}
    (injective : Function.Injective versionHash) (kept : state.Kept versionHash source honest)
    (allowed : honest → Allowed state event)
    (moved : step versionHash source state event = some after) :
    after.Kept versionHash source honest := by
  cases event with
  | call pid version =>
    simp only [UrlDownload.step] at moved
    split at moved
    · cases moved
      exact kept.only trivial
    · cases moved
  | act pid action =>
    simp only [UrlDownload.step] at moved
    split at moved
    · cases moved
    · rename_i call found
      refine kept.act injective (kept.placed pid call found) ?_ moved
      rintro told rfl attempt part looking
      refine allowed told part ?_
      rw [found, Option.bind_some, looking]
      rfl

/-- Contents are not mixed, and success is of the call's version, while no call takes the removal of
its partial file for a rename. -/
theorem downloads_faithful {state : State Version Hash} (injective : Function.Injective versionHash)
    (reached : (machine versionHash source).Reaches Allowed state) :
    Faithful versionHash source state :=
  have kept : state.Kept versionHash source True := reached.invariant
    (fun _ first => first ▸ .empty) fun _ _ _ kept allowed moved =>
      kept.step injective (fun _ => allowed) moved
  kept.faithful injective

/-- One call at most downloads a version or into a file, which is a beginning of that version and
not the one at the path. -/
theorem downloads_apart (injective : Function.Injective versionHash)
    (reached : (machine versionHash source).Reachable state) (pid : Nat) {part : Nat}
    {call : Call Version Hash} (here : state.calls pid = some call)
    (mine : call.place.mine = some part) :
    (∀ other call', state.calls other = some call' →
      call'.place.mine = some part ∨ call'.version = call.version ∧ call'.place.mine ≠ none →
      other = pid) ∧ (∀ file ∈ state.files part, file.contents <+: source call.version) ∧
    state.dir .path ≠ some part := by
  -- what the calls report plays no part here
  have kept : state.Kept versionHash source False := reached.invariant
    (fun _ first => first ▸ .empty) fun _ _ _ kept _ moved => kept.step injective False.elim moved
  have own := (kept.placed pid call here).owned mine
  refine ⟨fun other call' there same => ?_, fun file found => ?_, fun whole =>
    (kept.sound.whole part whole).2 _ own.linked⟩
  · have sameFile : call'.place.mine = some part := by
      rcases same with same | ⟨version, some_⟩
      · exact same
      · obtain ⟨part', mine'⟩ := Option.ne_none_iff_exists'.mp some_
        have linked := ((kept.placed other call' there).owned mine').linked
        rw [version] at linked
        rw [mine', linked.symm.trans own.linked]
    have own' := (kept.placed other call' there).owned sameFile
    exact Option.some.inj (own'.locked.symm.trans own.locked)
  · obtain ⟨_, found', version⟩ := own.opened
    cases found.symm.trans found'
    exact version ▸ kept.sound.prefixes part _ found

end Runs

instance {Version Hash : Type} (state : State Version Hash) (event : Event Version Hash) :
    Decidable (Allowed state event) := by
  cases event with
  | call pid version => exact .isTrue trivial
  | act pid action => cases action <;> unfold Allowed <;> infer_instance

def versions : Bool → List UInt8
  | true => [1, 2, 3]
  | false => [4]

/-- A call is killed after it has written a part, and another goes on where it was. -/
theorem downloads_faithful_resumed :
    Faithful id versions (((machine id versions).runAllowed Allowed {} [.call 0 true,
      .act 0 .openPart, .act 0 .flock, .act 0 .check, .act 0 .resume, .act 0 (.read 2),
      .act 0 (.write 1), .act 0 .stop, .call 1 true, .act 1 .openPart, .act 1 .flock, .act 1 .check,
      .act 1 .resume, .act 1 (.read 2), .act 1 (.write 2), .act 1 .Rename,
      .act 1 (.DirectoryContents [true]), .act 1 .openOther, .act 1 .openOther]).getD {}) :=
  downloads_faithful Function.injective_id (.getD_runAllowed _ (.start rfl) (by decide +kernel))

/-- A call whose partial file was removed takes another version for its own. -/
theorem download_mistaken :
    (machine id versions).Reachable (((machine id versions).run {} [.call 0 false,
      .act 0 .openPart, .act 0 .flock, .act 0 .check, .act 0 .resume, .act 0 (.read 1),
      .act 0 (.write 1), .act 0 .Rename, .call 1 true, .act 1 .openPart,
      .act 0 (.DirectoryContents [true]), .act 0 .openOther, .act 0 .flockOther, .act 0 .checkOther,
      .act 0 .removeOther, .act 1 .flock, .act 1 .check, .act 1 .look]).getD {}) ∧
    ¬Faithful id versions (((machine id versions).run {} [.call 0 false,
      .act 0 .openPart, .act 0 .flock, .act 0 .check, .act 0 .resume, .act 0 (.read 1),
      .act 0 (.write 1), .act 0 .Rename, .call 1 true, .act 1 .openPart,
      .act 0 (.DirectoryContents [true]), .act 0 .openOther, .act 0 .flockOther, .act 0 .checkOther,
      .act 0 .removeOther, .act 1 .flock, .act 1 .check, .act 1 .look]).getD {}) := by
  refine ⟨.getD_run _ (.start rfl) (by decide +kernel), fun faithful => ?_⟩
  have put := faithful.success 1 true rfl
  revert put
  decide +kernel

/-- A second process waits for the partial file of the first. -/
theorem downloads_apart_waiting :
    let state := ((machine id versions).run {} [.call 0 true, .call 1 true,
      .act 0 .openPart, .act 0 .flock, .act 1 .openPart, .act 0 .check, .act 0 .resume,
      .act 0 (.read 2), .act 0 (.write 1)]).getD {}
    state.dir .path ≠ some 0 :=
  (downloads_apart Function.injective_id (.getD_run _ (.start rfl) (by decide +kernel))
    0 rfl rfl).2.2

end Ika.UrlDownload
