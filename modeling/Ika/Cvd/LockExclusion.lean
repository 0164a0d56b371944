import Ika.Foundation.Machine
import Ika.Foundation.Waiting

/-!
The lock files of instance ids, and the processes that use them.

A lock belongs to the file that was opened, and the path of an id may name another file by the time
the lock is got: removing a group unlinks the lock files of its ids.
-/

set_option autoImplicit false

namespace Ika.Cvd

open Function

/-- A lock file, whether a path still names it or not. -/
abbrev Inode := Nat

/-- Where a process is in what it does with lock files. -/
inductive LockTask where
  | idle
  /-- Acquires the locks of the ids still requested, for these instances. -/
  | request (rest : List UInt32) (instances : List (Option UInt32))
  /-- Has opened the lock file of a requested id and locks it. -/
  | wait (id : UInt32) (inode : Inode) (rest : List UInt32) (instances : List (Option UInt32))
  /-- Goes through the instances, with the locks of the requested ids held. -/
  | assign (instances : List (Option UInt32))
  /-- Searches for an unused id from this one on. -/
  | search (id : UInt32) (instances : List (Option UInt32))
  | tryLock (id : UInt32) (inode : Inode) (instances : List (Option UInt32))
  | check (id : UInt32) (inode : Inode) (instances : List (Option UInt32))
  | allocated
  | mark (rest : List (UInt32 × Inode))
  | remove (rest : List UInt32)
deriving DecidableEq

structure Worker where
  held : List (UInt32 × Inode)
  task : LockTask
deriving DecidableEq

def Worker.locks (worker : Worker) : List (UInt32 × Inode) :=
  match worker.task with
  | .check id inode _ => (id, inode) :: worker.held
  | _ => worker.held

def Worker.opened (worker : Worker) : List (UInt32 × Inode) :=
  match worker.task with
  | .wait id inode _ _ => (id, inode) :: worker.held
  | .tryLock id inode _ => (id, inode) :: worker.held
  | .check id inode _ => (id, inode) :: worker.held
  | _ => worker.held

section Files

variable {Process : Type} [DecidableEq Process]

structure LockFiles (Process : Type) where
  path : UInt32 → Option Inode
  inUse : Inode → Bool
  owner : Inode → Option Process
  fresh : Inode
  worker : Process → Worker

inductive LockAction where
  | allocate (instances : List (Option UInt32))
  | markInUse
  | remove (ids : List UInt32)
  | advance
  | exit

def LockFiles.set (state : LockFiles Process) (process : Process) (worker : Worker) :
    LockFiles Process :=
  {state with worker := update state.worker process worker}

def LockFiles.openLockFile (state : LockFiles Process) (id : UInt32) :
    Inode × LockFiles Process :=
  match state.path id with
  | some inode => (inode, state)
  | none => (state.fresh, {state with
      path := update state.path id (some state.fresh)
      inUse := update state.inUse state.fresh false
      fresh := state.fresh + 1})

def LockFiles.release (state : LockFiles Process) (process : Process) : LockFiles Process :=
  {state with
    owner := fun inode => if state.owner inode = some process then none else state.owner inode
    worker := update state.worker process ⟨[], .idle⟩}

def LockFiles.lock (state : LockFiles Process) (process : Process) (inode : Inode) :
    LockFiles Process :=
  {state with owner := update state.owner inode (some process)}

def LockFiles.unlock (state : LockFiles Process) (inode : Inode) : LockFiles Process :=
  {state with owner := update state.owner inode none}

def LockFiles.unlink (state : LockFiles Process) (id : UInt32) : LockFiles Process :=
  {state with path := update state.path id none}

def LockFiles.setInUse (state : LockFiles Process) (inode : Inode) : LockFiles Process :=
  {state with inUse := update state.inUse inode true}

/-- The next step of a process; none while it waits for a lock. -/
def LockFiles.advance (state : LockFiles Process) (process : Process) :
    Option (LockFiles Process) :=
  let held := (state.worker process).held
  match (state.worker process).task with
  | .idle => none
  | .request [] instances => some (state.set process ⟨held, .assign instances⟩)
  | .request (id :: rest) instances =>
    -- the ids requested so far are those of the locks that are held
    if id ∈ held.map Prod.fst then some (state.release process)
    else
      some ((state.openLockFile id).2.set process
        ⟨held, .wait id (state.openLockFile id).1 rest instances⟩)
  | .wait id inode rest instances =>
    if state.owner inode = none then
      some ((state.lock process inode).set process ⟨held ++ [(id, inode)], .request rest instances⟩)
    else none
  | .assign [] => some (state.set process ⟨held, .allocated⟩)
  | .assign (some _ :: rest) => some (state.set process ⟨held, .assign rest⟩)
  | .assign (none :: rest) => some (state.set process ⟨held, .search 1 rest⟩)
  | .search id instances =>
    some ((state.openLockFile id).2.set process
      ⟨held, .tryLock id (state.openLockFile id).1 instances⟩)
  | .tryLock id inode instances =>
    if state.owner inode = none then
      some ((state.lock process inode).set process ⟨held, .check id inode instances⟩)
    else some (state.set process ⟨held, .search (id + 1) instances⟩)
  | .check id inode instances =>
    if state.inUse inode then
      some ((state.unlock inode).set process ⟨held, .search (id + 1) instances⟩)
    else some (state.set process ⟨held ++ [(id, inode)], .assign instances⟩)
  | .allocated => some (state.release process)
  | .mark [] => some (state.release process)
  | .mark (file :: rest) => some ((state.setInUse file.2).set process ⟨held, .mark rest⟩)
  | .remove [] => some (state.set process ⟨held, .idle⟩)
  | .remove (id :: rest) => some ((state.unlink id).set process ⟨held, .remove rest⟩)

def LockFiles.step (state : LockFiles Process) (event : Process × LockAction) :
    Option (LockFiles Process) :=
  let worker := state.worker event.1
  match event.2, worker.task with
  | .allocate instances, .idle =>
    some (state.set event.1 ⟨worker.held, .request (instances.filterMap id) instances⟩)
  | .markInUse, .allocated => some (state.set event.1 ⟨worker.held, .mark worker.held⟩)
  | .remove ids, .idle => some (state.set event.1 ⟨worker.held, .remove ids⟩)
  | .advance, _ => state.advance event.1
  | .exit, _ => some (state.release event.1)
  | _, _ => none

/-- Any lock files, with no process at work. -/
def instanceLocks (Process : Type) [DecidableEq Process] :
    Transition.Machine (LockFiles Process) (Process × LockAction) where
  init state := (∀ process, state.worker process = ⟨[], .idle⟩) ∧
    (∀ inode, state.owner inode = none) ∧
    (∀ id inode, state.path id = some inode → inode < state.fresh) ∧
    ∀ id other inode, state.path id = some inode → state.path other = some inode → id = other
  step := LockFiles.step

def LockFiles.Holds (state : LockFiles Process) (process : Process) (id : UInt32) : Prop :=
  id ∈ (state.worker process).locks.map Prod.fst

def LockFiles.Waits (state : LockFiles Process) (process : Process) (id : UInt32) : Prop :=
  ∃ inode rest instances, (state.worker process).task = .wait id inode rest instances

def LockFiles.Exclusive (state : LockFiles Process) : Prop :=
  ∀ process other id, state.Holds process id → state.Holds other id → process = other

/-- An id returned as unused is locked by no other, and not marked as in use. -/
def LockFiles.Unused (state : LockFiles Process) : Prop :=
  ∀ process id inode instances, (state.worker process).task = .check id inode instances →
    state.inUse inode = false → (∀ other, other ≠ process → ¬state.Holds other id) ∧
      ∀ current, state.path id = some current → state.inUse current = false

def LockFiles.DeadlockFree (state : LockFiles Process) : Prop :=
  ∀ processes, ¬Waiting.Deadlocked state.Waits state.Holds processes

/-- Requested locks come in an order common to all, and no lock file in use is unlinked. -/
def Careful (rank : UInt32 → Nat) (state : LockFiles Process) (event : Process × LockAction) :
    Prop :=
  match event.2, (state.worker event.1).task with
  | .advance, .request (id :: _) _ => id ∉ (state.worker event.1).held.map Prod.fst →
    ∀ file ∈ (state.worker event.1).held, rank file.1 < rank id
  | .advance, .remove (id :: _) => ∀ other, ∀ file ∈ (state.worker other).opened, file.1 ≠ id
  | _, _ => True

instance [Fintype Process] (rank : UInt32 → Nat) (state : LockFiles Process)
    (event : Process × LockAction) : Decidable (Careful rank state event) := by
  unfold Careful
  split <;> infer_instance

end Files

/-! Instance id locks exclude each other and do not deadlock where the lock files in use stay in
place and requested locks are taken in a common order.

As long as whatever a process has open is what the path of its id names, two locks of one id
are locks of one file.
-/

open List

theorem Worker.locks_subset (worker : Worker) : worker.locks ⊆ worker.opened := by
  intro file mem
  unfold locks at mem
  unfold opened
  split at mem
  · rename_i id inode instances task
    rw [task]
    exact mem
  · split
    · exact mem_cons_of_mem _ mem
    · exact mem_cons_of_mem _ mem
    · exact mem_cons_of_mem _ mem
    · exact mem

section Files

variable {Process : Type}

structure PathsSound (path : UInt32 → Option Inode) (fresh : Inode) : Prop where
  bounded : ∀ id inode, path id = some inode → inode < fresh
  injective : ∀ id other inode, path id = some inode → path other = some inode → id = other

/-- What a process has open and locked is in place, and locked for it. -/
structure WorkerSound (rank : UInt32 → Nat) (path : UInt32 → Option Inode)
    (owner : Inode → Option Process) (process : Process) (worker : Worker) : Prop where
  inPlace : ∀ file ∈ worker.opened, path file.1 = some file.2
  owned : ∀ file ∈ worker.locks, owner file.2 = some process
  apart : (worker.locks.map Prod.snd).Nodup
  ordered : ∀ id inode rest instances, worker.task = .wait id inode rest instances →
    ∀ file ∈ worker.held, rank file.1 < rank id

structure LocksSound (rank : UInt32 → Nat) (state : LockFiles Process) : Prop where
  paths : PathsSound state.path state.fresh
  workers : ∀ process, WorkerSound rank state.path state.owner process (state.worker process)

variable {rank : UInt32 → Nat} {state : LockFiles Process}

theorem LocksSound.exclusive (sound : LocksSound rank state) : state.Exclusive := by
  intro process other id held held'
  obtain ⟨file, mem, rfl⟩ := mem_map.mp held
  obtain ⟨file', mem', same⟩ := mem_map.mp held'
  have path := (sound.workers process).inPlace file (Worker.locks_subset _ mem)
  have path' := (sound.workers other).inPlace file' (Worker.locks_subset _ mem')
  rw [same, path] at path'
  have owner := (sound.workers process).owned file mem
  have owner' := (sound.workers other).owned file' mem'
  rw [← Option.some.inj path', owner] at owner'
  exact Option.some.inj owner'

theorem LocksSound.unused (sound : LocksSound rank state) : state.Unused := by
  intro process id inode instances task free
  have mem : (id, inode) ∈ (state.worker process).locks := by
    simp [Worker.locks, task]
  constructor
  · intro other different held
    exact different (sound.exclusive other process id held (mem_map.mpr ⟨_, mem, rfl⟩))
  · intro current path
    have place := (sound.workers process).inPlace _ (Worker.locks_subset _ mem)
    rw [path] at place
    rwa [Option.some.inj place]

theorem LocksSound.deadlockFree (sound : LocksSound rank state) : state.DeadlockFree := by
  have finite : Finite UInt32 := Finite.of_injective UInt32.toFin fun _ _ => UInt32.toFin_inj.mp
  apply @Waiting.Ordered.not_deadlocked _ _ _ _ _ rank
  rintro process wanted held ⟨inode, rest, instances, task⟩ holds
  obtain ⟨file, mem, rfl⟩ := mem_map.mp holds
  apply (sound.workers process).ordered wanted inode rest instances task
  simpa [Worker.locks, task] using mem

variable {process : Process} {worker : Worker} {after : LockFiles Process}

theorem WorkerSound.keep {path : UInt32 → Option Inode} {owner : Inode → Option Process}
    {next : Worker} (sound : WorkerSound rank path owner process worker)
    (opened : next.opened ⊆ worker.opened) (locks : next.locks.Sublist worker.locks)
    (waits : ∀ id inode rest instances, next.task ≠ .wait id inode rest instances) :
    WorkerSound rank path owner process next :=
  ⟨fun file mem => sound.inPlace file (opened mem),
    fun file mem => sound.owned file (locks.subset mem),
    sound.apart.sublist (locks.map _),
    fun id inode rest instances wait => absurd wait (waits id inode rest instances)⟩

theorem openLockFile_path (state : LockFiles Process) (id : UInt32) :
    (state.openLockFile id).2.path id = some (state.openLockFile id).1 := by
  unfold LockFiles.openLockFile
  split
  · assumption
  · simp

theorem openLockFile_other (state : LockFiles Process) {id other : UInt32} {inode : Inode}
    (path : state.path other = some inode) :
    (state.openLockFile id).2.path other = some inode := by
  unfold LockFiles.openLockFile
  split
  · exact path
  · rename_i missing
    have different : other ≠ id := by
      rintro rfl
      rw [missing] at path
      cases path
    simpa [update_of_ne different] using path

@[simp] theorem openLockFile_owner (state : LockFiles Process) (id : UInt32) :
    (state.openLockFile id).2.owner = state.owner := by
  unfold LockFiles.openLockFile
  split <;> rfl

@[simp] theorem openLockFile_worker (state : LockFiles Process) (id : UInt32) :
    (state.openLockFile id).2.worker = state.worker := by
  unfold LockFiles.openLockFile
  split <;> rfl

theorem PathsSound.openLockFile (paths : PathsSound state.path state.fresh) (id : UInt32) :
    PathsSound (state.openLockFile id).2.path (state.openLockFile id).2.fresh := by
  unfold LockFiles.openLockFile
  split
  · exact paths
  · have old : ∀ other inode, state.path other = some inode → inode ≠ state.fresh :=
      fun other inode path => Nat.ne_of_lt (paths.bounded other inode path)
    constructor
    · intro other inode path
      by_cases same : other = id
      · subst same
        simp only [update_self, Option.some.injEq] at path
        subst path
        exact Nat.lt_succ_self _
      · simp only [update_of_ne same] at path
        exact Nat.lt_succ_of_lt (paths.bounded other inode path)
    · intro first second inode path path'
      by_cases one : first = id
      · by_cases two : second = id
        · rw [one, two]
        · simp only [one, update_self, Option.some.injEq, update_of_ne two]
            at path path'
          exact absurd path.symm (old second inode path')
      · by_cases two : second = id
        · simp only [two, update_self, Option.some.injEq, update_of_ne one]
            at path path'
          exact absurd path'.symm (old first inode path)
        · simp only [update_of_ne one, update_of_ne two] at path path'
          exact paths.injective first second inode path path'

variable [DecidableEq Process]

section

variable (sound : LocksSound rank state)
include sound

theorem LocksSound.move (workers : after.worker = Function.update state.worker process worker)
    (paths : PathsSound after.path after.fresh)
    (placed : ∀ other, other ≠ process → ∀ file ∈ (state.worker other).opened,
      state.path file.1 = some file.2 → after.path file.1 = some file.2)
    (owned : ∀ other, other ≠ process → ∀ inode, state.owner inode = some other →
      after.owner inode = some other)
    (own : WorkerSound rank after.path after.owner process worker) : LocksSound rank after := by
  refine ⟨paths, fun other => ?_⟩
  rw [workers]
  by_cases same : other = process
  · subst same
    rw [update_self]
    exact own
  · rw [update_of_ne same]
    obtain ⟨inPlace, locked, apart, ordered⟩ := sound.workers other
    exact ⟨fun file mem => placed other same file mem (inPlace file mem),
      fun file mem => owned other same file.2 (locked file mem), apart, ordered⟩

theorem LocksSound.set (own : WorkerSound rank state.path state.owner process worker) :
    LocksSound rank (state.set process worker) :=
  sound.move rfl sound.paths (fun _ _ _ _ path => path) (fun _ _ _ owner => owner) own

theorem LocksSound.opens (id : UInt32)
    (opened : worker.opened = (id, (state.openLockFile id).1) :: (state.worker process).held)
    (locks : worker.locks = (state.worker process).held)
    (idle : (state.worker process).held = (state.worker process).locks)
    (ordered : ∀ wanted inode rest instances, worker.task = .wait wanted inode rest instances →
      ∀ file ∈ worker.held, rank file.1 < rank wanted) :
    LocksSound rank ((state.openLockFile id).2.set process worker) := by
  obtain ⟨inPlace, owned, apart, _⟩ := sound.workers process
  apply sound.move
  · rw [LockFiles.set, openLockFile_worker]
  · exact sound.paths.openLockFile id
  · intro other _ file _ path
    exact openLockFile_other state path
  · intro other _ inode owner
    simpa [LockFiles.set] using owner
  · rw [idle] at opened locks
    refine ⟨?_, ?_, by rwa [locks], ordered⟩
    · intro file mem
      rw [opened] at mem
      rcases mem_cons.mp mem with rfl | mem
      · exact openLockFile_path state id
      · exact openLockFile_other state (inPlace file (Worker.locks_subset _ mem))
    · intro file mem
      rw [locks] at mem
      simpa [LockFiles.set] using owned file mem

theorem LocksSound.locks {process : Process} {id : UInt32}
    {inode : Inode} {worker : Worker} (free : state.owner inode = none)
    (opened : worker.opened ⊆ (state.worker process).opened)
    (locks : worker.locks.Perm ((id, inode) :: (state.worker process).locks))
    (waits : ∀ id inode rest instances, worker.task ≠ .wait id inode rest instances) :
    LocksSound rank ((state.lock process inode).set process worker) := by
  obtain ⟨inPlace, owned, apart, _⟩ := sound.workers process
  have others : ∀ file ∈ (state.worker process).locks, file.2 ≠ inode := by
    intro file mem same
    have owner := owned file mem
    rw [same, free] at owner
    cases owner
  apply sound.move
  · rfl
  · exact sound.paths
  · exact fun _ _ _ _ path => path
  · intro other _ inode' owner
    have different : inode' ≠ inode := by
      rintro rfl
      rw [free] at owner
      cases owner
    exact (update_of_ne different ..).trans owner
  · refine ⟨fun file mem => inPlace file (opened mem), ?_, ?_,
      fun id inode rest instances wait => absurd wait (waits id inode rest instances)⟩
    · intro file mem
      rcases mem_cons.mp (locks.subset mem) with rfl | mem
      · exact update_self ..
      · exact (update_of_ne (others file mem) ..).trans (owned file mem)
    · rw [(locks.map Prod.snd).nodup_iff]
      apply nodup_cons.mpr ⟨?_, apart⟩
      intro mem
      obtain ⟨file, mem, same⟩ := mem_map.mp mem
      exact others file mem same

theorem LocksSound.unlocks {process : Process} {id : UInt32} {inode : Inode} {worker : Worker}
    (locks : (state.worker process).locks = (id, inode) :: worker.locks)
    (opened : worker.opened ⊆ (state.worker process).opened)
    (waits : ∀ id inode rest instances, worker.task ≠ .wait id inode rest instances) :
    LocksSound rank ((state.unlock inode).set process worker) := by
  obtain ⟨inPlace, owned, apart, _⟩ := sound.workers process
  rw [locks] at owned apart
  have mine : state.owner inode = some process := owned (id, inode) (mem_cons_self ..)
  obtain ⟨single, apart⟩ := nodup_cons.mp apart
  apply sound.move
  · rfl
  · exact sound.paths
  · exact fun _ _ _ _ path => path
  · intro other different inode' owner
    have elsewhere : inode' ≠ inode := by
      rintro rfl
      rw [mine] at owner
      exact different (Option.some.inj owner).symm
    exact (update_of_ne elsewhere ..).trans owner
  · refine ⟨fun file mem => inPlace file (opened mem), ?_, apart,
      fun id inode rest instances wait => absurd wait (waits id inode rest instances)⟩
    intro file mem
    have elsewhere : file.2 ≠ inode := fun same => single (mem_map.mpr ⟨file, mem, same⟩)
    exact (update_of_ne elsewhere ..).trans (owned file (mem_cons_of_mem _ mem))

theorem LocksSound.release (process : Process) : LocksSound rank (state.release process) := by
  apply sound.move
  · rfl
  · exact sound.paths
  · exact fun _ _ _ _ path => path
  · intro other different inode owner
    have kept : state.owner inode ≠ some process := by
      rw [owner]
      exact fun same => different (Option.some.inj same)
    exact (if_neg kept).trans owner
  · exact ⟨by simp [Worker.opened], by simp [Worker.locks], by simp [Worker.locks],
      fun id inode rest instances wait => by cases wait⟩

theorem LocksSound.unlinks {id : UInt32}
    (unused : ∀ other, ∀ file ∈ (state.worker other).opened, file.1 ≠ id)
    (opened : worker.opened ⊆ (state.worker process).opened)
    (locks : worker.locks.Sublist (state.worker process).locks)
    (waits : ∀ id inode rest instances, worker.task ≠ .wait id inode rest instances) :
    LocksSound rank ((state.unlink id).set process worker) := by
  have named : ∀ other inode, (state.unlink id).path other = some inode →
      state.path other = some inode := by
    intro other inode path
    by_cases same : other = id
    · subst same
      exact absurd ((update_self ..).symm.trans path) (by simp)
    · exact (update_of_ne same ..).symm.trans path
  have own := (sound.workers process).keep opened locks waits
  apply sound.move
  · rfl
  · exact ⟨fun other inode path => sound.paths.bounded other inode (named other inode path),
      fun first second inode path path' => sound.paths.injective first second inode
        (named first inode path) (named second inode path')⟩
  · intro other _ file mem path
    exact (update_of_ne (unused other file mem) ..).trans path
  · exact fun _ _ _ owner => owner
  · exact ⟨fun file mem => (update_of_ne (unused process file (opened mem)) ..).trans
      (own.inPlace file mem), own.owned, own.apart, own.ordered⟩

theorem LocksSound.advance (careful : Careful rank state (process, .advance))
    (moved : state.advance process = some after) : LocksSound rank after := by
  have own := sound.workers process
  rcases worker : state.worker process with ⟨held, task⟩
  simp only [LockFiles.advance, worker] at moved
  simp only [Careful, worker] at careful
  rw [worker] at own
  cases task with
  | idle => cases moved
  | request rest instances =>
    cases rest with
    | nil =>
      cases moved
      exact sound.set (own.keep (fun _ mem => mem) (.refl _) fun _ _ _ _ wait => by cases wait)
    | cons id rest =>
      dsimp only at moved careful
      split_ifs at moved with repeated
      · cases moved
        exact sound.release process
      · cases moved
        apply sound.opens id
        · rw [worker]
          rfl
        · rw [worker]
          rfl
        · rw [worker]
          rfl
        · intro wanted inode rest instances wait
          cases wait
          exact careful repeated
  | wait id inode rest instances =>
    dsimp only at moved
    split_ifs at moved with free
    cases moved
    apply @LocksSound.locks _ _ _ _ sound _ id _ _ free
    · rw [worker]
      intro file mem
      rcases mem_append.mp mem with mem | mem
      · exact mem_cons_of_mem _ mem
      · rw [mem_singleton.mp mem]
        exact mem_cons_self ..
    · rw [worker]
      exact perm_append_singleton _ _
    · intro _ _ _ _ wait
      cases wait
  | assign instances =>
    cases instances with
    | nil =>
      cases moved
      exact sound.set (own.keep (fun _ mem => mem) (.refl _) fun _ _ _ _ wait => by cases wait)
    | cons instance' rest =>
      cases instance' <;> cases moved
      all_goals
        exact sound.set (own.keep (fun _ mem => mem) (.refl _) fun _ _ _ _ wait => by cases wait)
  | search id instances =>
    cases moved
    apply sound.opens id
    · rw [worker]
      rfl
    · rw [worker]
      rfl
    · rw [worker]
      rfl
    · intro _ _ _ _ wait
      cases wait
  | tryLock id inode instances =>
    dsimp only at moved
    split_ifs at moved with free
    · cases moved
      apply @LocksSound.locks _ _ _ _ sound _ id _ _ free
      · rw [worker]
        exact fun _ mem => mem
      · rw [worker]
        exact .refl _
      · intro _ _ _ _ wait
        cases wait
    · cases moved
      exact sound.set (own.keep (fun _ mem => mem_cons_of_mem _ mem) (.refl _)
        fun _ _ _ _ wait => by cases wait)
  | check id inode instances =>
    dsimp only at moved
    split_ifs at moved with used
    · cases moved
      apply @LocksSound.unlocks _ _ _ _ sound _ id
      · rw [worker]
        rfl
      · rw [worker]
        exact fun _ mem => mem_cons_of_mem _ mem
      · intro _ _ _ _ wait
        cases wait
    · -- the lock that was tried becomes one of the locks that are held
      cases moved
      have perm : (held ++ [(id, inode)]).Perm ((id, inode) :: held) :=
        perm_append_singleton _ _
      refine sound.set ⟨fun file mem => own.inPlace file (perm.subset mem),
        fun file mem => own.owned file (perm.subset mem), ?_, fun _ _ _ _ wait => by cases wait⟩
      exact (perm.map Prod.snd).nodup_iff.mpr own.apart
  | allocated =>
    cases moved
    exact sound.release process
  | mark rest =>
    cases rest with
    | nil =>
      cases moved
      exact sound.release process
    | cons file rest =>
      cases moved
      apply sound.move
      · rfl
      · exact sound.paths
      · exact fun _ _ _ _ path => path
      · exact fun _ _ _ owner => owner
      · exact own.keep (fun _ mem => mem) (.refl _) fun _ _ _ _ wait => by cases wait
  | remove rest =>
    cases rest with
    | nil =>
      cases moved
      exact sound.set (own.keep (fun _ mem => mem) (.refl _) fun _ _ _ _ wait => by cases wait)
    | cons id rest =>
      cases moved
      apply sound.unlinks careful
      · rw [worker]
        exact fun _ mem => mem
      · rw [worker]
        exact .refl _
      · intro _ _ _ _ wait
        cases wait

theorem LocksSound.step {event : Process × LockAction}
    {after : LockFiles Process} (careful : Careful rank state event)
    (moved : state.step event = some after) : LocksSound rank after := by
  obtain ⟨process, action⟩ := event
  have own := sound.workers process
  rcases worker : state.worker process with ⟨held, task⟩
  rw [worker] at own
  cases action with
  | advance => exact sound.advance careful moved
  | exit =>
    simp only [LockFiles.step] at moved
    cases moved
    exact sound.release process
  | allocate instances =>
    simp only [LockFiles.step, worker] at moved
    cases task <;> cases moved
    exact sound.set (own.keep (fun _ mem => mem) (.refl _) fun _ _ _ _ wait => by cases wait)
  | markInUse =>
    simp only [LockFiles.step, worker] at moved
    cases task <;> cases moved
    exact sound.set (own.keep (fun _ mem => mem) (.refl _) fun _ _ _ _ wait => by cases wait)
  | remove ids =>
    simp only [LockFiles.step, worker] at moved
    cases task <;> cases moved
    exact sound.set (own.keep (fun _ mem => mem) (.refl _) fun _ _ _ _ wait => by cases wait)

end

/-- Locks exclude each other, unused ids are unused and nothing deadlocks, while locks are requested
in a common order and no lock file in use is unlinked. -/
theorem locks_exclusive (rank : UInt32 → Nat)
    (reached : (instanceLocks Process).Reaches (Careful rank) state) :
    state.Exclusive ∧ state.Unused ∧ state.DeadlockFree := by
  have sound : LocksSound rank state := by
    apply reached.invariant
    · rintro state ⟨idle, free, bounded, injective⟩
      refine ⟨⟨bounded, injective⟩, fun process => ?_⟩
      rw [idle process]
      exact ⟨by simp [Worker.opened], by simp [Worker.locks], by simp [Worker.locks],
        fun _ _ _ _ wait => by cases wait⟩
    · intro state event after sound careful moved
      exact sound.step careful moved
  exact ⟨sound.exclusive, sound.unused, sound.deadlockFree⟩

end Files

def noLockFiles : LockFiles Bool := ⟨fun _ => none, fun _ => false, fun _ => none, 0,
  fun _ => ⟨[], .idle⟩⟩

theorem noLockFiles_start : (instanceLocks Bool).init noLockFiles := by
  refine ⟨fun _ => rfl, fun _ => rfl, ?_, ?_⟩
  · intro id inode path
    cases path
  · intro id other inode path
    cases path

def lockSteps (process : Bool) (count : Nat) : List (Bool × LockAction) :=
  List.replicate count (process, .advance)

/-- One process creates instances, another one creates others and a group is removed. -/
def carefulCreations : List (Bool × LockAction) :=
  (false, .allocate [some 1, none]) :: lockSteps false 11 ++
    (true, .allocate [some 3, none, some 5]) :: lockSteps true 7 ++ (false, .markInUse) ::
      lockSteps false 3 ++ (false, .remove [2]) :: lockSteps false 2

def unlinkedWhileLocked : List (Bool × LockAction) :=
  (true, .allocate [some 1]) :: lockSteps true 2 ++ (false, .remove [1]) :: lockSteps false 2 ++
    (false, .allocate [some 1]) :: lockSteps false 2

def oppositeOrders : List (Bool × LockAction) :=
  [(false, .allocate [some 1, some 2]), (true, .allocate [some 2, some 1])] ++
    lockSteps false 3 ++ lockSteps true 3

def afterCareful : LockFiles Bool :=
  ((instanceLocks Bool).runAllowed (Careful UInt32.toNat) noLockFiles carefulCreations).getD
    noLockFiles

def afterUnlink : LockFiles Bool :=
  ((instanceLocks Bool).run noLockFiles unlinkedWhileLocked).getD noLockFiles

def afterOpposite : LockFiles Bool :=
  ((instanceLocks Bool).run noLockFiles oppositeOrders).getD noLockFiles

theorem locks_exclusive_careful :
    afterCareful.Exclusive ∧ afterCareful.Unused ∧ afterCareful.DeadlockFree :=
  locks_exclusive UInt32.toNat (Transition.Machine.Reaches.getD_runAllowed carefulCreations
    (.start noLockFiles_start) (by decide +kernel))

/-- Two processes may hold the lock of one id, and two processes may wait for one another. -/
theorem locks_shared : (¬∀ state, (instanceLocks Bool).Reachable state → state.Exclusive) ∧
    ¬∀ state, (instanceLocks Bool).Reachable state → state.DeadlockFree := by
  constructor
  · intro all
    have reached : (instanceLocks Bool).Reachable afterUnlink :=
      Transition.Machine.Reachable.getD_run unlinkedWhileLocked (.start noLockFiles_start)
        (by decide +kernel)
    have first : (afterUnlink.worker false).locks = [(1, 1)] := by decide +kernel
    have second : (afterUnlink.worker true).locks = [(1, 0)] := by decide +kernel
    have same := all _ reached false true 1 (by simp [LockFiles.Holds, first])
      (by simp [LockFiles.Holds, second])
    cases same
  · intro all
    have reached : (instanceLocks Bool).Reachable afterOpposite :=
      Transition.Machine.Reachable.getD_run oppositeOrders (.start noLockFiles_start)
        (by decide +kernel)
    have first : afterOpposite.worker false = ⟨[(1, 0)], .wait 2 1 [] [some 1, some 2]⟩ := by
      decide +kernel
    have second : afterOpposite.worker true = ⟨[(2, 1)], .wait 1 0 [] [some 2, some 1]⟩ := by
      decide +kernel
    apply all _ reached Set.univ
    refine ⟨⟨false, trivial⟩, fun process _ => ?_⟩
    cases process
    · exact ⟨2, ⟨1, [], _, by rw [first]⟩, true, trivial, by decide,
        by simp [LockFiles.Holds, Worker.locks, second]⟩
    · exact ⟨1, ⟨0, [], _, by rw [second]⟩, false, trivial, by decide,
        by simp [LockFiles.Holds, Worker.locks, first]⟩

end Ika.Cvd
