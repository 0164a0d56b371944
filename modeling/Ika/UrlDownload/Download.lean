import Ika.Foundation.Machine
import Mathlib.Data.List.Basic

/-!
Resumable downloads of a file in several versions.

Any number of calls, in any number of processes, download to one path. Each writes to a partial file
of its version, under a lock on the file that it has opened, and renames it to the path when it is
complete.
-/

set_option autoImplicit false

namespace Ika.UrlDownload

def kLockAttempts : Nat := 4

def kReadSize : Nat := 64 * 1024 * 1024

inductive Name (Hash : Type) where
  | path
  | part (hash : Hash)
  deriving DecidableEq, Repr

structure File (Version : Type) where
  contents : List UInt8 := []
  version : Version

/-- Where a call is; from `checking` on it holds the lock of its partial file. -/
inductive Place (Hash : Type) where
  | opening (attempt : Nat)
  | locking (attempt part : Nat)
  | checking (attempt part : Nat)
  | resuming (part : Nat)
  | reading (part offset : Nat)
  | removing (part : Nat)
  | writing (part offset : Nat) (chunk : List UInt8) (written : Nat)
  | complete (part : Nat)
  | listing (part : Nat)
  | cleaning (part : Nat) (todo : List Hash)
  | cleanLocking (part : Nat) (name : Hash) (other : Nat) (todo : List Hash)
  | cleanChecking (part : Nat) (name : Hash) (other : Nat) (todo : List Hash)
  | cleanRemoving (part : Nat) (name : Hash) (other : Nat) (todo : List Hash)
  | looking (attempt part : Nat)
  | done (success : Bool)

structure Call (Version Hash : Type) where
  version : Version
  place : Place Hash

structure State (Version Hash : Type) where
  calls : Nat → Option (Call Version Hash) := fun _ => none
  dir : Name Hash → Option Nat := fun _ => none
  files : Nat → Option (File Version) := fun _ => none
  nextFile : Nat := 0
  /-- The call that holds the lock of a file. -/
  locks : Nat → Option Nat := fun _ => none
  /-- What was put at the path, in order. -/
  puts : List (List UInt8) := []
  /-- The partial files that were renamed to the path, and those that were removed. -/
  renamed : List Nat := []
  removed : List Nat := []

def write (contents : List UInt8) (offset : Nat) (bytes : List UInt8) : List UInt8 :=
  contents.take offset ++ bytes ++ contents.drop (offset + bytes.length)

namespace State

variable {Version Hash : Type}

section Files

variable (state : State Version Hash)

def link [DecidableEq Hash] (name : Name Hash) (file : Option Nat) : State Version Hash :=
  {state with dir := fun other => if other = name then file else state.dir other}

def create (version : Version) : State Version Hash :=
  let id := state.nextFile
  let files := fun other => if other = id then some ⟨[], version⟩ else state.files other
  {state with files, nextFile := id + 1}

def setContents (id : Nat) (contents : List UInt8) : State Version Hash :=
  {state with
    files := fun other =>
      if other = id then (state.files id).map fun file => {file with contents}
      else state.files other}

def lock (id pid : Nat) : State Version Hash :=
  {state with locks := fun other => if other = id then some pid else state.locks other}

def unlock (id pid : Nat) : State Version Hash :=
  {state with
    locks := fun other =>
      if other = id ∧ state.locks id = some pid then none else state.locks other}

def release (pid : Nat) : State Version Hash :=
  {state with
    locks := fun id => if state.locks id = some pid then none else state.locks id}

def contents (id : Nat) : List UInt8 := (state.files id).elim [] File.contents

def goTo (pid : Nat) (version : Version) (place : Place Hash) : State Version Hash :=
  {state with
    calls := fun other => if other = pid then some ⟨version, place⟩ else state.calls other}

end Files

section Calls

variable (versionHash : Version → Hash) (source : Version → List UInt8)
variable (state : State Version Hash) (pid : Nat) (version : Version)

def PartialFilePath : Name Hash := .part (versionHash version)

def HoldsFileAt (fd : Nat) (name : Name Hash) : Bool := state.dir name = some fd

def finish (success : Bool) : State Version Hash :=
  (state.release pid).goTo pid version (.done success)

/-- The file is created if there is none. -/
def openPart [DecidableEq Hash] (attempt : Nat) : State Version Hash :=
  let name := PartialFilePath versionHash version
  match state.dir name with
  | some part => state.goTo pid version (.locking attempt part)
  | none =>
    let part := state.nextFile
    ((state.create version).link name (some part)).goTo pid version (.locking attempt part)

def flock (attempt part : Nat) : Option (State Version Hash) :=
  match state.locks part with
  | some _ => none
  | none => some ((state.lock part pid).goTo pid version (.checking attempt part))

def check (attempt part : Nat) : State Version Hash :=
  if state.HoldsFileAt part (PartialFilePath versionHash version)
  then state.goTo pid version (.resuming part)
  else state.goTo pid version (.looking attempt part)

def more (part offset : Nat) : State Version Hash :=
  if offset < (source version).length then state.goTo pid version (.reading part offset)
  else state.goTo pid version (.complete part)

/-- A partial file is shorter than the object; anything else starts over. -/
def resume (part : Nat) : State Version Hash :=
  let offset := (state.contents part).length
  if (source version).length ≤ offset then
    (state.setContents part []).more source pid version part 0
  else state.more source pid version part offset

def read (part offset count : Nat) : Option (State Version Hash) :=
  if min kReadSize ((source version).length - offset) < count then none
  else if count = 0 then some (state.finish pid version false)
  else
    let chunk := ((source version).drop offset).take count
    some (state.goTo pid version (.writing part offset chunk 0))

def readError (part offset : Nat) : State Version Hash :=
  if offset = 0 then state.goTo pid version (.removing part)
  else state.finish pid version false

def unlink [DecidableEq Hash] (name : Name Hash) (id : Nat) : State Version Hash :=
  {state.link name none with removed := state.removed ++ [id]}

def RemoveFile [DecidableEq Hash] : State Version Hash :=
  let name := PartialFilePath versionHash version
  match state.dir name with
  | none => state.finish pid version false
  | some id => (state.unlink name id).finish pid version false

def writeSome (part offset : Nat) (chunk : List UInt8) (written count : Nat) :
    Option (State Version Hash) :=
  if count = 0 ∨ chunk.length < written + count then none
  else
    let bytes := (chunk.drop written).take count
    let contents := write (state.contents part) (offset + written) bytes
    let after := state.setContents part contents
    if written + count = chunk.length then
      some (after.more source pid version part (offset + chunk.length))
    else some (after.goTo pid version (.writing part offset chunk (written + count)))

def Rename [DecidableEq Hash] (part : Nat) : State Version Hash :=
  let name := PartialFilePath versionHash version
  match state.dir name with
  | none => state.finish pid version false
  | some id =>
    let after := (state.link .path (some id)).link name none
    let puts := state.puts ++ [state.contents id]
    {after with puts, renamed := state.renamed ++ [id]}.goTo pid version (.listing part)

def openOther (part : Nat) (todo : List Hash) : State Version Hash :=
  match todo with
  | [] => state.finish pid version true
  | name :: todo =>
    match state.dir (.part name) with
    | none => state.goTo pid version (.cleaning part todo)
    | some other => state.goTo pid version (.cleanLocking part name other todo)

/-- The lock of the other file is taken, if it is free. -/
def flockOther (part : Nat) (name : Hash) (other : Nat) (todo : List Hash) : State Version Hash :=
  match state.locks other with
  | some _ => state.goTo pid version (.cleaning part todo)
  | none => (state.lock other pid).goTo pid version (.cleanChecking part name other todo)

def checkOther (part : Nat) (name : Hash) (other : Nat) (todo : List Hash) : State Version Hash :=
  if state.HoldsFileAt other (.part name)
  then state.goTo pid version (.cleanRemoving part name other todo)
  else (state.unlock other pid).goTo pid version (.cleaning part todo)

def removeOther [DecidableEq Hash] (part : Nat) (name : Hash) (other : Nat) (todo : List Hash) :
    State Version Hash :=
  match state.dir (.part name) with
  | none => state.finish pid version false
  | some id =>
    ((state.unlink (.part name) id).unlock other pid).goTo pid version (.cleaning part todo)

/-- Another download of this version is taken to have renamed the partial file away. -/
def look (attempt part : Nat) : State Version Hash :=
  if (state.dir .path).isSome then state.finish pid version true
  else if attempt + 1 < kLockAttempts then
    (state.unlock part pid).goTo pid version (.opening (attempt + 1))
  else state.finish pid version false

end Calls

end State

/-- What a call does next; what its environment decides is given. -/
inductive Action (Hash : Type) where
  | openPart
  | flock
  | check
  | resume
  | read (count : Nat)
  | readError
  | RemoveFile
  | write (count : Nat)
  | Rename
  | DirectoryContents (names : List Hash)
  | openOther
  | flockOther
  | checkOther
  | removeOther
  | look
  | stop

inductive Event (Version Hash : Type) where
  | call (pid : Nat) (version : Version)
  | act (pid : Nat) (action : Action Hash)

section Machine

variable {Version Hash : Type} [DecidableEq Hash]
variable (versionHash : Version → Hash) (source : Version → List UInt8)

def act (state : State Version Hash) (pid : Nat) (version : Version) :
    Place Hash → Action Hash → Option (State Version Hash)
  | .opening attempt, .openPart => some (state.openPart versionHash pid version attempt)
  | .locking attempt part, .flock => state.flock pid version attempt part
  | .checking attempt part, .check => some (state.check versionHash pid version attempt part)
  | .resuming part, .resume => some (state.resume source pid version part)
  | .reading part offset, .read count => state.read source pid version part offset count
  | .reading part offset, .readError => some (state.readError pid version part offset)
  | .removing _, .RemoveFile => some (state.RemoveFile versionHash pid version)
  | .writing part offset chunk written, .write count =>
    state.writeSome source pid version part offset chunk written count
  | .complete part, .Rename => some (state.Rename versionHash pid version part)
  | .listing part, .DirectoryContents names =>
    some (state.goTo pid version (.cleaning part names))
  | .cleaning part todo, .openOther => some (state.openOther pid version part todo)
  | .cleanLocking part name other todo, .flockOther =>
    some (state.flockOther pid version part name other todo)
  | .cleanChecking part name other todo, .checkOther =>
    some (state.checkOther pid version part name other todo)
  | .cleanRemoving part name other todo, .removeOther =>
    some (state.removeOther pid version part name other todo)
  | .looking attempt part, .look => some (state.look pid version attempt part)
  | .done _, .stop => none
  | _, .stop => some (state.finish pid version false)
  | _, _ => none

def step (state : State Version Hash) : Event Version Hash → Option (State Version Hash)
  | .call pid version =>
    match state.calls pid with
    | none => some (state.goTo pid version (.opening 0))
    | some _ => none
  | .act pid action =>
    match state.calls pid with
    | none => none
    | some call => act versionHash source state pid call.version call.place action

def machine : Transition.Machine (State Version Hash) (Event Version Hash) where
  init state := state = {}
  step := step versionHash source

end Machine

/-! What calls that share a directory may do to each other. -/

namespace State

variable {Version Hash : Type}
variable (versionHash : Version → Hash) (source : Version → List UInt8)

/-- Partial files are prefixes, and the path has a whole file. -/
structure Sound (state : State Version Hash) : Prop where
  known : ∀ id file, state.files id = some file → id < state.nextFile
  prefixes : ∀ id file, state.files id = some file → file.contents <+: source file.version
  parts : ∀ hash id, state.dir (.part hash) = some id →
    ∃ file, state.files id = some file ∧ versionHash file.version = hash
  whole : ∀ id, state.dir .path = some id →
    (∃ file, state.files id = some file ∧ file.contents = source file.version) ∧
      ∀ hash, state.dir (.part hash) ≠ some id
  fate : ∀ id file, state.files id = some file →
    state.dir (.part (versionHash file.version)) = some id ∨ id ∈ state.renamed ∨
      id ∈ state.removed
  past : ∀ id ∈ state.renamed, id < state.nextFile
  put : ∀ id file, state.files id = some file → id ∈ state.renamed →
    source file.version ∈ state.puts

def Opened (state : State Version Hash) (version : Version) (part : Nat) : Prop :=
  ∃ file, state.files part = some file ∧ file.version = version

/-- The call holds the partial file that is at the name of its version. -/
structure Owned (state : State Version Hash) (pid : Nat) (version : Version) (part : Nat) :
    Prop where
  opened : state.Opened version part
  locked : state.locks part = some pid
  linked : state.dir (PartialFilePath versionHash version) = some part

/-- What a call may rely on; success is for its version only if the calls are `honest`. -/
def Placed (honest : Prop) (state : State Version Hash) (pid : Nat) (version : Version) :
    Place Hash → Prop
  | .opening _ => True
  | .locking _ part => state.Opened version part
  | .checking _ part => state.Opened version part ∧ state.locks part = some pid
  | .resuming part => state.Owned versionHash pid version part
  | .reading part offset => state.Owned versionHash pid version part ∧
    state.contents part = (source version).take offset ∧ offset ≤ (source version).length
  | .removing part => state.Owned versionHash pid version part
  | .writing part offset chunk written => state.Owned versionHash pid version part ∧
    state.contents part = (source version).take (offset + written) ∧
    chunk = ((source version).drop offset).take chunk.length ∧ written ≤ chunk.length ∧
    offset + chunk.length ≤ (source version).length
  | .complete part => state.Owned versionHash pid version part ∧
    state.contents part = source version
  | .listing _ | .cleaning _ _ | .cleanLocking _ _ _ _ => source version ∈ state.puts
  | .cleanChecking _ _ other _ => source version ∈ state.puts ∧ state.locks other = some pid
  | .cleanRemoving _ name other _ => source version ∈ state.puts ∧
    state.locks other = some pid ∧ state.dir (.part name) = some other
  | .looking _ part => state.Opened version part ∧
    state.dir (PartialFilePath versionHash version) ≠ some part
  | .done success => honest → success = true → source version ∈ state.puts

structure Kept (honest : Prop) (state : State Version Hash) : Prop where
  sound : state.Sound versionHash source
  placed : ∀ pid call, state.calls pid = some call →
    state.Placed versionHash source honest pid call.version call.place

/-- What a step of another call leaves to this one. -/
structure Leaves (state after : State Version Hash) (pid : Nat) : Prop where
  files : ∀ id file, state.files id = some file → ∃ other, after.files id = some other ∧
    other.version = file.version ∧ (state.locks id = some pid → other.contents = file.contents)
  locks : ∀ id, state.locks id = some pid → after.locks id = some pid
  links : ∀ hash id, state.locks id = some pid → state.dir (.part hash) = some id →
    after.dir (.part hash) = some id
  stays : ∀ hash id file, state.files id = some file → state.dir (.part hash) ≠ some id →
    after.dir (.part hash) ≠ some id
  puts : ∀ bytes ∈ state.puts, bytes ∈ after.puts

variable {versionHash : Version → Hash} {source : Version → List UInt8}
variable {state after : State Version Hash} {pid : Nat}

theorem Leaves.refl (state : State Version Hash) : state.Leaves state pid where
  files := fun _ file found => ⟨file, found, rfl, fun _ => rfl⟩
  locks := fun _ locked => locked
  links := fun _ _ _ linked => linked
  stays := fun _ _ _ _ other => other
  puts := fun _ put => put

theorem Leaves.trans {last : State Version Hash} (first : state.Leaves after pid)
    (second : after.Leaves last pid) : state.Leaves last pid where
  files := fun id file found => by
    obtain ⟨other, found, version, same⟩ := first.files id file found
    obtain ⟨another, found, version', same'⟩ := second.files id other found
    exact ⟨another, found, version'.trans version, fun locked =>
      (same' (first.locks id locked)).trans (same locked)⟩
  locks := fun id locked => second.locks id (first.locks id locked)
  links := fun hash id locked linked =>
    second.links hash id (first.locks id locked) (first.links hash id locked linked)
  stays := fun hash id file found other => by
    obtain ⟨file', found', -⟩ := first.files id file found
    exact second.stays hash id file' found' (first.stays hash id file found other)
  puts := fun bytes put => second.puts bytes (first.puts bytes put)

variable {version : Version} {part : Nat} {place : Place Hash} {honest : Prop}

theorem Opened.leaves (opened : state.Opened version part) (leaves : state.Leaves after pid) :
    after.Opened version part := by
  obtain ⟨file, found, rfl⟩ := opened
  obtain ⟨other, found, version, -⟩ := leaves.files part file found
  exact ⟨other, found, version⟩

theorem Owned.leaves (owned : state.Owned versionHash pid version part)
    (leaves : state.Leaves after pid) :
    after.Owned versionHash pid version part where
  opened := owned.opened.leaves leaves
  locked := leaves.locks part owned.locked
  linked := leaves.links _ part owned.locked owned.linked

theorem Owned.contents_leaves (owned : state.Owned versionHash pid version part)
    (leaves : state.Leaves after pid) : after.contents part = state.contents part := by
  obtain ⟨file, found, -⟩ := owned.opened
  obtain ⟨other, found', -, same⟩ := leaves.files part file found
  unfold contents
  rw [found, found']
  exact same owned.locked

theorem Placed.leaves (placed : state.Placed versionHash source honest pid version place)
    (leaves : state.Leaves after pid) : after.Placed versionHash source honest pid version place := by
  cases place with
  | opening attempt => trivial
  | locking attempt part => exact Opened.leaves placed leaves
  | checking attempt part => exact ⟨placed.1.leaves leaves, leaves.locks _ placed.2⟩
  | resuming part => exact Owned.leaves placed leaves
  | reading part offset =>
    obtain ⟨owned, read, inside⟩ := placed
    exact ⟨owned.leaves leaves, (owned.contents_leaves leaves).trans read, inside⟩
  | removing part => exact Owned.leaves placed leaves
  | writing part offset chunk written =>
    obtain ⟨owned, read, rest⟩ := placed
    exact ⟨owned.leaves leaves, (owned.contents_leaves leaves).trans read, rest⟩
  | complete part =>
    obtain ⟨owned, read⟩ := placed
    exact ⟨owned.leaves leaves, (owned.contents_leaves leaves).trans read⟩
  | listing part => exact leaves.puts _ placed
  | cleaning part todo => exact leaves.puts _ placed
  | cleanLocking part name other todo => exact leaves.puts _ placed
  | cleanChecking part name other todo => exact ⟨leaves.puts _ placed.1, leaves.locks _ placed.2⟩
  | cleanRemoving part name other todo =>
    obtain ⟨put, locked, linked⟩ := placed
    exact ⟨leaves.puts _ put, leaves.locks _ locked, leaves.links _ _ locked linked⟩
  | looking attempt part =>
    obtain ⟨⟨file, found, version⟩, gone⟩ := placed
    exact ⟨Opened.leaves ⟨file, found, version⟩ leaves, leaves.stays _ part file found gone⟩
  | done success => exact fun told succeeded => leaves.puts _ (placed told succeeded)

theorem leaves_goTo {other : Nat} : state.Leaves (state.goTo pid version place) other :=
  {Leaves.refl state with}

theorem Kept.goTo (kept : state.Kept versionHash source honest) (calls : after.calls = state.calls)
    (sound : after.Sound versionHash source)
    (others : ∀ other, other ≠ pid → state.Leaves after other)
    (placed : after.Placed versionHash source honest pid version place) :
    (after.goTo pid version place).Kept versionHash source honest where
  sound := {sound with}
  placed := by
    intro other call found
    change (if other = pid then some ⟨version, place⟩ else after.calls other) = some call at found
    split_ifs at found with here
    · subst here
      cases found
      exact placed.leaves leaves_goTo
    · rw [calls] at found
      exact ((kept.placed other call found).leaves (others other here)).leaves leaves_goTo

end State

end Ika.UrlDownload
