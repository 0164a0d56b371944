import Mathlib.Algebra.Order.Ring.Int
import Ika.Foundation.KeyValue
import Mathlib.Data.List.Nodup

/-! Storage in the NV memory of a TPM, with an index of its handles in a sealed file.

The TPM is the one the storage expects: a write changes the bytes it writes and no others, and a
read returns as many bytes as the space was defined with.
-/

set_option autoImplicit false

namespace Ika.SecureEnv

open List Function Option

/-- What is left in a file by a write that failed behind its truncation. -/
inductive Damage where
  | removed
  | truncated
  | partly
  deriving DecidableEq

inductive File (Json : Type) where
  | missing
  | empty
  | garbage
  | json (root : Json)

def File.damaged {Json : Type} : Damage → File Json
  | .removed => .missing
  | .truncated => .empty
  | .partly => .garbage

def TPM2_MAX_NV_BUFFER_SIZE : Nat := 2048

namespace TpmStorage

def MAX_HANDLE_ATTEMPTS : Nat := 1

def TPM2_NV_INDEX_FIRST : Nat := 0x01000000
def TPM2_NV_INDEX_LAST : Nat := 0x01FFFFFF

structure Space where
  contents : List UInt8
  written : Bool

def Space.define (size : Nat) : Space := {contents := List.replicate size 0xFF, written := false}

def Space.Esys_NV_Write (space : Space) (data : List UInt8) : Option Space :=
  if data.length ≤ space.contents.length then
    some {contents := data ++ space.contents.drop data.length, written := true}
  else none

def Space.Esys_NV_Read (space : Space) : Option (List UInt8) :=
  if space.written then some space.contents else none

variable {Key : Type} [DecidableEq Key]

structure Entry (Key : Type) where
  key : Key
  handle : Nat
  deriving DecidableEq

structure State (Key : Type) where
  index_ : List (Entry Key)
  file : File (List (Entry Key))
  nv : Nat → Option Space

structure Attempt where
  random : Nat
  /-- The TPM refuses, though the index is not defined. -/
  refused : Bool

inductive Saving where
  | saved
  /-- Nothing has been written, and the file is as it was. -/
  | refused
  /-- A stream notices a failure only where it flushes before it is asked. -/
  | damaged (left : Damage) (noticed : Bool)
  deriving DecidableEq

/-- What the environment does in a call of `Write`. -/
structure Env where
  attempts : Nat → Attempt
  saving : Saving
  /-- `Esys_NV_Write` works as far as the size allows. -/
  nvWrite : Bool

def GetHandle (index_ : List (Entry Key)) (key : Key) : Option Nat :=
  (index_.find? fun entry => entry.key = key).map Entry.handle

def GenerateRandomHandle (random : Nat) : Nat :=
  random % (TPM2_NV_INDEX_LAST + 1 - TPM2_NV_INDEX_FIRST) + TPM2_NV_INDEX_FIRST

namespace State

def HasKey (state : State Key) (key : Key) : Bool := (GetHandle state.index_ key).isSome

def Read (state : State Key) (key : Key) : KeyValue.Answer (List UInt8) :=
  match GetHandle state.index_ key with
  -- `value()` of an empty optional throws.
  | none => .exception
  | some handle =>
    match (state.nv handle).bind Space.Esys_NV_Read with
    | none => .error
    | some data => .data data

/-- The loop over the attempts, from the one numbered `i` on; `handle` is that of the last one. -/
def defineSpace (nv : Nat → Option Space) (size : Nat) (attempts : Nat → Attempt) :
    Nat → Nat → Nat → Nat × (Nat → Option Space)
  | 0, _, handle => (handle, nv)
  | left + 1, i, _ =>
    let handle := GenerateRandomHandle (attempts i).random
    if (nv handle).isSome then defineSpace nv size attempts left (i + 1) handle
    else if (attempts i).refused then defineSpace nv size attempts left (i + 1) handle
    else (handle, update nv handle (some (.define size)))

/-- `WriteProtectedJsonToFile`: what it returns, and the file. -/
def save (state : State Key) : Saving → Bool × File (List (Entry Key))
  | .saved => (true, .json state.index_)
  | .refused => (false, state.file)
  | .damaged left noticed => (!noticed, .damaged left)

/-- The entry is made whether or not a space has been defined. -/
def Allocate (state : State Key) (key : Key) (size : Nat) (env : Env) : Bool × State Key :=
  let (handle, nv) := defineSpace state.nv size env.attempts MAX_HANDLE_ATTEMPTS 0 0
  let state := {state with index_ := state.index_ ++ [Entry.mk key handle], nv}
  let (saved, file) := state.save env.saving
  (saved, {state with file})

def writeSpace (state : State Key) (key : Key) (data : List UInt8) (env : Env) :
    KeyValue.Answer (List UInt8) × State Key :=
  match GetHandle state.index_ key with
  | none => (.exception, state)
  | some handle =>
    match (state.nv handle).bind fun space =>
        if env.nvWrite then space.Esys_NV_Write data else none with
    | none => (.error, state)
    | some space => (.done, {state with nv := update state.nv handle (some space)})

def Write (state : State Key) (key : Key) (data : List UInt8) (env : Env) :
    KeyValue.Answer (List UInt8) × State Key :=
  if state.HasKey key then state.writeSpace key data env
  else
    match state.Allocate key (data.length % 2 ^ 16) env with
    | (false, state) => (.error, state)
    | (true, state) => state.writeSpace key data env

/-- `ReadProtectedJsonFromFile`; `normal` is what a string reads back as. -/
def readIndex (normal : Key → Key) : File (List (Entry Key)) → List (Entry Key)
  | .json index_ => index_.map fun entry => {entry with key := normal entry.key}
  | _ => []

def restart (normal : Key → Key) (state : State Key) : State Key :=
  {state with index_ := readIndex normal state.file}

def start (nv : Nat → Option Space) : State Key := {index_ := [], file := .missing, nv}

end State

inductive Event (Key : Type) where
  | HasKey (key : Key)
  | Read (key : Key)
  | Write (key : Key) (data : List UInt8) (env : Env)
  | restart

def store (normal : Key → Key) :
    KeyValue.Store Key (List UInt8) (State Key) (Event Key) where
  call
    | .HasKey key => .HasKey key
    | .Read key => .Read key
    | .Write key data _ => .Write key data
    | .restart => .restart
  step state
    | .HasKey key => (.found (state.HasKey key), state)
    | .Read key => (state.Read key, state)
    | .Write key data env => state.Write key data env
    | .restart => (.done, state.restart normal)

/-- Keys read are in the index, and writes are not shorter than their space or fail. -/
def Allowed (normal : Key → Key) (state : State Key) : Event Key → Prop
  | .Read key => (GetHandle state.index_ key).isSome = true
  | .Write key data env =>
    data.length ≤ TPM2_MAX_NV_BUFFER_SIZE ∧
      match GetHandle state.index_ key with
      | some handle =>
        env.nvWrite = true → ∀ space ∈ state.nv handle, space.contents.length ≤ data.length
      | none =>
        normal key = key ∧ (env.attempts 0).refused = false ∧
          state.nv (GenerateRandomHandle (env.attempts 0).random) = none ∧
          env.saving = .saved ∧ env.nvWrite = true
  | _ => True

structure Represents (normal : Key → Key) (state : State Key)
    (map : Key → Option (List UInt8)) : Prop where
  keys : (state.index_.map Entry.key).Nodup
  handles : (state.index_.map Entry.handle).Nodup
  held : ∀ entry ∈ state.index_, ∃ data,
    state.nv entry.handle = some ⟨data, true⟩ ∧ map entry.key = some data
  only : ∀ key, (map key).isSome = true → ∃ entry ∈ state.index_, entry.key = key
  readable : ∀ entry ∈ state.index_, normal entry.key = entry.key
  saved : State.readIndex normal state.file = state.index_

namespace Represents

variable {normal : Key → Key} {state : State Key} {map : Key → Option (List UInt8)}

omit [DecidableEq Key] in
theorem start (nv : Nat → Option Space) : Represents normal (.start nv) fun _ => none where
  keys := nodup_nil
  handles := nodup_nil
  held := nofun
  only := nofun
  readable := nofun
  saved := rfl

variable {index_ : List (Entry Key)} {key : Key} {handle : Nat} {env : Env}

theorem GetHandle_mem (found : GetHandle index_ key = some handle) :
    ∃ entry ∈ index_, entry.key = key ∧ entry.handle = handle := by
  obtain ⟨entry, stands, rfl⟩ := map_eq_some_iff.mp found
  exact ⟨entry, mem_of_find?_eq_some stands, by simpa using find?_some stands, rfl⟩

section

variable (represents : Represents normal state map)
include represents

theorem unknown (missing : GetHandle state.index_ key = none) : map key = none := by
  rw [GetHandle, map_eq_none_iff, List.find?_eq_none] at missing
  cases stored : map key with
  | none => rfl
  | some data =>
    obtain ⟨entry, listed, rfl⟩ := represents.only key (by rw [stored]; rfl)
    exact absurd (decide_eq_true rfl) (missing entry listed)

theorem known (found : GetHandle state.index_ key = some handle) :
    ∃ data, state.nv handle = some ⟨data, true⟩ ∧ map key = some data := by
  obtain ⟨entry, listed, rfl, rfl⟩ := GetHandle_mem found
  exact represents.held entry listed

theorem HasKey_eq (key : Key) : state.HasKey key = (map key).isSome := by
  unfold State.HasKey
  cases found : GetHandle state.index_ key with
  | none => rw [represents.unknown found]; rfl
  | some handle =>
    obtain ⟨data, -, stored⟩ := represents.known found
    rw [stored]
    rfl

theorem Read_eq {key : Key} (known : (GetHandle state.index_ key).isSome = true) :
    ∃ data, map key = some data ∧ state.Read key = .data data := by
  obtain ⟨handle, found⟩ := isSome_iff_exists.mp known
  obtain ⟨data, held, stored⟩ := represents.known found
  refine ⟨data, stored, ?_⟩
  rw [State.Read, found]
  dsimp only
  rw [held]
  rfl

theorem overwrite (found : GetHandle state.index_ key = some handle) (data : List UInt8) :
    Represents normal {state with nv := update state.nv handle (some ⟨data, true⟩)}
      (update map key (some data)) :=
  {represents with
    held := by
      intro other listed
      obtain ⟨entry, here, rfl, rfl⟩ := GetHandle_mem found
      by_cases same : other = entry
      · subst same
        exact ⟨data, update_self .., update_self ..⟩
      · obtain ⟨data', held, stored⟩ := represents.held other listed
        have handles : other.handle ≠ entry.handle := fun equal =>
          same (inj_on_of_nodup_map represents.handles listed here equal)
        have keys : other.key ≠ entry.key := fun equal =>
          same (inj_on_of_nodup_map represents.keys listed here equal)
        exact ⟨data', (update_of_ne handles ..).trans held,
          (update_of_ne keys ..).trans stored⟩
    only := by
      intro other stored
      by_cases same : other = key
      · subst same
        obtain ⟨entry, here, sameKey, -⟩ := GetHandle_mem found
        exact ⟨entry, here, sameKey⟩
      · rw [update_of_ne same] at stored
        exact represents.only other stored}

theorem append (missing : GetHandle state.index_ key = none) (undefined : state.nv handle = none)
    (readable : normal key = key) (data : List UInt8) :
    Represents normal
      { index_ := state.index_ ++ [Entry.mk key handle]
        file := .json (state.index_ ++ [Entry.mk key handle])
        nv := update state.nv handle (some ⟨data, true⟩)}
      (update map key (some data)) := by
  have newHandle (entry : Entry Key) (listed : entry ∈ state.index_) : entry.handle ≠ handle := by
    rintro rfl
    obtain ⟨_, held, -⟩ := represents.held entry listed
    exact nomatch undefined.symm.trans held
  have newKey (entry : Entry Key) (listed : entry ∈ state.index_) : entry.key ≠ key := by
    rintro rfl
    obtain ⟨_, -, stored⟩ := represents.held entry listed
    exact nomatch (represents.unknown missing).symm.trans stored
  have readables : ∀ entry ∈ state.index_ ++ [Entry.mk key handle], normal entry.key = entry.key := by
    intro entry listed
    rcases mem_append.mp listed with old | new
    · exact represents.readable entry old
    · cases mem_singleton.mp new
      exact readable
  exact
    { keys := by
        rw [map_append, nodup_append]
        refine ⟨represents.keys, nodup_singleton _, ?_⟩
        intro _ old _ new
        obtain ⟨entry, listed, rfl⟩ := List.mem_map.mp old
        cases mem_singleton.mp new
        exact newKey entry listed
      handles := by
        rw [map_append, nodup_append]
        refine ⟨represents.handles, nodup_singleton _, ?_⟩
        intro _ old _ new
        obtain ⟨entry, listed, rfl⟩ := List.mem_map.mp old
        cases mem_singleton.mp new
        exact newHandle entry listed
      held := by
        intro entry listed
        rcases mem_append.mp listed with old | new
        · obtain ⟨data', held, stored⟩ := represents.held entry old
          exact ⟨data', (update_of_ne (newHandle entry old) ..).trans held,
            (update_of_ne (newKey entry old) ..).trans stored⟩
        · cases mem_singleton.mp new
          exact ⟨data, update_self .., update_self ..⟩
      only := by
        intro other stored
        by_cases same : other = key
        · exact ⟨Entry.mk key handle, mem_append_right _ (mem_singleton_self _), same.symm⟩
        · rw [update_of_ne same] at stored
          obtain ⟨entry, listed, sameKey⟩ := represents.only other stored
          exact ⟨entry, mem_append_left _ listed, sameKey⟩
      readable := readables
      saved := by
        have same : ∀ entry ∈ state.index_ ++ [Entry.mk key handle],
            {entry with key := normal entry.key} = id entry := by
          intro entry listed
          rw [readables entry listed]
          rfl
        exact (map_congr_left same).trans (List.map_id _)}

end

theorem append_eq (contents data : List UInt8) (length : contents.length = data.length) :
    data ++ contents.drop data.length = data := by
  rw [← length, drop_length, append_nil]

theorem rewrite (represents : Represents normal state map)
    (found : GetHandle state.index_ key = some handle) {data : List UInt8}
    (allowed : Allowed normal state (.Write key data env)) :
    ∃ after, KeyValue.Admits map (.Write key data) (state.writeSpace key data env).1 after ∧
      Represents normal (state.writeSpace key data env).2 after := by
  obtain ⟨before, held, -⟩ := represents.known found
  obtain ⟨-, fits⟩ := allowed
  rw [found] at fits
  rw [State.writeSpace, found]
  dsimp only
  rw [held, bind_some]
  by_cases works : env.nvWrite = true
  · have longEnough : before.length ≤ data.length := fits works _ (by rw [held]; rfl)
    rw [if_pos works, Space.Esys_NV_Write]
    dsimp only
    split_ifs with short
    · rw [append_eq before data (by omega)]
      exact ⟨_, .written key data, represents.overwrite found data⟩
    · exact ⟨map, .refused key data, represents⟩
  · rw [if_neg works]
    exact ⟨map, .refused key data, represents⟩

theorem GetHandle_append (handle : Nat) (missing : GetHandle index_ key = none) :
    GetHandle (index_ ++ [Entry.mk key handle]) key = some handle := by
  rw [GetHandle, map_eq_none_iff] at missing
  rw [GetHandle, find?_append, missing]
  simp

theorem defineSpace_first {nv : Nat → Option Space} {attempts : Nat → Attempt}
    (chosen : GenerateRandomHandle (attempts 0).random = handle) (undefined : nv handle = none)
    (accepted : (attempts 0).refused = false) (size : Nat) :
    State.defineSpace nv size attempts MAX_HANDLE_ATTEMPTS 0 0 =
      (handle, update nv handle (some (.define size))) := by
  simp only [MAX_HANDLE_ATTEMPTS, State.defineSpace, chosen, undefined, accepted, isSome_none,
    Bool.false_eq_true, if_false]

theorem write_defined (size : Nat) (data : List UInt8) (same : size = data.length) :
    (Space.define size).Esys_NV_Write data = some ⟨data, true⟩ := by
  have length : (Space.define size).contents.length = data.length := by
    rw [Space.define, length_replicate, same]
  rw [Space.Esys_NV_Write, if_pos (Nat.le_of_eq length.symm), append_eq _ data length]

theorem Write_new {data : List UInt8} (missing : GetHandle state.index_ key = none)
    (defined : State.defineSpace state.nv (data.length % 2 ^ 16) env.attempts MAX_HANDLE_ATTEMPTS 0 0 =
      (handle, update state.nv handle (some (.define (data.length % 2 ^ 16)))))
    (size : data.length % 2 ^ 16 = data.length) (saved : env.saving = .saved)
    (works : env.nvWrite = true) :
    state.Write key data env = (.done,
      { index_ := state.index_ ++ [Entry.mk key handle]
        file := .json (state.index_ ++ [Entry.mk key handle])
        nv := update state.nv handle (some ⟨data, true⟩)}) := by
  have new : ¬ state.HasKey key = true := by
    rw [State.HasKey, missing]
    exact nofun
  rw [State.Write, if_neg new, State.Allocate, defined, saved]
  dsimp only [State.save]
  rw [State.writeSpace, GetHandle_append handle missing]
  dsimp only
  rw [update_self, bind_some, if_pos works, write_defined _ data size]
  dsimp only
  rw [update_idem]

theorem allocate (represents : Represents normal state map)
    (missing : GetHandle state.index_ key = none) {data : List UInt8}
    (allowed : Allowed normal state (.Write key data env)) :
    ∃ after, KeyValue.Admits map (.Write key data) (state.Write key data env).1 after ∧
      Represents normal (state.Write key data env).2 after := by
  obtain ⟨bounded, allowed⟩ := allowed
  rw [missing] at allowed
  obtain ⟨readable, accepted, undefined, saved, works⟩ := allowed
  have size : data.length % 2 ^ 16 = data.length :=
    Nat.mod_eq_of_lt (Nat.lt_of_le_of_lt bounded (by decide))
  rw [Write_new missing (defineSpace_first rfl undefined accepted _) size saved works]
  exact ⟨_, .written key data, represents.append missing undefined readable data⟩

theorem step (represents : Represents normal state map) {event : Event Key}
    (allowed : Allowed normal state event) :
    ∃ after, KeyValue.Admits map ((store normal).call event) ((store normal).step state event).1
      after ∧ Represents normal ((store normal).step state event).2 after := by
  cases event with
  | HasKey key =>
    refine ⟨map, ?_, represents⟩
    change KeyValue.Admits map (.HasKey key) (.found (state.HasKey key)) map
    rw [represents.HasKey_eq key]
    exact .hasKey key
  | Read key =>
    obtain ⟨data, stored, read⟩ := represents.Read_eq allowed
    refine ⟨map, ?_, represents⟩
    change KeyValue.Admits map (.Read key) (state.Read key) map
    rw [read]
    exact .read stored
  | Write key data env =>
    cases found : GetHandle state.index_ key with
    | none => exact represents.allocate found allowed
    | some handle =>
      have known : state.HasKey key = true := by
        rw [State.HasKey, found]
        rfl
      change ∃ after, KeyValue.Admits map (.Write key data) (state.Write key data env).1 after ∧ _
      have direct : state.Write key data env = state.writeSpace key data env := if_pos known
      change ∃ after, _ ∧ Represents normal (state.Write key data env).2 after
      rw [direct]
      exact represents.rewrite found allowed
  | restart =>
    refine ⟨map, .restarted, ?_⟩
    change Represents normal (state.restart normal) map
    rw [State.restart, represents.saved]
    exact represents

end Represents

end TpmStorage

end Ika.SecureEnv
