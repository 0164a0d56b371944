import Mathlib.Data.List.Basic
import Ika.Foundation.Machine

/-! Secrets in one file that is truncated and rewritten whenever one of them changes. -/

set_option autoImplicit false

namespace Ika.SecureEnv.SecretFiles

/-- A format of values, by the symbols of its texts. -/
structure Format (Value : Type) where
  Symbol : Type
  write : Value → List Symbol
  read : List Symbol → Option Value
  read_write : ∀ value, read (write value) = some value

/-- What becomes of an attempt to write a file anew. -/
inductive Attempt where
  | complete
  | notCreated
  /-- No more than so many symbols are written, and never all. -/
  | cut (room : Nat)
  deriving DecidableEq, Repr

variable {Value : Type} {format : Format Value}

abbrev Format.File (format : Format Value) := Option (List format.Symbol)

def Attempt.leaves (attempt : Attempt) (value : Value) (file : format.File) : format.File :=
  match attempt with
  | complete => some (format.write value)
  | notCreated => file
  | cut room => some ((format.write value).dropLast.take room)

end Ika.SecureEnv.SecretFiles

namespace Ika.SecureEnv.SecureDeletion

open SecretFiles Transition Function Nat

/-! ## The data and its cache -/

abbrev Bytes := List UInt8

structure Data where
  last_free_slot : UInt32 := 0
  factory_secret : Bytes := []
  secure_deletion_secrets : UInt32 → Option Bytes := fun _ => none

structure SecureDeletionData where
  factory_reset_secret : Vector UInt8 32
  secure_deletion_secret : Vector UInt8 16
  deriving DecidableEq

inductive Fault where
  | error
  | panicked
  deriving DecidableEq

def try_into (size : Nat) (bytes : Bytes) : Except Fault (Vector UInt8 size) :=
  if fits : bytes.length = size then .ok ⟨bytes.toArray, fits⟩ else .error .panicked

variable {format : Format Data}

/-- `HostSddManager`, with the file. -/
structure Host (format : Format Data) where
  data : Data
  file : format.File

def write_sdd_file (host : Host format) (attempt : Attempt) : Except Fault Unit × Host format :=
  (if attempt = .complete then .ok () else .error .error,
    {host with file := attempt.leaves host.data host.file})

namespace Host

/-- The factory secret is the one that is drawn if it is asked for. -/
def init (host : Host format) (factory : Vector UInt8 32) (attempt : Attempt) :
    Except Fault Unit × Host format :=
  match host.file with
  | some text =>
    match format.read text with
    | none => (.error .error, host)
    | some data => (.ok (), {host with data})
  | none => write_sdd_file {host with data.factory_secret := factory.toList} attempt

end Host

def Data.get_factory_reset_secret (data : Data) : Except Fault SecureDeletionData :=
  if data.factory_secret.isEmpty then .error .error
  else do
    let factory_reset_secret ← try_into 32 data.factory_secret
    return {factory_reset_secret, secure_deletion_secret := Vector.replicate 16 0}

def Data.get_secret (data : Data) (slot : UInt32) : Except Fault SecureDeletionData :=
  match data.secure_deletion_secrets slot with
  | none => .error .error
  | some secret => do
    let factory_reset_secret ← try_into 32 data.factory_secret
    let secure_deletion_secret ← try_into 16 secret
    return {factory_reset_secret, secure_deletion_secret}

namespace Host

def get_or_create_factory_reset_secret (host : Host format) (factory : Vector UInt8 32)
    (attempt : Attempt) : Except Fault SecureDeletionData × Host format :=
  if host.data.factory_secret.isEmpty then
    match host.init factory attempt with
    | (.error fault, host) => (.error fault, host)
    | (.ok _, host) => (host.data.get_factory_reset_secret, host)
  else (host.data.get_factory_reset_secret, host)

def new_secret (host : Host format) (factory : Vector UInt8 32) (secret : Vector UInt8 16)
    (first second : Attempt) : Except Fault (UInt32 × SecureDeletionData) × Host format :=
  if host.data.last_free_slot.toNat + 1 < 2 ^ 32 then
    let slot_id := host.data.last_free_slot + 1
    if (host.data.secure_deletion_secrets slot_id).isSome then (.error .panicked, host)
    else match host.get_or_create_factory_reset_secret factory first with
      | (.error fault, host) => (.error fault, host)
      | (.ok sdd, host) =>
        let sdd := {sdd with secure_deletion_secret := secret}
        let secrets := host.data.secure_deletion_secrets
        match write_sdd_file {host with
            data.secure_deletion_secrets := Function.update secrets slot_id (some secret.toList)
            data.last_free_slot := slot_id} second with
        | (.ok _, host) => (.ok (slot_id, sdd), host)
        | (.error fault, host) => (.error fault, {host with
            data.secure_deletion_secrets :=
              Function.update host.data.secure_deletion_secrets slot_id none
            data.last_free_slot := slot_id - 1})
  else (.error .error, host)

def delete_secret (host : Host format) (slot_id : UInt32) (attempt : Attempt) :
    Except Fault Unit × Host format :=
  match host.data.secure_deletion_secrets slot_id with
  | none => (.error .error, host)
  | some secret =>
    match write_sdd_file {host with
        data.secure_deletion_secrets :=
          Function.update host.data.secure_deletion_secrets slot_id none} attempt with
    | (.ok _, host) => (.ok (), host)
    | (.error fault, host) =>
      -- What `insert` finds in the place of the secret is unwrapped, and there is nothing.
      (match host.data.secure_deletion_secrets slot_id with
        | none => .error .panicked
        | some _ => .error fault,
        {host with data.secure_deletion_secrets :=
            Function.update host.data.secure_deletion_secrets slot_id (some secret)})

def delete_all (_ : Host format) : Host format := {data := {}, file := none}

end Host

/-! ## Runs -/

/-- An operation, with what is drawn at random for it and what becomes of its writes. -/
inductive Call where
  | restart (factory : Vector UInt8 32) (attempt : Attempt)
  | get_or_create_factory_reset_secret (factory : Vector UInt8 32) (attempt : Attempt)
  | new_secret (factory : Vector UInt8 32) (secret : Vector UInt8 16) (first second : Attempt)
  | get_secret (slot : UInt32)
  | delete_secret (slot : UInt32) (attempt : Attempt)
  | delete_all

inductive Answer where
  | done
  | sdd (data : SecureDeletionData)
  | slot (slot_id : UInt32) (data : SecureDeletionData)
  deriving DecidableEq

/-- The manager, the file, and the secrets and ids handed out. -/
structure Run (format : Format Data) where
  manager : Option Data := none
  file : format.File := none
  live : UInt32 → Option SecureDeletionData := fun _ => none
  issued : List UInt32 := []

namespace Run

variable (run : Run format)

/-- Without a manager there is nothing to ask. -/
def ask (operation : Host format → Except Fault Answer × Host format) :
    Except Fault Answer × Option Data × format.File :=
  match run.manager with
  | none => (.error .error, none, run.file)
  | some data =>
    let (answer, host) := operation {data, file := run.file}
    (answer, some host.data, host.file)

def call : Call → Except Fault Answer × Option Data × format.File
  | .restart factory attempt =>
    match ({data := {}, file := run.file} : Host format).init factory attempt with
    | (.ok _, host) => (.ok .done, some host.data, host.file)
    | (.error fault, host) => (.error fault, none, host.file)
  | .get_or_create_factory_reset_secret factory attempt =>
    run.ask fun host =>
      (host.get_or_create_factory_reset_secret factory attempt).map (·.map .sdd) id
  | .new_secret factory secret first second =>
    run.ask fun host =>
      (host.new_secret factory secret first second).map (·.map fun (id, sdd) => .slot id sdd) id
  | .get_secret slot => run.ask fun host => ((host.data.get_secret slot).map .sdd, host)
  | .delete_secret slot attempt =>
    run.ask fun host => (host.delete_secret slot attempt).map (·.map fun _ => .done) id
  | .delete_all => run.ask fun host => (.ok .done, host.delete_all)

def outcome (call : Call) : Except Fault Answer := (run.call call).1

def after (call : Call) : Run format :=
  let (outcome, manager, file) := run.call call
  match call, outcome with
  | .new_secret .., .ok (.slot id sdd) =>
    {manager, file, live := Function.update run.live id (some sdd), issued := id :: run.issued}
  | .delete_secret slot _, .ok _ =>
    {manager, file, live := Function.update run.live slot none, issued := run.issued}
  | .delete_all, .ok _ => {manager, file}
  | _, _ => {manager, file, live := run.live, issued := run.issued}

/-- What `get_secret` is to return of a slot. -/
def found (slot : UInt32) : Except Fault SecureDeletionData :=
  match run.live slot with
  | none => .error .error
  | some sdd => .ok sdd

structure Sound (call : Call) : Prop where
  no_panic : run.outcome call ≠ .error .panicked
  fresh : ∀ id sdd, run.outcome call = .ok (.slot id sdd) → id ∉ run.issued
  found : ∀ slot, call = .get_secret slot → run.manager.isSome = true →
    run.outcome call = (run.found slot).map .sdd
  restarts : ∀ factory attempt, call = .restart factory attempt → run.file.isSome = true →
    run.outcome call = .ok .done
  /-- An error leaves what is cached and what a restart loads. -/
  unchanged : run.outcome call = .error .error →
    (run.after call).file.map format.read = run.file.map format.read ∧
      ((∀ factory attempt, call ≠ .restart factory attempt) →
        (run.after call).manager = run.manager)

/-- No file is left half written, and factory secrets and deletions are written. -/
def Clear : Call → Prop
  | .restart _ attempt => run.file.isNone = true → attempt = .complete ∨ attempt = .notCreated
  | .get_or_create_factory_reset_secret _ attempt =>
    ∀ data ∈ run.manager, data.factory_secret.isEmpty = true → attempt = .complete
  | .new_secret _ _ first second => ∀ data ∈ run.manager, data.last_free_slot.toNat + 1 < 2 ^ 32 →
    if data.factory_secret.isEmpty then first = .complete ∧ second = .complete
    else second = .complete ∨ second = .notCreated
  | .delete_secret slot attempt =>
    ∀ data ∈ run.manager, (data.secure_deletion_secrets slot).isSome = true → attempt = .complete
  | .get_secret _ | .delete_all => True

instance (call : Call) : Decidable (run.Clear call) :=
  match call with
  | .restart .. => inferInstanceAs (Decidable (_ → _))
  | .get_or_create_factory_reset_secret .. => inferInstanceAs (Decidable (∀ _ ∈ run.manager, _))
  | .new_secret .. => inferInstanceAs (Decidable (∀ _ ∈ run.manager, _))
  | .delete_secret .. => inferInstanceAs (Decidable (∀ _ ∈ run.manager, _))
  | .get_secret _ | .delete_all => inferInstanceAs (Decidable True)

end Run

/-! ## One operation -/

def Stored (host : Host format) : Prop :=
  host.file = none ∧ host.data = {} ∨
    host.file = some (format.write host.data) ∧ host.data.factory_secret.length = 32

def Data.Bounded (data : Data) : Prop :=
  ∀ slot, (data.secure_deletion_secrets slot).isSome = true →
    slot.toNat ≤ data.last_free_slot.toNat

variable {size : Nat}

theorem try_into_toList (bytes : Vector UInt8 size) : try_into size bytes.toList = .ok bytes := by
  obtain ⟨array, rfl⟩ := bytes
  simp [try_into, Vector.toList]

theorem try_into_ok {bytes : Bytes} (length : bytes.length = size) :
    ∃ vector : Vector UInt8 size, vector.toList = bytes ∧ try_into size bytes = .ok vector := by
  refine ⟨⟨bytes.toArray, length⟩, rfl, ?_⟩
  rw [try_into, dif_pos length]

theorem Data.get_secret_congr {data other : Data} {slot : UInt32}
    (secret : data.secure_deletion_secrets slot = other.secure_deletion_secrets slot)
    (factory : data.factory_secret = other.factory_secret) :
    data.get_secret slot = other.get_secret slot := by
  rw [get_secret, get_secret, secret, factory]

namespace Host

variable {host : Host format}

theorem get_or_create_cases (stored : Stored host) (factory : Vector UInt8 32) {attempt : Attempt}
    (complete : host.data.factory_secret.isEmpty = true → attempt = .complete) :
    ∃ vector data, host.get_or_create_factory_reset_secret factory attempt =
        (.ok {factory_reset_secret := vector, secure_deletion_secret := Vector.replicate 16 0},
          {data, file := some (format.write data)}) ∧
      vector.toList = data.factory_secret ∧
      (data = host.data ∧ host.file = some (format.write host.data) ∨
        host.data = {} ∧ data = {factory_secret := factory.toList}) := by
  obtain ⟨data, file⟩ := host
  rcases stored with ⟨missing, empty⟩ | ⟨written, length⟩
  · dsimp only at missing empty
    subst missing empty
    cases complete rfl
    have filled : factory.toList.isEmpty = false := by
      rw [List.isEmpty_eq_false_iff_exists_mem]
      exact ⟨factory[0], by simp⟩
    refine ⟨factory, {factory_secret := factory.toList}, ?_, rfl, .inr ⟨rfl, rfl⟩⟩
    simp [get_or_create_factory_reset_secret, init, write_sdd_file, Attempt.leaves,
      Data.get_factory_reset_secret, filled, try_into_toList]
  · dsimp only at written length
    subst written
    have filled : data.factory_secret.isEmpty = false := by
      cases all : data.factory_secret with
      | nil =>
        rw [all] at length
        cases length
      | cons => rfl
    obtain ⟨vector, same, into⟩ := try_into_ok length
    refine ⟨vector, data, ?_, same, .inl ⟨rfl, rfl⟩⟩
    simp [get_or_create_factory_reset_secret, Data.get_factory_reset_secret, filled, into]

theorem new_secret_cases (stored : Stored host) (bounded : host.data.Bounded)
    (factory : Vector UInt8 32) (secret : Vector UInt8 16) {first second : Attempt}
    (clear : host.data.last_free_slot.toNat + 1 < 2 ^ 32 →
      if host.data.factory_secret.isEmpty then first = .complete ∧ second = .complete
      else second = .complete ∨ second = .notCreated) :
    host.new_secret factory secret first second = (.error .error, host) ∨
      ∃ vector data, host.new_secret factory secret first second =
          (.ok (host.data.last_free_slot + 1,
            {factory_reset_secret := vector, secure_deletion_secret := secret}),
            {data, file := some (format.write data)}) ∧
        (host.data.last_free_slot + 1).toNat = host.data.last_free_slot.toNat + 1 ∧
        vector.toList = data.factory_secret ∧
        (data.factory_secret = host.data.factory_secret ∨ host.data = {}) ∧
        data.secure_deletion_secrets = Function.update host.data.secure_deletion_secrets
          (host.data.last_free_slot + 1) (some secret.toList) ∧
        data.last_free_slot = host.data.last_free_slot + 1 := by
  by_cases room : host.data.last_free_slot.toNat + 1 < 2 ^ 32
  · have clear := clear room
    have next : (host.data.last_free_slot + 1).toNat = host.data.last_free_slot.toNat + 1 := by
      rw [UInt32.toNat_add]
      exact mod_eq_of_lt room
    have free : host.data.secure_deletion_secrets (host.data.last_free_slot + 1) = none := by
      by_contra used
      have := bounded _ (Option.isSome_iff_ne_none.mpr used)
      omega
    have complete : host.data.factory_secret.isEmpty = true → first = .complete := by
      intro empty
      rw [if_pos empty] at clear
      exact clear.1
    obtain ⟨vector, data, made, same, origin⟩ :=
      get_or_create_cases stored factory complete
    have kept : data.secure_deletion_secrets = host.data.secure_deletion_secrets ∧
        (data.factory_secret = host.data.factory_secret ∨ host.data = {}) := by
      rcases origin with ⟨rfl, -⟩ | ⟨empty, rfl⟩
      · exact ⟨rfl, .inl rfl⟩
      · exact ⟨by rw [empty], .inr empty⟩
    simp only [new_secret, if_pos room, free, made, Option.isSome_none, Bool.false_eq_true, if_false]
    by_cases written : second = .complete
    · right
      subst written
      refine ⟨vector, {data with
          last_free_slot := host.data.last_free_slot + 1
          secure_deletion_secrets := Function.update data.secure_deletion_secrets
            (host.data.last_free_slot + 1) (some secret.toList)},
        by simp only [write_sdd_file, if_true, Attempt.leaves], next, same, kept.2, ?_, rfl⟩
      dsimp only
      rw [kept.1]
    · left
      have filled : ¬host.data.factory_secret.isEmpty = true := by
        intro empty
        rw [if_pos empty] at clear
        exact written clear.2
      rw [if_neg filled] at clear
      cases clear.resolve_left written
      rcases origin with ⟨rfl, file⟩ | ⟨empty, -⟩
      · obtain ⟨⟨last_free_slot, factory_secret, secrets⟩, stored⟩ := host
        dsimp only at free file
        rw [← free]
        simp [write_sdd_file, Attempt.leaves, file]
      · rw [empty] at filled
        exact absurd rfl filled
  · left
    rw [new_secret, if_neg room]

theorem delete_secret_cases (stored : Stored host) {slot : UInt32} {attempt : Attempt}
    (clear : (host.data.secure_deletion_secrets slot).isSome = true → attempt = .complete) :
    host.data.secure_deletion_secrets slot = none ∧
        host.delete_secret slot attempt = (.error .error, host) ∨
      host.data.factory_secret.length = 32 ∧ ∃ data,
        host.delete_secret slot attempt = (.ok (), {data, file := some (format.write data)}) ∧
        data = {host.data with
          secure_deletion_secrets := Function.update host.data.secure_deletion_secrets slot none} := by
  cases held : host.data.secure_deletion_secrets slot with
  | none =>
    left
    exact ⟨rfl, by rw [delete_secret, held]⟩
  | some secret =>
    right
    rw [held] at clear
    cases clear rfl
    refine ⟨?_, _, ?_, rfl⟩
    · rcases stored with ⟨-, empty⟩ | ⟨-, length⟩
      · rw [empty] at held
        cases held
      · exact length
    · simp [delete_secret, held, write_sdd_file, Attempt.leaves]

end Host

/-! ## Every run -/

namespace Run

variable {run : Run format} {call : Call} {data : Data}

/-- The data is what the manager has, if there is one, and what the file holds. -/
structure Kept (run : Run format) (data : Data) : Prop where
  manager : run.manager = none ∨ run.manager = some data
  stored : Stored ({data, file := run.file} : Host format)
  bounded : data.Bounded
  live : ∀ slot, data.get_secret slot = run.found slot
  issued : ∀ slot ∈ run.issued, slot.toNat ≤ data.last_free_slot.toNat

theorem Kept.start : Kept ({} : Run format) {} where
  manager := .inl rfl
  stored := .inl ⟨rfl, rfl⟩
  bounded _ held := by cases held
  live _ := rfl
  issued := by simp

variable {manager : Option Data} {factory : Vector UInt8 32} {attempt : Attempt}

theorem Kept.remanage (kept : run.Kept data) (known : manager = none ∨ manager = some data) :
    Kept {run with manager} data :=
  ⟨known, kept.stored, kept.bounded, kept.live, kept.issued⟩

theorem after_of_error {fault : Fault} {file : format.File}
    (result : run.call call = (.error fault, manager, file)) :
    run.after call = {run with manager, file} := by
  unfold after
  rw [result]
  cases call <;> rfl

structure Step (run : Run format) (call : Call) : Prop where
  sound : run.Sound call
  kept : ∃ data, (run.after call).Kept data

theorem Kept.failed (kept : run.Kept data)
    (result : run.call call = (.error .error, run.manager, run.file))
    (asks : ∀ factory attempt, call ≠ .restart factory attempt)
    (missing : ∀ slot, call = .get_secret slot → run.manager.isSome = true →
      run.found slot = .error .error) : run.Step call := by
  have after := after_of_error result
  have outcome : run.outcome call = .error .error := congrArg Prod.fst result
  refine ⟨⟨?_, ?_, ?_, fun factory attempt is => absurd is (asks factory attempt), ?_⟩, data, ?_⟩
  · rw [outcome]
    decide
  · intro id sdd answered
    rw [outcome] at answered
    cases answered
  · intro slot is managed
    rw [outcome, missing slot is managed]
    rfl
  · intro _
    rw [after]
    exact ⟨rfl, fun _ => rfl⟩
  · rw [after]
    exact kept

theorem Step.of_ok (data : Data) {answer : Answer} (answered : run.outcome call = .ok answer)
    (fresh : ∀ id sdd, answer = .slot id sdd → id ∉ run.issued)
    (found : ∀ slot, call = .get_secret slot → (run.found slot).map .sdd = .ok answer)
    (restarts : ∀ factory attempt, call = .restart factory attempt → answer = .done)
    (kept : (run.after call).Kept data) : run.Step call := by
  refine ⟨⟨?_, ?_, ?_, ?_, ?_⟩, data, kept⟩
  · rw [answered]
    exact nofun
  · intro id sdd is
    rw [answered] at is
    exact fresh id sdd (Except.ok.inj is)
  · intro slot is _
    rw [answered, found slot is]
  · intro factory attempt is _
    rw [answered, restarts factory attempt is]
  · intro failed
    rw [answered] at failed
    cases failed

theorem get_secret_empty (data : Data) (empty : data.secure_deletion_secrets = fun _ => none)
    (slot : UInt32) : data.get_secret slot = .error .error := by
  rw [Data.get_secret, empty]

theorem Kept.create (kept : run.Kept {}) (factory : Vector UInt8 32) :
    Kept {run with
        manager := some {factory_secret := factory.toList}
        file := some (format.write {factory_secret := factory.toList})}
      {factory_secret := factory.toList} where
  manager := .inr rfl
  stored := .inr ⟨rfl, Vector.length_toList⟩
  bounded _ held := by cases held
  live slot := (get_secret_empty _ rfl slot).trans (kept.live slot)
  issued := kept.issued

section

variable (kept : run.Kept data)
include kept

theorem Kept.restart (clear : run.Clear (.restart factory attempt)) :
    run.Step (.restart factory attempt) := by
  rcases kept.stored with ⟨missing, rfl⟩ | ⟨written, length⟩
  · dsimp only at missing
    rcases clear (by rw [missing]; rfl) with rfl | rfl
    · have result : run.call (.restart factory .complete) = (.ok .done,
          some {factory_secret := factory.toList},
          some (format.write {factory_secret := factory.toList})) := by
        simp [call, missing, Host.init, write_sdd_file, Attempt.leaves]
      refine .of_ok {factory_secret := factory.toList} (congrArg Prod.fst result) nofun nofun
        (fun _ _ _ => rfl) ?_
      unfold after
      rw [result]
      exact kept.create factory
    · have result : run.call (.restart factory .notCreated) =
          (.error .error, none, run.file) := by
        simp [call, missing, Host.init, write_sdd_file, Attempt.leaves]
      have outcome : run.outcome (.restart factory .notCreated) = .error .error :=
        congrArg Prod.fst result
      have after := after_of_error result
      refine ⟨⟨?_, ?_, nofun, ?_, ?_⟩, {}, ?_⟩
      · rw [outcome]
        decide
      · intro id sdd answered
        rw [outcome] at answered
        cases answered
      · intro _ _ _ held
        rw [missing] at held
        cases held
      · intro _
        rw [after]
        exact ⟨rfl, fun other => absurd rfl (other factory .notCreated)⟩
      · rw [after]
        exact kept.remanage (.inl rfl)
  · dsimp only at written
    have result : run.call (.restart factory attempt) = (.ok .done, some data, run.file) := by
      simp [call, written, Host.init, format.read_write]
    refine .of_ok data (congrArg Prod.fst result) nofun nofun (fun _ _ _ => rfl) ?_
    unfold after
    rw [result]
    exact kept.remanage (.inr rfl)

theorem Kept.unasked (unmanaged : run.manager = none)
    (asks : ∀ factory attempt, call ≠ .restart factory attempt)
    (result : run.call call = (.error .error, none, run.file)) : run.Step call := by
  rw [← unmanaged] at result
  refine kept.failed result asks fun slot _ managed => ?_
  rw [unmanaged] at managed
  cases managed

theorem Kept.get_or_create
    (clear : run.Clear (.get_or_create_factory_reset_secret factory attempt)) :
    run.Step (.get_or_create_factory_reset_secret factory attempt) := by
  rcases kept.manager with unmanaged | managed
  · exact kept.unasked unmanaged nofun (by simp [call, ask, unmanaged])
  · obtain ⟨vector, data', made, -, origin⟩ :=
      Host.get_or_create_cases kept.stored factory (clear data managed)
    have result : run.call (.get_or_create_factory_reset_secret factory attempt) =
        (.ok (.sdd ⟨vector, Vector.replicate 16 0⟩), some data', some (format.write data')) := by
      simp [call, ask, managed, made, Except.map]
    refine .of_ok data' (congrArg Prod.fst result) nofun nofun nofun ?_
    unfold after
    rw [result]
    rcases origin with ⟨rfl, written⟩ | ⟨rfl, rfl⟩
    · rw [← managed, ← written]
      exact kept
    · exact kept.create factory

theorem Kept.new_secret {secret : Vector UInt8 16} {first second : Attempt}
    (clear : run.Clear (.new_secret factory secret first second)) :
    run.Step (.new_secret factory secret first second) := by
  rcases kept.manager with unmanaged | managed
  · exact kept.unasked unmanaged nofun (by simp [call, ask, unmanaged])
  · rcases Host.new_secret_cases kept.stored kept.bounded factory secret (clear data managed) with
      failed | ⟨vector, data', made, next, same, factory_kept, secrets, last⟩
    · refine kept.failed ?_ nofun nofun
      simp [call, ask, managed, failed, Except.map]
    · dsimp only at next factory_kept secrets last
      have result : run.call (.new_secret factory secret first second) =
          (.ok (.slot (data.last_free_slot + 1) ⟨vector, secret⟩), some data',
            some (format.write data')) := by
        simp [call, ask, managed, made, Except.map]
      have unissued : data.last_free_slot + 1 ∉ run.issued := by
        intro issued
        have := kept.issued _ issued
        omega
      refine .of_ok data' (congrArg Prod.fst result) ?_ nofun nofun ?_
      · intro id sdd is
        cases is
        exact unissued
      · unfold after
        rw [result]
        refine ⟨.inr rfl, .inr ⟨rfl, by rw [← same, Vector.length_toList]⟩, ?_, ?_, ?_⟩
        · intro slot held
          rw [last, next]
          rw [secrets] at held
          by_cases new : slot = data.last_free_slot + 1
          · exact Nat.le_of_eq ((congrArg UInt32.toNat new).trans next)
          · rw [update_of_ne new] at held
            exact le_succ_of_le (kept.bounded slot held)
        · intro slot
          by_cases new : slot = data.last_free_slot + 1
          · subst new
            rw [Data.get_secret, secrets, update_self, ← same]
            simp [found, try_into_toList]
            rfl
          · have here : data'.secure_deletion_secrets slot = data.secure_deletion_secrets slot := by
              rw [secrets, update_of_ne new]
            have others : data'.get_secret slot = data.get_secret slot := by
              rcases factory_kept with same_factory | empty
              · exact Data.get_secret_congr here same_factory
              · rw [Data.get_secret, here, empty]
                rfl
            rw [others, kept.live]
            simp [found, update_of_ne new]
        · intro slot issued
          rw [last, next]
          rcases List.mem_cons.mp issued with rfl | before
          · exact Nat.le_of_eq next
          · exact le_succ_of_le (kept.issued slot before)

theorem Kept.get_secret (slot : UInt32) : run.Step (.get_secret slot) := by
  rcases kept.manager with unmanaged | managed
  · exact kept.unasked unmanaged nofun (by simp [call, ask, unmanaged])
  · have result : run.call (.get_secret slot) =
        ((run.found slot).map .sdd, some data, run.file) := by
      simp [call, ask, managed, kept.live]
    cases held : run.live slot with
    | none =>
      have found : run.found slot = .error .error := by rw [Run.found, held]
      rw [found, ← managed] at result
      refine kept.failed result nofun fun other is _ => ?_
      cases is
      exact found
    | some sdd =>
      have found : run.found slot = .ok sdd := by rw [Run.found, held]
      rw [found] at result
      refine .of_ok data (congrArg Prod.fst result) nofun (fun other is => ?_) nofun ?_
      · cases is
        rw [found]
        rfl
      · unfold after
        rw [result, ← managed]
        exact kept

theorem Kept.delete_secret {slot : UInt32}
    (clear : run.Clear (.delete_secret slot attempt)) : run.Step (.delete_secret slot attempt) := by
  rcases kept.manager with unmanaged | managed
  · exact kept.unasked unmanaged nofun (by simp [call, ask, unmanaged])
  · rcases Host.delete_secret_cases kept.stored (clear data managed) with
      ⟨-, failed⟩ | ⟨length, data', made, is⟩
    · refine kept.failed ?_ nofun nofun
      simp [call, ask, managed, failed, Except.map]
    · have result : run.call (.delete_secret slot attempt) =
          (.ok .done, some data', some (format.write data')) := by
        simp [call, ask, managed, made, Except.map]
      refine .of_ok data' (congrArg Prod.fst result) nofun nofun nofun ?_
      unfold after
      rw [result]
      subst is
      refine ⟨.inr rfl, .inr ⟨rfl, length⟩, ?_, ?_, kept.issued⟩
      · intro other held
        dsimp only at held
        by_cases same : other = slot
        · rw [same, update_self] at held
          cases held
        · rw [update_of_ne same] at held
          exact kept.bounded other held
      · intro other
        by_cases same : other = slot
        · subst same
          simp [Data.get_secret, found]
        · have here := kept.live other
          simp only [Data.get_secret, found, update_of_ne same] at here ⊢
          exact here

theorem Kept.delete_all : run.Step .delete_all := by
  rcases kept.manager with unmanaged | managed
  · exact kept.unasked unmanaged nofun (by simp [call, ask, unmanaged])
  · have result : run.call .delete_all = (.ok .done, some {}, none) := by
      simp [call, ask, managed, Host.delete_all]
    refine .of_ok {} (congrArg Prod.fst result) nofun nofun nofun ?_
    unfold after
    rw [result]
    exact Kept.start.remanage (.inr rfl)

theorem Kept.step (clear : run.Clear call) : run.Step call := by
  cases call with
  | restart => exact kept.restart clear
  | get_or_create_factory_reset_secret => exact kept.get_or_create clear
  | new_secret => exact kept.new_secret clear
  | get_secret slot => exact kept.get_secret slot
  | delete_secret => exact kept.delete_secret clear
  | delete_all => exact kept.delete_all

end

/-- No operation panics, no id is handed out twice, what was handed out is found, and errors change
nothing. -/
theorem secrets_kept (calls : List Call) (clear : Along after Clear ({} : Run format) calls) :
    Along after Sound ({} : Run format) calls :=
  (Along.iff (fun run => ∃ data, Kept run data) (fun _ _ ⟨_, kept⟩ clear => (kept.step clear).kept)
    (fun _ _ ⟨_, kept⟩ clear => iff_of_true clear (kept.step clear).sound) ⟨{}, .start⟩ clear).mp
    clear

end Run

/-! ## Two runs -/

def plainFormat : Format Data where
  Symbol := Data
  write data := [data]
  read text := some (text.headD {})
  read_write _ := rfl

def zeros (size : Nat) : Vector UInt8 size := Vector.replicate size 0

/-- A secret is handed out, another one is not, and the first is found after a restart. -/
def clearCalls : List Call := [.restart (zeros 32) .complete,
  .new_secret (zeros 32) (zeros 16) .complete .complete,
  .new_secret (zeros 32) (zeros 16) .complete .notCreated, .restart (zeros 32) .complete,
  .get_secret 1, .delete_secret 1 .complete, .get_secret 1, .delete_all]

theorem secrets_kept_clearCalls : Along Run.after Run.Sound ({} : Run plainFormat) clearCalls :=
  Run.secrets_kept clearCalls (by decide)

def failedDeletion : List Call := [.restart (zeros 32) .complete,
  .new_secret (zeros 32) (zeros 16) .complete .complete, .delete_secret 1 .notCreated]

/-- The operation panics. -/
theorem failed_deletion_panics :
    ¬Along Run.after Run.Sound ({} : Run plainFormat) failedDeletion := by
  rintro ⟨-, -, ⟨no_panic, -⟩, -⟩
  exact no_panic rfl

end Ika.SecureEnv.SecureDeletion

namespace Ika.SecureEnv.Weaver

open SecretFiles Transition Function

abbrev Bytes := List UInt8

/-- `BTreeMap<i32, Vec<u8>>`. -/
abbrev Slots := Int32 → Option Bytes

structure Json extends Format Slots where
  read_cut : ∀ slots room, read ((write slots).dropLast.take room) = none

structure Cbor (Slot : Type) where
  into_vec : Slot → Option Bytes
  from_slice : Bytes → Option Slot
  from_slice_into_vec : ∀ slot data, into_vec slot = some data → from_slice data = some slot

inductive Error where
  | Cbor
  | FileNotFound

/-- What becomes of `save_all`; a failure of the last write goes unnoticed. -/
structure Save where
  attempt : Attempt
  noticed : Bool := true
  killed : Bool := false

def Save.answer (save : Save) : Option (Except Error Unit) :=
  if save.killed then none
  else match save.attempt with
    | .complete => some (.ok ())
    | .notCreated => some (.error .FileNotFound)
    | .cut _ => some (if save.noticed then .error .FileNotFound else .ok ())

section Storage

variable {Slot : Type} (json : Json) (cbor : Cbor Slot) (default : Slot)

abbrev Json.File := json.toFormat.File

def load_all (file : json.File) : Slots :=
  match file with
  | none => fun _ => none
  | some text => (json.read text).getD fun _ => none

def read_slot (file : json.File) (slot_id : Int32) : Except Error Slot :=
  match load_all json file slot_id with
  | none => .ok default
  | some data =>
    match cbor.from_slice data with
    | none => .error .Cbor
    | some slot => .ok slot

/-- The answer, unless the process is killed before it, and the file. -/
def write_slot (file : json.File) (slot_id : Int32) (slot : Slot) (save : Save) :
    Option (Except Error Unit) × json.File :=
  match cbor.into_vec slot with
  | none => (some (.error .Cbor), file)
  | some data =>
    (save.answer, save.attempt.leaves (Function.update (load_all json file) slot_id (some data))
      file)

/-! ## Sequences of calls -/

inductive Call (Slot : Type) where
  | read (slot_id : Int32)
  | write (slot_id : Int32) (slot : Slot) (save : Save)

def after (file : json.File) : Call Slot → json.File
  | .read _ => file
  | .write slot_id slot save => (write_slot json cbor file slot_id slot save).2

def Sound (file : json.File) : Call Slot → Prop
  | .read _ => True
  | .write slot_id slot save =>
    ((write_slot json cbor file slot_id slot save).1 = some (.ok ()) →
      read_slot json cbor default (after json cbor file (.write slot_id slot save)) slot_id =
        .ok slot) ∧
    ∀ other, other ≠ slot_id →
      read_slot json cbor default (after json cbor file (.write slot_id slot save)) other =
        read_slot json cbor default file other

/-- The file is not left half written, or no slot but the default one is lost with it. -/
def Clear (file : json.File) : Call Slot → Prop
  | .read _ => True
  | .write slot_id slot save => (cbor.into_vec slot).isSome = true →
    ∀ room, save.attempt = .cut room →
      (save.answer = some (.ok ()) → slot = default) ∧
      ∀ other, other ≠ slot_id → read_slot json cbor default file other = .ok default

variable {json cbor default}

variable (slots : Slots)

theorem load_all_complete : load_all json (some (json.write slots)) = slots := by
  rw [load_all, json.read_write, Option.getD_some]

theorem read_slot_cut (room : Nat) (slot_id : Int32) :
    read_slot json cbor default (some ((json.write slots).dropLast.take room)) slot_id =
      .ok default := by
  rw [read_slot, load_all, json.read_cut, Option.getD_none]

theorem sound_iff (file : json.File) (call : Call Slot) :
    Sound json cbor default file call ↔ Clear json cbor default file call := by
  cases call with
  | read => exact Iff.rfl
  | write slot_id slot save =>
    cases written : cbor.into_vec slot with
    | none =>
      simp [Sound, Clear, after, write_slot, written]
    | some data =>
      obtain ⟨attempt, noticed, killed⟩ := save
      cases attempt with
      | complete =>
        refine iff_of_true ⟨fun _ => ?_, fun other apart => ?_⟩ fun _ => nofun
        · simp only [after, write_slot, written, Attempt.leaves, read_slot, load_all_complete,
            update_self, cbor.from_slice_into_vec slot data written]
        · simp only [after, write_slot, written, Attempt.leaves, read_slot, load_all_complete,
            update_of_ne apart]
      | notCreated =>
        refine iff_of_true ⟨fun answered => ?_, fun other _ => ?_⟩ fun _ => nofun
        · cases killed <;> simp [write_slot, written, Save.answer] at answered
        · simp only [after, write_slot, written, Attempt.leaves]
      | cut room =>
        simp only [Sound, Clear, after, write_slot, written, Attempt.leaves, read_slot_cut]
        constructor
        · rintro ⟨own, others⟩ - _ -
          exact ⟨fun answered => (Except.ok.inj (own answered)).symm,
            fun other apart => (others other apart).symm⟩
        · intro clear
          obtain ⟨own, others⟩ := clear rfl room rfl
          exact ⟨fun answered => congrArg Except.ok (own answered).symm,
            fun other apart => (others other apart).symm⟩

/-- A write that returns Ok is read back and every other slot reads as before, exactly where no
write that is cut short meets a slot but the default one. -/
theorem slots_kept_iff (file : json.File) (calls : List (Call Slot)) :
    Along (after json cbor) (Sound json cbor default) file calls ↔
      Along (after json cbor) (Clear json cbor default) file calls := by
  have same : Sound json cbor default = Clear json cbor default := by
    funext file call
    exact propext (sound_iff file call)
  rw [same]

end Storage

/-! ## A sequence of calls -/

def plainJson : Json where
  Symbol := Option Slots
  write slots := [some slots, none]
  read
    | [some slots, none] => some slots
    | _ => none
  read_write _ := rfl
  read_cut slots room := by
    rcases room with _ | room
    · rfl
    · cases room <;> rfl

def plainCbor : Cbor Bytes where
  into_vec slot := some slot
  from_slice data := some data
  from_slice_into_vec _ _ written := written.symm

def fullDisk : List (Call Bytes) :=
  [.write 1 [7] ⟨.complete, true, false⟩, .write 2 [8] ⟨.cut 0, false, false⟩]

/-- The write returns Ok, but neither slot can be read any more. -/
theorem slots_lost :
    ¬Along (after plainJson plainCbor) (Sound plainJson plainCbor []) none fullDisk := by
  rintro ⟨-, ⟨own, -⟩, -⟩
  have read := own rfl
  cases read

end Ika.SecureEnv.Weaver
