import Ika.Foundation.ByteStream
import Ika.Foundation.Machine

/-! The gatekeeper in software, which remembers a fast hash of the password verified last for a user.

The base class is a library: it verifies a password against a handle by the slow
signature, and makes the handles.
-/

set_option autoImplicit false

namespace Ika.SecureEnv.SoftGateKeeper

open ByteStream Transition List Function

abbrev Password := List UInt8

/-- `password_handle_t`, as far as it matters here. -/
structure Handle where
  user_id : UInt64
  salt : UInt64
  signature : List UInt8
  deriving DecidableEq, Repr

structure GateKeeper where
  CreatePasswordHandle : (salt user_id : UInt64) → Password → Handle
  DoVerify : Handle → Password → Bool

structure Digests where
  SHA256 : List UInt8 → List UInt8
  crypto_scrypt : List UInt8 → List UInt8 → List UInt8

def Digests.ComputePasswordSignature (digests : Digests) (password : Password) (salt : UInt64) :
    List UInt8 :=
  digests.crypto_scrypt password (doubleWord salt)

structure fast_hash_t where
  salt : UInt64
  digest : List UInt8
  deriving DecidableEq, Repr

section Gatekeeper

variable (base : GateKeeper) (SHA256 : List UInt8 → List UInt8)

def ComputeFastHash (password : Password) (salt : UInt64) : fast_hash_t where
  salt := salt
  digest := SHA256 (doubleWord salt ++ password)

def VerifyFast (fast_hash : fast_hash_t) (password : Password) : Bool :=
  (ComputeFastHash SHA256 password fast_hash.salt).digest = fast_hash.digest

abbrev FastHashMap := UInt64 → Option fast_hash_t

/-- The answer, and the map after it. The salt is the one that `GetRandom` gives if it is asked. -/
def DoVerify (fast_hash_map_ : FastHashMap) (expected_handle : Handle) (password : Password)
    (salt : UInt64) : Bool × FastHashMap :=
  if (fast_hash_map_ expected_handle.user_id).any fun it => VerifyFast SHA256 it password then
    (true, fast_hash_map_)
  else if base.DoVerify expected_handle password then
    (true, update fast_hash_map_ expected_handle.user_id
      (some (ComputeFastHash SHA256 password salt)))
  else (false, fast_hash_map_)

/-- A request. The random numbers are those that are asked for in it, if they are. -/
inductive Event where
  | enroll (user_id salt : UInt64) (password : Password)
  | reEnroll (handle : Handle) (enrolled password : Password) (fast_salt salt : UInt64)
  | verify (handle : Handle) (password : Password) (fast_salt : UInt64)

/-- What a request verifies; the salt is for the fast hash. -/
structure Check where
  handle : Handle
  password : Password
  salt : UInt64

def Event.verifies : Event → Option Check
  | enroll .. => none
  | reEnroll handle enrolled _ fast_salt _ => some ⟨handle, enrolled, fast_salt⟩
  | verify handle password fast_salt => some ⟨handle, password, fast_salt⟩

def Event.passwords : Event → List Password
  | enroll _ _ password => [password]
  | reEnroll _ enrolled password _ _ => [enrolled, password]
  | verify _ password _ => [password]

/-- The handles issued with their passwords, and what verified last for each user. -/
structure History where
  fast_hash_map_ : FastHashMap := fun _ => none
  issued : List (Handle × Password) := []
  verified : UInt64 → Option Password := fun _ => none

namespace History

def check (history : History) (handle : Handle) (password : Password) (salt : UInt64) :
    Bool × History :=
  let (answer, fast_hash_map_) :=
    DoVerify base SHA256 history.fast_hash_map_ handle password salt
  (answer, {history with
    fast_hash_map_
    verified := if answer then update history.verified handle.user_id (some password)
      else history.verified})

def issue (history : History) (salt user_id : UInt64) (password : Password) : History :=
  {history with
    issued := (base.CreatePasswordHandle salt user_id password, password) :: history.issued}

/-- A trusted enrolment keeps the user of the old handle, once the old password is verified. -/
def after (history : History) : Event → History
  | .enroll user_id salt password => history.issue base salt user_id password
  | .reEnroll handle enrolled password fast_salt salt =>
    let (answer, history) := history.check base SHA256 handle enrolled fast_salt
    if answer then history.issue base salt handle.user_id password else history
  | .verify handle password fast_salt => (history.check base SHA256 handle password fast_salt).2

def Known (history : History) (event : Event) : Prop :=
  ∀ check ∈ event.verifies, check.handle ∈ history.issued.map Prod.fst
  deriving Decidable

def Agrees (history : History) (event : Event) : Prop :=
  ∀ check ∈ event.verifies, (DoVerify base SHA256 history.fast_hash_map_
      check.handle check.password check.salt).1 = base.DoVerify check.handle check.password
  deriving Decidable

end History

end Gatekeeper

/-- The password is not the user's last, unless the handle was enrolled with it. -/
def History.Clear (history : History) (event : Event) : Prop :=
  ∀ check ∈ event.verifies, history.verified check.handle.user_id = some check.password →
    (check.handle, check.password) ∈ history.issued
  deriving Decidable

/-- Where digests differ, the base class accepts just the handle's password. -/
structure Ideal (base : GateKeeper) (SHA256 : List UInt8 → List UInt8) (used : Set Password) :
    Prop where
  user_id : ∀ salt user_id password,
    (base.CreatePasswordHandle salt user_id password).user_id = user_id
  accepts : ∀ salt user_id password other, password ∈ used → other ∈ used →
    (base.DoVerify (base.CreatePasswordHandle salt user_id password) other = true ↔
      other = password)
  apart : ∀ salt password other, password ∈ used → other ∈ used →
    SHA256 (doubleWord salt ++ password) = SHA256 (doubleWord salt ++ other) → password = other

section Invariant

variable {base : GateKeeper} {SHA256 : List UInt8 → List UInt8} {used : Set Password}
  {history : History}

/-- The map has a hash of the password that verified last, and the handles are the base class's. -/
structure Kept (base : GateKeeper) (SHA256 : List UInt8 → List UInt8) (used : Set Password)
    (history : History) : Prop where
  hashed : ∀ user_id, history.fast_hash_map_ user_id = none ∧ history.verified user_id = none ∨
    ∃ password salt, password ∈ used ∧ history.verified user_id = some password ∧
      history.fast_hash_map_ user_id = some (ComputeFastHash SHA256 password salt)
  made : ∀ handle password, (handle, password) ∈ history.issued →
    password ∈ used ∧ ∃ salt, handle = base.CreatePasswordHandle salt handle.user_id password

theorem Kept.start : Kept base SHA256 used {} where
  hashed _ := .inl ⟨rfl, rfl⟩
  made := by simp

variable {password : Password} {event : Event}

theorem Kept.fast_iff (kept : Kept base SHA256 used history) (ideal : Ideal base SHA256 used)
    (user_id : UInt64) (known : password ∈ used) :
    ((history.fast_hash_map_ user_id).any fun it => VerifyFast SHA256 it password) = true ↔
      history.verified user_id = some password := by
  rcases kept.hashed user_id with ⟨unhashed, unverified⟩ | ⟨last, salt, used_, verified, hashed⟩
  · simp [unhashed, unverified]
  · rw [hashed, verified, Option.any_some, Option.some.injEq]
    constructor
    · intro same
      exact (ideal.apart salt password last known used_ (of_decide_eq_true same)).symm
    · rintro rfl
      exact decide_eq_true rfl

theorem Kept.slow_iff (kept : Kept base SHA256 used history) (ideal : Ideal base SHA256 used)
    {handle : Handle} {enrolled : Password} (known : password ∈ used)
    (issued : (handle, enrolled) ∈ history.issued) :
    base.DoVerify handle password = true ↔ (handle, password) ∈ history.issued := by
  obtain ⟨used_, salt, made⟩ := kept.made handle enrolled issued
  have accepts := ideal.accepts salt handle.user_id enrolled password used_ known
  rw [← made] at accepts
  rw [accepts]
  constructor
  · rintro rfl
    exact issued
  · intro also
    obtain ⟨-, other, made'⟩ := kept.made handle password also
    have same := ideal.accepts other handle.user_id password password known known
    rw [← made', accepts] at same
    exact same.mpr rfl

theorem DoVerify_cases (base : GateKeeper) (SHA256 : List UInt8 → List UInt8)
    (fast_hash_map_ : FastHashMap) (handle : Handle) (password : Password) (salt : UInt64) :
    ((fast_hash_map_ handle.user_id).any fun it => VerifyFast SHA256 it password) = true ∧
        DoVerify base SHA256 fast_hash_map_ handle password salt = (true, fast_hash_map_) ∨
      base.DoVerify handle password = true ∧
        DoVerify base SHA256 fast_hash_map_ handle password salt =
          (true, update fast_hash_map_ handle.user_id
            (some (ComputeFastHash SHA256 password salt))) ∨
      ¬((fast_hash_map_ handle.user_id).any fun it => VerifyFast SHA256 it password) = true ∧
        ¬base.DoVerify handle password = true ∧
        DoVerify base SHA256 fast_hash_map_ handle password salt = (false, fast_hash_map_) := by
  unfold DoVerify
  split_ifs with taken accepted
  · exact .inl ⟨taken, rfl⟩
  · exact .inr (.inl ⟨accepted, rfl⟩)
  · exact .inr (.inr ⟨taken, accepted, rfl⟩)

section

variable (kept : Kept base SHA256 used history)
include kept

theorem Kept.check (ideal : Ideal base SHA256 used)
    (handle : Handle) (known : password ∈ used) (salt : UInt64) :
    Kept base SHA256 used (history.check base SHA256 handle password salt).2 := by
  rcases DoVerify_cases base SHA256 history.fast_hash_map_ handle password salt with
    ⟨taken, is⟩ | ⟨-, is⟩ | ⟨-, -, is⟩
  · have last := (kept.fast_iff ideal handle.user_id known).mp taken
    refine ⟨fun user_id => ?_, kept.made⟩
    simp only [History.check, is, if_true]
    rw [← last, update_eq_self]
    exact kept.hashed user_id
  · refine ⟨fun user_id => ?_, kept.made⟩
    simp only [History.check, is, if_true]
    by_cases same : user_id = handle.user_id
    · subst same
      exact .inr ⟨password, salt, known, update_self .., update_self ..⟩
    · rw [update_of_ne same, update_of_ne same]
      exact kept.hashed user_id
  · refine ⟨fun user_id => ?_, kept.made⟩
    simp only [History.check, is]
    exact kept.hashed user_id

theorem Kept.issue (ideal : Ideal base SHA256 used)
    (salt user_id : UInt64) (known : password ∈ used) :
    Kept base SHA256 used (history.issue base salt user_id password) where
  hashed := kept.hashed
  made handle other among := by
    rcases mem_cons.mp among with new | old
    · cases new
      rw [ideal.user_id]
      exact ⟨known, salt, rfl⟩
    · exact kept.made handle other old

theorem Kept.after (ideal : Ideal base SHA256 used)
    (known : ∀ password ∈ event.passwords, password ∈ used) :
    Kept base SHA256 used (history.after base SHA256 event) := by
  cases event with
  | enroll user_id salt password =>
    exact kept.issue ideal salt user_id (known _ mem_cons_self)
  | reEnroll handle enrolled password fast_salt salt =>
    have checked := kept.check ideal handle (known enrolled mem_cons_self) fast_salt
    simp only [History.after]
    split
    · exact checked.issue ideal salt handle.user_id
        (known password (mem_cons_of_mem _ mem_cons_self))
    · exact checked
  | verify handle password fast_salt =>
    exact kept.check ideal handle (known password mem_cons_self) fast_salt

end

theorem Event.mem_passwords {check : Check} (verifies : check ∈ event.verifies) :
    check.password ∈ event.passwords := by
  cases event with
  | enroll => cases verifies
  | reEnroll | verify =>
    cases verifies
    exact mem_cons_self

theorem Kept.agrees_iff (kept : Kept base SHA256 used history) (ideal : Ideal base SHA256 used)
    (known : ∀ password ∈ event.passwords, password ∈ used) (issued : history.Known event) :
    history.Agrees base SHA256 event ↔ history.Clear event := by
  refine forall_congr' fun check => forall_congr' fun verifies => ?_
  have used_ := known check.password (Event.mem_passwords verifies)
  obtain ⟨⟨handle, enrolled⟩, among, is⟩ := mem_map.mp (issued check verifies)
  obtain ⟨handle, password, salt⟩ := check
  cases is
  have fast := kept.fast_iff ideal handle.user_id used_
  have slow := kept.slow_iff ideal used_ among
  rw [← fast, ← slow]
  rcases DoVerify_cases base SHA256 history.fast_hash_map_ handle password salt with
    ⟨taken, is⟩ | ⟨accepted, is⟩ | ⟨missed, refused, is⟩
  · rw [is]
    exact ⟨fun same _ => same.symm, fun clear => (clear taken).symm⟩
  · rw [is]
    exact iff_of_true accepted.symm fun _ => accepted
  · rw [is]
    exact iff_of_true (Bool.eq_false_iff.mpr refused).symm fun taken => absurd taken missed

/-- The answers are those of the base class exactly where no other handle is offered the password
that verified last for its user. -/
theorem fast_path_agrees_iff (ideal : Ideal base SHA256 used) (events : List Event)
    (requested : Along (History.after base SHA256) (fun history event =>
      history.Known event ∧ ∀ password ∈ event.passwords, password ∈ used) {} events) :
    Along (History.after base SHA256) (History.Agrees base SHA256) {} events ↔
      Along (History.after base SHA256) History.Clear {} events :=
  Along.iff (Kept base SHA256 used) (fun _ _ kept given => kept.after ideal given.2)
    (fun _ _ kept given => kept.agrees_iff ideal given.2 given.1) .start requested

/-- What verified last for a user was enrolled for that user. -/
def Enrolled (history : History) : Prop :=
  ∀ user_id password, history.verified user_id = some password →
    ∃ handle : Handle, handle.user_id = user_id ∧ (handle, password) ∈ history.issued

theorem Enrolled.issue (enrolled : Enrolled history) (salt user_id : UInt64) :
    Enrolled (history.issue base salt user_id password) := fun user_id password verified =>
  (enrolled user_id password verified).imp fun _ => And.imp_right (mem_cons_of_mem _)

def Admits (base : GateKeeper) (SHA256 : List UInt8 → List UInt8) (history : History)
    (event : Event) : Prop :=
  ∀ check ∈ event.verifies, ∀ answer,
    answer = (DoVerify base SHA256 history.fast_hash_map_ check.handle check.password check.salt).1 →
    (answer = true → ∃ handle : Handle, handle.user_id = check.handle.user_id ∧
      (handle, check.password) ∈ history.issued) ∧
    ((check.handle, check.password) ∈ history.issued → answer = true)

theorem Kept.admits (kept : Kept base SHA256 used history) (ideal : Ideal base SHA256 used)
    (enrolled : Enrolled history) (known : ∀ password ∈ event.passwords, password ∈ used)
    (issued : history.Known event) : Admits base SHA256 history event := by
  rintro check verifies _ rfl
  have used_ := known check.password (Event.mem_passwords verifies)
  obtain ⟨⟨handle, first⟩, among, is⟩ := mem_map.mp (issued check verifies)
  obtain ⟨_, password, salt⟩ := check
  cases is
  have slow := kept.slow_iff ideal used_ among
  rcases DoVerify_cases base SHA256 history.fast_hash_map_ handle password salt with
    ⟨taken, is⟩ | ⟨accepted, is⟩ | ⟨-, refused, is⟩ <;> rw [is]
  · exact ⟨fun _ => enrolled _ _ ((kept.fast_iff ideal _ used_).mp taken), fun _ => rfl⟩
  · exact ⟨fun _ => ⟨_, rfl, slow.mp accepted⟩, fun _ => rfl⟩
  · exact ⟨nofun, fun also => absurd (slow.mpr also) refused⟩

theorem Admits.enrolled {check : Check} (admits : Admits base SHA256 history event)
    (verifies : check ∈ event.verifies) (enrolled : Enrolled history) :
    Enrolled (history.check base SHA256 check.handle check.password check.salt).2 := by
  intro user_id password verified
  simp only [History.check] at verified
  split at verified
  · by_cases same : user_id = check.handle.user_id
    · subst same
      cases (update_self ..).symm.trans verified
      exact (admits check verifies _ rfl).1 ‹_›
    · rw [update_of_ne same] at verified
      exact enrolled user_id password verified
  · exact enrolled user_id password verified

theorem Enrolled.after (enrolled : Enrolled history) (admits : Admits base SHA256 history event) :
    Enrolled (history.after base SHA256 event) := by
  cases event with
  | enroll user_id salt => exact enrolled.issue salt user_id
  | verify => exact admits.enrolled rfl enrolled
  | reEnroll handle _ _ _ salt =>
    have checked := admits.enrolled rfl enrolled
    simp only [History.after]
    split
    · exact checked.issue salt handle.user_id
    · exact checked

/-- Also by the fast path a password is accepted only if it was enrolled for the user, and always
with the handle it was enrolled with. -/
theorem only_enrolled_admitted (ideal : Ideal base SHA256 used) (events : List Event)
    (requested : Along (History.after base SHA256) (fun history event =>
      history.Known event ∧ ∀ password ∈ event.passwords, password ∈ used) {} events) :
    Along (History.after base SHA256) (Admits base SHA256) {} events :=
  (Along.iff (fun history => Kept base SHA256 used history ∧ Enrolled history)
    (fun _ _ inv given => ⟨inv.1.after ideal given.2,
      inv.2.after (inv.1.admits ideal inv.2 given.2 given.1)⟩)
    (fun _ _ inv given => iff_of_true given (inv.1.admits ideal inv.2 given.2 given.1))
    ⟨.start, nofun⟩ requested).mp requested

end Invariant

def signing (digests : Digests) : GateKeeper where
  CreatePasswordHandle salt user_id password :=
    {user_id, salt, signature := digests.ComputePasswordSignature password salt}
  DoVerify handle password :=
    digests.ComputePasswordSignature password handle.salt = handle.signature

def plainDigests : Digests where
  SHA256 text := text
  crypto_scrypt password salt := password ++ salt

theorem signing_ideal (used : Set Password) :
    Ideal (signing plainDigests) plainDigests.SHA256 used where
  user_id _ _ _ := rfl
  accepts salt user_id password other _ _ := by
    rw [signing, decide_eq_true_eq]
    exact append_left_inj _
  apart salt password other _ _ same := append_cancel_left same

def firstHandle : Handle := (signing plainDigests).CreatePasswordHandle 5 1 [10]

def secondHandle : Handle := (signing plainDigests).CreatePasswordHandle 6 1 [20]

def replaced : List Event := [.enroll 1 5 [10], .verify firstHandle [10] 7,
  .reEnroll firstHandle [10] [20] 8 6, .verify secondHandle [20] 9]

theorem fast_path_agrees_iff_replaced :
    Along (History.after (signing plainDigests) plainDigests.SHA256)
      (History.Agrees (signing plainDigests) plainDigests.SHA256) {} replaced :=
  (fast_path_agrees_iff (signing_ideal {[10], [20]}) replaced (by decide)).mpr (by decide)

def tried : List Event := [.enroll 1 5 [10], .reEnroll firstHandle [10] [20] 8 6,
  .verify secondHandle [10] 9]

/-- The password that was replaced still verifies against the new handle. -/
theorem replaced_password_verifies :
    Ideal (signing plainDigests) plainDigests.SHA256 {[10], [20]} ∧
      Along (History.after (signing plainDigests) plainDigests.SHA256) (fun history event =>
        history.Known event ∧ ∀ password ∈ event.passwords, password ∈ ({[10], [20]} : Set _))
        {} tried ∧
      ¬Along (History.after (signing plainDigests) plainDigests.SHA256)
        (History.Agrees (signing plainDigests) plainDigests.SHA256) {} tried :=
  ⟨signing_ideal _, by decide, by decide⟩

/-- The password that was replaced still verifies, as one of its user. -/
theorem only_enrolled_admitted_replaced :
    Along (History.after (signing plainDigests) plainDigests.SHA256)
      (Admits (signing plainDigests) plainDigests.SHA256) {} tried :=
  only_enrolled_admitted (signing_ideal {[10], [20]}) tried (by decide)

end Ika.SecureEnv.SoftGateKeeper
