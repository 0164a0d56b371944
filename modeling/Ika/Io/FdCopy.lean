import Mathlib.Data.List.Basic
import Ika.Foundation.Machine

/-! Copying from one descriptor to another, and the proxy that does so both ways.

Every step is the answer of the system to the call that comes next. `Fd::CopyFrom`
counts how much of a buffer was written, but passes the whole buffer again to the
next write.
-/

set_option autoImplicit false

namespace Ika.Io.Fd

open Transition List

def kPreferredBufferSize : Nat := 8192

/-- Why a copy is over; `copied` is where `CopyFrom` returns true. -/
inductive End where
  | copied
  | pollFailed
  | stopped
  | closed
  | readFailed
  | ended
  | writeFailed
  deriving DecidableEq, Repr

/-- The call that comes next. A write is given the whole buffer, however much of it was written. -/
inductive Next where
  | poll
  | read
  | write (buffer : List UInt8) (written : Nat)
  | done (because : End)
  deriving DecidableEq, Repr

/-- What the system answers: no read of nothing before the end, and no more than was asked for. -/
inductive Call where
  | pollFailed (errno : Nat)
  | polled (stop out : Bool)
  | readFailed (errno : Nat)
  | read (more : Nat)
  | writeFailed (errno : Nat)
  | wrote (count : Nat)

/-- A copy under way; `all` is that of `CopyAllFrom`, which calls `CopyFrom` again and again. -/
structure Copy where
  all : Bool
  length : Nat
  source : List UInt8
  output : List UInt8 := []
  next : Next
  errno_ : Nat := 0
  in_errno_ : Nat := 0
  deriving DecidableEq, Repr

namespace Copy

variable (copy : Copy)

def leave (because : End) (errno : Nat) : Copy :=
  {copy with errno_ := errno, next := .done because}

def loop : Copy :=
  if 0 < copy.length then {copy with next := .poll}
  else if copy.all then {copy with length := kPreferredBufferSize, next := .poll}
  else copy.leave .copied 0

def polled (stop out : Bool) : Copy :=
  if stop then copy.leave .stopped 0
  else if out then copy.leave .closed 0
  else {copy with next := .read}

def got (more : Nat) : List UInt8 :=
  copy.source.take (min (more + 1) (min kPreferredBufferSize copy.length))

def didRead (more : Nat) : Copy :=
  let copy := {copy with in_errno_ := 0}
  let buffer := copy.got more
  if buffer = [] then copy.leave .ended 0
  else {copy with
    length := copy.length - buffer.length
    source := copy.source.drop buffer.length
    next := .write buffer 0}

def didWrite (buffer : List UInt8) (written count : Nat) : Copy :=
  let taken := min count buffer.length
  if taken = 0 then copy.leave .writeFailed 0
  else
    let copy := {copy with output := copy.output ++ buffer.take taken}
    if written + taken < buffer.length then
      {copy with next := .write buffer (written + taken)}
    else copy.loop

/-- The error of a write is not seen by the caller: `errno_` is set once more on the way out. -/
def step (call : Call) : Option Copy :=
  match copy.next, call with
  | .poll, .pollFailed errno => some (copy.leave .pollFailed errno)
  | .poll, .polled stop out => some (copy.polled stop out)
  | .read, .readFailed errno => some ({copy with in_errno_ := errno}.leave .readFailed 0)
  | .read, .read more => some (copy.didRead more)
  | .write _ _, .writeFailed _ => some (copy.leave .writeFailed 0)
  | .write buffer written, .wrote count => some (copy.didWrite buffer written count)
  | _, _ => none

end Copy

def CopyFrom (source : List UInt8) (length : Nat) : Copy :=
  {all := false, length, source, next := .poll : Copy}.loop

def CopyAllFrom (source : List UInt8) : Copy :=
  {all := true, length := kPreferredBufferSize, source, next := .poll}

def copying (start : Copy) : Machine Copy Call where
  init copy := copy = start
  step := Copy.step

inductive Direction where
  | c2t | t2c
  deriving DecidableEq, Repr

structure Forward where
  copy : Copy
  shut : Bool := false

/-- The step that is no call of the copy is `Shutdown`. -/
def Forward.step (forward : Forward) : Option Call → Option Forward
  | some call => (forward.copy.step call).map fun copy => {forward with copy := copy}
  | none =>
    match forward.copy.next with
    | .done _ => if forward.shut then none else some {forward with shut := true}
    | _ => none

/-- Both threads of a proxy, which share nothing but descriptors. -/
def ProxyPair (streams : Direction → List UInt8) :
    Machine (Direction → Forward) (Direction × Option Call) :=
  Machine.product fun direction =>
    { init := fun forward => forward = {copy := CopyAllFrom (streams direction)}
      step := Forward.step}

structure Exact (source : List UInt8) (copy : Copy) : Prop where
  begins : copy.output <+: source
  ended : copy.next = .done .ended → copy.output = source

structure Delivers (stream : List UInt8) (forward : Forward) : Prop where
  exact : Exact stream forward.copy
  shut : forward.shut = true → ∃ because, forward.copy.next = .done because

def Next.written : Next → Nat
  | .write _ written => written
  | _ => 0

def Whole (copy : Copy) : Call → Prop
  | .wrote count => copy.next.written = 0 ∨ count = 0
  | _ => True

instance (copy : Copy) : (call : Call) → Decidable (Whole copy call)
  | .wrote _ => inferInstanceAs (Decidable (_ ∨ _))
  | .pollFailed _ | .polled .. | .readFailed _ | .read _ | .writeFailed _ => isTrue trivial

def ForwardsWhole (forward : Forward) : Option Call → Prop
  | some call => Whole forward.copy call
  | none => True

instance (forward : Forward) : (call : Option Call) → Decidable (ForwardsWhole forward call)
  | some call => inferInstanceAs (Decidable (Whole forward.copy call))
  | none => isTrue trivial

namespace Next

def Accounts (source : List UInt8) (copy : Copy) : Next → Prop
  | .poll | .read => copy.output ++ copy.source = source ∧ 0 < copy.length
  | .write buffer written =>
    copy.output ++ (buffer.drop written ++ copy.source) = source ∧ written < buffer.length
  | .done .copied => copy.output <+: source ∧ copy.length = 0 ∧ copy.all = false
  | .done .ended => copy.output = source
  | .done _ => copy.output <+: source

def Counts (total : Nat) (copy : Copy) : Next → Prop
  | .poll | .read | .done .copied => copy.output.length + copy.length = total
  | .write buffer written =>
    copy.output.length + (buffer.length - written) + copy.length = total
  | .done _ => True

end Next

structure Kept (source : List UInt8) (total : Nat) (copy : Copy) : Prop where
  accounts : copy.next.Accounts source copy
  counts : copy.all = false → copy.next.Counts total copy

section Steps

variable {source : List UInt8} {total : Nat} {copy : Copy}

theorem Kept.loop (accounts : copy.output ++ copy.source = source)
    (counts : copy.all = false → copy.output.length + copy.length = total) :
    Kept source total copy.loop := by
  unfold Copy.loop
  split_ifs with more all
  · exact ⟨⟨accounts, more⟩, counts⟩
  · exact ⟨⟨accounts, (by decide : 0 < kPreferredBufferSize)⟩, fun single => by simp [all] at single⟩
  · have none_left : copy.length = 0 := by omega
    have single : copy.all = false := by simpa using all
    exact ⟨⟨⟨_, accounts⟩, none_left, single⟩, counts⟩

theorem Kept.leave {because : End} (failed : because ≠ .copied ∧ because ≠ .ended) (errno : Nat)
    (begins : copy.output <+: source) : Kept source total (copy.leave because errno) := by
  cases because with
  | copied => exact absurd rfl failed.1
  | ended => exact absurd rfl failed.2
  | pollFailed | stopped | closed | readFailed | writeFailed =>
    exact ⟨begins, fun _ => trivial⟩

theorem Kept.polled (accounts : copy.output ++ copy.source = source) (asked : 0 < copy.length)
    (counts : copy.all = false → copy.output.length + copy.length = total) (stop out : Bool) :
    Kept source total (copy.polled stop out) := by
  unfold Copy.polled
  split_ifs
  · exact .leave (by decide) 0 ⟨_, accounts⟩
  · exact .leave (by decide) 0 ⟨_, accounts⟩
  · exact ⟨⟨accounts, asked⟩, counts⟩

theorem Copy.got_length (more : Nat) : (copy.got more).length ≤ copy.length := by
  rw [Copy.got, length_take]
  omega

theorem Copy.got_append (more : Nat) :
    copy.got more ++ copy.source.drop (copy.got more).length = copy.source :=
  List.prefix_iff_eq_append.mp ( take_prefix _ _)

theorem Copy.got_eq_nil {more : Nat} (asked : 0 < copy.length) (none_left : copy.got more = []) :
    copy.source = [] := by
  rw [Copy.got, take_eq_nil_iff] at none_left
  refine none_left.resolve_left ?_
  have : 0 < kPreferredBufferSize := by decide
  omega

theorem Kept.didRead (accounts : copy.output ++ copy.source = source)
    (counts : copy.all = false → copy.output.length + copy.length = total)
    (asked : 0 < copy.length) (more : Nat) : Kept source total (copy.didRead more) := by
  unfold Copy.didRead
  have same : Copy.got {copy with in_errno_ := 0} more = copy.got more := rfl
  simp only [same]
  split_ifs with none_left
  · refine ⟨?_, fun _ => trivial⟩
    rw [Copy.got_eq_nil asked none_left, append_nil] at accounts
    exact accounts
  · have some_ : 0 < (copy.got more).length := length_pos_iff.mpr none_left
    refine ⟨⟨?_, some_⟩, fun single => ?_⟩
    · rw [drop_zero, Copy.got_append]
      exact accounts
    · have fits := @Copy.got_length copy more
      have sum := counts single
      simp only [Next.Counts]
      omega

theorem Kept.didWrite {buffer : List UInt8} {written count : Nat}
    (accounts : copy.output ++ (buffer.drop written ++ copy.source) = source)
    (counts : copy.all = false →
      copy.output.length + (buffer.length - written) + copy.length = total)
    (whole : written = 0 ∨ count = 0) :
    Kept source total (copy.didWrite buffer written count) := by
  unfold Copy.didWrite
  by_cases nothing : min count buffer.length = 0
  · simp only [nothing, if_true]
    exact .leave (by decide) 0 ⟨_, accounts⟩
  · have first : written = 0 := by
      rcases whole with first | none_taken
      · exact first
      · simp [none_taken] at nothing
    subst first
    simp only [nothing, if_false, Nat.zero_add]
    rw [drop_zero] at accounts
    by_cases part : min count buffer.length < buffer.length
    · rw [if_pos part]
      refine ⟨⟨?_, part⟩, fun single => ?_⟩
      · dsimp only
        rw [append_assoc, ← append_assoc (buffer.take _), take_append_drop]
        exact accounts
      · have sum := counts single
        simp only [Next.Counts, length_append, length_take]
        omega
    · rw [if_neg part]
      have all_ : buffer.take (min count buffer.length) = buffer :=
        take_of_length_le (Nat.le_of_not_lt part)
      rw [all_]
      apply Kept.loop
      · rw [append_assoc]
        exact accounts
      · intro single
        have sum := counts single
        rw [length_append]
        omega

theorem Kept.step {call : Call} {after : Copy} (kept : Kept source total copy)
    (whole : Whole copy call) (stepped : copy.step call = some after) :
    Kept source total after := by
  obtain ⟨accounts, counts⟩ := kept
  unfold Copy.step at stepped
  split at stepped
  all_goals rename_i next
  case h_7 => cases stepped
  all_goals
    cases stepped
    rw [next] at accounts counts
  · exact .leave (by decide) _ ⟨_, accounts.1⟩
  · exact .polled accounts.1 accounts.2 counts _ _
  · exact .leave (by decide) _ ⟨_, accounts.1⟩
  · exact .didRead accounts.1 counts accounts.2 _
  · exact .leave (by decide) _ ⟨_, accounts.1⟩
  · simp only [Whole, next, Next.written] at whole
    exact .didWrite accounts.1 counts whole

theorem Kept.exact (kept : Kept source total copy) : Exact source copy := by
  obtain ⟨accounts, -⟩ := kept
  cases next : copy.next with
  | poll | read =>
    rw [next] at accounts
    exact ⟨⟨_, accounts.1⟩, fun ended => by simp [next] at ended⟩
  | write buffer written =>
    rw [next] at accounts
    exact ⟨⟨_, accounts.1⟩, fun ended => by simp [next] at ended⟩
  | done because =>
    rw [next] at accounts
    cases because with
    | copied => exact ⟨accounts.1, fun ended => by simp [next] at ended⟩
    | ended =>
      have same : copy.output = source := accounts
      exact ⟨same ▸ prefix_refl _, fun _ => same⟩
    | pollFailed | stopped | closed | readFailed | writeFailed =>
      exact ⟨accounts, fun ended => by simp [next] at ended⟩

theorem Kept.copied (kept : Kept source total copy) (ended : copy.next = .done .copied) :
    copy.output.length = total := by
  obtain ⟨accounts, counts⟩ := kept
  rw [ended] at accounts counts
  have sum := counts accounts.2.2
  rw [Next.Counts, accounts.2.1] at sum
  exact sum

end Steps

theorem Kept.copyFrom (source : List UInt8) (length : Nat) :
    Kept source length (CopyFrom source length) :=
  .loop rfl fun _ => Nat.zero_add _

theorem Kept.copyAllFrom (source : List UInt8) : Kept source 0 (CopyAllFrom source) :=
  ⟨⟨rfl, (by decide : 0 < kPreferredBufferSize)⟩, fun single => by cases single⟩

theorem Kept.of_reaches {source : List UInt8} {total : Nat} {start copy : Copy}
    (kept : Kept source total start) (reached : (copying start).Reaches Whole copy) :
    Kept source total copy := by
  refine reached.invariant (fun first is => ?_) fun before call after kept whole stepped =>
    kept.step whole stepped
  rw [is]
  exact kept

structure Forward.Kept (stream : List UInt8) (forward : Forward) : Prop where
  copy : Fd.Kept stream 0 forward.copy
  shut : forward.shut = true → ∃ because, forward.copy.next = .done because

theorem Forward.Kept.step {stream : List UInt8} {forward after : Forward} {call : Option Call}
    (kept : forward.Kept stream) (whole : ForwardsWhole forward call)
    (stepped : forward.step call = some after) : after.Kept stream := by
  cases call with
  | some call =>
    obtain ⟨copy, moved, rfl⟩ := Option.map_eq_some_iff.mp stepped
    refine ⟨kept.copy.step whole moved, fun shut => ?_⟩
    obtain ⟨because, ended⟩ := kept.shut shut
    unfold Copy.step at moved
    rw [ended] at moved
    cases moved
  | none =>
    rw [Forward.step] at stepped
    split at stepped
    · rename_i because ended
      split at stepped
      · cases stepped
      · cases stepped
        exact ⟨kept.copy, fun _ => ⟨because, ended⟩⟩
    · cases stepped

/-- Copies are exact, and so is what a proxy delivers, in every run in which no partial write is
followed by a larger one. -/
theorem bytes_forwarded (source : List UInt8) (length : Nat) (streams : Direction → List UInt8) :
    (∀ copy, (copying (CopyFrom source length)).Reaches Whole copy →
      Exact source copy ∧ (copy.next = .done .copied → copy.output.length = length)) ∧
    (∀ copy, (copying (CopyAllFrom source)).Reaches Whole copy → Exact source copy) ∧
    ∀ forwards, (ProxyPair streams).Reaches (Machine.each fun _ => ForwardsWhole) forwards →
        ∀ direction, Delivers (streams direction) (forwards direction) := by
  refine ⟨fun copy reached => ?_, fun copy reached => ?_, fun forwards reached direction => ?_⟩
  · have kept := (Kept.copyFrom source length).of_reaches reached
    exact ⟨kept.exact, kept.copied⟩
  · exact ((Kept.copyAllFrom source).of_reaches reached).exact
  · have kept : (forwards direction).Kept (streams direction) := by
      refine (reached.component direction).invariant (fun first is => ?_)
        fun before call after kept whole stepped => kept.step whole stepped
      rw [is]
      exact ⟨.copyAllFrom _, fun shut => by cases shut⟩
    exact ⟨kept.copy.exact, kept.shut⟩

def threeBytes : Direction → List UInt8
  | .c2t => [1, 2, 3]
  | .t2c => []

/-- Three bytes in two reads, one way; the other way has not begun. -/
def forwarding : List (Direction × Option Call) :=
  [some (.polled false false), some (.read 1), some (.wrote 2), some (.polled false false),
    some (.read 5), some (.wrote 1), some (.polled false false), some (.read 0), none].map
      (Direction.c2t, ·)

theorem bytes_forwarded_threeBytes :
    ∃ forwards, (ProxyPair threeBytes).Reaches (Machine.each fun _ => ForwardsWhole) forwards ∧
      (forwards .c2t).shut = true ∧ Delivers (threeBytes .c2t) (forwards .c2t) := by
  have reached : (ProxyPair threeBytes).Reaches (Machine.each fun _ => ForwardsWhole)
      (((ProxyPair threeBytes).runAllowed (Machine.each fun _ => ForwardsWhole)
        (fun direction => {copy := CopyAllFrom (threeBytes direction)}) forwarding).getD
          fun direction => {copy := CopyAllFrom (threeBytes direction)}) :=
    Machine.Reaches.getD_runAllowed forwarding (.start fun _ => rfl) (by decide)
  exact ⟨_, reached, by decide, (bytes_forwarded [] 0 threeBytes).2.2 _ reached .c2t⟩

/-- The second write passes the buffer from its beginning again. -/
theorem part_written_twice :
    (copying (CopyFrom [1, 2] 2)).Reachable { CopyFrom [1, 2] 2 with
        length := 0, source := [], output := [1, 1], next := .done .copied} ∧
      ¬∀ source length copy, (copying (CopyFrom source length)).Reachable copy →
        Exact source copy := by
  have reached : (copying (CopyFrom [1, 2] 2)).Reachable { CopyFrom [1, 2] 2 with
      length := 0, source := [], output := [1, 1], next := .done .copied} :=
    Machine.Reachable.of_run [.polled false false, .read 1, .wrote 1, .wrote 1]
      (.start rfl) (by decide)
  refine ⟨reached, fun all => ?_⟩
  have begins := (all _ _ _ reached).begins
  revert begins
  decide

end Ika.Io.Fd
