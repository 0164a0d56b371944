import Ika.Foundation.Machine

/-! Credentials that are fetched again when they are about to expire.

Times are in nanoseconds. A lifetime is an `int` of seconds, so that no sum with
a reading of the clock comes near the end of 64 bits.
-/

set_option autoImplicit false

namespace Ika.Web.CredentialSource

open Transition List

inductive Failure where
  | error (message : String)
  /-- An exception of the JSON library. -/
  | thrown

def second : Int := 10 ^ 9

def kRefreshWindow : Int := 2 * 60 * second

/-- `steady_clock::time_point::min()`. -/
def time_point_min : Int := -2 ^ 63

structure RefreshingCredentialSource where
  latest_credential_ : String := ""
  expiration_ : Int := time_point_min

/-- A call of `Credential`: the clock before and after, and the answer of `Refresh`. -/
structure Call where
  now : Nat
  Refresh : Except Failure (String × Int)
  later : Nat

/-- What comes of a call, and whether `Refresh` was asked. -/
structure Outcome where
  source : RefreshingCredentialSource
  answer : Except Failure String
  asked : Bool

def RefreshingCredentialSource.Credential (source : RefreshingCredentialSource) (call : Call) :
    Outcome :=
  if source.expiration_ + kRefreshWindow < call.now then
    match call.Refresh with
    | .error failure => {source, answer := .error failure, asked := true}
    | .ok (credential, expiration) =>
      { source :=
          { latest_credential_ := credential
            expiration_ := call.later + expiration * second}
        answer := .ok credential
        asked := true}
  else {source, answer := .ok source.latest_credential_, asked := false}

/-- The source, the credentials fetched with their ends, and the last reading of the clock. -/
structure History where
  source : RefreshingCredentialSource := {}
  obtained : List (String × Int) := []
  time : Nat := 0

def Call.obtains (call : Call) : Option (String × Int) :=
  match call.Refresh with
  | .error _ => none
  | .ok (credential, expiration) => some (credential, call.later + expiration * second)

namespace History

variable (history : History)

def after (call : Call) : History where
  source := (history.source.Credential call).source
  obtained :=
    if (history.source.Credential call).asked then call.obtains.toList ++ history.obtained
    else history.obtained
  time := call.later

/-- What is handed out was fetched and lasts longer than the window. -/
structure Fresh (call : Call) : Prop where
  lasts : ∀ credential, (history.source.Credential call).answer = .ok credential →
    ∃ expiration, (credential, expiration) ∈ (history.after call).obtained ∧
      call.now + kRefreshWindow < expiration
  failure : ∀ failure, (history.source.Credential call).asked = true →
    call.Refresh = .error failure →
      (history.source.Credential call).answer = .error failure ∧
        (history.after call).source = history.source

/-- The call is not made near the time the stored credential expires, before or after. -/
def Clear (call : Call) : Prop :=
  call.now + kRefreshWindow < history.source.expiration_ ∨
    history.source.expiration_ + kRefreshWindow < call.now
  deriving Decidable

/-- The clock does not go back, and a lifetime is twice the window at least. -/
structure Regular (call : Call) : Prop where
  passes : history.time ≤ call.now
  ends : call.now ≤ call.later
  lasts : ∀ credential expiration, call.Refresh = .ok (credential, expiration) →
    2 * kRefreshWindow ≤ expiration * second

end History

namespace History

variable {history : History} {call : Call}

/-- What is handed out was fetched, and older credentials have expired. -/
structure Kept (history : History) : Prop where
  replaced : ∀ credential expiration, (credential, expiration) ∈ history.obtained →
    credential = history.source.latest_credential_ ∧ expiration = history.source.expiration_ ∨
      expiration + kRefreshWindow < history.time
  stored : history.source.expiration_ = time_point_min ∨
    (history.source.latest_credential_, history.source.expiration_) ∈ history.obtained

theorem kRefreshWindow_pos : 0 < kRefreshWindow := by decide

theorem time_point_min_past (now : Nat) : time_point_min + kRefreshWindow < now := by
  have past : time_point_min + kRefreshWindow < 0 := by decide
  omega

theorem Kept.start : Kept {} where
  replaced := by simp
  stored := .inl rfl

theorem Kept.later {now : Nat} (kept : history.Kept) (passes : history.time ≤ now) :
    Kept {history with time := now} where
  replaced credential expiration fetched := by
    rcases kept.replaced credential expiration fetched with same | gone
    · exact .inl same
    · exact .inr (by dsimp only; omega)
  stored := kept.stored

theorem after_fetched {credential : String} {expiration : Int}
    (due : history.source.expiration_ + kRefreshWindow < call.now)
    (fetched : call.Refresh = .ok (credential, expiration)) :
    history.after call =
      { source :=
          { latest_credential_ := credential
            expiration_ := call.later + expiration * second}
        obtained := (credential, call.later + expiration * second) :: history.obtained
        time := call.later} := by
  simp [after, RefreshingCredentialSource.Credential, due, fetched, Call.obtains]

theorem after_same
    (idle : history.source.expiration_ + kRefreshWindow < call.now →
      ∃ failure, call.Refresh = .error failure) :
    history.after call = {history with time := call.later} := by
  by_cases due : history.source.expiration_ + kRefreshWindow < call.now
  · obtain ⟨failure, failed⟩ := idle due
    simp [after, RefreshingCredentialSource.Credential, due, failed, Call.obtains]
  · simp [after, RefreshingCredentialSource.Credential, due]

theorem Kept.after (kept : history.Kept) (regular : history.Regular call) :
    (history.after call).Kept := by
  obtain ⟨passes, ends, -⟩ := regular
  by_cases due : history.source.expiration_ + kRefreshWindow < call.now
  · cases fetched : call.Refresh with
    | error failure =>
      rw [after_same fun _ => ⟨failure, fetched⟩]
      exact kept.later (passes.trans ends)
    | ok pair =>
      obtain ⟨credential, expiration⟩ := pair
      rw [after_fetched due fetched]
      refine ⟨fun other at_ among => ?_, .inr mem_cons_self⟩
      dsimp only
      rcases mem_cons.mp among with new | old
      · cases new
        exact .inl ⟨rfl, rfl⟩
      · rcases kept.replaced other at_ old with ⟨-, rfl⟩ | gone
        · exact .inr (by omega)
        · exact .inr (by omega)
  · rw [after_same fun now => absurd now due]
    exact kept.later (passes.trans ends)

theorem Kept.fresh_iff (kept : history.Kept) (regular : history.Regular call) :
    history.Fresh call ↔ history.Clear call := by
  obtain ⟨passes, ends, lasts⟩ := regular
  have window := kRefreshWindow_pos
  by_cases due : history.source.expiration_ + kRefreshWindow < call.now
  · refine iff_of_true ?_ (.inr due)
    cases fetched : call.Refresh with
    | error failure =>
      constructor
      · intro credential answered
        simp [RefreshingCredentialSource.Credential, due, fetched] at answered
      · intro other asked failed
        cases fetched.symm.trans failed
        rw [after_same fun _ => ⟨failure, fetched⟩]
        simp [RefreshingCredentialSource.Credential, due, fetched]
    | ok pair =>
      obtain ⟨credential, expiration⟩ := pair
      constructor
      · intro other answered
        simp only [RefreshingCredentialSource.Credential, due, if_true, fetched,
          Except.ok.injEq] at answered
        subst answered
        rw [after_fetched due fetched]
        have long := lasts credential expiration fetched
        exact ⟨_, mem_cons_self, by omega⟩
      · intro failure asked failed
        cases fetched.symm.trans failed
  · have same := @after_same history call fun now => absurd now due
    have answer : history.source.Credential call =
        { source := history.source
          answer := .ok history.source.latest_credential_
          asked := false} := by
      simp [RefreshingCredentialSource.Credential, due]
    constructor
    · intro fresh
      obtain ⟨expiration, fetched, left⟩ := fresh.lasts _ (by rw [answer])
      rw [same] at fetched
      rcases kept.replaced _ _ fetched with ⟨-, rfl⟩ | gone
      · exact .inl left
      · omega
    · intro clear
      have left := clear.resolve_right due
      constructor
      · intro credential answered
        rw [answer] at answered
        cases answered
        rw [same]
        have stored : history.source.expiration_ ≠ time_point_min := by
          intro never
          rw [never] at due
          exact due (time_point_min_past call.now)
        exact ⟨_, kept.stored.resolve_left stored, left⟩
      · intro failure asked
        rw [answer] at asked
        cases asked

end History

/-- Every credential handed out is fresh exactly where no call is made near the time at which the
stored credential expires. -/
theorem credentials_fresh_iff (calls : List Call)
    (regular : Along History.after History.Regular {} calls) :
    Along History.after History.Fresh {} calls ↔ Along History.after History.Clear {} calls :=
  Along.iff History.Kept (fun _ _ kept regular => kept.after regular)
    (fun _ _ kept regular => kept.fresh_iff regular) .start regular

def minute : Nat := 60 * 10 ^ 9

/-- A credential taken once more, and a failure when it is long gone. -/
def clearCalls : List Call := [
  ⟨1, .ok ("first", 600), 2⟩,
  ⟨5 * minute, .error .thrown, 5 * minute⟩,
  ⟨20 * minute, .error (.error "no answer"), 20 * minute⟩]

theorem History.Regular.of_ok {history : History} {call : Call} {credential : String}
    {expiration : Int}
    (fetched : call.Refresh = .ok (credential, expiration))
    (passes : history.time ≤ call.now ∧ call.now ≤ call.later)
    (long : 2 * kRefreshWindow ≤ expiration * second) : history.Regular call where
  passes := passes.1
  ends := passes.2
  lasts other at_ fetched' := by
    cases fetched.symm.trans fetched'
    exact long

theorem History.Regular.of_error {history : History} {call : Call} {failure : Failure}
    (failed : call.Refresh = .error failure)
    (passes : history.time ≤ call.now ∧ call.now ≤ call.later) : history.Regular call where
  passes := passes.1
  ends := passes.2
  lasts other at_ fetched := by cases failed.symm.trans fetched

theorem clearCalls_regular : Along History.after History.Regular {} clearCalls :=
  ⟨.of_ok rfl (by decide) (by decide), .of_error rfl (by decide), .of_error rfl (by decide),
    trivial⟩

theorem credentials_fresh_iff_clear : Along History.after History.Fresh {} clearCalls :=
  (credentials_fresh_iff clearCalls clearCalls_regular).mpr (by decide)

def staleCalls : List Call := [
  ⟨1, .ok ("first", 600), 2⟩,
  ⟨9 * minute, .ok ("second", 600), 9 * minute⟩]

/-- It is handed out although it has less than the window left. -/
theorem credential_stale : Along History.after History.Regular {} staleCalls ∧
    ¬Along History.after History.Fresh {} staleCalls := by
  have regular : Along History.after History.Regular {} staleCalls :=
    ⟨.of_ok rfl (by decide) (by decide), .of_ok rfl (by decide) (by decide), trivial⟩
  refine ⟨regular, ?_⟩
  rw [Along.iff History.Kept (fun _ _ kept regular => kept.after regular)
    (fun _ _ kept regular => kept.fresh_iff regular) .start regular]
  decide

end Ika.Web.CredentialSource
