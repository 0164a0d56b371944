import Mathlib.Algebra.Order.Ring.Int
import Mathlib.Data.List.Induction

/-! Choosing a build of the build server and waiting until its status is a last one. -/

set_option autoImplicit false

namespace Ika.Web

open List

inductive Json where
  | string (text : String)
  | bool (value : Bool)
  | object (members : List (String × Json))

inductive Failure where
  | error (message : String)
  /-- A CHECK does not hold, which ends the process. -/
  | check

namespace Json

def member (selector : String) : Json → Option Json
  | .object members => members.lookup selector
  | _ => none

def select (root : Json) : List String → Except Failure Json
  | [] => .ok root
  | selector :: rest =>
    match root.member selector with
    | some json => json.select rest
    | none => .error (.error ("JSON selector \"" ++ selector ++ "\" does not exist"))

def asString : Json → Except Failure String
  | .string text => .ok text
  | _ => .error (.error "v.isString()")

def asBool : Json → Except Failure Bool
  | .bool value => .ok value
  | _ => .error (.error "v.isBool()")

def GetString (root : Json) (selectors : List String) : Except Failure String :=
  root.select selectors >>= asString

end Json

structure BuildInfo where
  branch : String
  product : String
  status : String
  target : String
  is_signed : Bool

def GetBuildInfo (json : Json) : Except Failure BuildInfo := do
  let is_signed ←
    match json.select ["build", "buildSigned"] with
    | .ok value => value.asBool
    | .error _ => pure false
  let branch ← json.GetString ["build", "branch"]
  let product ← json.GetString ["build", "target", "product"]
  let status ← json.GetString ["build", "buildAttemptStatus"]
  let target ← json.GetString ["build", "target", "name"]
  return {branch, product, status, target, is_signed}

/-- A document as `GetBuildInfo` accepts it. -/
structure BuildJson where
  branch : String
  product : String
  name : String
  buildAttemptStatus : String
  buildSigned : Option Bool := none

def BuildJson.toJson (doc : BuildJson) : Json :=
  .object [("build", .object ([("branch", .string doc.branch),
    ("target", .object [("product", .string doc.product), ("name", .string doc.name)]),
    ("buildAttemptStatus", .string doc.buildAttemptStatus)] ++
      doc.buildSigned.toList.map fun value => ("buildSigned", .bool value)))]

inductive SafeLevel where
  | kSafeLevelUnspecified
  | kSafe0
  | kSafe1
  | kSafe2
  | kPlatinum

def kAllSafeLevels : List SafeLevel :=
  [.kPlatinum, .kSafe2, .kSafe1, .kSafe0, .kSafeLevelUnspecified]

structure CandidateBuild where
  build_id : String
  creation_time : Int
  safe_level : SafeLevel

/-- The answer for a safe level: an error, no list of builds, or a list of ids and times. -/
abbrev Answer := Except Unit (Option (List (String × Int)))

def collect (answers : SafeLevel → Answer) :
    List SafeLevel → Except Failure (List CandidateBuild)
  | [] => .ok []
  | safe_level :: rest =>
    match answers safe_level with
    | .error () => collect answers rest
    | .ok none => collect answers rest
    | .ok (some [(build_id, creation_time)]) =>
      (collect answers rest).map ({build_id, creation_time, safe_level} :: ·)
    | .ok (some _) => .error (.error "Expected to find a single latest build")

def week : Int := 7 * 24 * 60 * 60

def latestTime (first : CandidateBuild) (candidates : List CandidateBuild) : Int :=
  candidates.foldl (fun latest candidate => max latest candidate.creation_time)
    first.creation_time

def LatestBuildCandidate (answers : SafeLevel → Answer) :
    Except Failure (Option CandidateBuild) :=
  match collect answers kAllSafeLevels with
  | .error failure => .error failure
  | .ok [] => .ok none
  | .ok (first :: rest) =>
    let latest := latestTime first rest
    match (first :: rest).find? fun candidate => latest - candidate.creation_time < week with
    | some it => .ok (some it)
    | none => .error .check

def StatusIsTerminal (status : String) : Bool :=
  status ∈ ["abandoned", "complete", "error", "ABANDONED", "COMPLETE", "ERROR"]

section Waiting

/- The answers to the requests for the build, in their order. -/
variable (resource : Nat → Json) (retry_period : Int)

/-- Until no request is left to be made, and how many have been made by then. -/
def waitLoop : Nat → Nat → String → Bool → Option (Except Failure Bool × Nat)
  | 0, _, _, _ => none
  | fuel + 1, requests, status, has_retried =>
    if retry_period ≠ 0 ∧ StatusIsTerminal status = false then
      match (resource requests).GetString ["buildAttemptStatus"] with
      | .ok status => waitLoop fuel (requests + 1) status true
      | .error failure => some (.error failure, requests + 1)
    else some (.ok has_retried, requests)

def BlockUntilTerminalStatus (fuel : Nat) (initial_status build_id : String) :
    Option (Except Failure Bool × Nat) :=
  if initial_status = "" then
    some (.error (.error ("\"" ++ build_id ++ "\" is not a valid branch or build id.")), 1)
  else waitLoop resource retry_period fuel 1 initial_status false

structure DeviceBuildString where
  branch_or_id : String
  target : Option String
  filepath : Option String := none

structure DeviceBuild where
  id : String
  info : BuildInfo
  status_blocked : Bool
  filepath : Option String
  safe_level : SafeLevel

def GetBuild (answers : SafeLevel → Answer) (fuel : Nat) (build_string : DeviceBuildString) :
    Option (Except Failure DeviceBuild × Nat) :=
  match build_string.target with
  | none => some (.error (.error
      "Given build string must have a target with the branch or build id"), 0)
  | some _ =>
    match LatestBuildCandidate answers with
    | .error failure => some (.error failure, 0)
    | .ok latest_build_candidate =>
      let id := (latest_build_candidate.map (·.build_id)).getD build_string.branch_or_id
      match GetBuildInfo (resource 0) with
      | .error failure => some (.error failure, 1)
      | .ok info =>
        (BlockUntilTerminalStatus resource retry_period fuel info.status id).map fun blocked =>
          (blocked.1.map fun status_blocked =>
            { id, info, status_blocked
              filepath := build_string.filepath
              safe_level := (latest_build_candidate.map (·.safe_level)).getD
                .kSafeLevelUnspecified}, blocked.2)

end Waiting

section Candidates

/-- One build for a level, no build, or an error. -/
abbrev Level := Except Unit (Option (String × Int))

def Level.answer (level : Level) : Answer := level.map (Option.map ([·]))

def Level.candidate (safe_level : SafeLevel) : Level → Option CandidateBuild
  | .ok (some (build_id, creation_time)) => some {build_id, creation_time, safe_level}
  | _ => none

def candidates (levels : SafeLevel → Level) : List CandidateBuild :=
  kAllSafeLevels.filterMap fun safe_level => (levels safe_level).candidate safe_level

/-- The first candidate less than a week before the newest, if there is any candidate. -/
inductive Chosen (listed : List CandidateBuild) : Option CandidateBuild → Prop where
  | unlisted : listed = [] → Chosen listed none
  | first (newest chosen : CandidateBuild) (before after : List CandidateBuild) :
    newest ∈ listed → (∀ other ∈ listed, other.creation_time ≤ newest.creation_time) →
      listed = before ++ chosen :: after →
      (∀ other ∈ before, week ≤ newest.creation_time - other.creation_time) →
      newest.creation_time - chosen.creation_time < week → Chosen listed (some chosen)

variable (levels : SafeLevel → Level)

theorem collect_candidates (safe_levels : List SafeLevel) :
    collect (fun safe_level => (levels safe_level).answer) safe_levels =
      .ok (safe_levels.filterMap fun safe_level => (levels safe_level).candidate safe_level) := by
  induction safe_levels with
  | nil => rfl
  | cons safe_level rest ih =>
    rw [collect, ih, filterMap_cons]
    cases levels safe_level with
    | error none_ => rfl
    | ok found => cases found <;> rfl

theorem latestTime_newest (first : CandidateBuild) (rest : List CandidateBuild) :
    ∃ newest ∈ first :: rest, newest.creation_time = latestTime first rest ∧
      ∀ other ∈ first :: rest, other.creation_time ≤ latestTime first rest := by
  unfold latestTime
  induction rest using List.reverseRecOn with
  | nil => exact ⟨first, mem_cons_self, rfl, by simp⟩
  | append_singleton rest last ih =>
    obtain ⟨newest, among, same, bound⟩ := ih
    rw [foldl_append, foldl_cons, foldl_nil]
    set latest := rest.foldl (fun latest candidate => max latest candidate.creation_time)
      first.creation_time
    have bounded : ∀ other ∈ first :: (rest ++ [last]),
        other.creation_time ≤ max latest last.creation_time := by
      intro other member
      rw [← cons_append, mem_append, mem_singleton] at member
      rcases member with earlier | rfl
      · exact (bound other earlier).trans (le_max_left _ _)
      · exact le_max_right _ _
    rcases le_total latest last.creation_time with later | earlier
    · exact ⟨last, by simp, (max_eq_right later).symm, bounded⟩
    · refine ⟨newest, ?_, same.trans (max_eq_left earlier).symm, bounded⟩
      rw [← cons_append]
      exact mem_append_left _ among

theorem LatestBuildCandidate_chosen :
    ∃ choice, LatestBuildCandidate (fun safe_level => (levels safe_level).answer) = .ok choice ∧
      Chosen (candidates levels) choice := by
  unfold LatestBuildCandidate
  rw [collect_candidates]
  cases listed : candidates levels with
  | nil =>
    rw [candidates] at listed
    rw [listed]
    exact ⟨none, rfl, .unlisted rfl⟩
  | cons first rest =>
    rw [candidates] at listed
    rw [listed]
    obtain ⟨newest, among, same, bound⟩ := latestTime_newest first rest
    dsimp only
    cases found : (first :: rest).find? fun candidate =>
        latestTime first rest - candidate.creation_time < week with
    | none =>
      have old := List.find?_eq_none.mp found newest among
      simp [same, week] at old
    | some chosen =>
      obtain ⟨recent, before, after, split, old⟩ := List.find?_eq_some_iff_append.mp found
      refine ⟨some chosen, rfl, .first newest chosen before after among (same ▸ bound) split ?_ ?_⟩
      · intro other earlier
        have late := old other earlier
        rw [same]
        simpa using late
      · rw [same]
        simpa using recent

end Candidates

/-- A build whose document has one status after the other. -/
structure Request where
  levels : SafeLevel → Level
  docs : Nat → BuildJson
  retry_period : Int
  branch_or_id : String
  target : String
  filepath : Option String := none

namespace Request

variable (request : Request)

def candidate : Except Failure (Option CandidateBuild) :=
  LatestBuildCandidate fun safe_level => (request.levels safe_level).answer

def GetBuild (fuel : Nat) : Option (Except Failure DeviceBuild × Nat) :=
  Web.GetBuild (fun requests => (request.docs requests).toJson) request.retry_period
    (fun safe_level => (request.levels safe_level).answer) fuel
    {request with target := some request.target}

def terminal (requests : Nat) : Bool := StatusIsTerminal (request.docs requests).buildAttemptStatus

/-- The right candidate is chosen, and its build is returned at its first terminal status. -/
structure Served : Prop where
  unfailing : ∀ fuel requests, request.GetBuild fuel ≠ some (.error .check, requests)
  chooses : ∃ choice, request.candidate = .ok choice ∧ Chosen (candidates request.levels) choice ∧
    ∀ fuel build requests, request.GetBuild fuel = some (.ok build, requests) →
      build.id = (choice.map (·.build_id)).getD request.branch_or_id ∧
        build.safe_level = (choice.map (·.safe_level)).getD .kSafeLevelUnspecified
  returns : request.retry_period ≠ 0 →
    ((∃ fuel build requests, request.GetBuild fuel = some (.ok build, requests)) ↔
      ∃ requests, request.terminal requests = true)
  waits : request.retry_period ≠ 0 → ∀ fuel build requests,
    request.GetBuild fuel = some (.ok build, requests + 1) → request.terminal requests = true
  asks : ∀ fuel result requests, request.GetBuild fuel = some (result, requests) →
    ∀ earlier, earlier + 1 < requests → request.terminal earlier = false

theorem GetBuildInfo_toJson (doc : BuildJson) :
    GetBuildInfo doc.toJson = .ok
      { branch := doc.branch, product := doc.product, status := doc.buildAttemptStatus
        target := doc.name, is_signed := doc.buildSigned.getD false} := by
  obtain ⟨branch, product, name, buildAttemptStatus, buildSigned⟩ := doc
  cases buildSigned <;> rfl

theorem GetString_toJson (doc : BuildJson) :
    doc.toJson.GetString ["buildAttemptStatus"] =
      .error (.error "JSON selector \"buildAttemptStatus\" does not exist") := rfl

variable {request}

theorem GetBuild_ended {fuel requests : Nat} {result : Except Failure DeviceBuild}
    (ended : request.GetBuild fuel = some (result, requests)) :
    (∃ choice, request.candidate = .ok choice ∧ ∀ build, result = .ok build →
      build.id = (choice.map (·.build_id)).getD request.branch_or_id ∧
        build.safe_level = (choice.map (·.safe_level)).getD .kSafeLevelUnspecified) ∧
      result ≠ .error .check ∧ requests ≤ 2 ∧ (requests = 2 → request.terminal 0 = false) ∧
      ∀ build, result = .ok build →
        requests = 1 ∧ (request.retry_period = 0 ∨ request.terminal 0 = true) := by
  obtain ⟨choice, given, -⟩ := LatestBuildCandidate_chosen request.levels
  unfold GetBuild Web.GetBuild at ended
  rw [given] at ended
  dsimp only at ended
  rw [GetBuildInfo_toJson] at ended
  obtain ⟨⟨blocked, _⟩, waited, same⟩ := Option.map_eq_some_iff.mp ended
  cases same
  refine ⟨⟨choice, given, fun build built => ?_⟩, ?_⟩
  · cases blocked with
    | error failure => cases built
    | ok status_blocked =>
      cases built
      exact ⟨rfl, rfl⟩
  unfold BlockUntilTerminalStatus at waited
  split at waited
  · cases waited
    exact ⟨by simp [Except.map], by simp, by simp, fun build built => by cases built⟩
  cases fuel with
  | zero => cases waited
  | succ fuel =>
    rw [waitLoop] at waited
    split at waited
    · rename_i asks
      rw [GetString_toJson] at waited
      cases waited
      exact ⟨by simp [Except.map], by simp, fun _ => asks.2, fun build built => by cases built⟩
    · rename_i settled
      cases waited
      refine ⟨by simp [Except.map], by simp, by simp, fun build built => ⟨rfl, ?_⟩⟩
      by_cases stays : request.retry_period = 0
      · exact .inl stays
      · exact .inr (by simpa [stays, terminal] using settled)

theorem GetBuild_terminal (last : request.terminal 0 = true) :
    ∃ build, request.GetBuild 1 = some (.ok build, 1) := by
  obtain ⟨choice, given, -⟩ := LatestBuildCandidate_chosen request.levels
  have some_status : (request.docs 0).buildAttemptStatus ≠ "" := by
    intro empty
    rw [terminal, empty] at last
    revert last
    decide
  unfold GetBuild Web.GetBuild
  rw [given]
  dsimp only
  rw [GetBuildInfo_toJson]
  have settled : StatusIsTerminal (request.docs 0).buildAttemptStatus = true := last
  simp [BlockUntilTerminalStatus, some_status, waitLoop, settled, Except.map]

theorem Served.settled (served : request.Served) :
    request.retry_period = 0 ∨ request.terminal 0 = true ∨
      ∀ requests, request.terminal requests = false := by
  by_contra other
  rw [not_or, not_or, not_forall] at other
  obtain ⟨waits, running, requests, last⟩ := other
  obtain ⟨fuel, build, requests, got⟩ :=
    (served.returns waits).mpr ⟨requests, Bool.of_not_eq_false last⟩
  obtain ⟨-, settled⟩ := (GetBuild_ended got).2.2.2.2 build rfl
  exact settled.elim waits running

/-- A build is awaited as it should be exactly where there is nothing to wait for. -/
theorem build_awaited (request : Request) :
    request.Served ↔ request.retry_period = 0 ∨ request.terminal 0 = true ∨
      ∀ requests, request.terminal requests = false := by
  constructor
  · exact Served.settled
  · intro settled
    obtain ⟨choice, given, chosen⟩ := LatestBuildCandidate_chosen request.levels
    refine ⟨fun fuel requests got => (GetBuild_ended got).2.1 rfl,
      ⟨choice, given, chosen, fun fuel build requests got => ?_⟩, ?_, ?_, ?_⟩
    · obtain ⟨choice', given', fields⟩ := (GetBuild_ended got).1
      cases given.symm.trans given'
      exact fields build rfl
    · intro waits
      constructor
      · rintro ⟨fuel, build, requests, got⟩
        exact ⟨0, ((GetBuild_ended got).2.2.2.2 build rfl).2.resolve_left waits⟩
      · rintro ⟨requests, last⟩
        rcases settled.resolve_left waits with first | never
        · obtain ⟨build, got⟩ := GetBuild_terminal first
          exact ⟨1, build, 1, got⟩
        · cases last.symm.trans (never requests)
    · intro waits fuel build requests got
      obtain ⟨one, last⟩ := (GetBuild_ended got).2.2.2.2 build rfl
      cases one
      exact last.resolve_left waits
    · intro fuel result requests got earlier before
      obtain ⟨-, -, few, second, -⟩ := GetBuild_ended got
      obtain rfl : earlier = 0 := by omega
      exact second (by omega)

def pendingOnce : Request where
  levels _ := .ok none
  docs requests := ⟨"git_main", "cf", "cf_phone", if requests = 0 then "pending" else "complete", none⟩
  retry_period := 20
  branch_or_id := "12345"
  target := "cf_phone"

theorem pending_build_fails : ¬∀ request : Request, request.Served := by
  intro all
  rcases (all pendingOnce).settled with stays | last | never
  · cases stays
  · revert last
    decide
  · cases never 1

end Request

end Ika.Web
