import Ika.UserArtifacts.Completion
import Ika.UserArtifacts.ExtractSteps

/-! What becomes visible in any interleaving of the calls of a manager. -/

set_option autoImplicit false

namespace Ika.UserArtifacts

open Links Transition UserArtifactsManagerImpl List

def interleavings (RootDir WorkDir : Place) (sha256 : List UInt8 → String) (init : System → Prop) :
    Machine System Event where
  init := init
  step := System.step RootDir WorkDir sha256

/-- A manager that was just made, where only verified artifacts were visible. -/
structure Started (RootDir : Place) (uuid : String) (sha256 : List UInt8 → String)
    (system : System) : Prop where
  rooted : Rooted (uuidWorkDir RootDir uuid) system.m.files.tree
  empty : ∀ place, uuidWorkDir RootDir uuid <:+ place → place ≠ uuidWorkDir RootDir uuid →
    system.m.files.tree place = none
  artifacts : ∀ checksum, IsChecksum checksum → system.m.files.tree (checksum :: RootDir) = none ∨
    Verified RootDir sha256 system.m.files.tree checksum
  calls : system.calls = []

section Runs

variable {RootDir : Place} {uuid : String} {sha256 : List UInt8 → String}
variable {system after : System} {event : Event}

theorem Started.sound (started : Started RootDir uuid sha256 system) :
    Sound RootDir uuid sha256 system := by
  have none_ (pid : Nat) (call : Call) : system.calls[pid]? ≠ some call := by
    rw [started.calls]
    exact nofun
  exact
    { files :=
        { rooted := started.rooted
          artifacts := started.artifacts
          working := by
            intro checksum _
            left
            intro place below
            apply started.empty place ((suffix_cons _ _).trans below)
            rintro rfl
            exact not_below_working suffix_rfl below}
      relies := fun pid call among => absurd among (none_ pid call)
      exclusive := fun pid _ call _ _ _ among => absurd among (none_ pid call)
      apart := fun pid _ call _ _ _ among => absurd among (none_ pid call)}

variable {call : Call} {moved : Option (Place × Place)} {pid : Nat}

theorem Sound.called (sound : Sound RootDir uuid sha256 system)
    (relies : call.Relies RootDir uuid sha256 system.m.files.tree)
    (reads : ∀ checksum, call.reads checksum = false)
    (writes : ∀ checksum, call.writes checksum = false) (dir : call.dir = none) :
    Sound RootDir uuid sha256 {system with calls := system.calls ++ [call]} := by
  have either {pid : Nat} {another : Call} (among : (system.calls ++ [call])[pid]? = some another) :
      system.calls[pid]? = some another ∨ another = call := by
    rw [getElem?_append] at among
    split_ifs at among
    · exact .inl among
    · exact .inr (mem_singleton.mp (mem_of_getElem? among))
  constructor
  · exact sound.files
  · intro pid another among
    rcases either among with before | rfl
    · exact sound.relies pid another before
    · exact relies
  · intro pid other first second checksum apart among among' writing
    rcases either among with before | rfl
    · rcases either among' with before' | rfl
      · exact sound.exclusive pid other first second checksum apart before before' writing
      · exact ⟨reads checksum, writes checksum⟩
    · rw [writes] at writing
      cases writing
  · intro pid other first second place apart among among' held
    rcases either among with before | rfl
    · rcases either among' with before' | rfl
      · exact sound.apart pid other first second place apart before before' held
      · rw [dir]
        exact nofun
    · rw [dir] at held
      cases held

theorem relocateAll_getElem? {calls : List Call}
    (same : ∀ pair ∈ moved, ∀ call, calls[pid]? = some call → call.relocate pair.1 pair.2 = call) :
    (relocateAll moved calls)[pid]? = calls[pid]? := by
  cases moved with
  | none => rfl
  | some pair =>
    unfold relocateAll
    rw [getElem?_map]
    cases among : calls[pid]? with
    | none => rfl
    | some call => exact congrArg some (same pair rfl call among)

theorem relocateAll_length {calls : List Call} :
    (relocateAll moved calls).length = calls.length := by
  cases moved with
  | none => rfl
  | some pair => exact length_map _

theorem Stepped.sound {next : Call} {m : UserArtifactsManagerImpl}
    (sound : Sound RootDir uuid sha256 system) (found : system.calls[pid]? = some call)
    (stepped : Stepped RootDir uuid sha256 system pid call next m.files.tree moved) :
    Sound RootDir uuid sha256 {m, calls := (relocateAll moved system.calls).set pid next} := by
  apply stepped.frame.sound sound found stepped.proceeds
  · obtain ⟨inside, _⟩ := List.getElem?_eq_some_iff.mp found
    apply getElem?_set_self
    rw [relocateAll_length]
    exact inside
  · intro other apart
    rw [getElem?_set_ne apart.symm]
    apply relocateAll_getElem?
    intro pair among another there
    exact stepped.unmoved pair among other another apart there

theorem System.step_sound (sound : Sound RootDir uuid sha256 system)
    (careful : Careful (uuidWorkDir RootDir uuid) system event)
    (stepped : system.step RootDir (uuidWorkDir RootDir uuid) sha256 event = some after) :
    Sound RootDir uuid sha256 after ∧
      ∀ checksum, IsChecksum checksum → system.m.files.tree (checksum :: RootDir) ≠ none →
        ∀ place, Below RootDir checksum place →
          after.m.files.tree place = system.m.files.tree place := by
  cases event with
  | update checksum chunk =>
    cases stepped
    refine ⟨?_, fun _ _ _ _ _ => rfl⟩
    cases invalid chunk with
    | none =>
      exact sound.called ⟨careful, trivial⟩ (fun _ => decide_eq_false nofun)
        (fun _ => decide_eq_false nofun) rfl
    | some error =>
      exact sound.called ⟨careful, trivial⟩ (fun _ => decide_eq_false nofun)
        (fun _ => decide_eq_false nofun) rfl
  | extract checksum =>
    cases stepped
    exact ⟨sound.called ⟨careful, trivial⟩ (fun _ => rfl) (fun _ => rfl) rfl, fun _ _ _ _ _ => rfl⟩
  | run pid answer =>
    unfold System.step at stepped
    unfold Careful at careful
    dsimp only at stepped careful
    cases found : system.calls[pid]? with
    | none =>
      rw [found] at stepped
      cases stepped
    | some call =>
      rw [found] at stepped careful
      cases call with
      | update checksum chunk stage =>
        obtain ⟨outcome, moved, rfl⟩ := Option.map_eq_some_iff.mp stepped
        have steps := updateStep_stepped sound found careful moved
        exact ⟨steps.sound sound found, steps.frame.visible⟩
      | extract checksum stage =>
        obtain ⟨outcome, moved, rfl⟩ := Option.map_eq_some_iff.mp stepped
        have steps := extractStep_stepped sound found careful moved
        exact ⟨steps.sound sound found, steps.frame.visible⟩

variable {init : System → Prop}

theorem Sound.reaches
    (reached : (interleavings RootDir (uuidWorkDir RootDir uuid) sha256 init).Reaches
      (Careful (uuidWorkDir RootDir uuid)) system)
    (begins : ∀ system, init system → Sound RootDir uuid sha256 system) :
    Sound RootDir uuid sha256 system := by
  apply reached.invariant begins
  intro before event after sound careful stepped
  exact (System.step_sound sound careful stepped).1

theorem Sound.immutable (sound : Sound RootDir uuid sha256 system)
    (reached : (interleavings RootDir (uuidWorkDir RootDir uuid) sha256 (· = system)).Reaches
      (Careful (uuidWorkDir RootDir uuid)) after) :
    ∀ checksum, IsChecksum checksum → system.m.files.tree (checksum :: RootDir) ≠ none →
      ∀ place, Below RootDir checksum place →
        after.m.files.tree place = system.m.files.tree place := by
  intro checksum is stands
  apply reached.invariant_with (Sound RootDir uuid sha256)
  · intro other reached
    apply Sound.reaches reached
    rintro _ rfl
    exact sound
  · rintro _ rfl _ _
    rfl
  · intro before event next known same careful stepped place below
    apply ((System.step_sound known careful stepped).2 checksum is _ place below).trans
      (same place below)
    rw [same _ below_self]
    exact stands

end Runs

/-- However the calls are interleaved, with names and archives that keep to their directories: what
is visible is one whole file with the checksum, which stays as it is. -/
theorem only_verified_visible (RootDir : Place) (uuid : String) (sha256 : List UInt8 → String)
    (system : System)
    (reached : (interleavings RootDir (uuidWorkDir RootDir uuid) sha256
      (Started RootDir uuid sha256)).Reaches (Careful (uuidWorkDir RootDir uuid)) system) :
    (∀ checksum, IsChecksum checksum → system.m.files.tree (checksum :: RootDir) ≠ none →
        Verified RootDir sha256 system.m.files.tree checksum) ∧
      (∀ after, (interleavings RootDir (uuidWorkDir RootDir uuid) sha256 (· = system)).Reaches
          (Careful (uuidWorkDir RootDir uuid)) after →
        ∀ checksum, IsChecksum checksum → system.m.files.tree (checksum :: RootDir) ≠ none →
          ∀ place, Below RootDir checksum place →
            after.m.files.tree place = system.m.files.tree place) ∧
      ∀ checksum, Call.extract checksum (.done (some several)) ∉ system.calls := by
  have sound := Sound.reaches reached fun _ started => started.sound
  refine ⟨?_, ?_, ?_⟩
  · intro checksum is stands
    exact (sound.files.artifacts checksum is).resolve_left stands
  · intro after later
    exact sound.immutable later
  · intro checksum among
    obtain ⟨pid, found⟩ := getElem?_of_mem among
    exact (sound.relies pid _ found).2 rfl

def steps (pid count : Nat) : List Event :=
  List.replicate count (.run pid {faults := {copied := 2}})

def threeBytesStart : System := {m := newManager}

theorem threeBytesStart_started : Started ["a"] "u" threeBytesSha256 threeBytesStart where
  rooted := newManager_fresh.rooted
  empty := newManager_fresh.empty
  artifacts := by
    intro checksum is
    left
    by_contra stands
    obtain ⟨entry, among, same⟩ := Disk.tree_ne_none.mp stands
    have others : ∀ entry ∈ newManager.files.disk, entry.1.length = 2 →
        entry.1 = ["working", "a"] := by decide
    have working := others entry among (same ▸ rfl)
    rw [same] at working
    exact is.ne_working (cons.inj working).1
  calls := rfl

def carefulCalls : List Event :=
  [.update threeBytesSum ⟨["f"], [3], 2, 1, 3⟩] ++ steps 0 5 ++
    [.update threeBytesSum ⟨["f"], [1, 2], 0, 2, 3⟩, .extract threeBytesSum] ++ steps 1 9 ++
      steps 0 10 ++ steps 2 3

def carefulEnd : System :=
  ((interleavings ["a"] (uuidWorkDir ["a"] "u") threeBytesSha256
    (Started ["a"] "u" threeBytesSha256)).runAllowed (Careful (uuidWorkDir ["a"] "u"))
      threeBytesStart carefulCalls).getD threeBytesStart

theorem only_verified_visible_three :
    carefulEnd.m.files.tree [threeBytesSum, "a"] ≠ none ∧
      Verified ["a"] threeBytesSha256 carefulEnd.m.files.tree threeBytesSum := by
  have stands : carefulEnd.m.files.tree [threeBytesSum, "a"] ≠ none := by decide +kernel
  have reached : (interleavings ["a"] (uuidWorkDir ["a"] "u") threeBytesSha256
      (Started ["a"] "u" threeBytesSha256)).Reaches (Careful (uuidWorkDir ["a"] "u"))
        carefulEnd := by
    apply Machine.Reaches.getD_runAllowed carefulCalls (.start threeBytesStart_started)
    decide +kernel
  exact ⟨stands, (only_verified_visible ["a"] "u" threeBytesSha256 carefulEnd reached).1
    threeBytesSum (by decide) stands⟩

def HexCalls (_ : System) : Event → Prop
  | .update checksum _ | .extract checksum => IsChecksum checksum
  | .run _ _ => True

instance (system : System) : (event : Event) → Decidable (HexCalls system event)
  | .update checksum _ | .extract checksum => inferInstanceAs (Decidable (IsChecksum checksum))
  | .run _ _ => isTrue trivial

def renamedCalls : List Event :=
  [.update threeBytesSum ⟨["g"], [1, 2], 0, 2, 3⟩] ++ steps 0 9 ++
    [.update threeBytesSum ⟨["f"], [1, 2, 3], 0, 3, 3⟩] ++ steps 1 15 ++
      [.extract threeBytesSum] ++ steps 2 3

def renamedEnd : System :=
  ((interleavings ["a"] (uuidWorkDir ["a"] "u") threeBytesSha256
    (Started ["a"] "u" threeBytesSha256)).runAllowed HexCalls threeBytesStart renamedCalls).getD
      threeBytesStart

/-- Both files are published, and the artifact cannot be extracted. -/
theorem other_file_visible :
    ¬∀ (RootDir : Place) (uuid : String) (sha256 : List UInt8 → String) (system : System),
      (interleavings RootDir (uuidWorkDir RootDir uuid) sha256
          (Started RootDir uuid sha256)).Reaches HexCalls system →
        (∀ checksum, IsChecksum checksum → system.m.files.tree (checksum :: RootDir) ≠ none →
            Verified RootDir sha256 system.m.files.tree checksum) ∧
          (∀ after, (interleavings RootDir (uuidWorkDir RootDir uuid) sha256
              (· = system)).Reaches HexCalls after →
            ∀ checksum, IsChecksum checksum → system.m.files.tree (checksum :: RootDir) ≠ none →
              ∀ place, Below RootDir checksum place →
                after.m.files.tree place = system.m.files.tree place) ∧
            ∀ checksum, Call.extract checksum (.done (some several)) ∉ system.calls := by
  intro verified
  have reached : (interleavings ["a"] (uuidWorkDir ["a"] "u") threeBytesSha256
      (Started ["a"] "u" threeBytesSha256)).Reaches HexCalls renamedEnd := by
    apply Machine.Reaches.getD_runAllowed renamedCalls (.start threeBytesStart_started)
    decide +kernel
  have failed : Call.extract threeBytesSum (.done (some several)) ∈ renamedEnd.calls := by
    decide +kernel
  exact (verified ["a"] "u" threeBytesSha256 renamedEnd reached).2.2 threeBytesSum failed

end Ika.UserArtifacts
