import Ika.Foundation.Contents
import Ika.Foundation.Disk

/-!
The system calls on files, with every path resolved through the links on its way.

A file is created and written where its path leads; what was created or written is recorded.
-/

set_option autoImplicit false

namespace Ika.UserArtifacts

open Links

def maxLinks : Nat := 40

structure State where
  disk : Disk
  touched : List Place := []

namespace State

def tree (state : State) : Tree := state.disk.tree

def put (state : State) (place : Place) (node : Node) : State :=
  { disk := (place, node) :: state.disk
    touched := place :: state.touched}

@[simp] theorem tree_put (state : State) (place : Place) (node : Node) :
    (state.put place node).tree = Function.update state.tree place (some node) :=
  Disk.tree_put

/-- What a path leads to, for `Stat` with `follow` and for `Lstat` without. -/
def lookup (state : State) (follow : Bool) (path : Place) : Option Node :=
  (walk state.tree follow maxLinks path.reverse []).bind fun found => state.tree found.1

section Calls

variable (permits : Place → Bool) (state : State)

/-- The system call behind `Mkdir` and `Symlink`. -/
def create (path : Place) (node : Node) : Option State :=
  match walk state.tree false maxLinks path.reverse [] with
  | some (place, _) =>
    if state.tree place = none ∧ permits place then some (state.put place node) else none
  | none => none

def Mkdir (path : Place) : Option State := create permits state path .dir

def Symlink (absolute : Bool) (Linkname : List String) (path : Place) : Option State :=
  if absolute = false ∧ Linkname = [] then none
  else create permits state path (.link absolute Linkname)

/-- Whether the directory stands at the end is told apart from what was made on the way to it. -/
def MkdirAll : Place → State × Bool
  | [] => (state, true)
  | name :: parent =>
    match state.lookup true (name :: parent) with
    | some node => (state, node = .dir)
    | none =>
      match MkdirAll parent with
      | (made, false) => (made, false)
      | (made, true) =>
        match Mkdir permits made (name :: parent) with
        | some made => (made, true)
        | none => (made, made.lookup false (name :: parent) = some .dir)

/-- Opened to be written, with `O_CREATE` and not truncated. -/
def OpenFile (path : Place) : Option (State × Place) :=
  match walk state.tree true maxLinks path.reverse [] with
  | some (place, _) =>
    match state.tree place with
    | none => if permits place then some (state.put place (.file []), place) else none
    | some (.file _) => if permits place then some (state, place) else none
    | _ => none
  | none => none

def Write (place : Place) (offset : Nat) (content : List UInt8) : State :=
  match state.tree place with
  | some (.file bytes) => state.put place (.file (Contents.overwrite bytes offset content))
  | _ => state

/-- `os.Rename`, which does not replace a directory. -/
def Rename (oldname newname : Place) : Option State :=
  match walk state.tree false maxLinks oldname.reverse [],
    walk state.tree false maxLinks newname.reverse [] with
  | some (source, _), some (target, _) =>
    if state.tree source = none ∨ state.tree target = some .dir ∨
        state.tree source = some .dir ∧ state.tree target ≠ none ∨ source <:+ target then
      none
    else if permits target then
      some {disk := state.disk.move source target, touched := target :: state.touched}
    else none
  | _, _ => none

end Calls

end State

section Specs

variable {path : Place} {state made : State} {permits : Place → Bool} {node : Node}

theorem lookup_spec {follow : Bool} (stands : state.lookup follow path = some node) :
    ∃ found, walk state.tree follow maxLinks path.reverse [] = some found ∧
      state.tree found.1 = some node :=
  Option.bind_eq_some_iff.mp stands

theorem create_spec (created : state.create permits path node = some made) :
    ∃ found, walk state.tree false maxLinks path.reverse [] = some found ∧
      state.tree found.1 = none ∧ made = state.put found.1 node := by
  unfold State.create at created
  cases walked : walk state.tree false maxLinks path.reverse [] with
  | none =>
    rw [walked] at created
    cases created
  | some found =>
    rw [walked] at created
    dsimp only at created
    split_ifs at created with allowed
    exact ⟨found, rfl, allowed.1, (Option.some.inj created).symm⟩

theorem OpenFile_spec {place : Place} (opened : state.OpenFile permits path = some (made, place)) :
    ∃ left, walk state.tree true maxLinks path.reverse [] = some (place, left) ∧
      state.tree place ≠ some .dir ∧ (made = state ∨ made = state.put place (.file [])) := by
  unfold State.OpenFile at opened
  cases walked : walk state.tree true maxLinks path.reverse [] with
  | none =>
    rw [walked] at opened
    cases opened
  | some found =>
    rw [walked] at opened
    dsimp only at opened
    cases stands : state.tree found.1 with
    | none =>
      rw [stands] at opened
      dsimp only at opened
      split_ifs at opened
      cases opened
      refine ⟨found.2, rfl, ?_, .inr rfl⟩
      rw [stands]
      exact nofun
    | some node =>
      rw [stands] at opened
      cases node with
      | dir => cases opened
      | link absolute target => cases opened
      | file bytes =>
        dsimp only at opened
        split_ifs at opened
        cases opened
        refine ⟨found.2, rfl, ?_, .inl rfl⟩
        rw [stands]
        exact nofun

end Specs

section Children

variable {home : Place} {name : String} {state : State} {permits : Place → Bool}
  (rooted : Rooted home state.tree) (plain : Plain name)

include rooted plain

theorem lookup_child (follow : Bool) (unlinked : ¬Linked state.tree (name :: home)) :
    state.lookup follow (name :: home) = state.tree (name :: home) := by
  unfold State.lookup
  rw [rooted.walk_child_unlinked plain follow unlinked]
  rfl

theorem create_child (node : Node) : state.create permits (name :: home) node =
    if state.tree (name :: home) = none ∧ permits (name :: home) then
      some (state.put (name :: home) node)
    else none := by
  unfold State.create
  rw [rooted.walk_child plain]

theorem OpenFile_child (unlinked : ¬Linked state.tree (name :: home)) :
    state.OpenFile permits (name :: home) =
      match state.tree (name :: home) with
      | none =>
        if permits (name :: home) then some (state.put (name :: home) (.file []), name :: home)
        else none
      | some (.file _) => if permits (name :: home) then some (state, name :: home) else none
      | _ => none := by
  unfold State.OpenFile
  rw [rooted.walk_child_unlinked plain true unlinked]

end Children

end Ika.UserArtifacts
