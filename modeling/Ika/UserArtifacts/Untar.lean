import Ika.UserArtifacts.FileSystem

/-!
Extraction of a tar archive into a directory of its own.

The names in an archive and what its links say are checked as texts, before the system resolves them
through the links that earlier entries made.
-/

set_option autoImplicit false

namespace Ika.UserArtifacts

open Links List

/-- `filepath.Join` onto an absolute path, cleaned. -/
def Join (directory : Place) : List String → Place
  | [] => directory
  | name :: rest =>
    if name = "" ∨ name = "." then Join directory rest
    else if name = ".." then Join directory.tail rest
    else Join (name :: directory) rest

/-- `filepath.Rel` of cleaned absolute paths, both from the root on. -/
def Rel : List String → List String → List String
  | base :: bases, target :: targets =>
    if base = target then Rel bases targets
    else List.replicate (bases.length + 1) ".." ++ target :: targets
  | bases, targets => List.replicate bases.length ".." ++ targets

def isSafeToExtract (dst target : Place) : Bool :=
  (Rel dst.reverse target.reverse).head? ≠ some ".."

inductive Typeflag where
  | TypeDir
  /-- The copy of the content may end with an error. -/
  | TypeReg (content : List UInt8) (whole : Bool)
  /-- What the link says is split at its slashes, behind a leading one if it is absolute. -/
  | TypeSymlink (absolute : Bool) (Linkname : List String)
  | other

structure Header where
  Name : List String
  Typeflag : Typeflag

section Archive

variable (dst : Place)

def extract (permits : Place → Bool) (header : Header) (state : State) : State × Bool :=
  let target := Join dst header.Name
  if isSafeToExtract dst target then
    match header.Typeflag with
    | .TypeDir =>
      if (state.lookup true target).isSome then (state, true) else state.MkdirAll permits target
    | .TypeReg content whole =>
      match state.OpenFile permits target with
      | some (opened, place) => (opened.Write place 0 content, whole)
      | none => (state, false)
    | .TypeSymlink absolute Linkname =>
      let linkTarget := if absolute then Join [] Linkname else Join target.tail Linkname
      if isSafeToExtract dst linkTarget then
        match state.Symlink permits absolute Linkname target with
        | some linked => (linked, true)
        | none => (state, false)
      else (state, false)
    | .other => (state, true)
  else (state, false)

/-- The entries of an archive, each with where the system lets it create and write. -/
def untar : List (Header × (Place → Bool)) → State → State × Bool
  | [], state => (state, true)
  | (header, permits) :: rest, state =>
    match extract dst permits header state with
    | (state, true) => untar rest state
    | (state, false) => (state, false)

end Archive

section Checked

variable {dst directory : Place} {name : String}

theorem Join_plain {parts : List String} (plain : ∀ name ∈ directory, Plain name) :
    ∀ name ∈ Join directory parts, Plain name := by
  induction parts generalizing directory with
  | nil => exact plain
  | cons part rest ih =>
    unfold Join
    by_cases here : part = "" ∨ part = "."
    · rw [if_pos here]
      exact ih plain
    · rw [if_neg here]
      by_cases up : part = ".."
      · rw [if_pos up]
        apply ih
        intro name among
        exact plain name (mem_of_mem_tail among)
      · rw [if_neg up]
        apply ih
        intro name among
        rcases mem_cons.mp among with rfl | among
        · exact plain_of_not here up
        · exact plain name among

theorem Rel_safe {bases targets : List String} (plain : ∀ name ∈ targets, Plain name) :
    (Rel bases targets).head? ≠ some ".." ↔ bases <+: targets := by
  induction bases generalizing targets with
  | nil =>
    cases targets with
    | nil => exact ⟨fun _ => nil_prefix, fun _ => nofun⟩
    | cons target targets =>
      refine ⟨fun _ => nil_prefix, fun _ same => ?_⟩
      exact (plain target mem_cons_self).2.2 (Option.some.inj same)
  | cons base bases ih =>
    cases targets with
    | nil =>
      refine ⟨fun safe => absurd rfl safe, fun below => ?_⟩
      exact absurd (prefix_nil.mp below) (cons_ne_nil _ _)
    | cons target targets =>
      rw [Rel]
      by_cases same : base = target
      · subst same
        rw [if_pos rfl, ih fun name among => plain name (mem_cons_of_mem _ among),
          prefix_cons_inj]
      · rw [if_neg same]
        refine ⟨fun safe => absurd rfl safe, fun below => ?_⟩
        exact absurd (cons_prefix_cons.mp below).1 same

theorem isSafeToExtract_iff {target : Place} (plain : ∀ name ∈ target, Plain name) :
    isSafeToExtract dst target = true ↔ dst <:+ target := by
  have reversed : ∀ name ∈ target.reverse, Plain name :=
    fun name among => plain name (mem_reverse.mp among)
  rw [isSafeToExtract, decide_eq_true_iff, Rel_safe reversed, reverse_prefix]

end Checked

structure Confined (dst : Place) (state : State) : Prop where
  rooted : Rooted dst state.tree
  inside : ∀ place ∈ state.touched, dst <:+ place

/-- The part of the target whose links are followed: at its end only where a file is opened. -/
def Header.followed (dst : Place) (header : Header) : Place :=
  match header.Typeflag with
  | .TypeReg _ _ => Join dst header.Name
  | _ => (Join dst header.Name).tail

def Straight (dst : Place) (header : Header) (state : State) : Prop :=
  ∀ above, above <:+ header.followed dst → Keeps dst state.tree maxLinks above

instance (dst : Place) (header : Header) (state : State) : Decidable (Straight dst header state) :=
  decidable_of_iff (∀ above ∈ (header.followed dst).tails, Keeps dst state.tree maxLinks above)
    (forall_congr' fun _ => imp_congr_left (mem_tails _ _))

def Straightly (dst : Place) : List (Header × (Place → Bool)) → State → Prop
  | [], _ => True
  | (header, permits) :: rest, state =>
    Straight dst header state ∧
      ((extract dst permits header state).2 = true →
        Straightly dst rest (extract dst permits header state).1)

instance (dst : Place) : (headers : List (Header × (Place → Bool))) → (state : State) →
    Decidable (Straightly dst headers state)
  | [], _ => isTrue trivial
  | (header, permits) :: rest, state =>
    have := instDecidableStraightly dst rest (extract dst permits header state).1
    inferInstanceAs (Decidable (_ ∧ (_ → _)))

section Steps

variable {dst path : Place} {state made : State} {permits : Place → Bool} {node : Node}

theorem Confined.put {place : Place} (confined : Confined dst state)
    (other : state.tree place ≠ some .dir) (below : dst <:+ place) :
    Confined dst (state.put place node) where
  rooted := state.tree_put place node ▸ confined.rooted.update other
  inside := by
    intro touched among
    rcases mem_cons.mp among with rfl | among
    · exact below
    · exact confined.inside touched among

theorem create_inside (rooted : Rooted dst state.tree) (below : dst <:+ path)
    (plain : ∀ name ∈ path, Plain name)
    (keeps : ∀ above, above <:+ path.tail → Keeps dst state.tree maxLinks above)
    (created : state.create permits path node = some made) :
    ∃ place, dst <:+ place ∧ state.tree place = none ∧ made = state.put place node := by
  obtain ⟨found, walked, missing, rfl⟩ := create_spec created
  refine ⟨found.1, ?_, missing, rfl⟩
  cases path with
  | nil =>
    rw [suffix_nil.mp below]
    exact nil_suffix
  | cons name parent =>
    rcases suffix_cons_iff.mp below with rfl | below
    · rw [rooted.walk_reverse] at walked
      cases walked
      exact suffix_rfl
    · exact rooted.walk_name_inside below plain keeps walked

theorem Confined.create (confined : Confined dst state) (below : dst <:+ path)
    (plain : ∀ name ∈ path, Plain name)
    (keeps : ∀ above, above <:+ path.tail → Keeps dst state.tree maxLinks above)
    (created : state.create permits path node = some made) : Confined dst made := by
  obtain ⟨place, inside, missing, rfl⟩ :=
    create_inside confined.rooted below plain keeps created
  apply confined.put _ inside
  rw [missing]
  exact nofun

variable {place : Place} {found : Place × Nat}

theorem Confined.write (confined : Confined dst state) (below : dst <:+ place) (offset : Nat)
    (content : List UInt8) : Confined dst (state.Write place offset content) := by
  unfold State.Write
  cases stands : state.tree place with
  | none => exact confined
  | some node =>
    cases node with
    | dir => exact confined
    | link absolute target => exact confined
    | file bytes =>
      apply confined.put _ below
      rw [stands]
      exact nofun

theorem OpenFile_inside (rooted : Rooted dst state.tree) (below : dst <:+ path)
    (plain : ∀ name ∈ path, Plain name)
    (keeps : ∀ above, above <:+ path → Keeps dst state.tree maxLinks above)
    (opened : state.OpenFile permits path = some (made, place)) :
    dst <:+ place ∧ state.tree place ≠ some .dir ∧
      (made = state ∨ made = state.put place (.file [])) := by
  obtain ⟨left, walked, other, either⟩ := OpenFile_spec opened
  exact ⟨rooted.walk_inside below plain keeps walked, other, either⟩

theorem Confined.openFile (confined : Confined dst state) (below : dst <:+ path)
    (plain : ∀ name ∈ path, Plain name)
    (keeps : ∀ above, above <:+ path → Keeps dst state.tree maxLinks above)
    (opened : state.OpenFile permits path = some (made, place)) :
    Confined dst made ∧ dst <:+ place := by
  obtain ⟨inside, other, rfl | rfl⟩ := OpenFile_inside confined.rooted below plain keeps opened
  · exact ⟨confined, inside⟩
  · exact ⟨confined.put other inside, inside⟩

/-- A path leads somewhere, and not out of the directory. -/
def Reached (dst path : Place) (state : State) : Prop :=
  ∃ found, walk state.tree true maxLinks path.reverse [] = some found ∧ dst <:+ found.1

variable {name : String} {parent : Place}

theorem Reached.named (reached : Reached dst parent state) (plain : Plain name)
    (walked : walk state.tree false maxLinks (name :: parent).reverse [] = some found) :
    dst <:+ found.1 := by
  rw [reverse_cons] at walked
  obtain ⟨place, left, before, behind⟩ := walk_concat walked
  obtain ⟨reaches, walks, inside⟩ := reached
  rw [before] at walks
  cases walks
  rw [behind, walk_name plain] at walked
  cases walked
  exact inside.trans (suffix_cons name place)

theorem Reached.follow (reached : Reached dst parent state) (plain : Plain name)
    (walked : walk state.tree false maxLinks (name :: parent).reverse [] = some found)
    (unlinked : ¬Linked state.tree found.1) : Reached dst (name :: parent) state := by
  refine ⟨found, ?_, reached.named plain walked⟩
  rw [reverse_cons] at walked ⊢
  exact walk_follow plain walked unlinked

theorem Reached.mkdir (reached : Reached dst parent state) (plain : Plain name)
    (created : state.Mkdir permits (name :: parent) = some made) :
    Reached dst (name :: parent) made := by
  obtain ⟨found, walked, missing, rfl⟩ := create_spec created
  have unlinked : ¬Linked state.tree found.1 := not_linked_of_ne missing nofun
  obtain ⟨same, walks, inside⟩ := reached.follow plain walked unlinked
  refine ⟨same, ?_, inside⟩
  rw [State.tree_put]
  exact walk_update missing walks (.inr nofun)

theorem Confined.mkdir (confined : Confined dst state) (reached : Reached dst parent state)
    (plain : Plain name) (created : state.Mkdir permits (name :: parent) = some made) :
    Confined dst made := by
  obtain ⟨found, walked, missing, rfl⟩ := create_spec created
  apply confined.put _ (reached.named plain walked)
  rw [missing]
  exact nofun

theorem Reached.stands (reached : Reached dst parent state) (plain : Plain name)
    (stands : state.lookup false (name :: parent) = some .dir) :
    Reached dst (name :: parent) state := by
  obtain ⟨found, walked, stands⟩ := lookup_spec stands
  exact reached.follow plain walked (not_linked_of_ne stands nofun)

/-- The induction is on the path, as the recursion of `MkdirAll` is: its parent is made first. -/
theorem Confined.mkdirAll (confined : Confined dst state) (below : dst <:+ path)
    (plain : ∀ name ∈ path, Plain name)
    (keeps : ∀ above, above <:+ path.tail → Keeps dst state.tree maxLinks above) :
    Confined dst (state.MkdirAll permits path).1 ∧
      ((state.MkdirAll permits path).2 = true → Keeps dst state.tree maxLinks path →
        Reached dst path (state.MkdirAll permits path).1) := by
  induction path with
  | nil =>
    refine ⟨confined, fun _ _ => ⟨([], maxLinks), rfl, ?_⟩⟩
    rw [suffix_nil.mp below]
  | cons name parent ih =>
    have named := plain name mem_cons_self
    unfold State.MkdirAll
    cases looked : state.lookup true (name :: parent) with
    | some node =>
      refine ⟨confined, fun _ last => ?_⟩
      obtain ⟨found, walked, stands⟩ := lookup_spec looked
      refine ⟨found, walked, confined.rooted.walk_inside below plain ?_ walked⟩
      intro above upper
      rcases suffix_cons_iff.mp upper with rfl | upper
      · exact last
      · exact keeps above upper
    | none =>
      rcases suffix_cons_iff.mp below with rfl | lower
      · -- the directory itself stands, so this is not reached
        unfold State.lookup at looked
        rw [confined.rooted.walk_reverse, Option.bind_some,
          confined.rooted.stands _ suffix_rfl] at looked
        cases looked
      · have parents := ih lower (fun part among => plain part (mem_cons_of_mem _ among))
          (fun above upper => keeps above (upper.trans (tail_suffix parent)))
        cases going : state.MkdirAll permits parent with
        | mk before ok =>
          rw [going] at parents
          cases ok with
          | false => exact ⟨parents.1, nofun⟩
          | true =>
            have reached := parents.2 rfl (keeps parent suffix_rfl)
            dsimp only at parents ⊢
            cases created : before.Mkdir permits (name :: parent) with
            | some made =>
              exact ⟨parents.1.mkdir reached named created, fun _ _ => reached.mkdir named created⟩
            | none =>
              refine ⟨parents.1, fun stands _ => ?_⟩
              exact reached.stands named (of_decide_eq_true stands)

end Steps

section Archive

variable {dst : Place} {state : State} {permits : Place → Bool} {header : Header}

theorem Confined.extract (confined : Confined dst state) (straight : Straight dst header state) :
    Confined dst (extract dst permits header state).1 := by
  have plain := @Join_plain dst header.Name confined.rooted.plain
  unfold Straight Header.followed at straight
  unfold UserArtifacts.extract
  dsimp only
  by_cases safe : isSafeToExtract dst (Join dst header.Name) = true
  · rw [if_pos safe]
    have below := (isSafeToExtract_iff plain).mp safe
    cases kind : header.Typeflag with
    | TypeDir =>
      rw [kind] at straight
      dsimp only
      split_ifs
      · exact confined
      · exact (confined.mkdirAll below plain straight).1
    | TypeReg content whole =>
      rw [kind] at straight
      dsimp only
      cases opening : state.OpenFile permits (Join dst header.Name) with
      | none => exact confined
      | some opened =>
        have file := confined.openFile below plain straight opening
        exact file.1.write file.2 0 content
    | TypeSymlink absolute Linkname =>
      rw [kind] at straight
      dsimp only
      -- what the link says decides only whether it is made
      generalize (if absolute = true then Join [] Linkname else _) = linkTarget
      split_ifs
      · cases linking : state.Symlink permits absolute Linkname (Join dst header.Name) with
        | none => exact confined
        | some linked =>
          unfold State.Symlink at linking
          split_ifs at linking
          exact confined.create below plain straight linking
      · exact confined
    | other => exact confined
  · rw [if_neg safe]
    exact confined

theorem Confined.untar {headers : List (Header × (Place → Bool))} (confined : Confined dst state)
    (straightly : Straightly dst headers state) : Confined dst (untar dst headers state).1 := by
  induction headers generalizing state with
  | nil => exact confined
  | cons entry rest ih =>
    obtain ⟨header, permits⟩ := entry
    have kept := @Confined.extract dst state permits header confined straightly.1
    have further := straightly.2
    unfold UserArtifacts.untar
    cases extracted : UserArtifacts.extract dst permits header state with
    | mk next ok =>
      rw [extracted] at kept further
      cases ok with
      | false => exact kept
      | true => exact ih kept (further rfl)

/-- Nothing outside of the directory is written while no link on an entry's way leads out of it. -/
theorem untar_stays_inside (dst : Place) (headers : List (Header × (Place → Bool))) (disk : Disk)
    (rooted : Rooted dst disk.tree) (straightly : Straightly dst headers {disk}) :
    ∀ place ∈ (untar dst headers {disk}).1.touched, dst <:+ place := by
  have fresh : Confined dst {disk} := ⟨rooted, nofun⟩
  exact (fresh.untar straightly).inside

def emptyDir : Place := ["x", "w"]

def emptyDisk : Disk := [(["x", "w"], .dir), (["w"], .dir), ([], .dir)]

theorem emptyDir_rooted : Rooted emptyDir emptyDisk.tree where
  stands place above := by
    have all : ∀ place ∈ emptyDir.tails, emptyDisk.tree place = some .dir := by decide
    exact all place ((mem_tails _ _).mpr above)
  plain := by decide

def everywhere : Place → Bool := fun _ => true

def linkedArchive : List (Header × (Place → Bool)) :=
  [(⟨["d"], .TypeDir⟩, everywhere), (⟨["s"], .TypeSymlink false ["d"]⟩, everywhere),
    (⟨["s", "f"], .TypeReg [1] true⟩, everywhere)]

theorem untar_stays_inside_linked :
    ["f", "d", "x", "w"] ∈ (untar emptyDir linkedArchive {disk := emptyDisk}).1.touched ∧
      ∀ place ∈ (untar emptyDir linkedArchive {disk := emptyDisk}).1.touched,
        emptyDir <:+ place :=
  ⟨by decide, untar_stays_inside emptyDir linkedArchive emptyDisk emptyDir_rooted (by decide)⟩

def escapingArchive : List (Header × (Place → Bool)) :=
  [(⟨["d"], .TypeDir⟩, everywhere), (⟨["d", "s"], .TypeSymlink false [".."]⟩, everywhere),
    (⟨["e"], .TypeSymlink false ["d", "s", ".."]⟩, everywhere),
    (⟨["e", "evil"], .TypeReg [1] true⟩, everywhere)]

/-- Every entry passes the checks, and the file ends up beside the directory. -/
theorem untar_escapes :
    ¬∀ (dst : Place) (headers : List (Header × (Place → Bool))) (disk : Disk),
      Rooted dst disk.tree → (∀ place, dst <:+ place → place ≠ dst → disk.tree place = none) →
        ∀ place ∈ (untar dst headers {disk}).1.touched, dst <:+ place := by
  intro inside
  have evil : ["evil", "w"] ∈
      (untar emptyDir escapingArchive {disk := emptyDisk}).1.touched := by decide
  have fresh : ∀ place, emptyDir <:+ place → place ≠ emptyDir → emptyDisk.tree place = none := by
    intro place below apart
    by_contra stands
    obtain ⟨entry, among, same⟩ := Disk.tree_ne_none.mp stands
    have above : ∀ entry ∈ emptyDisk, entry.1 <:+ emptyDir := by decide
    exact apart ((same ▸ above entry among).eq_of_length_le below.length_le)
  have below := inside emptyDir escapingArchive emptyDisk emptyDir_rooted fresh _ evil
  revert below
  decide

end Archive

end Ika.UserArtifacts
