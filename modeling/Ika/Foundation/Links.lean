import Mathlib.Data.List.Infix

/-! Paths that are resolved component by component, through symbolic links. -/

set_option autoImplicit false

namespace Links

open List Function

/-- Where something is: the names from it up to the root. -/
abbrev Place := List String

inductive Node where
  | dir
  | file (bytes : List UInt8)
  | link (absolute : Bool) (target : List String)
  deriving DecidableEq, Repr

abbrev Tree := Place → Option Node

inductive Scanned where
  | stopped (place : Option Place)
  | jumped (pending : List String) (directory : Place)

/-- The last component may be missing, and is followed where it is a link and `follow` is set. -/
def scan (tree : Tree) (follow : Bool) : List String → Place → Scanned
  | [], directory => .stopped (some directory)
  | name :: rest, directory =>
    if name = "" ∨ name = "." then scan tree follow rest directory
    else if name = ".." then scan tree follow rest directory.tail
    else
      match tree (name :: directory) with
      | some .dir => scan tree follow rest (name :: directory)
      | some (.link absolute target) =>
        if rest = [] ∧ follow = false then .stopped (some (name :: directory))
        else .jumped (target ++ rest) (if absolute then [] else directory)
      | _ => .stopped (if rest = [] then some (name :: directory) else none)

/-- Where a path leads, and how many links may still be followed behind it. -/
def walk (tree : Tree) (follow : Bool) : Nat → List String → Place → Option (Place × Nat)
  | budget, pending, directory =>
    match scan tree follow pending directory with
    | .stopped place => place.map (·, budget)
    | .jumped pending directory =>
      match budget with
      | 0 => none
      | budget + 1 => walk tree follow budget pending directory

/-- A component that is a name, and not a way to say where one is. -/
def Plain (name : String) : Prop := name ≠ "" ∧ name ≠ "." ∧ name ≠ ".."
  deriving Decidable

def Linked (tree : Tree) (place : Place) : Prop :=
  ∃ absolute target, tree place = some (.link absolute target)

instance (tree : Tree) (place : Place) : Decidable (Linked tree place) :=
  match stands : tree place with
  | some (.link absolute target) => isTrue ⟨absolute, target, stands⟩
  | some .dir => isFalse fun ⟨_, _, linked⟩ => nomatch stands.symm.trans linked
  | some (.file _) => isFalse fun ⟨_, _, linked⟩ => nomatch stands.symm.trans linked
  | none => isFalse fun ⟨_, _, linked⟩ => nomatch stands.symm.trans linked

theorem not_linked_of_ne {tree : Tree} {place : Place} {node : Option Node}
    (stands : tree place = node) (other : ∀ absolute target, node ≠ some (.link absolute target)) :
    ¬Linked tree place :=
  fun ⟨absolute, target, linked⟩ => other absolute target (stands.symm.trans linked)

section Components

variable {tree : Tree} {follow : Bool} {name : String} {rest : List String} {directory : Place}

theorem scan_here (here : name = "" ∨ name = ".") :
    scan tree follow (name :: rest) directory = scan tree follow rest directory := if_pos here

theorem scan_up : scan tree follow (".." :: rest) directory = scan tree follow rest directory.tail := by
  rw [scan, if_neg (by decide), if_pos rfl]

theorem scan_plain (plain : Plain name) :
    scan tree follow (name :: rest) directory =
      match tree (name :: directory) with
      | some .dir => scan tree follow rest (name :: directory)
      | some (.link absolute target) =>
        if rest = [] ∧ follow = false then .stopped (some (name :: directory))
        else .jumped (target ++ rest) (if absolute then [] else directory)
      | _ => .stopped (if rest = [] then some (name :: directory) else none) := by
  rw [scan, if_neg (not_or.mpr ⟨plain.1, plain.2.1⟩), if_neg plain.2.2]

theorem plain_of_not (here : ¬(name = "" ∨ name = ".")) (up : name ≠ "..") : Plain name :=
  ⟨(not_or.mp here).1, (not_or.mp here).2, up⟩

end Components

section Budget

variable {tree : Tree} {follow : Bool} {pending rest : List String} {directory start : Place}
  {place : Option Place} {budget : Nat}

theorem walk_stopped (scanned : scan tree follow pending directory = .stopped place) :
    walk tree follow budget pending directory = place.map (·, budget) := by
  cases budget <;> rw [walk, scanned]

theorem walk_jumped (scanned : scan tree follow pending directory = .jumped rest start) :
    walk tree follow (budget + 1) pending directory = walk tree follow budget rest start := by
  rw [walk, scanned]

theorem walk_jumped_zero (scanned : scan tree follow pending directory = .jumped rest start) :
    walk tree follow 0 pending directory = none := by
  rw [walk, scanned]

theorem walk_congr {other : List String} {elsewhere : Place}
    (scanned : scan tree follow pending directory = scan tree follow other elsewhere) :
    walk tree follow budget pending directory = walk tree follow budget other elsewhere := by
  cases budget <;> rw [walk, walk, scanned]

end Budget

section Concat

variable {tree : Tree} {follow : Bool} {front : List String} {name : String} {directory : Place}
  {budget : Nat}

def Continues (tree : Tree) (front : List String) (name : String) (directory : Place) :
    Scanned → Prop
  | .jumped pending start => ∀ follow,
    scan tree follow (front ++ [name]) directory = .jumped (pending ++ [name]) start
  | .stopped none => ∀ follow, scan tree follow (front ++ [name]) directory = .stopped none
  | .stopped (some place) =>
    (∀ follow, scan tree follow (front ++ [name]) directory = .stopped none) ∨
      ∀ follow, scan tree follow (front ++ [name]) directory = scan tree follow [name] place

theorem Continues.cons {first : String} {rest : List String} {start : Place} {scanned : Scanned}
    (same : ∀ follow, scan tree follow (first :: (rest ++ [name])) directory =
      scan tree follow (rest ++ [name]) start)
    (continues : Continues tree rest name start scanned) :
    Continues tree (first :: rest) name directory scanned := by
  cases scanned with
  | jumped pending place =>
    intro follow
    exact (same follow).trans (continues follow)
  | stopped place =>
    cases place with
    | none =>
      intro follow
      exact (same follow).trans (continues follow)
    | some place =>
      rcases continues with nowhere | further
      · exact .inl fun follow => (same follow).trans (nowhere follow)
      · exact .inr fun follow => (same follow).trans (further follow)

theorem scan_concat : Continues tree front name directory (scan tree true front directory) := by
  induction front generalizing directory with
  | nil => exact .inr fun _ => rfl
  | cons first rest ih =>
    have more : rest ++ [name] ≠ [] := append_ne_nil_of_right_ne_nil _ (cons_ne_nil _ _)
    by_cases here : first = "" ∨ first = "."
    · rw [scan_here here]
      exact .cons (fun _ => scan_here here) ih
    · by_cases up : first = ".."
      · subst up
        rw [scan_up]
        exact .cons (fun _ => scan_up) ih
      · have plain := plain_of_not here up
        rw [scan_plain plain]
        -- a place that is neither a directory nor a link has nothing below it
        have nothing (barred : ∀ follow, scan tree follow (first :: (rest ++ [name])) directory =
            .stopped none) :
            Continues tree (first :: rest) name directory
              (.stopped (if rest = [] then some (first :: directory) else none)) := by
          split_ifs
          · exact .inl barred
          · exact barred
        cases stands : tree (first :: directory) with
        | none =>
          apply nothing
          intro follow
          rw [scan_plain plain, stands]
          exact congrArg _ (if_neg more)
        | some node =>
          cases node with
          | dir =>
            apply Continues.cons _ ih
            intro follow
            rw [scan_plain plain, stands]
          | file bytes =>
            apply nothing
            intro follow
            rw [scan_plain plain, stands]
            exact congrArg _ (if_neg more)
          | link absolute target =>
            dsimp only
            rw [if_neg (fun both => absurd both.2 nofun)]
            intro follow
            rw [cons_append, scan_plain plain, stands]
            dsimp only
            rw [if_neg (fun both => more both.1), append_assoc]

variable {found : Place × Nat}

theorem walk_concat_stopped {place : Option Place}
    (scanned : scan tree true front directory = .stopped place)
    (continues : Continues tree front name directory (scan tree true front directory))
    (walked : walk tree follow budget (front ++ [name]) directory = some found) :
    ∃ place left, walk tree true budget front directory = some (place, left) ∧
      ∀ follow', walk tree follow' budget (front ++ [name]) directory =
        walk tree follow' left [name] place := by
  rw [scanned] at continues
  cases place with
  | none =>
    rw [walk_stopped (continues follow)] at walked
    cases walked
  | some place =>
    rcases continues with nowhere | further
    · rw [walk_stopped (nowhere follow)] at walked
      cases walked
    · refine ⟨place, budget, walk_stopped scanned, ?_⟩
      intro follow'
      exact walk_congr (further follow')

theorem walk_concat (walked : walk tree follow budget (front ++ [name]) directory = some found) :
    ∃ place left, walk tree true budget front directory = some (place, left) ∧
      ∀ follow', walk tree follow' budget (front ++ [name]) directory =
        walk tree follow' left [name] place := by
  induction budget generalizing front directory with
  | zero =>
    have continues := @scan_concat tree front name directory
    cases scanned : scan tree true front directory with
    | jumped pending start =>
      rw [scanned] at continues
      rw [walk_jumped_zero (continues follow)] at walked
      cases walked
    | stopped place => exact walk_concat_stopped scanned continues walked
  | succ budget ih =>
    have continues := @scan_concat tree front name directory
    cases scanned : scan tree true front directory with
    | jumped pending start =>
      rw [scanned] at continues
      rw [walk_jumped (continues follow)] at walked
      obtain ⟨place, left, before, behind⟩ := ih walked
      refine ⟨place, left, (walk_jumped scanned).trans before, ?_⟩
      intro follow'
      exact (walk_jumped (continues follow')).trans (behind follow')
    | stopped place => exact walk_concat_stopped scanned continues walked

end Concat

section Last

variable {tree : Tree} {name : String} {directory : Place} {budget : Nat}

theorem walk_name (plain : Plain name) :
    walk tree false budget [name] directory = some (name :: directory, budget) := by
  have scanned : scan tree false [name] directory = .stopped (some (name :: directory)) := by
    rw [scan_plain plain]
    cases tree (name :: directory) with
    | none => rfl
    | some node => cases node <;> rfl
  exact walk_stopped scanned

theorem walk_name_unlinked (plain : Plain name) (follow : Bool)
    (unlinked : ¬Linked tree (name :: directory)) :
    walk tree follow budget [name] directory = some (name :: directory, budget) := by
  have scanned : scan tree follow [name] directory = .stopped (some (name :: directory)) := by
    rw [scan_plain plain]
    cases stands : tree (name :: directory) with
    | none => rfl
    | some node =>
      cases node with
      | dir => rfl
      | file bytes => rfl
      | link absolute target => exact absurd ⟨absolute, target, stands⟩ unlinked
  exact walk_stopped scanned

theorem walk_follow {front : List String} {found : Place × Nat} (plain : Plain name)
    (walked : walk tree false budget (front ++ [name]) directory = some found)
    (unlinked : ¬Linked tree found.1) :
    walk tree true budget (front ++ [name]) directory = some found := by
  obtain ⟨place, left, _, behind⟩ := walk_concat walked
  rw [behind, walk_name plain] at walked
  cases walked
  rw [behind, walk_name_unlinked plain true unlinked]

end Last

structure Rooted (home : Place) (tree : Tree) : Prop where
  stands : ∀ place, place <:+ home → tree place = some .dir
  plain : ∀ name ∈ home, Plain name

def Keeps (home : Place) (tree : Tree) (budget : Nat) (path : Place) : Prop :=
  ∀ found ∈ walk tree false budget path.reverse [], Linked tree found.1 →
    ∀ reached ∈ walk tree true budget path.reverse [], home <:+ reached.1
  deriving Decidable

section Rooted

variable {home path : Place} {tree : Tree} {budget : Nat}

theorem Rooted.above {name : String} (rooted : Rooted (name :: home) tree) : Rooted home tree where
  stands place above := rooted.stands place (above.trans (suffix_cons name home))
  plain name among := rooted.plain name (mem_cons_of_mem _ among)

section

variable (rooted : Rooted home tree)
include rooted

theorem Rooted.scan_reverse (follow : Bool) (rest : List String) :
    scan tree follow (home.reverse ++ rest) [] = scan tree follow rest home := by
  induction home generalizing rest with
  | nil => rfl
  | cons name home ih =>
    rw [reverse_cons, append_assoc, ih rooted.above, singleton_append,
      scan_plain (rooted.plain name mem_cons_self), rooted.stands _ suffix_rfl]

theorem Rooted.walk_reverse (follow : Bool) :
    walk tree follow budget home.reverse [] = some (home, budget) := by
  have scanned := rooted.scan_reverse follow []
  rw [append_nil] at scanned
  exact walk_stopped scanned

variable {name : String}

theorem Rooted.walk_child (plain : Plain name) :
    walk tree false budget (name :: home).reverse [] = some (name :: home, budget) := by
  rw [reverse_cons, walk_congr (rooted.scan_reverse false [name])]
  exact walk_name plain

theorem Rooted.walk_child_unlinked (plain : Plain name)
    (follow : Bool) (unlinked : ¬Linked tree (name :: home)) :
    walk tree follow budget (name :: home).reverse [] = some (name :: home, budget) := by
  rw [reverse_cons, walk_congr (rooted.scan_reverse follow [name])]
  exact walk_name_unlinked plain follow unlinked

theorem Rooted.child (plain : Plain name)
    (stands : tree (name :: home) = some .dir) : Rooted (name :: home) tree where
  stands place above := by
    rcases suffix_cons_iff.mp above with rfl | above
    · exact stands
    · exact rooted.stands place above
  plain part among := by
    rcases mem_cons.mp among with rfl | among
    · exact plain
    · exact rooted.plain part among

theorem Rooted.walk_barred {rest : List String}
    {follow : Bool} (plain : Plain name) (more : rest ≠ []) (file : tree (name :: home) ≠ some .dir)
    (unlinked : ¬Linked tree (name :: home)) :
    walk tree follow budget (home.reverse ++ name :: rest) [] = none := by
  have scanned : scan tree follow (name :: rest) home = .stopped none := by
    rw [scan_plain plain]
    cases stands : tree (name :: home) with
    | none => exact congrArg _ (if_neg more)
    | some node =>
      cases node with
      | dir => exact absurd stands file
      | file bytes => exact congrArg _ (if_neg more)
      | link absolute target => exact absurd ⟨absolute, target, stands⟩ unlinked
  exact walk_stopped ((rooted.scan_reverse follow (name :: rest)).trans scanned)

end

variable {found : Place × Nat}

/-- A path below the place stays there when every link it runs through keeps it there. -/
theorem Rooted.walk_inside (rooted : Rooted home tree) (below : home <:+ path)
    (plain : ∀ name ∈ path, Plain name)
    (keeps : ∀ above, above <:+ path → Keeps home tree budget above)
    (walked : walk tree true budget path.reverse [] = some found) : home <:+ found.1 := by
  induction path generalizing found with
  | nil =>
    rw [suffix_nil.mp below]
    exact nil_suffix
  | cons name path ih =>
    rcases suffix_cons_iff.mp below with rfl | below
    · rw [rooted.walk_reverse] at walked
      cases walked
      exact suffix_rfl
    · have walks := walked
      rw [reverse_cons] at walks
      obtain ⟨directory, left, before, behind⟩ := walk_concat walks
      have inside : home <:+ directory := by
        apply ih below _ _ before
        · intro name among
          exact plain name (mem_cons_of_mem _ among)
        · intro above upper
          exact keeps above (upper.trans (suffix_cons name path))
      have named := plain name mem_cons_self
      by_cases linked : Linked tree (name :: directory)
      · apply keeps _ suffix_rfl (name :: directory, left) _ linked _ walked
        rw [reverse_cons, behind, walk_name named]
        rfl
      · rw [behind, walk_name_unlinked named true linked] at walks
        cases walks
        exact inside.trans (suffix_cons name directory)

theorem Rooted.walk_name_inside {name : String} (rooted : Rooted home tree)
    (below : home <:+ path) (plain : ∀ part ∈ name :: path, Plain part)
    (keeps : ∀ above, above <:+ path → Keeps home tree budget above)
    (walked : walk tree false budget (name :: path).reverse [] = some found) :
    home <:+ found.1 := by
  rw [reverse_cons] at walked
  obtain ⟨directory, left, before, behind⟩ := walk_concat walked
  have inside : home <:+ directory :=
    rooted.walk_inside below (fun part among => plain part (mem_cons_of_mem _ among)) keeps
      before
  rw [behind, walk_name (plain name mem_cons_self)] at walked
  cases walked
  exact inside.trans (suffix_cons name directory)

end Rooted

section Added

variable {home fresh directory : Place} {tree : Tree} {node : Node} {follow : Bool}
  {pending : List String} {budget : Nat}

theorem scan_update (missing : tree fresh = none) :
    scan tree follow pending directory = .stopped none ∨
      scan (update tree fresh (some node)) follow pending directory =
          scan tree follow pending directory ∨
        scan tree follow pending directory = .stopped (some fresh) ∧
          ∃ absolute target, node = .link absolute target := by
  induction pending generalizing directory with
  | nil => exact .inr (.inl rfl)
  | cons name rest ih =>
    by_cases here : name = "" ∨ name = "."
    · rw [scan_here here, scan_here here]
      exact ih
    · by_cases up : name = ".."
      · subst up
        rw [scan_up, scan_up]
        exact ih
      · have plain := plain_of_not here up
        rw [scan_plain plain, scan_plain plain]
        by_cases reached : name :: directory = fresh
        · -- nothing stood here before, so the path ends here or leads nowhere
          rw [reached, missing, update_self]
          by_cases last : rest = []
          · subst last
            cases node with
            | dir => exact .inr (.inl rfl)
            | file bytes => exact .inr (.inl rfl)
            | link absolute target => exact .inr (.inr ⟨rfl, absolute, target, rfl⟩)
          · exact .inl (congrArg _ (if_neg last))
        · rw [update_of_ne reached]
          cases tree (name :: directory) with
          | none => exact .inr (.inl rfl)
          | some found =>
            cases found with
            | dir => exact ih
            | file bytes => exact .inr (.inl rfl)
            | link absolute target => exact .inr (.inl rfl)

variable {found : Place × Nat}

theorem walk_update_stopped (missing : tree fresh = none) {place : Option Place}
    (scanned : scan tree follow pending directory = .stopped place)
    (walked : walk tree follow budget pending directory = some found)
    (apart : found.1 ≠ fresh ∨ ∀ absolute target, node ≠ .link absolute target) :
    walk (update tree fresh (some node)) follow budget pending directory = some found := by
  rcases @scan_update fresh directory tree node follow pending missing with
    barred | same | ⟨ended, absolute, target, linked⟩
  · rw [walk_stopped barred] at walked
    cases walked
  · rw [walk_stopped scanned] at walked
    rw [walk_stopped (same.trans scanned)]
    exact walked
  · rw [walk_stopped ended] at walked
    cases walked
    rcases apart with apart | unlinked
    · exact absurd rfl apart
    · exact absurd linked (unlinked absolute target)

theorem walk_update (missing : tree fresh = none)
    (walked : walk tree follow budget pending directory = some found)
    (apart : found.1 ≠ fresh ∨ ∀ absolute target, node ≠ .link absolute target) :
    walk (update tree fresh (some node)) follow budget pending directory = some found := by
  induction budget generalizing pending directory with
  | zero =>
    cases scanned : scan tree follow pending directory with
    | jumped rest start =>
      rw [walk_jumped_zero scanned] at walked
      cases walked
    | stopped place => exact walk_update_stopped missing scanned walked apart
  | succ budget ih =>
    cases scanned : scan tree follow pending directory with
    | jumped rest start =>
      rcases @scan_update fresh directory tree node follow pending missing with
        barred | same | ⟨ended, _⟩
      · rw [scanned] at barred
        cases barred
      · rw [walk_jumped scanned] at walked
        rw [walk_jumped (same.trans scanned)]
        exact ih walked
      · rw [scanned] at ended
        cases ended
    | stopped place => exact walk_update_stopped missing scanned walked apart

theorem Rooted.update (rooted : Rooted home tree) (other : tree fresh ≠ some .dir) :
    Rooted home (update tree fresh (some node)) where
  stands place above := by
    have apart : place ≠ fresh := fun same => other (same ▸ rooted.stands place above)
    rw [update_of_ne apart, rooted.stands place above]
  plain := rooted.plain

end Added

end Links
