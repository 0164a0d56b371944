import Ika.Foundation.Splitting

/-! Where the paths of a file system lie below its prefix.

The members of a path are taken out of a list while the list is gone through. What is left of them
is what a stack would have kept. -/

set_option autoImplicit false

namespace Ika.Io.Chroot

open List

abbrev Members := List (List Char)

def StrSplit (path : List Char) : Members := (path.splitOn '/').filter (· ≠ [])

def StrJoin (members : Members) : List Char := ['/'].intercalate members

/-- The loop over the members, with the position of its iterator. -/
def removeDots (members : Members) (it : Nat) : Members :=
  if inside : it < members.length then
    if members[it] = ['.'] then removeDots (members.eraseIdx it) it
    else if members[it] = ['.', '.'] then
      -- the iterator goes back to the member before, which is erased first
      if it ≠ 0 then removeDots ((members.eraseIdx (it - 1)).eraseIdx (it - 1)) (it - 1)
      else removeDots (members.eraseIdx it) it
    else removeDots members (it + 1)
  else members
termination_by members.length - it
decreasing_by
  · rw [length_eraseIdx_of_lt inside]
    omega
  · have once : (members.eraseIdx (it - 1)).length = members.length - 1 :=
      length_eraseIdx_of_lt (by omega)
    rw [length_eraseIdx_of_lt (by omega), once]
    omega
  · rw [length_eraseIdx_of_lt inside]
    omega
  · omega

structure ChrootReadWriteFilesystem where
  path_prefix_ : List Char

def ChrootReadWriteFilesystem.ChrootToRealPath (filesystem : ChrootReadWriteFilesystem)
    (path : List Char) : Except String (List Char) :=
  if ['/'].isPrefixOf path then
    .ok (filesystem.path_prefix_ ++ ['/'] ++ StrJoin (removeDots (StrSplit path) 0))
  else .error ("'" ++ String.ofList path ++ "' is not absolute")

def enter (kept : Members) (member : List Char) : Members :=
  if member = [] ∨ member = ['.'] then kept
  else if member = ['.', '.'] then kept.dropLast
  else kept ++ [member]

def normal (path : List Char) : Members := (path.splitOn '/').foldl enter []

/-- A member that names something in the directory it is looked up in. -/
structure Named (member : List Char) : Prop where
  filled : member ≠ []
  not_here : member ≠ ['.']
  not_above : member ≠ ['.', '.']
  single : '/' ∉ member

variable {kept : Members} {member : List Char} {members : Members} (path : List Char)

theorem enter_named (named : Named member) : enter kept member = kept ++ [member] := by
  simp [enter, named.filled, named.not_here, named.not_above]

theorem named_enter (before : ∀ other ∈ kept, Named other) (single : '/' ∉ member) :
    ∀ other ∈ enter kept member, Named other := by
  unfold enter
  split_ifs with dropped above
  · exact before
  · exact fun other among => before other (dropLast_subset _ among)
  · obtain ⟨filled, not_here⟩ := not_or.mp dropped
    simp only [mem_append, mem_singleton]
    rintro other (among | rfl)
    · exact before other among
    · exact ⟨filled, not_here, above, single⟩

theorem named_foldl_enter (before : ∀ other ∈ kept, Named other)
    (single : ∀ member ∈ members, '/' ∉ member) :
    ∀ other ∈ members.foldl enter kept, Named other := by
  induction members generalizing kept with
  | nil => exact before
  | cons member rest ih =>
    apply ih (named_enter before (single member mem_cons_self))
    exact fun other among => single other (mem_cons_of_mem _ among)

theorem named_of_mem_normal {path : List Char} (among : member ∈ normal path) : Named member :=
  named_foldl_enter (by simp) (fun _ among => Splitting.notMem_of_mem_splitOn among) member among

theorem foldl_enter_named (named : ∀ member ∈ members, Named member) :
    members.foldl enter kept = kept ++ members := by
  induction members generalizing kept with
  | nil => simp
  | cons member rest ih =>
    have first : enter kept member = kept ++ [member] :=
      enter_named (named member mem_cons_self)
    rw [foldl_cons, first, ih fun other among => named other (mem_cons_of_mem _ among)]
    simp

theorem foldl_enter_filter :
    (members.filter (· ≠ [])).foldl enter kept = members.foldl enter kept := by
  induction members generalizing kept with
  | nil => rfl
  | cons member rest ih =>
    by_cases empty : member = []
    · rw [filter_cons_of_neg (by simp [empty]), ih, foldl_cons]
      simp [empty, enter]
    · rw [filter_cons_of_pos (by simp [empty]), foldl_cons, foldl_cons, ih]

/-- With the kept members before the iterator, the loop enters the ones from it on. -/
theorem removeDots_eq {kept rest : Members} (filled : ∀ member ∈ rest, member ≠ []) :
    removeDots (kept ++ rest) kept.length = rest.foldl enter kept := by
  induction rest generalizing kept with
  | nil =>
    rw [removeDots]
    simp
  | cons member rest ih =>
    have some_member := filled member mem_cons_self
    have later : ∀ other ∈ rest, other ≠ [] := fun other among =>
      filled other (mem_cons_of_mem _ among)
    rw [removeDots, foldl_cons]
    by_cases here : member = ['.']
    · simp [here, enter, ← ih later, eraseIdx_append_of_length_le]
    by_cases above : member = ['.', '.']
    · -- with nothing kept only the member itself goes, otherwise the last of the kept ones too
      rcases eq_nil_or_concat kept with rfl | ⟨front, last, rfl⟩
      · simp [above, enter, ← ih later]
      · have back : enter (front ++ [last]) member = front := by simp [enter, above]
        have both : ((front ++ last :: member :: rest).eraseIdx front.length).eraseIdx
            front.length = front ++ rest := by
          simp [eraseIdx_append_of_length_le]
        rw [concat_eq_append, back, ← ih later, ← both]
        simp [above]
    · have next : removeDots ((kept ++ [member]) ++ rest) (kept ++ [member]).length = _ := ih later
      simpa [here, above, some_member, enter] using next

theorem removeDots_StrSplit : removeDots (StrSplit path) 0 = normal path := by
  have filled : ∀ member ∈ StrSplit path, member ≠ [] := by simp [StrSplit]
  rw [normal, ← foldl_enter_filter]
  exact @removeDots_eq [] (StrSplit path) filled

theorem StrSplit_slash : StrSplit ('/' :: path) = StrSplit path := by
  simp [StrSplit, splitOn_cons_eq_if_modifyHead]

theorem StrSplit_StrJoin (named : ∀ member ∈ members, Named member) :
    StrSplit (StrJoin members) = members := by
  unfold StrSplit StrJoin
  by_cases none : members = []
  · simp [none]
  · rw [splitOn_intercalate '/' (fun member among => (named member among).single) none]
    simpa using fun member among => (named member among).filled

theorem normal_StrJoin (named : ∀ member ∈ members, Named member) :
    normal ('/' :: StrJoin members) = members := by
  rw [normal, ← foldl_enter_filter]
  change (StrSplit ('/' :: StrJoin members)).foldl enter [] = members
  rw [StrSplit_slash, StrSplit_StrJoin named, foldl_enter_named named, nil_append]

/-- Every absolute path is the slash with something behind it. -/
theorem real_path_inside (filesystem : ChrootReadWriteFilesystem) (rest : List Char) :
    let path := '/' :: rest
    let suffix := '/' :: StrJoin (normal path)
    filesystem.ChrootToRealPath path = .ok (filesystem.path_prefix_ ++ suffix) ∧
      StrSplit suffix = normal path ∧
      (∀ member ∈ normal path, member ≠ [] ∧ member ≠ ['.'] ∧ member ≠ ['.', '.']) ∧
      filesystem.ChrootToRealPath suffix = .ok (filesystem.path_prefix_ ++ suffix) := by
  have named : ∀ member ∈ normal ('/' :: rest), Named member := fun _ => named_of_mem_normal
  have real (path : List Char) : filesystem.ChrootToRealPath ('/' :: path) =
      .ok (filesystem.path_prefix_ ++ '/' :: StrJoin (normal ('/' :: path))) := by
    simp [ChrootReadWriteFilesystem.ChrootToRealPath, removeDots_StrSplit]
  refine ⟨real rest, ?_, ?_, ?_⟩
  · rw [StrSplit_slash, StrSplit_StrJoin named]
  · exact fun member among => ⟨(named member among).filled, (named member among).not_here,
      (named member among).not_above⟩
  · rw [real, normal_StrJoin named]

/-- Going up at the root, and out of a directory again. -/
example : normal "/../a/./b//../../..//c".toList = ["c".toList] := by decide

end Ika.Io.Chroot
