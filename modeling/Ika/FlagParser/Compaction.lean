import Mathlib.Data.List.TakeWhile
import Ika.FlagParser.Ambiguity

/-! How the arguments that are left are moved together in their place, and that this is a scan of
the arguments from the left. -/

set_option autoImplicit false

namespace Ika.FlagParser

open List

/-! ## Moving together in place -/

section Gaps

variable {Elem : Type}

/-- What is kept stands before a gap, and what is not read yet behind it. -/
structure Gap (place : List Elem) (available_slot_it match_it : Nat) (kept unread : List Elem) :
    Prop where
  ordered : available_slot_it ≤ match_it
  inside : match_it ≤ place.length
  before : place.take available_slot_it = kept
  behind : place.drop match_it = unread

namespace Gap

variable {place kept unread : List Elem} {elem moved : Elem} {available match_it : Nat}

theorem start (place : List Elem) : Gap place 0 0 [] place :=
  ⟨Nat.le_refl _, Nat.zero_le _, rfl, rfl⟩

theorem length_unread (gap : Gap place available match_it kept unread) :
    match_it + unread.length = place.length := by
  have inside := gap.inside
  rw [← gap.behind, length_drop]
  omega

theorem read (gap : Gap place available match_it kept (elem :: unread)) :
    place[match_it]? = some elem := by
  rw [← head?_drop, gap.behind]
  rfl

theorem skip (gap : Gap place available match_it kept unread) {count : Nat}
    (fits : count ≤ unread.length) :
    Gap place available (match_it + count) kept (unread.drop count) := by
  have length := gap.length_unread
  have ordered := gap.ordered
  exact ⟨by omega, by omega, gap.before, by rw [← drop_drop, gap.behind]⟩

theorem keep (gap : Gap place available match_it kept (elem :: unread)) :
    Gap (if available ≠ match_it then (place.set available elem).set match_it moved else place)
      (available + 1) (match_it + 1) (kept ++ [elem]) unread := by
  have length := gap.length_unread
  have found := gap.read
  rw [length_cons] at length
  obtain ⟨ordered, inside, before, behind⟩ := gap
  have rest : place.drop (match_it + 1) = unread := by
    rw [← drop_drop, behind]
    rfl
  by_cases apart : available ≠ match_it
  · rw [if_pos apart]
    refine ⟨by omega, by rw [length_set, length_set]; omega, ?_, ?_⟩
    · rw [take_set_of_le (by omega), take_add_one, take_set_of_le (Nat.le_refl _), before,
        getElem?_set_self (by omega)]
      rfl
    · rw [drop_set_of_lt (by omega), drop_set_of_lt (by omega), rest]
  · rw [if_neg apart]
    refine ⟨by omega, by omega, ?_, rest⟩
    have same : available = match_it := not_not.mp apart
    rw [take_add_one, before, same, found]
    rfl

theorem erase (gap : Gap place available match_it kept unread) :
    place.take available ++ place.drop match_it = kept ++ unread := by
  rw [gap.before, gap.behind]

end Gap

end Gaps

/-! ## The arguments in their place -/

structure Places where
  args : List (List Char)
  available_slot_it : Nat := 0
  match_it : Nat := 0

namespace Places

/-- Erases the gap, and the separator where it is behind the gap. -/
def delete_args (places : Places) (opts : ConsumeFlagsOpts) : List (List Char) :=
  let erased := places.args.take places.available_slot_it ++ places.args.drop places.match_it
  if opts.stop_at_double_dashes ∧ erased[places.available_slot_it]? = some ['-', '-'] then
    erased.eraseIdx places.available_slot_it
  else erased

/-- What an argument is when it was moved away is left to the library. -/
def keep (moved : List Char → List Char) (places : Places) : Places :=
  let arg := places.args.getD places.match_it []
  { args :=
      if places.available_slot_it ≠ places.match_it then
        (places.args.set places.available_slot_it arg).set places.match_it (moved arg)
      else places.args
    available_slot_it := places.available_slot_it + 1
    match_it := places.match_it + 1}

end Places

namespace Places

variable {World : Type} (moved : List Char → List Char) (flags : List (Flag World))
  (opts : ConsumeFlagsOpts)

/-- The loop over the arguments before `«end»`. No result means that it runs on. -/
def matchLoop («end» : Nat) :
    Nat → Places → Session World → Option (Bool × Places × Session World)
  | 0, _, _ => none
  | fuel + 1, places, session =>
    if places.match_it = «end» then some (true, places, session)
    else
      match matchFlags (places.args.getD places.match_it [])
          ((places.args.take «end»).drop (places.match_it + 1)) flags session with
      | (none, session) => some (false, places, session)
      | (some 0, session) =>
        if opts.fail_on_unexpected_argument then some (false, places, session)
        else matchLoop «end» fuel (places.keep moved) session
      | (some (consumed + 1), session) =>
        matchLoop «end» fuel {places with match_it := places.match_it + (consumed + 1)} session

/-- The arguments are moved together in their vector, and erased when the function is left. -/
def ConsumeFlags (args : List (List Char)) (world : World) : Option (Outcome World) :=
  if Accepted flags then
    let «end» :=
      if opts.stop_at_double_dashes then (args.takeWhile (· ≠ ['-', '-'])).length else args.length
    match matchLoop moved flags opts «end» (args.length + 1) {args} ⟨world, []⟩ with
    | none => none
    | some (success, places, session) => some ⟨success, places.delete_args opts, session⟩
  else some ⟨false, args, ⟨world, []⟩⟩

end Places

/-! ## The places and the scan -/

section Scan

variable {World : Type} {moved : List Char → List Char} {flags : List (Flag World)}
  {opts : ConsumeFlagsOpts}

theorem consumeLoop_skip {skipped : Nat} {args kept : List (List Char)} {session : Session World} :
    consumeLoop flags opts skipped args kept session =
      consumeLoop flags opts 0 (args.drop skipped) kept session := by
  induction skipped generalizing args with
  | zero => rfl
  | succ skipped ih =>
    cases args with
    | nil => rfl
    | cons arg rest =>
      rw [consumeLoop]
      exact ih

variable {consumed : Nat}

theorem consume_count {flag : Flag World} {value : List Char} {session : Session World}
    {count : Nat} (taken : (flag.consume count value session).1 = some consumed) :
    consumed = count := by
  unfold Flag.consume at taken
  dsimp only at taken
  split at taken
  · exact (Option.some.inj taken).symm
  · cases taken

theorem Match_fits {flag : Flag World} {arg : List Char} {following : List (List Char)}
    {session : Session World} (taken : (flag.Match arg following session).1 = some (consumed + 1)) :
    consumed ≤ following.length := by
  unfold Flag.Match at taken
  cases style : flag.style_ with
  | String =>
    rw [style] at taken
    dsimp only at taken
    unfold Flag.MatchStringStyleFlag at taken
    split at taken
    · simp at taken
    split at taken
    · have one := consume_count taken
      omega
    split at taken
    · cases following with
      | nil => cases taken
      | cons value rest =>
        have two := consume_count taken
        rw [length_cons]
        omega
    · simp at taken
  | Bool =>
    rw [style] at taken
    dsimp only at taken
    unfold Flag.MatchBoolStyleFlag at taken
    split at taken
    · simp at taken
    split at taken
    · have one := consume_count taken
      omega
    · simp at taken

theorem matchFlags_fits {arg : List Char} {following : List (List Char)}
    {session after : Session World}
    (taken : matchFlags arg following flags session = (some (consumed + 1), after)) :
    consumed ≤ following.length := by
  rw [matchFlags_eq] at taken
  split at taken
  · simp at taken
  · exact Match_fits (congrArg Prod.fst taken)

theorem matchLoop_eq {after unread kept : List (List Char)} {places : Places}
    {session : Session World} {fuel : Nat}
    (gap : Gap places.args places.available_slot_it places.match_it kept (unread ++ after))
    (enough : unread.length < fuel) :
    ∃ success places' session' kept' unread',
      Places.matchLoop moved flags opts (places.match_it + unread.length) fuel places session =
        some (success, places', session') ∧
      Gap places'.args places'.available_slot_it places'.match_it kept' (unread' ++ after) ∧
      consumeLoop flags opts 0 unread kept session = ⟨success, kept' ++ unread', session'⟩ ∧
      unread' <:+ unread ∧ (success = true ↔ unread' = []) := by
  -- each round reads one argument at least, so that the fuel outlasts what is unread
  induction fuel generalizing places unread kept session with
  | zero => omega
  | succ fuel ih =>
    cases unread with
    | nil =>
      refine ⟨true, places, session, kept, [], if_pos rfl, gap, ?_, suffix_refl _, by simp⟩
      rw [append_nil]
      rfl
    | cons arg rest =>
      rw [length_cons] at enough ⊢
      have found : places.args.getD places.match_it [] = arg := by
        rw [getD_eq_getElem?_getD, gap.read]
        rfl
      have following : (places.args.take (places.match_it + (rest.length + 1))).drop
          (places.match_it + 1) = rest := by
        have one : 1 ≤ (arg :: rest ++ after).length := by simp
        have behind := (gap.skip one).behind
        rw [drop_take, behind, Nat.add_sub_add_left, Nat.add_sub_cancel]
        exact take_left
      rw [Places.matchLoop, if_neg (by omega), found, following, consumeLoop]
      cases matched : matchFlags arg rest flags session with
      | mk result after' =>
        cases result with
        | none =>
          exact ⟨false, places, after', kept, arg :: rest, rfl, gap, rfl, suffix_refl _,
            by simp⟩
        | some consumed =>
          cases consumed with
          | zero =>
            dsimp only
            split
            · exact ⟨false, places, after', kept, arg :: rest, rfl, gap, rfl, suffix_refl _,
                by simp⟩
            · -- no flag takes the argument, which is moved to the front of the gap
              have moves : Gap (places.keep moved).args (places.keep moved).available_slot_it
                  (places.keep moved).match_it (kept ++ [arg]) (rest ++ after) := by
                unfold Places.keep
                rw [found]
                exact gap.keep
              obtain ⟨success, places', session', kept', unread', same, stands, scanned, inside,
                done⟩ :=
                ih moves (by omega)
              have reach : (places.keep moved).match_it + rest.length =
                  places.match_it + (rest.length + 1) := by
                unfold Places.keep
                dsimp only
                omega
              rw [reach] at same
              exact ⟨success, places', session', kept', unread', same, stands, scanned,
                inside.trans (suffix_cons _ _), done⟩
          | succ consumed =>
            -- the flag and its words stay where they are, and become part of the gap
            have fits := matchFlags_fits matched
            have inside : consumed + 1 ≤ (arg :: (rest ++ after)).length := by simp; omega
            have moves := gap.skip inside
            rw [cons_append, drop_succ_cons, drop_append_of_le_length fits] at moves
            obtain ⟨success, places', session', kept', unread', same, stands, scanned, inside, done⟩ :=
              @ih (rest.drop consumed) kept
                {places with match_it := places.match_it + (consumed + 1)} after' moves
                (by rw [length_drop]; omega)
            have reach : places.match_it + (consumed + 1) + (rest.drop consumed).length =
                places.match_it + (rest.length + 1) := by
              rw [length_drop]
              omega
            dsimp only at same
            rw [reach] at same
            refine ⟨success, places', session', kept', unread', same, stands, ?_,
              inside.trans ((drop_suffix _ _).trans (suffix_cons _ _)), done⟩
            dsimp only
            rw [consumeLoop_skip, scanned]

theorem delete_args_eq {places : Places} {kept unread after : List (List Char)}
    (gap : Gap places.args places.available_slot_it places.match_it kept (unread ++ after))
    (separated : opts.stop_at_double_dashes = true → ['-', '-'] ∉ unread ∧
      (after = [] ∨ ∃ rest, after = ['-', '-'] :: rest)) :
    places.delete_args opts =
      kept ++ unread ++
        if opts.stop_at_double_dashes ∧ unread = [] then after.tail else after := by
  have length : kept.length = places.available_slot_it := by
    have ordered := gap.ordered
    have inside := gap.inside
    rw [← gap.before, length_take]
    omega
  unfold Places.delete_args
  dsimp only
  rw [gap.erase, ← length, getElem?_append_right (Nat.le_refl _), Nat.sub_self,
    append_assoc]
  by_cases stop : opts.stop_at_double_dashes = true
  · obtain ⟨absent, behind⟩ := separated stop
    cases unread with
    | nil =>
      rw [nil_append, nil_append]
      rcases behind with rfl | ⟨rest, rfl⟩
      · simp
      · rw [if_pos ⟨stop, rfl⟩, if_pos ⟨stop, rfl⟩,
          eraseIdx_append_of_length_le (Nat.le_refl _), Nat.sub_self]
        rfl
    | cons arg rest =>
      have other : arg ≠ ['-', '-'] := fun same => absent (same ▸ mem_cons_self)
      simp [other]
  · rw [if_neg fun both => stop both.1, if_neg fun both => stop both.1]

def before (opts : ConsumeFlagsOpts) (args : List (List Char)) : List (List Char) :=
  if opts.stop_at_double_dashes then args.takeWhile (· ≠ ['-', '-']) else args

def after (opts : ConsumeFlagsOpts) (args : List (List Char)) : List (List Char) :=
  args.drop (before opts args).length

theorem before_append_after (opts : ConsumeFlagsOpts) (args : List (List Char)) :
    before opts args ++ after opts args = args := by
  have cut : before opts args <+: args := by
    unfold before
    split
    · exact takeWhile_prefix _
    · exact prefix_refl _
  exact List.prefix_iff_eq_append.mp cut

theorem separated (args : List (List Char)) (stop : opts.stop_at_double_dashes = true) :
    ['-', '-'] ∉ before opts args ∧
      (after opts args = [] ∨ ∃ rest, after opts args = ['-', '-'] :: rest) := by
  have whole := before_append_after opts args
  have cut : before opts args = args.takeWhile (· ≠ ['-', '-']) := if_pos stop
  rw [cut] at whole ⊢
  have rest : after opts args = args.dropWhile (· ≠ ['-', '-']) :=
    append_cancel_left (whole.trans takeWhile_append_dropWhile.symm)
  refine ⟨fun listed => ?_, ?_⟩
  · have other := mem_takeWhile_imp listed
    simp at other
  · have first := head?_dropWhile_not (· ≠ ['-', '-']) args
    rw [← rest] at first
    cases behind : after opts args with
    | nil => exact Or.inl rfl
    | cons arg rest =>
      rw [behind] at first
      refine Or.inr ⟨rest, congrArg (· :: rest) ?_⟩
      simpa using first

theorem after_eq_nil {args : List (List Char)} (through : ¬opts.stop_at_double_dashes = true) :
    after opts args = [] := by
  unfold after before
  rw [if_neg through, drop_length]

theorem scan_eq (accepted : Accepted flags) (args : List (List Char)) (world : World) :
    ConsumeFlags flags args opts world =
      let outcome := consumeLoop flags opts 0 (before opts args) [] ⟨world, []⟩
      {outcome with
        args := outcome.args ++
          if opts.stop_at_double_dashes ∧ outcome.success then (after opts args).tail
          else after opts args} := by
  have tail : (after opts args).tail = args.drop ((before opts args).length + 1) := tail_drop
  unfold ConsumeFlags
  rw [if_pos accepted, tail]
  rfl

theorem ConsumeFlags_eq (args : List (List Char)) (world : World) :
    Places.ConsumeFlags moved flags opts args world = some (ConsumeFlags flags args opts world) := by
  unfold Places.ConsumeFlags
  dsimp only
  split
  · rename_i accepted
    have few := congrArg List.length (before_append_after opts args)
    rw [length_append] at few
    have reach : (if opts.stop_at_double_dashes = true then
        (args.takeWhile (· ≠ ['-', '-'])).length else args.length) =
        0 + (before opts args).length := by
      unfold before
      split <;> exact (Nat.zero_add _).symm
    have start : Gap ({args} : Places).args 0 0 [] (before opts args ++ after opts args) :=
      (before_append_after opts args).symm ▸ Gap.start args
    obtain ⟨success, places, session, kept, unread, same, gap, scanned, inside, done⟩ :=
      @matchLoop_eq _ moved flags opts (after opts args) (before opts args) [] {args}
        ⟨world, []⟩ (args.length + 1) start (by omega)
    have left := delete_args_eq gap fun stop => by
      obtain ⟨absent, behind⟩ := separated args stop
      exact ⟨fun listed => absent (inside.subset listed), behind⟩
    rw [reach, same, scan_eq accepted, scanned]
    dsimp only
    rw [left]
    simp only [done]
  · rename_i ambiguous
    unfold ConsumeFlags
    rw [if_neg ambiguous]

end Scan

/-! ## The arguments read from the left -/

/-- What the arguments are, one after the other. -/
inductive Item (World : Type) where
  | kept (arg : List Char)
  | set (flag : Flag World) (value : List Char) (words : List (List Char))
  /-- A flag at the end, without the value that it needs. -/
  | valueless (arg : List Char)

namespace Item

variable {World : Type}

def words : Item World → List (List Char)
  | .kept arg => [arg]
  | .set _ _ words => words
  | .valueless arg => [arg]

def left : Item World → Option (List Char)
  | .kept arg => some arg
  | _ => none

def setting : Item World → Option (List Char × List Char)
  | .set flag value _ => some (flag.Name, value)
  | _ => none

def step (opts : ConsumeFlagsOpts) : Item World → Session World → Bool × Session World
  | .kept _, session => (!opts.fail_on_unexpected_argument, session)
  | .set flag value _, session => flag.SetAndValidate value session
  | .valueless _, session => (false, session)

end Item

/-- The number of words that a flag takes where it matches, and its value. -/
def Flag.reading {World : Type} (flag : Flag World) (arg : List Char)
    (following : List (List Char)) : Option (Nat × List Char) :=
  match ConsumeDashes arg with
  | none => none
  | some str =>
    match flag.style_ with
    | .String =>
      match flag.aliases_.findSome? (Flag.valueOf str) with
      | some value => some (1, value)
      | none => following.head?.map (2, ·)
    | .Bool => (flag.aliases_.findSome? (Flag.boolValueOf str)).map (1, ·)

section Reading

variable {World : Type} {opts : ConsumeFlagsOpts}

def items (flags : List (Flag World)) : Nat → List (List Char) → List (Item World)
  | _, [] => []
  | skipped + 1, _ :: rest => items flags skipped rest
  | 0, arg :: rest =>
    match flags.find? (·.matched arg) with
    | none => .kept arg :: items flags 0 rest
    | some flag =>
      match flag.reading arg rest with
      | none => .valueless arg :: items flags 0 rest
      | some (count, value) =>
        .set flag value ((arg :: rest).take count) :: items flags (count - 1) rest

/-- Each item in its turn, none of which fails. -/
inductive Steps (opts : ConsumeFlagsOpts) :
    List (Item World) → Session World → Session World → Prop
  | nil (session : Session World) : Steps opts [] session session
  | cons {item : Item World} {rest : List (Item World)} {session middle last : Session World} :
    item.step opts session = (true, middle) → Steps opts rest middle last →
      Steps opts (item :: rest) session last

/-- What is kept of the items read, and with a failure what follows it. -/
inductive Scanned (opts : ConsumeFlagsOpts) (read : List (Item World)) (after : List (List Char))
    (start : Session World) : Outcome World → Prop
  | finished {last : Session World} :
    Steps opts read start last →
      Scanned opts read after start ⟨true, read.filterMap Item.left ++ after.tail, last⟩
  | failed {done rest : List (Item World)} {failing : Item World} {middle last : Session World} :
    read = done ++ failing :: rest → Steps opts done start middle →
      failing.step opts middle = (false, last) →
      Scanned opts read after start
        ⟨false, done.filterMap Item.left ++ ((failing :: rest).flatMap Item.words ++ after), last⟩

variable {flag : Flag World} {flags : List (Flag World)} {arg : List Char}
  {following : List (List Char)} {session : Session World}

theorem Match_reading (matched : flag.matched arg = true) :
    flag.Match arg following session =
      match flag.reading arg following with
      | none => (none, session)
      | some (count, value) => flag.consume count value session := by
  have consumed := (@Match_matched _ flag session arg following matched).1
  unfold Flag.Match Flag.MatchStringStyleFlag Flag.MatchBoolStyleFlag at consumed ⊢
  unfold Flag.reading
  cases behind : ConsumeDashes arg with
  | none =>
    unfold Flag.matched at matched
    rw [behind] at matched
    cases matched
  | some str =>
    rw [behind] at consumed
    cases style : flag.style_ with
    | String =>
      rw [style] at consumed
      dsimp only at consumed ⊢
      cases found : flag.aliases_.findSome? (Flag.valueOf str) with
      | some value => rfl
      | none =>
        rw [found] at consumed
        dsimp only at consumed ⊢
        split
        · cases following with
          | nil => rfl
          | cons value rest => rfl
        · rename_i other
          rw [if_neg other] at consumed
          exact absurd rfl consumed
    | Bool =>
      rw [style] at consumed
      dsimp only at consumed ⊢
      cases found : flag.aliases_.findSome? (Flag.boolValueOf str) with
      | some value => rfl
      | none =>
        rw [found] at consumed
        exact absurd rfl consumed

theorem reading_fits {count : Nat} {value : List Char}
    (taken : flag.reading arg following = some (count, value)) :
    1 ≤ count ∧ count ≤ following.length + 1 := by
  unfold Flag.reading at taken
  split at taken
  · cases taken
  split at taken
  · split at taken
    · cases taken
      omega
    · cases following with
      | nil => cases taken
      | cons first rest =>
        cases taken
        rw [length_cons]
        omega
  · cases found : flag.aliases_.findSome? (Flag.boolValueOf ‹_›) with
    | none =>
      rw [found] at taken
      cases taken
    | some value =>
      rw [found] at taken
      cases taken
      omega

theorem items_words (skipped : Nat) (args : List (List Char)) :
    (items flags skipped args).flatMap Item.words = args.drop skipped := by
  induction args generalizing skipped with
  | nil => simp [items]
  | cons arg rest ih =>
    cases skipped with
    | succ skipped => exact ih skipped
    | zero =>
      rw [items]
      split
      · exact congrArg (arg :: ·) (ih 0)
      · split
        · exact congrArg (arg :: ·) (ih 0)
        · rename_i count value taken
          obtain ⟨some_word, -⟩ := reading_fits taken
          rw [flatMap_cons, ih]
          change (arg :: rest).take count ++ rest.drop (count - 1) = arg :: rest
          obtain ⟨more, rfl⟩ := Nat.exists_eq_add_of_le' some_word
          exact congrArg (arg :: ·) (take_append_drop more rest)

theorem Steps.settings {read : List (Item World)} {start last : Session World}
    (steps : Steps opts read start last) :
    last.settings = start.settings ++ read.filterMap Item.setting := by
  induction steps with
  | nil session => exact (append_nil _).symm
  | @cons item rest session middle last done steps ih =>
    rw [ih]
    cases item with
    | kept arg =>
      injection done with _ same
      rw [← same]
      rfl
    | set flag value words =>
      have called := (@consume_facts _ flag session value 0).2
      have same : (flag.consume 1 value session).2 = middle := congrArg Prod.snd done
      rw [same] at called
      rw [called, append_assoc]
      rfl
    | valueless arg =>
      injection done with absent
      cases absent

theorem Steps.concat {read : List (Item World)} {item : Item World}
    {start middle last : Session World} (steps : Steps opts read start middle)
    (done : item.step opts middle = (true, last)) : Steps opts (read ++ [item]) start last := by
  induction steps with
  | nil session => exact .cons done (.nil last)
  | cons first steps ih => exact .cons first (ih done)

def Reads (opts : ConsumeFlagsOpts) (read : List (Item World)) (after : List (List Char))
    (start : Session World) (outcome : Outcome World) : Prop :=
  Scanned opts read after start {outcome with
    args := outcome.args ++ if outcome.success = true then after.tail else after}

section Continued

variable {read rest : List (Item World)} {item : Item World} {start middle last : Session World}
  {args kept after : List (List Char)}

theorem reads_failed (done : Steps opts read start middle)
    (left : read.filterMap Item.left = kept) (fails : item.step opts middle = (false, last))
    (words : (item :: rest).flatMap Item.words = args) :
    Reads opts (read ++ item :: rest) after start ⟨false, kept ++ args, last⟩ := by
  have scanned := @Scanned.failed _ opts _ after start read rest item middle last rfl done fails
  rw [left, words, ← append_assoc] at scanned
  exact scanned

theorem reads_items {skipped : Nat} (done : Steps opts read start middle)
    (left : read.filterMap Item.left = kept) :
    Reads opts (read ++ items flags skipped args) after start
      (consumeLoop flags opts skipped args kept middle) := by
  induction args generalizing skipped read kept middle with
  | nil =>
    rw [items, append_nil, consumeLoop, ← left]
    exact .finished done
  | cons arg following ih =>
    cases skipped with
    | succ skipped => exact ih done left
    | zero =>
      -- what has not been read by a failing item is its words and those of all that follow
      have whole := @items_words _ flags 0 (arg :: following)
      rw [items] at whole ⊢
      rw [consumeLoop, matchFlags_eq]
      cases found : flags.find? (·.matched arg) with
      | none =>
        rw [found] at whole
        dsimp only at whole ⊢
        split
        · rename_i unexpected
          exact reads_failed done left (by rw [Item.step, unexpected]; rfl) whole
        · rename_i expected
          have one : (Item.kept arg).step opts middle = (true, middle) := by
            rw [Item.step, Bool.eq_false_iff.mpr expected]
            rfl
          have next := @ih (read ++ [.kept arg]) middle (kept ++ [arg]) 0 (done.concat one)
            (by rw [filterMap_append, left]; rfl)
          rwa [append_assoc] at next
      | some flag =>
        rw [found] at whole
        have matched : flag.matched arg = true :=
          find?_some (p := fun flag : Flag World => flag.matched arg) found
        dsimp only at whole ⊢
        rw [Match_reading matched]
        cases taken : flag.reading arg following with
        | none =>
          rw [taken] at whole
          exact reads_failed done left rfl whole
        | some reading =>
          obtain ⟨count, value⟩ := reading
          obtain ⟨some_word, -⟩ := reading_fits taken
          obtain ⟨more, rfl⟩ := Nat.exists_eq_add_of_le' some_word
          rw [taken] at whole
          dsimp only at whole ⊢
          unfold Flag.consume
          dsimp only
          cases set : (flag.SetAndValidate value middle).1 with
          | true =>
            have one : (Item.set flag value ((arg :: following).take (more + 1))).step opts middle =
                (true, (flag.SetAndValidate value middle).2) := Prod.ext set rfl
            have next := @ih (read ++ [.set flag value ((arg :: following).take (more + 1))])
              (flag.SetAndValidate value middle).2 kept more (done.concat one)
              (by rw [filterMap_append, left]; exact append_nil _)
            rwa [append_assoc] at next
          | false => exact reads_failed done left (Prod.ext set rfl) whole

end Continued

theorem ConsumeFlags_scanned (accepted : Accepted flags) (args : List (List Char))
    (world : World) :
    Scanned opts (items flags 0 (before opts args)) (after opts args) ⟨world, []⟩
      (ConsumeFlags flags args opts world) := by
  have reads := @reads_items _ opts flags [] ⟨world, []⟩ ⟨world, []⟩ (before opts args) []
    (after opts args) 0 (.nil _) rfl
  have tail : (if opts.stop_at_double_dashes = true ∧
        (consumeLoop flags opts 0 (before opts args) [] ⟨world, []⟩).success = true then
        (after opts args).tail else after opts args) =
      if (consumeLoop flags opts 0 (before opts args) [] ⟨world, []⟩).success = true then
        (after opts args).tail else after opts args := by
    by_cases stop : opts.stop_at_double_dashes = true
    · simp only [stop, true_and]
    · rw [after_eq_nil stop, tail_nil, ite_self, ite_self]
  rw [scan_eq accepted]
  dsimp only
  rw [tail]
  exact reads

end Reading

end Ika.FlagParser
