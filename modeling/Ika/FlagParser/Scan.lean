import Ika.FlagParser.Compaction

/-! What arguments say to flags, and what comes of it, apart from how the code finds it out. -/

set_option autoImplicit false

namespace Ika.FlagParser

open List

/-! ## What a word says -/

/-- Dashes and underscores are the same in a name. -/
def Alike : List Char → List Char → Prop :=
  Forall₂ fun one other => one = other ∨ one ∈ ['-', '_'] ∧ other ∈ ['-', '_']

inductive Dashed (str : List Char) : List Char → Prop where
  | two : Dashed str ('-' :: '-' :: str)
  | one : str.head? ≠ some '-' → Dashed str ('-' :: str)

/-- The word has the name and the value. -/
def Assigns (str alias_ value : List Char) : Prop :=
  ∃ name, Alike name alias_ ∧ str = name ++ '=' :: value

def Answers (str alias_ value : List Char) : Prop :=
  Assigns str alias_ value ∨ (∀ other, ¬Assigns str alias_ other) ∧
    (Alike str alias_ ∧ value = ['y', 'e', 's'] ∨
      ¬Alike str alias_ ∧ Alike str (['n', 'o'] ++ alias_) ∧ value = ['n', 'o'])

def First (gives : List Char → List Char → Prop) (aliases_ : List (List Char))
    (value : List Char) : Prop :=
  ∃ before alias_ after, aliases_ = before ++ alias_ :: after ∧ gives alias_ value ∧
    ∀ other ∈ before, ∀ value, ¬gives other value

section Words

variable {one other arg str alias_ value : List Char}

theorem alike_iff : Alike one other ↔ normalized one = normalized other := by
  unfold Alike normalized
  rw [← forall₂_eq_eq_eq, forall₂_map_left_iff, forall₂_map_right_iff]
  have same (first second : Char) : (first = second ∨ first ∈ ['-', '_'] ∧ second ∈ ['-', '_']) ↔
      (if first = '-' then '_' else first) = if second = '-' then '_' else second := by
    simp only [mem_cons, not_mem_nil, or_false]
    split_ifs <;> grind
  simp only [same]

theorem consumeDashes_eq : ConsumeDashes arg = some str ↔ Dashed str arg := by
  constructor
  · intro found
    unfold ConsumeDashes at found
    split at found
    · cases found
      exact .two
    · rename_i short
      cases found
      refine .one fun dash => ?_
      obtain ⟨rest, rfl⟩ := head?_eq_some_iff.mp dash
      exact short rest rfl
    · cases found
  · rintro (_ | single)
    · rfl
    · unfold ConsumeDashes
      split
      · rename_i same
        cases same
        exact absurd rfl single
      · rename_i same
        cases same
        rfl
      · rename_i other
        exact absurd rfl (other str)

theorem valueOf_eq : Flag.valueOf str alias_ = some value ↔ Assigns str alias_ value := by
  unfold Flag.valueOf MatchNormalized
  have equals : normalized (alias_ ++ ['=']) = normalized alias_ ++ ['='] := normalized_append
  rw [equals]
  constructor
  · intro found
    split at found
    · rename_i same
      cases found
      have same := of_decide_eq_true same
      have long : alias_.length < str.length := by
        have lengths := congrArg List.length same
        simp only [normalized, length_map, length_append, length_take, length_singleton] at lengths
        omega
      rw [take_succ_eq_append_getElem long, normalized_append] at same
      obtain ⟨alike, last⟩ := append_inj' same rfl
      have sign : str[alias_.length] = '=' := by
        simp only [normalized, map_cons, map_nil, cons.injEq, and_true] at last
        split_ifs at last
        · cases last
        · exact last
      exact ⟨str.take alias_.length, alike_iff.mpr alike, by
        rw [← sign, ← drop_eq_getElem_cons long, take_append_drop]⟩
    · cases found
  · rintro ⟨name, alike, rfl⟩
    have same := alike_iff.mp alike
    have length : name.length = alias_.length := alike.length_eq
    have width : (name ++ ['=']).length = alias_.length + 1 := by simp [length]
    rw [append_cons, take_left' width, drop_left' width, normalized_append, same]
    exact if_pos (decide_eq_true rfl)

theorem valueOf_none : Flag.valueOf str alias_ = none ↔ ∀ value, ¬Assigns str alias_ value := by
  rw [Option.eq_none_iff_forall_ne_some]
  exact forall_congr' fun value => not_congr valueOf_eq

theorem boolValueOf_eq : Flag.boolValueOf str alias_ = some value ↔ Answers str alias_ value := by
  unfold Flag.boolValueOf Answers MatchNormalized
  rw [← valueOf_eq, ← valueOf_none, alike_iff, alike_iff]
  cases Flag.valueOf str alias_ with
  | some given => simp
  | none => split_ifs <;> simp_all [eq_comm]

theorem findSome?_eq {valueOf : List Char → Option (List Char)}
    {gives : List Char → List Char → Prop}
    (same : ∀ alias_ value, valueOf alias_ = some value ↔ gives alias_ value)
    {aliases_ : List (List Char)} :
    aliases_.findSome? valueOf = some value ↔ First gives aliases_ value := by
  simp only [findSome?_eq_some_iff, First, Option.eq_none_iff_forall_ne_some, ne_eq, same]

end Words

/-! ## What a flag is told -/

namespace Flag

variable {World : Type} (flag : Flag World)

/-- The words that set a flag to a value. -/
inductive Told : List (List Char) → List Char → Prop where
  | assigned {arg str value : List Char} : flag.style_ = .String → Dashed str arg →
    First (Assigns str) flag.aliases_ value → Told [arg] value
  | followed {arg str value alias_ : List Char} : flag.style_ = .String → Dashed str arg →
    (∀ other ∈ flag.aliases_, ∀ value, ¬Assigns str other value) → alias_ ∈ flag.aliases_ →
      Alike str alias_ → Told [arg, value] value
  | answered {arg str value : List Char} : flag.style_ = .Bool → Dashed str arg →
    First (Answers str) flag.aliases_ value → Told [arg] value

def Named (arg : List Char) : Prop :=
  ∃ str, Dashed str arg ∧ ∃ alias_ ∈ flag.aliases_, (∃ value, Assigns str alias_ value) ∨
    Alike str alias_ ∨ flag.style_ = .Bool ∧ Alike str (['n', 'o'] ++ alias_)

variable {flag} {arg value : List Char} {following : List (List Char)}

theorem named_iff : flag.matched arg = true ↔ flag.Named arg := by
  have assigned (str alias_ : List Char) : (∃ value, Assigns str alias_ value) ↔
      normalized alias_ ++ ['='] <+: normalized str := by
    rw [← valueOf_isSome, Option.isSome_iff_exists]
    exact exists_congr fun value => valueOf_eq.symm
  have named (str word : List Char) : str ∈ flag.keys.map (word ++ ·) ↔
      ∃ alias_ ∈ flag.aliases_, str = word ++ normalized alias_ := by
    rw [List.mem_map, exists_mem_keys]
    simp only [eq_comm]
  have spelled (str : List Char) : flag.Spelled str ↔ ∃ alias_ ∈ flag.aliases_,
      (∃ value, Assigns str alias_ value) ∨ Alike str alias_ ∨
        flag.style_ = .Bool ∧ Alike str (['n', 'o'] ++ alias_) := by
    have keys : normalized str ∈ flag.keys ↔
        ∃ alias_ ∈ flag.aliases_, normalized str = normalized alias_ := by
      simpa using named (normalized str) []
    simp only [assigned, alike_iff, normalized_append, and_or_left, exists_or]
    unfold Spelled words
    rw [exists_mem_keys, or_comm, ← keys]
    cases flag.style_ with
    | String => simp
    | Bool =>
      rw [mem_append, named]
      simp only [true_and]
      rfl
  unfold matched Named
  rw [Option.any_eq_true]
  exact exists_congr fun str => and_congr consumeDashes_eq ((decide_eq_true_iff).trans (spelled str))

theorem told_of_reading {count : Nat} (matched : flag.matched arg = true)
    (taken : flag.reading arg following = some (count, value)) :
    flag.Told ((arg :: following).take count) value := by
  obtain ⟨_, dashed, alias_, listed, named⟩ := named_iff.mp matched
  have behind := consumeDashes_eq.mpr dashed
  unfold reading at taken
  rw [behind] at taken
  dsimp only at taken
  cases style : flag.style_ with
  | String =>
    rw [style] at taken named
    dsimp only at taken
    split at taken
    · rename_i given found
      cases taken
      exact .assigned style dashed ((findSome?_eq fun _ _ => valueOf_eq).mp found)
    · rename_i missing
      have unassigned : ∀ other ∈ flag.aliases_, ∀ value, ¬Assigns _ other value :=
        fun other among => valueOf_none.mp (findSome?_eq_none_iff.mp missing other among)
      cases following with
      | nil => cases taken
      | cons next rest =>
        cases taken
        rcases named with ⟨given, assigned⟩ | alike | ⟨wrong, -⟩
        · exact absurd assigned (unassigned alias_ listed given)
        · exact .followed style dashed unassigned listed alike
        · cases wrong
  | Bool =>
    rw [style] at taken
    obtain ⟨given, found, same⟩ := Option.map_eq_some_iff.mp taken
    cases same
    exact .answered style dashed ((findSome?_eq fun _ _ => boolValueOf_eq).mp found)

theorem lacking_of_reading (matched : flag.matched arg = true)
    (missing : flag.reading arg following = none) :
    following = [] ∧ ∀ value, ¬flag.Told [arg] value := by
  unfold reading at missing
  unfold Flag.matched at matched
  cases behind : ConsumeDashes arg with
  | none =>
    rw [behind] at matched
    cases matched
  | some str =>
    rw [behind] at missing matched
    dsimp only at missing
    cases style : flag.style_ with
    | String =>
      rw [style] at missing
      dsimp only at missing
      split at missing
      · cases missing
      · rename_i unassigned
        refine ⟨head?_eq_none_iff.mp (Option.map_eq_none_iff.mp missing), fun value told => ?_⟩
        rcases told with ⟨-, dashed, first⟩ | - | ⟨wrong, -, -⟩
        · cases (consumeDashes_eq.mpr dashed).symm.trans behind
          have found := (findSome?_eq fun _ _ => valueOf_eq).mpr first
          rw [unassigned] at found
          cases found
        · rw [style] at wrong
          cases wrong
    | Bool =>
      rw [style] at missing
      have found := (findSome?_boolValueOf_isSome style).mpr (of_decide_eq_true matched)
      rw [Option.map_eq_none_iff.mp missing] at found
      cases found

end Flag

/-! ## What the arguments are -/

section Arguments

variable {World : Type} {opts : ConsumeFlagsOpts} (flags : List (Flag World))

/-- The first flag that is named by a word takes it. -/
inductive Read : List (List Char) → List (Item World) → Prop where
  | nil : Read [] []
  | kept {arg : List Char} {rest : List (List Char)} {read : List (Item World)} :
    (∀ flag ∈ flags, ¬flag.Named arg) → Read rest read → Read (arg :: rest) (.kept arg :: read)
  | set {before after : List (Flag World)} {flag : Flag World} {words rest : List (List Char)}
    {value : List Char} {read : List (Item World)} : flags = before ++ flag :: after →
    (∀ other ∈ before, ∀ arg ∈ words.head?, ¬other.Named arg) → flag.Told words value →
    Read rest read → Read (words ++ rest) (.set flag value words :: read)
  | valueless {before after : List (Flag World)} {flag : Flag World} {arg : List Char} :
    flags = before ++ flag :: after → (∀ other ∈ before, ¬other.Named arg) → flag.Named arg →
    (∀ value, ¬flag.Told [arg] value) → Read [arg] [.valueless arg]

variable {flags}

theorem read_items (skipped : Nat) (args : List (List Char)) :
    Read flags (args.drop skipped) (items flags skipped args) := by
  induction args generalizing skipped with
  | nil => rw [drop_nil, items]; exact .nil
  | cons arg rest ih =>
    cases skipped with
    | succ skipped => exact ih skipped
    | zero =>
      rw [items, drop_zero]
      cases found : flags.find? (·.matched arg) with
      | none =>
        refine .kept (fun flag listed named => ?_) (ih 0)
        exact find?_eq_none.mp found flag listed (Flag.named_iff.mpr named)
      | some flag =>
        obtain ⟨matched, before, after, split, others⟩ := find?_eq_some_iff_append.mp found
        have unnamed : ∀ other ∈ before, ¬other.Named arg := fun other among named => by
          have refused := others other among
          rw [Flag.named_iff.mpr named] at refused
          cases refused
        dsimp only
        cases taken : flag.reading arg rest with
        | none =>
          obtain ⟨rfl, lacking⟩ := Flag.lacking_of_reading matched taken
          exact .valueless split unnamed (Flag.named_iff.mp matched) lacking
        | some reading =>
          obtain ⟨count, value⟩ := reading
          obtain ⟨some_word, -⟩ := reading_fits taken
          obtain ⟨more, rfl⟩ := Nat.exists_eq_add_of_le' some_word
          have next := Read.set split (by rintro other among _ ⟨⟩; exact unnamed other among)
            (Flag.told_of_reading matched taken) (ih more)
          rwa [take_succ_cons, cons_append, take_append_drop] at next

end Arguments

/-! ## What becomes of the world -/

section Worlds

variable {World : Type}

inductive InTurn {Elem : Type} (step : Elem → World → World → Prop) :
    List Elem → World → World → Prop where
  | nil (world : World) : InTurn step [] world world
  | cons {elem : Elem} {rest : List Elem} {start middle last : World} :
    step elem start middle → InTurn step rest middle last → InTurn step (elem :: rest) start last

def Succeeded (call : World → Bool × World) (start last : World) : Prop :=
  call start = (true, last)

namespace Item

variable (opts : ConsumeFlagsOpts)

def Succeeds : Item World → World → World → Prop
  | .kept _, start, last => opts.fail_on_unexpected_argument = false ∧ last = start
  | .set flag value _, start, last =>
    InTurn Succeeded (flag.setter_ value :: flag.validators_) start last
  | .valueless _, _, _ => False

/-- The setter fails, or one of the validators after it, and the others are not called. -/
def Fails : Item World → World → World → Prop
  | .kept _, start, last => opts.fail_on_unexpected_argument = true ∧ last = start
  | .set flag value _, start, last => ∃ done call rest middle,
    flag.setter_ value :: flag.validators_ = done ++ call :: rest ∧
      InTurn Succeeded done start middle ∧ call middle = (false, last)
  | .valueless _, start, last => last = start

end Item

/-- The arguments of no flag are left, with those behind the separator or the failure. -/
inductive Scan (opts : ConsumeFlagsOpts) (read : List (Item World)) (after : List (List Char))
    (start : World) : Outcome World → Prop where
  | finished {last : World} : InTurn (Item.Succeeds opts) read start last →
    Scan opts read after start
      ⟨true, read.filterMap Item.left ++ after.tail, ⟨last, read.filterMap Item.setting⟩⟩
  | failed {done rest : List (Item World)} {failing : Item World} {middle last : World} :
    read = done ++ failing :: rest → InTurn (Item.Succeeds opts) done start middle →
      failing.Fails opts middle last →
    Scan opts read after start
      ⟨false, done.filterMap Item.left ++ ((failing :: rest).flatMap Item.words ++ after),
        ⟨last, (done ++ [failing]).filterMap Item.setting⟩⟩

variable {opts : ConsumeFlagsOpts} {item : Item World} {session last : Session World}
  {flag : Flag World}

theorem succeeded_validate {validators : List (World → Bool × World)} {start last : World}
    (done : Flag.validate validators start = (true, last)) :
    InTurn Succeeded validators start last := by
  induction validators generalizing start with
  | nil =>
    cases done
    exact .nil _
  | cons validator rest ih =>
    rw [Flag.validate] at done
    split at done
    · rename_i first
      exact .cons (Prod.ext first rfl) (ih done)
    · rename_i first
      exact absurd (congrArg Prod.fst done) first

theorem failed_validate {validators : List (World → Bool × World)} {start last : World}
    (fails : Flag.validate validators start = (false, last)) :
    ∃ done call rest middle, validators = done ++ call :: rest ∧
      InTurn Succeeded done start middle ∧ call middle = (false, last) := by
  induction validators generalizing start with
  | nil => cases fails
  | cons validator others ih =>
    rw [Flag.validate] at fails
    split at fails
    · rename_i first
      obtain ⟨done, call, rest, middle, rfl, passed, failed⟩ := ih fails
      exact ⟨validator :: done, call, rest, middle, rfl, .cons (Prod.ext first rfl) passed, failed⟩
    · exact ⟨[], validator, others, start, rfl, .nil _, fails⟩

theorem succeeds_of_step (done : item.step opts session = (true, last)) :
    item.Succeeds opts session.world last.world := by
  cases item with
  | kept arg =>
    cases expected : opts.fail_on_unexpected_argument <;>
      simp_all [Item.step, Item.Succeeds]
  | set flag value words =>
    unfold Item.step Flag.SetAndValidate at done
    dsimp only at done
    split at done
    · rename_i set
      obtain ⟨validated, rfl⟩ := Prod.mk.inj done
      exact .cons (Prod.ext set rfl) (succeeded_validate (Prod.ext validated rfl))
    · cases done
  | valueless arg => cases done

theorem fails_of_step (fails : item.step opts session = (false, last)) :
    item.Fails opts session.world last.world ∧
      last.settings = session.settings ++ item.setting.toList := by
  cases item with
  | kept arg =>
    cases expected : opts.fail_on_unexpected_argument <;>
      simp_all [Item.step, Item.Fails, Item.setting]
  | set flag value words =>
    unfold Item.step Flag.SetAndValidate at fails
    dsimp only at fails
    split at fails
    · rename_i set
      obtain ⟨validated, rfl⟩ := Prod.mk.inj fails
      obtain ⟨done, call, rest, middle, split, passed, failed⟩ :=
        failed_validate (Prod.ext validated rfl)
      exact ⟨⟨flag.setter_ value :: done, call, rest, middle, congrArg _ split,
        .cons (Prod.ext set rfl) passed, failed⟩, rfl⟩
    · rename_i set
      obtain ⟨-, rfl⟩ := Prod.mk.inj fails
      exact ⟨⟨[], flag.setter_ value, flag.validators_, session.world, rfl, .nil _,
        Prod.ext (Bool.eq_false_iff.mpr set) rfl⟩, rfl⟩
  | valueless arg =>
    cases fails
    exact ⟨rfl, (append_nil _).symm⟩

theorem succeed_of_steps {read : List (Item World)} (steps : Steps opts read session last) :
    InTurn (Item.Succeeds opts) read session.world last.world := by
  induction steps with
  | nil session => exact .nil _
  | cons done steps ih => exact .cons (succeeds_of_step done) ih

theorem scan_of_scanned {read : List (Item World)} {behind : List (List Char)} {world : World}
    {outcome : Outcome World} (scanned : Scanned opts read behind ⟨world, []⟩ outcome) :
    Scan opts read behind world outcome := by
  cases scanned with
  | @finished last steps =>
    obtain ⟨world, settings⟩ := last
    obtain rfl : settings = _ := steps.settings
    exact .finished (succeed_of_steps steps)
  | @failed done rest failing middle last split steps fails =>
    obtain ⟨world, settings⟩ := last
    obtain ⟨failed, same⟩ := fails_of_step fails
    have settings : settings = (done ++ [failing]).filterMap Item.setting := by
      rw [filterMap_append]
      refine same.trans (congrArg₂ _ steps.settings ?_)
      cases failing <;> rfl
    subst settings
    exact .failed split (succeed_of_steps steps) failed

/-- Without two names that are the same, the arguments are read from the left, each flag that they
name being set in its turn. -/
theorem consume_flags_scan (moved : List Char → List Char) (flags : List (Flag World))
    (args : List (List Char)) (opts : ConsumeFlagsOpts) (world : World) :
    ∃ outcome, Places.ConsumeFlags moved flags opts args world = some outcome ∧
      ((¬Accepted flags ∧ outcome = ⟨false, args, ⟨world, []⟩⟩) ∨
        Accepted flags ∧ ∃ read, Read flags (before opts args) read ∧
          Scan opts read (after opts args) world outcome) := by
  refine ⟨ConsumeFlags flags args opts world, ConsumeFlags_eq args world, ?_⟩
  by_cases accepted : Accepted flags
  · exact .inr ⟨accepted, _, read_items 0 (before opts args),
      scan_of_scanned (ConsumeFlags_scanned accepted args world)⟩
  · refine .inl ⟨accepted, ?_⟩
    unfold ConsumeFlags
    rw [if_neg accepted]

end Worlds

end Ika.FlagParser
