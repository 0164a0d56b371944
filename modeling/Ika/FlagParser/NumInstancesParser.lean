import Mathlib.Data.List.Nodup
import Ika.Foundation.Decimal
import Ika.FlagParser.Compaction

/-! The number of instances and their ids, from flags that are validated after each setting. -/

set_option autoImplicit false

namespace Ika.FlagParser

open List

section Kept

variable {World : Type} {opts : ConsumeFlagsOpts} {flags : List (Flag World)}
  {read : List (Item World)} {start last : Session World} {Inv : Session World → Prop}

variable {args : List (List Char)}

theorem mem_of_mem_items {flag : Flag World} {value : List Char} {words : List (List Char)}
    {skipped : Nat} (among : .set flag value words ∈ items flags skipped args) : flag ∈ flags := by
  induction args generalizing skipped with
  | nil => cases skipped <;> cases among
  | cons arg rest ih =>
    cases skipped with
    | succ skipped => exact ih among
    | zero =>
      rw [items] at among
      split at among
      · rcases mem_cons.mp among with same | among
        · cases same
        · exact ih among
      · rename_i found
        split at among
        · rcases mem_cons.mp among with same | among
          · cases same
          · exact ih among
        · rcases mem_cons.mp among with same | among
          · cases same
            exact mem_of_find?_eq_some found
          · exact ih among

theorem Steps.invariant (steps : Steps opts read start last)
    (keep : ∀ flag ∈ flags, ∀ value session after, Inv session →
      flag.SetAndValidate value session = (true, after) → Inv after)
    (listed : ∀ flag value words, .set flag value words ∈ read → flag ∈ flags)
    (holds : Inv start) : Inv last := by
  induction steps with
  | nil session => exact holds
  | @cons item rest session middle last done steps ih =>
    refine ih (fun flag value words among => listed _ _ _ (mem_cons_of_mem _ among)) ?_
    cases item with
    | kept arg =>
      have same : session = middle := congrArg Prod.snd done
      exact same ▸ holds
    | set flag value words => exact keep flag (listed _ _ _ mem_cons_self) value _ _ holds done
    | valueless arg => cases done

theorem Scanned.steps {after : List (List Char)} {outcome : Outcome World}
    (scanned : Scanned opts read after start outcome) (success : outcome.success = true) :
    Steps opts read start outcome.session := by
  cases scanned with
  | finished steps => exact steps
  | failed => cases success

def settingsOf (flags : List (Flag World)) (opts : ConsumeFlagsOpts) (args : List (List Char)) :
    List (List Char × List Char) :=
  (items flags 0 (before opts args)).filterMap Item.setting

theorem ConsumeFlags_invariant {world : World}
    (success : (ConsumeFlags flags args opts world).success = true)
    (keep : ∀ flag ∈ flags, ∀ value session after, Inv session →
      flag.SetAndValidate value session = (true, after) → Inv after) (holds : Inv ⟨world, []⟩) :
    Inv (ConsumeFlags flags args opts world).session ∧
      (ConsumeFlags flags args opts world).session.settings = settingsOf flags opts args := by
  have accepted : Accepted flags := by
    by_contra refused
    rw [ConsumeFlags, if_neg refused] at success
    cases success
  have steps := (ConsumeFlags_scanned accepted args world).steps success
  exact ⟨steps.invariant keep (fun flag value words among => mem_of_mem_items among) holds,
    steps.settings⟩

end Kept

structure NumInstancesParser where
  num_instance_names_ : Option Nat := none
  num_instances_ : Option Nat := none
  base_instance_num_ : Option Nat := none
  instance_nums_ : Option (List Nat) := none

theorem alias_named (name : List Char) : [name] ≠ [] := cons_ne_nil _ _

theorem alias_plain {name : List Char} (plain : name.head? ≠ some '-') :
    ∀ alias_ ∈ [name], alias_.head? ≠ some '-' := by
  intro alias_ listed
  rw [mem_singleton.mp listed]
  exact plain

theorem alias_distinct (name : List Char) : [name].Nodup := nodup_singleton name

def GflagsCompatFlag {World Value : Type} (name : List Char)
    (ParseFlagValue : List Char → Option Value) (assign : World → Value → World)
    (Validate : World → Bool) (plain : name.head? ≠ some '-') : Flag World where
  aliases_ := [name]
  style_ := .String
  setter_ arg world :=
    match ParseFlagValue arg with
    | some value => (true, assign world value)
    | none => (false, world)
  validators_ := [fun world => (Validate world, world)]
  named := alias_named name
  plain := alias_plain plain
  distinct := alias_distinct name

theorem SetAndValidate_GflagsCompatFlag {World Value : Type} {name value : List Char}
    {ParseFlagValue : List Char → Option Value} {assign : World → Value → World}
    {Validate : World → Bool} {plain : name.head? ≠ some '-'} {session after : Session World}
    (done : (GflagsCompatFlag name ParseFlagValue assign Validate plain).SetAndValidate value
      session = (true, after)) :
    ∃ parsed, ParseFlagValue value = some parsed ∧ Validate after.world = true ∧
      after = ⟨assign session.world parsed, session.settings ++ [(name, value)]⟩ := by
  unfold Flag.SetAndValidate GflagsCompatFlag at done
  cases parsed : ParseFlagValue value with
  | none => simp [parsed] at done
  | some read =>
    by_cases valid : Validate (assign session.world read) = true
    · simp only [parsed, if_true, Flag.validate, if_pos valid, Prod.mk.injEq, true_and] at done
      subst done
      exact ⟨read, rfl, valid, rfl⟩
    · simp [parsed, Flag.validate, valid] at done

namespace NumInstancesParser

def NumInstances (parser : NumInstancesParser) : Nat :=
  match parser.num_instances_, parser.instance_nums_, parser.num_instance_names_ with
  | some num_instances_, _, _ => num_instances_
  | none, some instance_nums_, _ => instance_nums_.length
  | none, none, some num_instance_names_ => num_instance_names_
  | none, none, none => 1

def InstanceIds (parser : NumInstancesParser) : List Nat :=
  match parser.instance_nums_, parser.base_instance_num_ with
  | some instance_nums_, _ => instance_nums_
  | none, none => []
  -- the sum is cut to 32 bits
  | none, some base => (List.range parser.NumInstances).map fun i => (base + i) % 2 ^ 32

def agree : Option Nat → Option Nat → Bool
  | some one, some other => one = other
  | _, _ => true

def Validate (parser : NumInstancesParser) : Bool :=
  -- no number is ever inserted into this set
  let instance_nums : List Nat := []
  agree parser.num_instances_ parser.num_instance_names_ &&
    agree parser.num_instances_ (parser.instance_nums_.map List.length) &&
    agree (parser.instance_nums_.map List.length) parser.num_instance_names_ &&
    (parser.instance_nums_.getD []).all (fun num => !instance_nums.contains num) &&
    !(parser.instance_nums_.isSome && parser.base_instance_num_.isSome)

/-- An empty text is an empty list, and an empty element of a list is zero. -/
def ParseFlagVectorValue (ParseFlagValue : List Char → Option Nat) (str : List Char) :
    Option (List Nat) :=
  if str = [] then some []
  else (str.splitOn ',').mapM fun element => if element = [] then some 0 else ParseFlagValue element

def numInstances : List Char :=
  ['n', 'u', 'm', '_', 'i', 'n', 's', 't', 'a', 'n', 'c', 'e', 's']

def instanceNums : List Char :=
  ['i', 'n', 's', 't', 'a', 'n', 'c', 'e', '_', 'n', 'u', 'm', 's']

def baseInstanceNum : List Char :=
  ['b', 'a', 's', 'e', '_', 'i', 'n', 's', 't', 'a', 'n', 'c', 'e', '_', 'n', 'u', 'm']

section Parsing

/- How a text is read as an unsigned number of some bits. -/
variable (SimpleAtoi : Nat → List Char → Option Nat)

def Flags : List (Flag NumInstancesParser) :=
  [GflagsCompatFlag numInstances (SimpleAtoi 64)
      (fun parser value => {parser with num_instances_ := some value}) Validate (by decide),
    GflagsCompatFlag instanceNums (ParseFlagVectorValue (SimpleAtoi 32))
      (fun parser value => {parser with instance_nums_ := some value}) Validate (by decide),
    GflagsCompatFlag baseInstanceNum (SimpleAtoi 32)
      (fun parser value => {parser with base_instance_num_ := some value}) Validate (by decide)]

def selected (instance_names : Option (List (List Char))) : NumInstancesParser :=
  {num_instance_names_ := instance_names.map List.length}

def lastValue (name : List Char) (settings : List (List Char × List Char)) : Option (List Char) :=
  settings.reverse.lookup name

def asked (instance_names : Option (List (List Char))) (settings : List (List Char × List Char)) :
    NumInstancesParser where
  num_instance_names_ := instance_names.map List.length
  num_instances_ := (lastValue numInstances settings).bind (SimpleAtoi 64)
  base_instance_num_ := (lastValue baseInstanceNum settings).bind (SimpleAtoi 32)
  instance_nums_ := (lastValue instanceNums settings).bind (ParseFlagVectorValue (SimpleAtoi 32))

end Parsing

/-- Every id can be given to one instance, and no number runs over. -/
structure Usable (parser : NumInstancesParser) : Prop where
  num_instances : parser.num_instances_ ≠ some 0
  names : parser.num_instance_names_ ≠ some 0
  nums : ∀ nums ∈ parser.instance_nums_, nums ≠ [] ∧ nums.Nodup ∧ 0 ∉ nums
  base : ∀ base ∈ parser.base_instance_num_, 0 < base ∧
    base + (parser.num_instances_.or parser.num_instance_names_).getD 1 ≤ 2 ^ 32

/-- The number and the ids of a parser are those that were asked for. -/
structure Consistent (asked parser : NumInstancesParser) : Prop where
  some_instance : 1 ≤ parser.NumInstances
  names : ∀ names ∈ asked.num_instance_names_, parser.NumInstances = names
  ids : parser.InstanceIds = [] ∨ parser.InstanceIds.length = parser.NumInstances ∧
    parser.InstanceIds.Nodup ∧ ∀ id ∈ parser.InstanceIds, 0 < id
  nums : ∀ nums ∈ asked.instance_nums_, parser.InstanceIds = nums
  base : ∀ base ∈ asked.base_instance_num_,
    parser.InstanceIds = (List.range parser.NumInstances).map (base + ·)

variable {SimpleAtoi : Nat → List Char → Option Nat} {instance_names : Option (List (List Char))}
  {settings : List (List Char × List Char)} {parser : NumInstancesParser}
  {name other value : List Char}

theorem lastValue_append :
    lastValue name (settings ++ [(other, value)]) =
      if name = other then some value else lastValue name settings := by
  unfold lastValue
  rw [reverse_append, reverse_singleton, singleton_append, lookup_cons]
  by_cases same : name = other
  · rw [if_pos same, same, beq_self_eq_true]
  · rw [if_neg same, beq_false_of_ne same]

theorem SetAndValidate_asked {session after : Session NumInstancesParser}
    {flag : Flag NumInstancesParser} (listed : flag ∈ Flags SimpleAtoi)
    (holds : session.world = asked SimpleAtoi instance_names session.settings ∧
      session.world.Validate = true) (done : flag.SetAndValidate value session = (true, after)) :
    after.world = asked SimpleAtoi instance_names after.settings ∧
      after.world.Validate = true := by
  have any := mem_cons.mp listed
  rw [mem_cons, mem_singleton] at any
  rcases any with rfl | rfl | rfl
  all_goals
    obtain ⟨parsed, read, valid, rfl⟩ := SetAndValidate_GflagsCompatFlag done
    refine ⟨?_, valid⟩
    simp [holds.1, asked, lastValue_append, read, numInstances, instanceNums, baseInstanceNum]

theorem agree_iff {one two : Option Nat} :
    agree one two = true ↔ ∀ count ∈ one, ∀ count' ∈ two, count = count' := by
  cases one <;> cases two <;> simp [agree]

/-- The counts that are there are all the number of instances. -/
structure Valid (parser : NumInstancesParser) : Prop where
  num_instances : ∀ count ∈ parser.num_instances_, parser.NumInstances = count
  names : ∀ count ∈ parser.num_instance_names_, parser.NumInstances = count
  nums : ∀ nums ∈ parser.instance_nums_, parser.NumInstances = nums.length
  exclusive : parser.instance_nums_ = none ∨ parser.base_instance_num_ = none

theorem Valid.of_Validate (validated : parser.Validate = true) : Valid parser := by
  obtain ⟨num_instance_names_, num_instances_, base_instance_num_, instance_nums_⟩ := parser
  simp only [Validate, Bool.and_eq_true, agree_iff] at validated
  obtain ⟨⟨⟨⟨byName, byNums⟩, namedNums⟩, -⟩, exclusive⟩ := validated
  refine ⟨?_, ?_, ?_, ?_⟩
  · rintro count rfl
    rfl
  · rintro count rfl
    cases num_instances_ with
    | some other => exact byName other rfl count rfl
    | none =>
      cases instance_nums_ with
      | some nums => exact namedNums nums.length rfl count rfl
      | none => rfl
  · rintro nums rfl
    cases num_instances_ with
    | some other => exact byNums other rfl nums.length rfl
    | none => rfl
  · cases instance_nums_ <;> cases base_instance_num_ <;> simp_all

theorem Valid.one_le (valid : Valid parser) (usable : Usable parser) : 1 ≤ parser.NumInstances := by
  obtain ⟨num_instance_names_, num_instances_, base_instance_num_, instance_nums_⟩ := parser
  cases num_instances_ with
  | some count =>
    exact Nat.pos_of_ne_zero fun zero => usable.num_instances (congrArg some zero)
  | none =>
    cases instance_nums_ with
    | some nums => exact length_pos_iff.mpr (usable.nums nums rfl).1
    | none =>
      cases num_instance_names_ with
      | some count => exact Nat.pos_of_ne_zero fun zero => usable.names (congrArg some zero)
      | none => exact Nat.le_refl 1

theorem NumInstances_of_none (unlisted : parser.instance_nums_ = none) :
    parser.NumInstances = (parser.num_instances_.or parser.num_instance_names_).getD 1 := by
  obtain ⟨num_instance_names_, num_instances_, base_instance_num_, instance_nums_⟩ := parser
  subst unlisted
  cases num_instances_ <;> cases num_instance_names_ <;> rfl

variable {base : Nat}

theorem InstanceIds_of_base (unlisted : parser.instance_nums_ = none)
    (based : parser.base_instance_num_ = some base) :
    parser.InstanceIds = (List.range parser.NumInstances).map fun i => (base + i) % 2 ^ 32 := by
  unfold InstanceIds
  rw [unlisted, based]

theorem range_cut_iff {count : Nat} (some_instance : 1 ≤ count) :
    ((List.range count).map fun i => (base + i) % 2 ^ 32) = (List.range count).map (base + ·) ↔
      base + count ≤ 2 ^ 32 := by
  constructor
  · intro same
    have last := map_inj_left.mp same (count - 1) (mem_range.mpr (by omega))
    have cut := Nat.mod_lt (base + (count - 1)) (Nat.two_pow_pos 32)
    omega
  · intro fits
    refine map_inj_left.mpr fun i among => Nat.mod_eq_of_lt ?_
    have below := mem_range.mp among
    omega

theorem consistent_iff (valid : Valid parser) : Consistent parser parser ↔ Usable parser := by
  constructor
  · intro consistent
    have some_instance := consistent.some_instance
    refine ⟨?_, ?_, ?_, ?_⟩
    · intro zero
      have same := valid.num_instances 0 zero
      omega
    · intro zero
      have same := valid.names 0 zero
      omega
    · intro nums given
      have length := valid.nums nums given
      have listed := consistent.nums nums given
      have some_num : nums ≠ [] := length_pos_iff.mp (by omega)
      obtain ⟨-, nodup, positive⟩ := (listed ▸ consistent.ids).resolve_left some_num
      exact ⟨some_num, nodup, fun zero => Nat.lt_irrefl 0 (positive 0 zero)⟩
    · intro base given
      have unlisted : parser.instance_nums_ = none :=
        valid.exclusive.resolve_right fun absent => by cases absent.symm.trans given
      have ids := consistent.base base given
      have first : base ∈ parser.InstanceIds := by
        rw [ids]
        exact mem_map.mpr ⟨0, mem_range.mpr some_instance, rfl⟩
      have positive := (consistent.ids.resolve_left (ne_nil_of_mem first)).2.2 base first
      rw [InstanceIds_of_base unlisted given] at ids
      rw [← NumInstances_of_none unlisted]
      exact ⟨positive, (range_cut_iff some_instance).mp ids⟩
  · intro usable
    have some_instance := valid.one_le usable
    have based : ∀ base ∈ parser.base_instance_num_, 0 < base ∧
        parser.InstanceIds = (List.range parser.NumInstances).map (base + ·) := by
      intro base given
      have unlisted : parser.instance_nums_ = none :=
        valid.exclusive.resolve_right fun absent => by cases absent.symm.trans given
      obtain ⟨positive, fits⟩ := usable.base base given
      rw [← NumInstances_of_none unlisted] at fits
      rw [InstanceIds_of_base unlisted given]
      exact ⟨positive, (range_cut_iff some_instance).mpr fits⟩
    have listed : ∀ nums ∈ parser.instance_nums_, parser.InstanceIds = nums := by
      intro nums given
      unfold InstanceIds
      rw [given]
    refine ⟨some_instance, valid.names, ?_, listed, fun base given => (based base given).2⟩
    cases given : parser.instance_nums_ with
    | some nums =>
      obtain ⟨-, nodup, nonzero⟩ := usable.nums nums given
      rw [listed nums given]
      exact Or.inr ⟨(valid.nums nums given).symm, nodup, fun id among =>
        Nat.pos_of_ne_zero fun zero => nonzero (zero ▸ among)⟩
    | none =>
      cases given' : parser.base_instance_num_ with
      | some base =>
        obtain ⟨positive, ids⟩ := based base given'
        rw [ids]
        refine Or.inr ⟨by simp, nodup_range.map fun _ _ => Nat.add_left_cancel, ?_⟩
        intro id among
        obtain ⟨i, -, rfl⟩ := mem_map.mp among
        omega
      | none =>
        left
        unfold InstanceIds
        rw [given, given']

/-- The instance numbers are consistent exactly where what is asked for last is usable. -/
theorem instance_numbers_consistent (SimpleAtoi : Nat → List Char → Option Nat)
    (instance_names : Option (List (List Char))) (args : List (List Char)) (opts : ConsumeFlagsOpts)
    (success :
      (ConsumeFlags (Flags SimpleAtoi) args opts (selected instance_names)).success = true) :
    Consistent (asked SimpleAtoi instance_names (settingsOf (Flags SimpleAtoi) opts args))
        (ConsumeFlags (Flags SimpleAtoi) args opts (selected instance_names)).session.world ↔
      Usable (asked SimpleAtoi instance_names (settingsOf (Flags SimpleAtoi) opts args)) := by
  let Inv (session : Session NumInstancesParser) : Prop :=
    session.world = asked SimpleAtoi instance_names session.settings ∧
      session.world.Validate = true
  have start : Inv ⟨selected instance_names, []⟩ := ⟨rfl, by cases instance_names <;> rfl⟩
  obtain ⟨⟨same, valid⟩, settings⟩ := ConsumeFlags_invariant success
    (fun flag listed value session after (holds : Inv session) =>
      (SetAndValidate_asked listed holds : _ → Inv after)) start
  rw [← settings, ← same]
  exact consistent_iff (.of_Validate valid)

/-- Plain decimal numbers, of at most some bits. -/
def plainAtoi (bits : Nat) (text : List Char) : Option Nat :=
  let number := Decimal.value (text.map fun char => UInt8.ofNat char.toNat)
  if text ≠ [] ∧ text.all Char.isDigit ∧ number < 2 ^ bits then some number else none

/-- Two names, with a first id. -/
theorem instance_numbers_consistent_base :
    Consistent (asked plainAtoi (some [['a'], ['b']]) [(baseInstanceNum, ['4'])])
      (ConsumeFlags (Flags plainAtoi) [['-', '-'] ++ baseInstanceNum, ['4']] {}
        (selected (some [['a'], ['b']]))).session.world := by
  refine (instance_numbers_consistent plainAtoi (some [['a'], ['b']])
    [['-', '-'] ++ baseInstanceNum, ['4']] {} (by decide)).mpr ⟨by decide, by decide, ?_, ?_⟩
  · exact fun nums given => by cases given
  · rintro base ⟨⟩
    decide

/-- One id may be listed twice. -/
theorem repeated_id_accepted :
    ¬∀ (SimpleAtoi : Nat → List Char → Option Nat) (instance_names : Option (List (List Char)))
      (args : List (List Char)) (opts : ConsumeFlagsOpts),
      (ConsumeFlags (Flags SimpleAtoi) args opts (selected instance_names)).success = true →
        Consistent (asked SimpleAtoi instance_names (settingsOf (Flags SimpleAtoi) opts args))
          (ConsumeFlags (Flags SimpleAtoi) args opts (selected instance_names)).session.world := by
  intro all
  have consistent := all plainAtoi none [['-', '-'] ++ instanceNums ++ ['=', '1', ',', '1']] {}
    (by decide)
  have ids := consistent.ids
  revert ids
  decide

end NumInstancesParser

end Ika.FlagParser
