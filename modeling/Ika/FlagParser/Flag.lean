import Mathlib.Data.List.Basic

/-! Flags, and how they are matched against arguments. -/

set_option autoImplicit false

namespace Ika.FlagParser

def ConsumeDashes : List Char → Option (List Char)
  | '-' :: '-' :: flag_arg => some flag_arg
  | '-' :: flag_arg => some flag_arg
  | _ => none

def normalized (str : List Char) : List Char := str.map fun char => if char = '-' then '_' else char

def MatchNormalized (str1 str2 : List Char) : Bool := normalized str1 = normalized str2

inductive Style where
  | String
  | Bool

/-- The setter and the validators act on a world, and succeed or fail. -/
structure Flag (World : Type) where
  aliases_ : List (List Char)
  style_ : Style
  setter_ : List Char → World → Bool × World
  validators_ : List (World → Bool × World) := []
  named : aliases_ ≠ []
  plain : ∀ alias_ ∈ aliases_, alias_.head? ≠ some '-'
  distinct : aliases_.Nodup

structure Session (World : Type) where
  world : World
  settings : List (List Char × List Char) := []

namespace Flag

variable {World : Type} (flag : Flag World)

def Name : List Char := flag.aliases_.head flag.named

/-- Validation stops when one validator fails. -/
def validate : List (World → Bool × World) → World → Bool × World
  | [], world => (true, world)
  | validator :: rest, world =>
    if (validator world).1 then validate rest (validator world).2 else validator world

def SetAndValidate (value : List Char) (session : Session World) : Bool × Session World :=
  let set := flag.setter_ value session.world
  let settings := session.settings ++ [(flag.Name, value)]
  if set.1 then
    let validated := validate flag.validators_ set.2
    (validated.1, ⟨validated.2, settings⟩)
  else (false, ⟨set.2, settings⟩)

/-- The number of arguments consumed, unless the setting fails. -/
def consume (count : Nat) (value : List Char) (session : Session World) :
    Option Nat × Session World :=
  let set := flag.SetAndValidate value session
  (if set.1 then some count else none, set.2)

def valueOf (current_arg alias_ : List Char) : Option (List Char) :=
  if MatchNormalized (current_arg.take (alias_.length + 1)) (alias_ ++ ['=']) then
    some (current_arg.drop (alias_.length + 1))
  else none

def MatchStringStyleFlag (current_arg : List Char) (following_args : List (List Char))
    (session : Session World) : Option Nat × Session World :=
  match ConsumeDashes current_arg with
  | none => (some 0, session)
  | some current_arg =>
    match flag.aliases_.findSome? (valueOf current_arg) with
    | some value => flag.consume 1 value session
    | none =>
      if flag.aliases_.any (MatchNormalized current_arg) then
        match following_args with
        | [] => (none, session)
        | value :: _ => flag.consume 2 value session
      else (some 0, session)

def boolValueOf (current_arg alias_ : List Char) : Option (List Char) :=
  match valueOf current_arg alias_ with
  | some value => some value
  | none =>
    if MatchNormalized current_arg alias_ then some ['y', 'e', 's']
    else if MatchNormalized current_arg (['n', 'o'] ++ alias_) then some ['n', 'o']
    else none

def MatchBoolStyleFlag (current_arg : List Char) (session : Session World) :
    Option Nat × Session World :=
  match ConsumeDashes current_arg with
  | none => (some 0, session)
  | some current_arg =>
    match flag.aliases_.findSome? (boolValueOf current_arg) with
    | some value => flag.consume 1 value session
    | none => (some 0, session)

def Match (current_arg : List Char) (following_args : List (List Char))
    (session : Session World) : Option Nat × Session World :=
  match flag.style_ with
  | .String => flag.MatchStringStyleFlag current_arg following_args session
  | .Bool => flag.MatchBoolStyleFlag current_arg session

end Flag

structure ConsumeFlagsOpts where
  stop_at_double_dashes : Bool := false
  fail_on_unexpected_argument : Bool := false

structure Outcome (World : Type) where
  success : Bool
  args : List (List Char)
  session : Session World

section ConsumeFlags

variable {World : Type}

/-- The first flag that consumes the argument, or fails on it. -/
def matchFlags (current_arg : List Char) (following_args : List (List Char)) :
    List (Flag World) → Session World → Option Nat × Session World
  | [], session => (some 0, session)
  | flag :: rest, session =>
    match flag.Match current_arg following_args session with
    | (some 0, session) => matchFlags current_arg following_args rest session
    | matched => matched

def consumeLoop (flags : List (Flag World)) (opts : ConsumeFlagsOpts) :
    Nat → List (List Char) → List (List Char) → Session World → Outcome World
  | _, [], kept, session => ⟨true, kept, session⟩
  | skipped + 1, _ :: rest, kept, session => consumeLoop flags opts skipped rest kept session
  | 0, arg :: rest, kept, session =>
    match matchFlags arg rest flags session with
    | (none, session) => ⟨false, kept ++ arg :: rest, session⟩
    | (some 0, session) =>
      if opts.fail_on_unexpected_argument then ⟨false, kept ++ arg :: rest, session⟩
      else consumeLoop flags opts 0 rest (kept ++ [arg]) session
    | (some (consumed + 1), session) => consumeLoop flags opts consumed rest kept session

def Accepted (flags : List (Flag World)) : Prop := (flags.flatMap Flag.aliases_).Nodup

instance (flags : List (Flag World)) : Decidable (Accepted flags) :=
  inferInstanceAs (Decidable (List.Nodup _))

def ConsumeFlags (flags : List (Flag World)) (args : List (List Char)) (opts : ConsumeFlagsOpts)
    (world : World) : Outcome World :=
  if Accepted flags then
    let before := if opts.stop_at_double_dashes then args.takeWhile (· ≠ ['-', '-']) else args
    let outcome := consumeLoop flags opts 0 before [] ⟨world, []⟩
    -- the separator is erased where the arguments before it are all done
    let after :=
      if opts.stop_at_double_dashes ∧ outcome.success then args.drop (before.length + 1)
      else args.drop before.length
    {outcome with args := outcome.args ++ after}
  else ⟨false, args, ⟨world, []⟩⟩

end ConsumeFlags

end Ika.FlagParser
