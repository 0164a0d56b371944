import Mathlib.Algebra.Order.Ring.Int
import Mathlib.Data.List.TakeWhile
import Mathlib.Data.List.Induction

/-! Decimal texts: writing numbers as digits, and reading them as the standard library does. -/

set_option autoImplicit false

namespace Decimal

open List Nat Bool

/-- The characters of a text as bytes. -/
def ascii (text : String) : List UInt8 := text.toList.map fun char => UInt8.ofNat char.toNat

def isDigit (byte : UInt8) : Bool := 48 ≤ byte && byte ≤ 57

def isSpace (byte : UInt8) : Bool := byte = 32 || (9 ≤ byte && byte ≤ 13)

def digits (number : Nat) : List UInt8 :=
  (Nat.toDigits 10 number).map fun char => UInt8.ofNat char.toNat

def value (text : List UInt8) : Nat :=
  text.foldl (fun number byte => 10 * number + (byte.toNat - 48)) 0

variable {number : Nat} {text : List UInt8} {byte : UInt8}

theorem digit_eq (small : number < 10) :
    UInt8.ofNat number.digitChar.toNat = UInt8.ofNat (48 + number) := by
  revert number
  decide

theorem digits_eq (number : Nat) :
    digits number =
      if number < 10 then [UInt8.ofNat (48 + number)]
      else digits (number / 10) ++ [UInt8.ofNat (48 + number % 10)] := by
  unfold digits
  rw [toDigits_eq_if (by decide)]
  split
  · rename_i small
    rw [map_cons, map_nil, digit_eq small]
  · rw [map_append, map_cons, map_nil, digit_eq (mod_lt _ (by decide))]

theorem value_append (text : List UInt8) (byte : UInt8) :
    value (text ++ [byte]) = 10 * value text + (byte.toNat - 48) := by
  unfold value
  rw [foldl_append]
  rfl

theorem toNat_digit (small : number < 10) : (UInt8.ofNat (48 + number)).toNat = 48 + number := by
  rw [UInt8.toNat_ofNat']
  omega

theorem value_digits (number : Nat) : value (digits number) = number := by
  induction number using Nat.strongRecOn with
  | ind number ih =>
    rw [digits_eq]
    split
    · rename_i small
      have last := value_append [] (UInt8.ofNat (48 + number))
      rw [nil_append] at last
      rw [last, toNat_digit small]
      unfold value
      rw [foldl_nil]
      omega
    · rename_i large
      rw [value_append, ih (number / 10) (by omega), toNat_digit (mod_lt _ (by decide))]
      omega

theorem isDigit_digit (small : number < 10) : isDigit (UInt8.ofNat (48 + number)) = true := by
  revert number
  decide

theorem isDigit_of_mem (listed : byte ∈ digits number) : isDigit byte = true := by
  induction number using Nat.strongRecOn with
  | ind number ih =>
    rw [digits_eq] at listed
    split at listed
    · rename_i small
      rw [mem_singleton.mp listed]
      exact isDigit_digit small
    · rcases mem_append.mp listed with first | last
      · exact ih (number / 10) (by omega) first
      · rw [mem_singleton.mp last]
        exact isDigit_digit (mod_lt _ (by decide))

theorem digits_ne_nil (number : Nat) : digits number ≠ [] := by
  rw [digits_eq]
  split
  · exact cons_ne_nil _ _
  · exact append_ne_nil_of_right_ne_nil _ (cons_ne_nil _ _)

def to_string (number : Int) : List UInt8 :=
  if 0 ≤ number then digits number.toNat else 45 :: digits (-number).toNat

/-- A number in the front of a text, behind blanks and a sign; it throws where there is none. -/
def stoi (text : List UInt8) : Option Int :=
  let signed := text.dropWhile isSpace
  let number := if signed.head? = some 45 ∨ signed.head? = some 43 then signed.tail else signed
  let found := number.takeWhile isDigit
  if found = [] then none
  else
    let read : Int := if signed.head? = some 45 then -(value found) else value found
    if -2 ^ 31 ≤ read ∧ read < 2 ^ 31 then some read else none

theorem isSpace_of_isDigit (digit : isDigit byte = true) : isSpace byte = false := by
  unfold isDigit at digit
  unfold isSpace
  simp only [and_eq_true, decide_eq_true_eq, UInt8.le_iff_toNat_le] at digit
  simp only [or_eq_false_iff, and_eq_false_iff, decide_eq_false_iff_not,
    UInt8.le_iff_toNat_le]
  have low : 48 ≤ byte.toNat := digit.1
  refine ⟨?_, Or.inr ?_⟩
  · rintro rfl
    exact absurd low (by decide)
  · change ¬byte.toNat ≤ 13
    omega

theorem stoi_of_isDigit (filled : text ≠ []) (all : ∀ byte ∈ text, isDigit byte = true) :
    stoi text = if value text < 2 ^ 31 then some (value text : Int) else none := by
  obtain ⟨first, rest, same⟩ := exists_cons_of_ne_nil filled
  have digit : isDigit first = true := all first (same ▸ mem_cons_self)
  have unsigned : text.dropWhile isSpace = text := by
    rw [same, dropWhile_cons_of_neg (by rw [isSpace_of_isDigit digit]; nofun)]
  have noSign : ∀ sign : UInt8, isDigit sign = false → text.head? ≠ some sign := by
    intro sign other here
    rw [same] at here
    cases here
    rw [digit] at other
    cases other
  have minus : text.head? ≠ some 45 := noSign 45 (by decide)
  have signless : ¬(text.head? = some 45 ∨ text.head? = some 43) :=
    fun sign => sign.elim minus (noSign 43 (by decide))
  have whole : text.takeWhile isDigit = text := takeWhile_eq_self_iff.mpr all
  unfold stoi
  simp only [unsigned, if_neg signless, whole, if_neg filled, if_neg minus]
  by_cases small : value text < 2 ^ 31
  · rw [if_pos ⟨by omega, by omega⟩, if_pos small]
  · rw [if_neg (by omega), if_neg small]

theorem stoi_digits (small : number < 2 ^ 31) : stoi (digits number) = some (number : Int) := by
  rw [stoi_of_isDigit (digits_ne_nil number) fun _ => isDigit_of_mem, value_digits, if_pos small]

/-- Blanks, a sign and a digit. All but the digit may be left out. -/
def BeginsNumber (text : List UInt8) : Prop :=
  ∃ blanks sign digit rest, text = blanks ++ (sign ++ digit :: rest) ∧
    (∀ byte ∈ blanks, isSpace byte = true) ∧ (sign = [] ∨ sign = [45] ∨ sign = [43]) ∧
    isDigit digit = true

theorem value_lt (all : ∀ byte ∈ text, isDigit byte = true) : value text < 10 ^ text.length := by
  induction text using List.reverseRecOn with
  | nil => decide
  | append_singleton text byte ih =>
    have before := ih fun byte listed => all byte (mem_append_left _ listed)
    have digit := all byte (mem_append_right _ mem_cons_self)
    unfold isDigit at digit
    simp only [and_eq_true, decide_eq_true_eq, UInt8.le_iff_toNat_le] at digit
    have high : byte.toNat ≤ 57 := digit.2
    rw [value_append, length_append, length_singleton, Nat.pow_succ]
    omega

theorem value_small {number : List UInt8} (short : number.length ≤ 9) :
    value (number.takeWhile isDigit) < 2 ^ 31 := by
  have few := (takeWhile_sublist (l := number) isDigit).length_le
  have bound : value (number.takeWhile isDigit) < 10 ^ (number.takeWhile isDigit).length :=
    value_lt fun byte listed => mem_takeWhile_imp listed
  have power : 10 ^ (number.takeWhile isDigit).length ≤ 10 ^ 9 :=
    Nat.pow_le_pow_right (by decide) (Nat.le_trans few short)
  omega

def unsigned (signed : List UInt8) : List UInt8 :=
  if signed.head? = some 45 ∨ signed.head? = some 43 then signed.tail else signed

theorem sign_unsigned (signed : List UInt8) :
    ∃ sign, (sign = [] ∨ sign = [45] ∨ sign = [43]) ∧ signed = sign ++ unsigned signed := by
  unfold unsigned
  split
  · rename_i sign
    cases signed with
    | nil => simp at sign
    | cons first rest =>
      refine ⟨[first], ?_, rfl⟩
      simpa using sign
  · exact ⟨[], Or.inl rfl, rfl⟩

theorem stoi_eq (text : List UInt8) :
    stoi text =
      let found := (unsigned (text.dropWhile isSpace)).takeWhile isDigit
      if found = [] then none
      else
        let read : Int :=
          if (text.dropWhile isSpace).head? = some 45 then -(value found) else value found
        if -2 ^ 31 ≤ read ∧ read < 2 ^ 31 then some read else none := rfl

theorem stoi_isSome (short : text.length ≤ 9) :
    (stoi text).isSome = true ↔ (unsigned (text.dropWhile isSpace)).takeWhile isDigit ≠ [] := by
  have few : (unsigned (text.dropWhile isSpace)).length ≤ 9 := by
    have behind := (dropWhile_sublist (l := text) isSpace).length_le
    unfold unsigned
    split
    · rw [length_tail]
      omega
    · omega
  have small := value_small few
  rw [stoi_eq]
  dsimp only
  generalize (unsigned (text.dropWhile isSpace)).takeWhile isDigit = found at small ⊢
  split
  · rename_i none
    simp [none]
  · rename_i some_digits
    rw [if_pos]
    · simp [some_digits]
    · split
      · omega
      · omega

/-- Where all numbers fit an `int`, one is read exactly where one begins the text. -/
theorem stoi_isSome_iff (short : text.length ≤ 9) :
    (stoi text).isSome = true ↔ BeginsNumber text := by
  rw [stoi_isSome short]
  constructor
  · intro found
    obtain ⟨sign, signs, behind⟩ := sign_unsigned (text.dropWhile isSpace)
    have whole := takeWhile_append_dropWhile (p := isSpace) (l := text)
    cases number : unsigned (text.dropWhile isSpace) with
    | nil => simp [number] at found
    | cons digit rest =>
      rw [number] at found behind
      refine ⟨text.takeWhile isSpace, sign, digit, rest, ?_, ?_, signs, ?_⟩
      · rw [← behind, whole]
      · exact fun byte listed => mem_takeWhile_imp listed
      · by_contra other
        exact found (takeWhile_cons_of_neg other)
  · rintro ⟨blanks, sign, digit, rest, rfl, spaces, signs, isdigit⟩
    have solid : (sign ++ digit :: rest).dropWhile isSpace = sign ++ digit :: rest := by
      rcases signs with rfl | rfl | rfl
      · rw [nil_append, dropWhile_cons_of_neg (by rw [isSpace_of_isDigit isdigit]; nofun)]
      · rfl
      · rfl
    have number : unsigned (sign ++ digit :: rest) = digit :: rest := by
      rcases signs with rfl | rfl | rfl
      · refine if_neg fun sign => ?_
        simp only [nil_append, head?_cons, Option.some.injEq] at sign
        rcases sign with rfl | rfl
        · cases isdigit
        · cases isdigit
      · rfl
      · rfl
    rw [dropWhile_append_of_pos spaces, solid, number, takeWhile_cons_of_pos isdigit]
    exact cons_ne_nil _ _

end Decimal

/-! Numbers as texts of a fixed width in a base up to sixteen, and reading them. -/

namespace Digits

open List

def digitValue (byte : UInt8) : Option Nat :=
  if 48 ≤ byte ∧ byte ≤ 57 then some (byte.toNat - 48)
  else if 97 ≤ byte ∧ byte ≤ 102 then some (byte.toNat - 87)
  else if 65 ≤ byte ∧ byte ≤ 70 then some (byte.toNat - 55)
  else none

def isDigit (base : Nat) (byte : UInt8) : Bool := (digitValue byte).any (· < base)

def value (base : Nat) (text : List UInt8) : Nat :=
  text.foldl (fun number byte => number * base + (digitValue byte).getD 0) 0

/-- `std::from_chars` into a `uint32_t`: the digits that a text begins with. -/
def from_chars (base : Nat) (text : List UInt8) : Option Nat :=
  let digits := text.takeWhile (isDigit base)
  if digits = [] then none
  else if value base digits < 2 ^ 32 then some (value base digits)
  else none

def digit (number : Nat) : UInt8 := UInt8.ofNat (if number < 10 then 48 + number else 87 + number)

def fixed (base : Nat) : Nat → Nat → List UInt8
  | 0, _ => []
  | width + 1, number => fixed base width (number / base) ++ [digit (number % base)]

section Fixed

variable {base : Nat}

variable {number width : Nat}

theorem digitValue_digit (small : number < 16) : digitValue (digit number) = some number := by
  revert number
  decide

@[simp] theorem length_fixed (width number : Nat) : (fixed base width number).length = width := by
  induction width generalizing number with
  | zero => rfl
  | succ width induction_hypothesis =>
    rw [fixed, length_append, induction_hypothesis, length_singleton]

theorem isDigit_of_mem_fixed (some_digits : 0 < base) (few : base ≤ 16) {byte : UInt8}
    (member : byte ∈ fixed base width number) : isDigit base byte = true := by
  induction width generalizing number with
  | zero => exact absurd member not_mem_nil
  | succ width induction_hypothesis =>
    rcases mem_append.1 member with front | last
    · exact induction_hypothesis front
    · have small := Nat.mod_lt number some_digits
      rw [mem_singleton.1 last, isDigit, digitValue_digit (Nat.lt_of_lt_of_le small few)]
      exact decide_eq_true small

theorem value_append (front : List UInt8) (byte : UInt8) :
    value base (front ++ [byte]) = value base front * base + (digitValue byte).getD 0 := by
  rw [value, foldl_append]
  rfl

theorem value_fixed (some_digits : 0 < base) (few : base ≤ 16) (fits : number < base ^ width) :
    value base (fixed base width number) = number := by
  induction width generalizing number with
  | zero =>
    rw [Nat.pow_zero, Nat.lt_one_iff] at fits
    rw [fits]
    rfl
  | succ width induction_hypothesis =>
    have front : number / base < base ^ width := by
      rw [Nat.div_lt_iff_lt_mul some_digits, ← Nat.pow_succ]
      exact fits
    have last := Nat.lt_of_lt_of_le (Nat.mod_lt number some_digits) few
    rw [fixed, value_append, induction_hypothesis front, digitValue_digit last, Option.getD_some]
    exact Nat.div_add_mod' number base

theorem from_chars_fixed (some_digits : 0 < base) (few : base ≤ 16) (wide : 0 < width)
    (fits : number < base ^ width) :
    from_chars base (fixed base width number) = if number < 2 ^ 32 then some number else none := by
  have whole : (fixed base width number).takeWhile (isDigit base) = fixed base width number :=
    takeWhile_eq_self_iff.2 fun _ member => isDigit_of_mem_fixed some_digits few member
  have filled : fixed base width number ≠ [] := by
    rw [← length_pos_iff, length_fixed]
    exact wide
  rw [from_chars]
  simp only [whole, if_neg filled, value_fixed some_digits few fits]

end Fixed

end Digits
