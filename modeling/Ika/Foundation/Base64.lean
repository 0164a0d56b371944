import Mathlib.Tactic.SplitIfs

/-! Base64 with padding: three bytes are four characters, of six bits each. -/

set_option autoImplicit false

namespace Base64

def alphabet : List Char :=
  "ABCDEFGHIJKLMNOPQRSTUVWXYZabcdefghijklmnopqrstuvwxyz0123456789+/".toList

def digit (value : Nat) : Char := alphabet.getD value '='

def value (c : Char) : Option Nat := alphabet.idxOf? c

theorem value_digit {n : Nat} (bound : n < 64) : value (digit n) = some n := by
  have all : ∀ n < 64, value (digit n) = some n := by decide +kernel
  exact all n bound

theorem digit_ne_pad {n : Nat} (bound : n < 64) : digit n ≠ '=' := by
  have all : ∀ n < 64, digit n ≠ '=' := by decide +kernel
  exact all n bound

def encode : List UInt8 → List Char
  | [] => []
  | [a] => [digit (a.toNat / 4), digit (a.toNat % 4 * 16), '=', '=']
  | [a, b] =>
    [digit (a.toNat / 4), digit (a.toNat % 4 * 16 + b.toNat / 16), digit (b.toNat % 16 * 4), '=']
  | a :: b :: c :: rest =>
    digit (a.toNat / 4) :: digit (a.toNat % 4 * 16 + b.toNat / 16) ::
      digit (b.toNat % 16 * 4 + c.toNat / 64) :: digit (c.toNat % 64) :: encode rest

/-- The bytes of the first two, three or four characters of a group. -/
def first (w x : Nat) : UInt8 := UInt8.ofNat (w * 4 + x / 16)
def second (x y : Nat) : UInt8 := UInt8.ofNat (x % 16 * 16 + y / 4)
def third (y z : Nat) : UInt8 := UInt8.ofNat (y % 4 * 64 + z)

/-- Padding stands only in the last group. -/
def decode : List Char → Option (List UInt8)
  | [] => some []
  | w :: x :: y :: z :: rest =>
    if z = '=' then
      if rest ≠ [] then none
      else if y = '=' then
        match value w, value x with
        | some w, some x => some [first w x]
        | _, _ => none
      else
        match value w, value x, value y with
        | some w, some x, some y => some [first w x, second x y]
        | _, _, _ => none
    else
      match value w, value x, value y, value z, decode rest with
      | some w, some x, some y, some z, some bytes =>
        some (first w x :: second x y :: third y z :: bytes)
      | _, _, _, _, _ => none
  | _ => none

theorem first_eq (a : UInt8) {low : Nat} (bound : low < 16) :
    first (a.toNat / 4) (a.toNat % 4 * 16 + low) = a := by
  have value : a.toNat / 4 * 4 + (a.toNat % 4 * 16 + low) / 16 = a.toNat := by omega
  rw [first, value, UInt8.ofNat_toNat]

theorem second_eq (b : UInt8) {high low : Nat} (bound : low < 4) :
    second (high * 16 + b.toNat / 16) (b.toNat % 16 * 4 + low) = b := by
  have small := b.toNat_lt
  have value : (high * 16 + b.toNat / 16) % 16 * 16 + (b.toNat % 16 * 4 + low) / 4 = b.toNat := by
    omega
  rw [second, value, UInt8.ofNat_toNat]

theorem third_eq (c : UInt8) {high : Nat} : third (high * 4 + c.toNat / 64) (c.toNat % 64) = c := by
  have small := c.toNat_lt
  have value : (high * 4 + c.toNat / 64) % 4 * 64 + c.toNat % 64 = c.toNat := by omega
  rw [third, value, UInt8.ofNat_toNat]

theorem decode_encode (bytes : List UInt8) : decode (encode bytes) = some bytes := by
  induction bytes using encode.induct with
  | case1 => rfl
  | case2 a =>
    have small := a.toNat_lt
    have last := first_eq a (show 0 < 16 by decide)
    rw [encode, decode, if_pos rfl, if_neg (by simp), if_pos rfl, value_digit (by omega),
      value_digit (by omega)]
    simpa using last
  | case3 a b =>
    have small := a.toNat_lt
    have smaller := b.toNat_lt
    rw [encode, decode, if_pos rfl, if_neg (by simp), if_neg (digit_ne_pad (by omega)),
      value_digit (by omega), value_digit (by omega), value_digit (by omega)]
    dsimp only
    rw [first_eq a (by omega)]
    have last := @second_eq b (a.toNat % 4) 0 (by decide)
    rw [Nat.add_zero] at last
    rw [last]
  | case4 a b c rest ih =>
    have small := a.toNat_lt
    have smaller := b.toNat_lt
    have smallest := c.toNat_lt
    rw [encode, decode, if_neg (digit_ne_pad (by omega)), value_digit (by omega),
      value_digit (by omega), value_digit (by omega), value_digit (by omega), ih]
    dsimp only
    rw [first_eq a (by omega), second_eq b (by omega), third_eq c]

end Base64
