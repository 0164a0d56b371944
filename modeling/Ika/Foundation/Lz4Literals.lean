import Mathlib.Data.List.Basic

/-! Blocks of LZ4 that are a single run of literals.

Incompressible data, and all data too short for a match, is such a block: a token with the number
of literals, more bytes of that number if it is 15 or above, and the literals.
-/

set_option autoImplicit false

namespace Lz4Literals

open List Nat

def lengthBytes (excess : Nat) : List UInt8 :=
  if excess < 255 then [UInt8.ofNat excess] else 255 :: lengthBytes (excess - 255)

def encode (literals : List UInt8) : List UInt8 :=
  if literals.length < 15 then UInt8.ofNat (literals.length * 16) :: literals
  else 0xF0 :: lengthBytes (literals.length - 15) ++ literals

def readLength : List UInt8 → Option (Nat × List UInt8)
  | [] => none
  | byte :: rest =>
    if byte = 255 then (readLength rest).map fun (length, rest) => (255 + length, rest)
    else some (byte.toNat, rest)

def decode : List UInt8 → Option (List UInt8)
  | [] => none
  | token :: rest =>
    if token.toNat / 16 < 15 then
      if rest.length = token.toNat / 16 then some rest else none
    else match readLength rest with
      | none => none
      | some (excess, rest) => if rest.length = 15 + excess then some rest else none

variable (excess : Nat) (literals : List UInt8)

theorem readLength_lengthBytes (rest : List UInt8) :
    readLength (lengthBytes excess ++ rest) = some (excess, rest) := by
  induction excess using lengthBytes.induct with
  | case1 excess small =>
    have byte : (UInt8.ofNat excess).toNat = excess := by
      rw [UInt8.toNat_ofNat', mod_eq_of_lt (by omega)]
    have ends : UInt8.ofNat excess ≠ 255 := fun same => by
      rw [same] at byte
      exact absurd byte.symm (Nat.ne_of_lt small)
    rw [lengthBytes, if_pos small, singleton_append, readLength, if_neg ends, byte]
  | case2 excess large induction_hypothesis =>
    rw [lengthBytes, if_neg large, cons_append, readLength, if_pos rfl, induction_hypothesis,
      Option.map_some]
    exact congrArg (fun length => some (length, rest)) (Nat.add_sub_cancel' (Nat.not_lt.1 large))

theorem length_lengthBytes : (lengthBytes excess).length = excess / 255 + 1 := by
  induction excess using lengthBytes.induct with
  | case1 excess small =>
    rw [lengthBytes, if_pos small, div_eq_of_lt small]
    rfl
  | case2 excess large induction_hypothesis =>
    rw [lengthBytes, if_neg large, length_cons, induction_hypothesis]
    omega

theorem decode_encode : decode (encode literals) = some literals := by
  by_cases short : literals.length < 15
  · have token : (UInt8.ofNat (literals.length * 16)).toNat / 16 = literals.length := by
      rw [UInt8.toNat_ofNat', mod_eq_of_lt (by omega)]
      omega
    rw [encode, if_pos short, decode, token, if_pos short, if_pos rfl]
  · have long : ¬ (0xF0 : UInt8).toNat / 16 < 15 := by decide
    rw [encode, if_neg short, cons_append, decode, if_neg long, readLength_lengthBytes]
    exact if_pos (by omega)

theorem length_encode :
    (encode literals).length ≤ literals.length + literals.length / 255 + 16 := by
  unfold encode
  split
  · rw [length_cons]
    omega
  · rw [length_append, length_cons, length_lengthBytes]
    omega

end Lz4Literals
