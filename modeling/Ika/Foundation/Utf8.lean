import Mathlib.Data.List.Basic

/-! UTF-8 text in bytes, and where to cut it.

The encoding of a character is that of the standard library. A cut that goes back
from a limit while it stands on a continuation byte keeps whole characters, and as
many of them as fit.
-/

set_option autoImplicit false

namespace Utf8

open List

def encode (text : List Char) : List UInt8 := text.flatMap String.utf8EncodeChar

@[simp] theorem encode_nil : encode [] = [] := rfl

variable {limit : Nat} (char : Char)

@[simp] theorem encode_cons (rest : List Char) :
    encode (char :: rest) = String.utf8EncodeChar char ++ encode rest := rfl

@[simp] theorem encode_append (first second : List Char) :
    encode (first ++ second) = encode first ++ encode second :=
  flatMap_append

def decode (bytes : List UInt8) : Option (List Char) :=
  bytes.toByteArray.utf8Decode?.map Array.toList

@[simp] theorem decode_encode (text : List Char) : decode (encode text) = some text := by
  have decoded : (encode text).toByteArray.utf8Decode? = some text.toArray :=
    utf8Decode?_utf8Encode
  simp [decode, decoded]

/-- The byte does not start a character. -/
def IsContinuation (byte : UInt8) : Prop := byte &&& 0x80 ≠ 0 ∧ byte &&& 0xc0 ≠ 0xc0
  deriving Decidable

theorem isContinuation_ofNat {number : Nat} (bound : number < 256) :
    IsContinuation (UInt8.ofNat number) ↔ 0x80 ≤ number ∧ number < 0xc0 := by
  revert number
  decide +kernel

theorem utf8EncodeChar_eq : ∃ (first : Nat) (others : List Nat),
    String.utf8EncodeChar char = UInt8.ofNat first :: others.map UInt8.ofNat ∧
      first < 256 ∧ (first < 0x80 ∨ 0xc0 ≤ first) ∧ (first = 0 → char.val = 0) ∧
      ∀ other ∈ others, 0x80 ≤ other ∧ other < 0xc0 := by
  unfold String.utf8EncodeChar
  extract_lets
  split_ifs with one two three
  · refine ⟨char.val.toNat, [], rfl, by omega, by omega, ?_, by simp⟩
    intro zero
    exact UInt32.toNat_inj.mp zero
  · refine ⟨_, [_], rfl, by omega, by omega, by omega, ?_⟩
    simp only [mem_singleton, forall_eq]
    omega
  · refine ⟨_, [_, _], rfl, by omega, by omega, by omega, ?_⟩
    simp only [mem_cons, not_mem_nil, or_false, forall_eq_or_imp, forall_eq]
    omega
  · refine ⟨_, [_, _, _], rfl, by omega, by omega, by omega, ?_⟩
    simp only [mem_cons, not_mem_nil, or_false, forall_eq_or_imp, forall_eq]
    omega

theorem isContinuation_utf8EncodeChar {char : Char} {index : Nat} {byte : UInt8}
    (found : (String.utf8EncodeChar char)[index]? = some byte) :
    IsContinuation byte ↔ index ≠ 0 := by
  obtain ⟨first, others, bytes, bound, start, _, rest⟩ := utf8EncodeChar_eq char
  rw [bytes] at found
  cases index with
  | zero =>
    cases found
    rw [isContinuation_ofNat bound]
    omega
  | succ index =>
    obtain ⟨other, mem, same⟩ := mem_map.mp (mem_of_getElem? found)
    have between := rest other mem
    rw [← same, isContinuation_ofNat (by omega)]
    omega

theorem zero_mem_encode {text : List Char} (clean : '\x00' ∉ text) : 0 ∉ encode text := by
  intro zero
  obtain ⟨char, mem, zero⟩ := mem_flatMap.mp zero
  obtain ⟨first, others, bytes, bound, _, null, rest⟩ := utf8EncodeChar_eq char
  have small : ∀ number < 256, UInt8.ofNat number = 0 → number = 0 := by decide +kernel
  rw [bytes] at zero
  rcases mem_cons.mp zero with here | later
  · have value := null (small first bound here.symm)
    have same : char = '\x00' := Char.ext value
    exact clean (same ▸ mem)
  · obtain ⟨other, among, same⟩ := mem_map.mp later
    have between := rest other among
    have := small other (by omega) same
    omega

/-- The index to cut at, going back while a character would be cut there. -/
def cutBack (stored : List UInt8) : Nat → Nat
  | 0 => 0
  | index + 1 =>
    if IsContinuation (stored.getD (index + 1) 0) then cutBack stored index else index + 1

/-- The longest prefix of whole characters that fits in so many bytes. -/
def fitting (limit : Nat) : List Char → List Char
  | [] => []
  | char :: rest =>
    if char.utf8Size ≤ limit then char :: fitting (limit - char.utf8Size) rest else []

theorem cutBack_eq {stored : List UInt8} {start : Nat} (reach : start ≤ limit)
    (stop : start = 0 ∨ ¬IsContinuation (stored.getD start 0))
    (through : ∀ index, start < index → index ≤ limit → IsContinuation (stored.getD index 0)) :
    cutBack stored limit = start := by
  induction limit with
  | zero =>
    obtain rfl : start = 0 := by omega
    rfl
  | succ limit ih =>
    by_cases there : start = limit + 1
    · subst there
      exact if_neg (stop.resolve_left (by omega))
    · rw [cutBack, if_pos (through (limit + 1) (by omega) (Nat.le_refl _))]
      exact ih (by omega) fun index after before => through index after (by omega)

theorem fitting_split (limit : Nat) (text : List Char) :
    (encode (fitting limit text)).length ≤ limit ∧ (fitting limit text = text ∨
      ∃ char rest, text = fitting limit text ++ char :: rest ∧
        limit < (encode (fitting limit text)).length + char.utf8Size) := by
  induction text generalizing limit with
  | nil => exact ⟨Nat.zero_le _, .inl rfl⟩
  | cons char rest ih =>
    unfold fitting
    split_ifs with fits
    · obtain ⟨bound, whole | ⟨last, others, split, full⟩⟩ := ih (limit - char.utf8Size)
      · refine ⟨?_, .inl (by rw [whole])⟩
        rw [encode_cons, length_append, String.length_utf8EncodeChar]
        omega
      · refine ⟨?_, .inr ⟨last, others, by rw [cons_append, ← split], ?_⟩⟩
        all_goals
          rw [encode_cons, length_append, String.length_utf8EncodeChar]
          omega
    · refine ⟨Nat.zero_le _, .inr ⟨char, rest, rfl, ?_⟩⟩
      simpa using fits

theorem fitting_of_le {text : List Char} (fits : (encode text).length ≤ limit) :
    fitting limit text = text := by
  obtain ⟨_, whole | ⟨char, rest, split, full⟩⟩ := fitting_split limit text
  · exact whole
  · have size := congrArg (fun chars => (encode chars).length) split
    simp only [encode_append, encode_cons, length_append, String.length_utf8EncodeChar] at size
    omega

theorem cutBack_encode {text : List Char} (long : limit < (encode text).length)
    (tail : List UInt8) :
    cutBack (encode text ++ tail) limit = (encode (fitting limit text)).length := by
  obtain ⟨bound, whole | ⟨char, rest, split, full⟩⟩ := fitting_split limit text
  · rw [whole] at bound
    omega
  · -- from there to the limit are the bytes of the character that does not fit
    have inside : ∀ index, (encode (fitting limit text)).length ≤ index → index ≤ limit →
        (String.utf8EncodeChar char)[index - (encode (fitting limit text)).length]? =
          some ((encode text ++ tail).getD index 0) := by
      intro index after before
      have small : index - (encode (fitting limit text)).length <
          (String.utf8EncodeChar char).length := by
        rw [String.length_utf8EncodeChar]
        omega
      have stored : encode text ++ tail = encode (fitting limit text) ++
          (String.utf8EncodeChar char ++ (encode rest ++ tail)) := by
        conv_lhs => rw [split]
        simp
      rw [stored, getD_eq_getElem?_getD, getElem?_append_right after,
        getElem?_append_left small, getElem?_eq_getElem small, Option.getD_some]
    apply cutBack_eq bound
    · right
      have first := inside _ (Nat.le_refl _) bound
      rw [isContinuation_utf8EncodeChar first]
      omega
    · intro index after before
      rw [isContinuation_utf8EncodeChar (inside index (by omega) before)]
      omega

/-- A prefix of whole characters that no other that fits is longer than. -/
def LongestPrefix (limit : Nat) (text cut : List Char) : Prop :=
  cut <+: text ∧ (encode cut).length ≤ limit ∧
    ∀ other, other <+: text → (encode other).length ≤ limit → other <+: cut

theorem fitting_longest (limit : Nat) (text : List Char) :
    LongestPrefix limit text (fitting limit text) := by
  obtain ⟨bound, whole | ⟨char, rest, split, full⟩⟩ := fitting_split limit text
  · rw [whole] at bound ⊢
    exact ⟨prefix_rfl, bound, fun other cut _ => cut⟩
  · have cut : fitting limit text <+: text := ⟨_, split.symm⟩
    refine ⟨cut, bound, ?_⟩
    intro other prefixed fits
    rcases prefix_or_prefix_of_prefix prefixed cut with shorter | ⟨extra, longer⟩
    · exact shorter
    · cases extra with
      | nil =>
        have same : fitting limit text = other := by rwa [append_nil] at longer
        exact same ▸ prefix_rfl
      | cons next more =>
        -- a longer one has the character that does not fit
        obtain ⟨tail, whole⟩ := prefixed
        rw [← longer, append_assoc] at whole
        have same := append_cancel_left (whole.trans split)
        cases (List.cons.inj same).1
        rw [← longer] at fits
        simp only [encode_append, encode_cons, length_append,
          String.length_utf8EncodeChar] at fits
        omega

theorem take_encode_fitting (limit : Nat) (text : List Char) (tail : List UInt8) :
    (encode text ++ tail).take (encode (fitting limit text)).length = encode (fitting limit text) := by
  obtain ⟨rest, split⟩ := (fitting_longest limit text).1
  have stored : encode text = encode (fitting limit text) ++ encode rest := by
    conv_lhs => rw [← split]
    exact encode_append ..
  rw [stored, append_assoc, take_left]

end Utf8
