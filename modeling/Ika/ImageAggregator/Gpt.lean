import Mathlib.Algebra.Order.Ring.Int
import Mathlib.Algebra.BigOperators.Group.List.Basic

/-! The protective boot record and the partition table of a composite disk. -/

set_option autoImplicit false

namespace Ika.ImageAggregator

open Nat

def u64 (value : Nat) : Nat := value % 2 ^ 64

def DISK_SIZE_SHIFT : Nat := 16

def PARTITION_SIZE_SHIFT : Nat := 12

def kSectorSize : Nat := 1 <<< 9

def GPT_NUM_PARTITIONS : Nat := 128

def AlignToPowerOf2 (val align_log : Nat) : Nat :=
  let align := 1 <<< align_log
  u64 (val + (align - 1)) / align * align

def AlignToPartitionSize (size : Nat) : Nat := AlignToPowerOf2 size PARTITION_SIZE_SHIFT

structure MbrPartitionEntry where
  status : Nat := 0
  partition_type : Nat := 0
  first_lba : Nat := 0
  num_sectors : Nat := 0

structure MasterBootRecord where
  partitions : List MbrPartitionEntry
  boot_signature : List UInt8

/-- The size is made a `uint32_t` before it is divided. -/
def ProtectiveMbr (size : Nat) : MasterBootRecord where
  partitions :=
    [{partition_type := 0xEE, first_lba := 1, num_sectors := size % 2 ^ 32 / kSectorSize}, {}, {}, {}]
  boot_signature := [0x55, 0xAA]

structure GptHeader where
  signature : List UInt8
  revision : List UInt8
  header_size : Nat
  header_crc32 : Nat := 0
  current_lba : Nat
  backup_lba : Nat
  first_usable_lba : Nat
  last_usable_lba : Nat
  disk_guid : List UInt8
  partition_entries_lba : Nat
  num_partition_entries : Nat
  partition_entry_size : Nat
  partition_entries_crc32 : Nat := 0

structure GptPartitionEntry where
  partition_type_guid : List UInt8 := .replicate 16 0
  unique_partition_guid : List UInt8 := .replicate 16 0
  first_lba : Nat := 0
  last_lba : Nat := 0
  partition_name : List Nat := .replicate 36 0

structure GptBeginning where
  protective_mbr : MasterBootRecord
  header : GptHeader
  entries : List GptPartitionEntry

structure GptEnd where
  entries : List GptPartitionEntry
  footer : GptHeader

def sizeofGptHeader : Nat := 92

def sizeofGptPartitionEntry : Nat := 128

def sizeofEntries : Nat := GPT_NUM_PARTITIONS * sizeofGptPartitionEntry

def sizeofGptBeginning : Nat := kSectorSize + kSectorSize + sizeofEntries + 3072

def sizeofGptEnd : Nat := sizeofEntries + kSectorSize

example : AlignToPowerOf2 sizeofGptBeginning PARTITION_SIZE_SHIFT = sizeofGptBeginning := by decide

example : sizeofGptEnd % kSectorSize = 0 := by decide

/-- The least multiple of the unit that is not below the value. -/
def roundUp (value unit : Nat) : Nat := (value + (unit - 1)) / unit * unit

section RoundUp

variable (value : Nat) {unit : Nat}

theorem roundUp_ge (some : 0 < unit) : value ≤ roundUp value unit := by
  unfold roundUp
  have below := @Nat.lt_div_mul_add (value + (unit - 1)) _ some
  omega

theorem roundUp_lt (some : 0 < unit) : roundUp value unit < value + unit := by
  unfold roundUp
  have above := div_mul_le_self (value + (unit - 1)) unit
  omega

variable {value}

theorem roundUp_mod : roundUp value unit % unit = 0 := mul_mod_left _ _

theorem roundUp_of_mod (some : 0 < unit) (multiple : value % unit = 0) :
    roundUp value unit = value := by
  obtain ⟨count, rfl⟩ := dvd_of_mod_eq_zero multiple
  unfold roundUp
  rw [mul_add_div some, div_eq_of_lt (by omega), Nat.add_zero, Nat.mul_comm]

end RoundUp

theorem AlignToPowerOf2_eq {val align_log : Nat} (fits : val + 2 ^ align_log ≤ 2 ^ 64) :
    AlignToPowerOf2 val align_log = roundUp val (2 ^ align_log) := by
  have some : 0 < 2 ^ align_log := Nat.two_pow_pos _
  unfold AlignToPowerOf2 roundUp u64
  rw [one_shiftLeft]
  dsimp only
  rw [mod_eq_of_lt (by omega)]

end Ika.ImageAggregator
