import CrateShelf.Pack.Format
import CrateShelf.Proofs.Outcome
import Mathlib.Tactic.NormNum
import Mathlib.Tactic.Positivity
import Mathlib.Tactic.Ring

/-!
# Numbers of packed documents

A number written with a number of bytes reads back modulo the numbers that so
many bytes can hold.  Each form in which whole numbers are written is read as
the number that was written.
-/

namespace CrateShelf.Pack

@[simp]
theorem length_bigEndian (count number : Nat) :
    (bigEndian count number).length = count := by
  induction count with
  | zero => rfl
  | succ count inductionStep =>
      simp [bigEndian, inductionStep]

/-- Reading goes on from the number already read. -/
theorem foldl_bigEndian (count number start : Nat) :
    (bigEndian count number).foldl
        (fun known byte => known * 256 + byte.toNat) start =
      start * 256 ^ count + number % 256 ^ count := by
  induction count generalizing start with
  | zero =>
      simp [bigEndian, Nat.mod_one]
  | succ count inductionStep =>
      have split :
          number % 256 ^ (count + 1) =
            number % 256 ^ count +
              256 ^ count * (number / 256 ^ count % 256) := by
        rw [pow_succ, Nat.mod_mul]
      have byte :
          (UInt8.ofNat (number / 256 ^ count)).toNat =
            number / 256 ^ count % 256 := by
        simp
      simp only [bigEndian, List.foldl_cons, Nat.pow_eq]
      rw [inductionStep, byte, split]
      ring

/-- What is written with some bytes is read modulo what they can hold. -/
theorem readBigEndian_bigEndian (count number : Nat) :
    readBigEndian (bigEndian count number) = number % 256 ^ count := by
  simpa [readBigEndian] using foldl_bigEndian count number 0

/-- The bytes asked for are taken off the front. -/
theorem takeBytes_append
    (count : Nat)
    (front rest : Bytes)
    (exactly : front.length = count) :
    takeBytes count (front ++ rest) = .ok (front, rest) := by
  subst exactly
  simp [takeBytes]

/-- A number that some bytes can hold is taken off the front. -/
theorem takeNumber_bigEndian
    (width number : Nat)
    (rest : Bytes)
    (small : number < 256 ^ width) :
    takeNumber width (bigEndian width number ++ rest) =
      .ok (number, rest) := by
  have taken :=
    takeBytes_append width (bigEndian width number) rest (by simp)
  simp only [takeNumber, taken, ok_bind, pure_eq_ok,
    readBigEndian_bigEndian, Nat.mod_eq_of_lt small]

/-- A negative number is written as what it lacks to the numbers that the
bytes can hold. -/
theorem signed_complement
    (width : Nat)
    (number : Int)
    (positive : 0 < width)
    (low : -2 ^ (8 * width - 1) ≤ number)
    (negative : number < 0) :
    signed width ((2 : Int) ^ (8 * width) + number).toNat = number := by
  have double : (2 : Int) ^ (8 * width) = 2 * 2 ^ (8 * width - 1) := by
    rw [← pow_succ']
    congr 1
    omega
  have large :
      ¬ ((2 : Int) ^ (8 * width) + number).toNat < 2 ^ (8 * width - 1) := by
    intro small
    have whole :
        ((((2 : Int) ^ (8 * width) + number).toNat : Nat) : Int) <
          ((2 ^ (8 * width - 1) : Nat) : Int) :=
      Int.ofNat_lt.2 small
    push_cast at whole
    omega
  have whole :
      (((2 : Int) ^ (8 * width) + number).toNat : Int) =
        2 ^ (8 * width) + number := by
    apply Int.toNat_of_nonneg
    omega
  simp only [signed, Nat.pow_eq, large, if_false, whole]
  simp

/-! ## Whole numbers -/

section

variable
    (total : Nat)
    (item : Step → Reader Value)
    (place : Place)
    (rest : Bytes)

/-- A number of one byte with no sign is its own first byte. -/
theorem readAfter_small
    (opcode : Nat)
    (small : opcode < 128) :
    readAfter total item place opcode rest =
      .ok (.int opcode, rest) := by
  simp [readAfter, small]

/-- A negative number of one byte is its own first byte. -/
theorem readAfter_smallNegative
    (opcode : Nat)
    (large : 224 ≤ opcode) :
    readAfter total item place opcode rest =
      .ok (.int ((opcode : Int) - 256), rest) := by
  have notText : ¬ opcode < 192 := by omega
  have notList : ¬ opcode < 160 := by omega
  have notMap : ¬ opcode < 144 := by omega
  have notSmall : ¬ opcode < 128 := by omega
  simp [readAfter, notText, notList, notMap, notSmall, large]

/-- A number with no sign stands behind its first byte. -/
theorem readAfter_positive
    (opcode width number : Nat)
    (form : (opcode, width) ∈ [(204, 1), (205, 2), (206, 4), (207, 8)])
    (small : number < 256 ^ width) :
    readAfter total item place opcode (bigEndian width number ++ rest) =
      .ok (.int number, rest) := by
  have taken := takeNumber_bigEndian width number rest small
  have unfolded :
      readAfter total item place opcode (bigEndian width number ++ rest) =
        (takeNumber width (bigEndian width number ++ rest) >>=
          fun read => pure (.int read.1, read.2)) := by
    simp only [List.mem_cons, Prod.mk.injEq, List.not_mem_nil,
      or_false] at form
    rcases form with ⟨rfl, rfl⟩ | ⟨rfl, rfl⟩ | ⟨rfl, rfl⟩ | ⟨rfl, rfl⟩ <;>
      rfl
  simp only [unfolded, taken, ok_bind, pure_eq_ok]

/-- A negative number stands as its complement behind its first byte. -/
theorem readAfter_negative
    (opcode width : Nat)
    (number : Int)
    (form : (opcode, width) ∈ [(208, 1), (209, 2), (210, 4), (211, 8)])
    (low : -2 ^ (8 * width - 1) ≤ number)
    (negative : number < 0) :
    readAfter total item place opcode
        (bigEndian width ((2 : Int) ^ (8 * width) + number).toNat ++ rest) =
      .ok (.int number, rest) := by
  have positive : 0 < width := by
    simp only [List.mem_cons, Prod.mk.injEq, List.not_mem_nil,
      or_false] at form
    omega
  have small :
      ((2 : Int) ^ (8 * width) + number).toNat < 256 ^ width := by
    have power : (256 : Nat) ^ width = 2 ^ (8 * width) := by
      rw [pow_mul]
      norm_num
    have whole : ((2 ^ (8 * width) : Nat) : Int) = 2 ^ (8 * width) := by
      push_cast
      rfl
    have some : 0 < 2 ^ (8 * width) := by positivity
    rw [power]
    omega
  have taken := takeNumber_bigEndian width _ rest small
  have complement := signed_complement width number positive low negative
  have unfolded :
      readAfter total item place opcode
          (bigEndian width ((2 : Int) ^ (8 * width) + number).toNat ++ rest) =
        (takeNumber width
            (bigEndian width ((2 : Int) ^ (8 * width) + number).toNat ++
              rest) >>=
          fun read => pure (.int (signed width read.1), read.2)) := by
    simp only [List.mem_cons, Prod.mk.injEq, List.not_mem_nil,
      or_false] at form
    rcases form with ⟨rfl, rfl⟩ | ⟨rfl, rfl⟩ | ⟨rfl, rfl⟩ | ⟨rfl, rfl⟩ <;>
      rfl
  simp only [unfolded, taken, ok_bind, pure_eq_ok, complement]

end

section

variable
    (total depth : Nat)
    (place : Place)
    (rest : Bytes)

theorem readValue_packInt_natCast
    (number : Nat)
    (high : number < 2 ^ 64) :
    readValue total (depth + 1) place (packInt number ++ rest) =
      .ok (.int number, rest) := by
  unfold packInt
  rw [if_pos (Int.natCast_nonneg number), Int.toNat_natCast]
  dsimp only
  split
  · rename_i small
    have byte : (UInt8.ofNat number).toNat = number := by
      simp
      omega
    simpa [readValue, byte] using
      readAfter_small total _ place rest number small
  · split
    · exact
        readAfter_positive total _ place rest 204 1 number
          (by decide) (by omega)
    · split
      · exact
          readAfter_positive total _ place rest 205 2 number
            (by decide) (by omega)
      · split
        · exact
            readAfter_positive total _ place rest 206 4 number
              (by decide) (by omega)
        · exact
            readAfter_positive total _ place rest 207 8 number
              (by decide) (by omega)

theorem readValue_packInt_of_neg
    (number : Int)
    (low : -2 ^ 63 ≤ number)
    (negative : number < 0) :
    readValue total (depth + 1) place (packInt number ++ rest) =
      .ok (.int number, rest) := by
  unfold packInt
  rw [if_neg (Int.not_le.2 negative)]
  split
  · rename_i small
    have byte :
        (UInt8.ofNat (256 + number).toNat).toNat =
          (256 + number).toNat := by
      simp
      omega
    have back : (((256 + number).toNat : Nat) : Int) - 256 = number := by
      omega
    have read :=
      readAfter_smallNegative total
        (fun step => readValue total depth (step :: place)) place rest
        (256 + number).toNat (by omega)
    rw [back] at read
    simpa only [readValue, List.cons_append, List.nil_append, byte]
      using read
  · split
    · exact
        readAfter_negative total _ place rest 208 1 number
          (by decide) (by omega) negative
    · split
      · exact
          readAfter_negative total _ place rest 209 2 number
            (by decide) (by omega) negative
      · split
        · exact
            readAfter_negative total _ place rest 210 4 number
              (by decide) (by omega) negative
        · exact
            readAfter_negative total _ place rest 211 8 number
              (by decide) (by omega) negative

/-- Every whole number of eight bytes is read as it was written. -/
theorem readValue_packInt
    (number : Int)
    (low : -2 ^ 63 ≤ number)
    (high : number < 2 ^ 64) :
    readValue total (depth + 1) place (packInt number ++ rest) =
      .ok (.int number, rest) := by
  rcases Int.lt_or_le number 0 with negative | positive
  · exact readValue_packInt_of_neg total depth place rest number low negative
  · obtain ⟨size, rfl⟩ := Int.eq_ofNat_of_zero_le positive
    exact readValue_packInt_natCast total depth place rest size
      (by exact_mod_cast high)

end

end CrateShelf.Pack
