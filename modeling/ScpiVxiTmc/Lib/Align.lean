set_option autoImplicit false

/- Rounding lengths up to whole words of four bytes, on numbers and on the
machine words that hold them. -/
namespace Align

/-- `(n + 0x03) & (~0x03)` for an `n` far from overflow -/
def up (n : Nat) : Nat := (n + 3) / 4 * 4

/-- How many bytes `up` adds. -/
def padding (n : Nat) : Nat := (4 - n % 4) % 4

theorem up_eq_add_padding (n : Nat) : up n = n + padding n := by
  unfold up padding
  omega

theorem padding_lt (n : Nat) : padding n < 4 := Nat.mod_lt _ (by decide)

theorem padding_eq_zero {n : Nat} : padding n = 0 ↔ n % 4 = 0 := by
  unfold padding
  omega

/-- Whole words sent before do not change how much the rest lacks to a word. -/
theorem padding_sub_words (n words : Nat) (fits : 4 * words ≤ n) :
    padding (n - 4 * words) = padding n := by
  unfold padding
  omega

/-- A length already rounded does not disturb the rounding of another. -/
theorem up_add_words (n words : Nat) : up (n + 4 * words) = up n + 4 * words := by
  unfold up
  omega

theorem and_not_three (word : BitVec 32) : word &&& ~~~3#32 = (word >>> 2) <<< 2 := by
  have mask : ∀ place (inside : place < 32), (~~~3#32)[place] = !decide (place < 2) := by decide
  ext place inside
  simp only [BitVec.getElem_and, mask place inside, BitVec.getElem_shiftLeft]
  by_cases low : place < 2
  · simp only [low, decide_true, Bool.not_true, Bool.and_false, Bool.false_and]
  · have back : place - 2 + 2 = place := by omega
    simp only [low, decide_false, Bool.not_false, Bool.and_true, BitVec.getElem_ushiftRight,
      Nat.add_comm 2, back, Bool.true_and]
    exact (BitVec.getLsbD_eq_getElem inside).symm

theorem toNat_and_not_three (word : BitVec 32) :
    (word &&& ~~~3#32).toNat = word.toNat / 4 * 4 := by
  have bound := word.isLt
  rw [and_not_three, BitVec.toNat_shiftLeft, BitVec.toNat_ushiftRight,
    Nat.shiftRight_eq_div_pow, Nat.shiftLeft_eq]
  omega

end Align
