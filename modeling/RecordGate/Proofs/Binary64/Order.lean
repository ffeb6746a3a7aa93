import Mathlib.Algebra.Order.Archimedean.Basic
import Mathlib.Algebra.Order.Field.Power
import Mathlib.Algebra.Order.Ring.Rat
import Mathlib.Data.Int.ConditionallyCompleteOrder
import Mathlib.Order.Monotone.Basic
import Mathlib.Tactic.FieldSimp
import Mathlib.Tactic.Linarith
import Mathlib.Tactic.Positivity
import Mathlib.Tactic.Ring
import RecordGate.Binary64.Basic

/-!
# What doubles stand for

A double stands for a rational number, its significand times a power of two with the sign of the double.  From one
rank to the next this number grows by the power of two of the block in which the rank lies, so that the order of
the ranks is the order of the numbers, across the borders of the blocks as well.

Main statements: `toRat_lt_iff`, `toRat_eq_iff`.
-/

namespace RecordGate.Binary64

/-- The magnitude at a rank. -/
def grid (rank : Nat) : ℚ :=
  if rank < block then rank * 2 ^ (-1074 : ℤ) else (block + rank % block : Nat) * 2 ^ ((rank / block : Nat) - 1075 : ℤ)

/-- The number that a double stands for. -/
def toRat (x : Binary64) : ℚ := if x.negative then -grid x.rank else grid x.rank

theorem grid_rank (x : Binary64) : grid x.rank = x.significand * 2 ^ x.exponent := by
  unfold grid significand exponent
  split <;> simp

theorem block_pos : 0 < block := by decide

/-! ### From one rank to the next -/

theorem grid_mul_block_add {k s : Nat} (hs : s ≤ 2 * block) (hk : k = 0 ∨ block ≤ s) :
    grid (k * block + s) = s * 2 ^ ((k : ℤ) - 1074) := by
  have hpos := block_pos
  rcases Nat.lt_or_ge s block with hsmall | hlarge
  · obtain rfl : k = 0 := by omega
    simp [grid, hsmall]
  · have hge : ¬ k * block + s < block := by omega
    rcases Nat.lt_or_ge s (2 * block) with hlt | hend
    · have hsum : k * block + s = (s - block) + (k + 1) * block := by
        rw [Nat.add_mul, Nat.one_mul]
        omega
      have hdiv : (k * block + s) / block = k + 1 := by
        rw [hsum, Nat.add_mul_div_right _ _ hpos, Nat.div_eq_of_lt (by omega), Nat.zero_add]
      have hmod : (k * block + s) % block = s - block := by
        rw [hsum, Nat.add_mul_mod_self_right, Nat.mod_eq_of_lt (by omega)]
      have hexp : ((k + 1 : Nat) : ℤ) - 1075 = k - 1074 := by push_cast; ring
      rw [grid, if_neg hge, hdiv, hmod, hexp, Nat.add_sub_cancel' hlarge]
    · obtain rfl : s = 2 * block := by omega
      have hdiv : (k * block + 2 * block) / block = k + 2 := by
        rw [← Nat.add_mul, Nat.mul_div_cancel _ hpos]
      have hmod : (k * block + 2 * block) % block = 0 := by
        rw [← Nat.add_mul, Nat.mul_mod_left]
      have hexp : ((k + 2 : Nat) : ℤ) - 1075 = (k - 1074) + 1 := by push_cast; ring
      rw [grid, if_neg hge, hdiv, hmod, hexp, zpow_add_one₀ (by norm_num)]
      push_cast
      ring

theorem exists_eq_mul_block_add (rank : Nat) :
    ∃ k s, rank = k * block + s ∧ s < 2 * block ∧ (k = 0 ∨ block ≤ s) := by
  have hpos := block_pos
  rcases Nat.lt_or_ge rank block with hsmall | hlarge
  · exact ⟨0, rank, by omega, by omega, .inl rfl⟩
  · have hmod := Nat.mod_lt rank hpos
    have hsplit := Nat.div_add_mod rank block
    have hdiv : 1 ≤ rank / block := (Nat.one_le_div_iff hpos).2 hlarge
    obtain ⟨k, hk⟩ := Nat.exists_eq_add_of_le hdiv
    refine ⟨k, block + rank % block, ?_, by omega, .inr (by omega)⟩
    rw [hk] at hsplit
    nlinarith

theorem grid_lt_succ (rank : Nat) : grid rank < grid (rank + 1) := by
  obtain ⟨k, s, rfl, hs, hk⟩ := exists_eq_mul_block_add rank
  have hnext : k = 0 ∨ block ≤ s + 1 := hk.imp id fun h => by omega
  rw [grid_mul_block_add hs.le hk, Nat.add_assoc, grid_mul_block_add hs hnext]
  have hpow : (0 : ℚ) < 2 ^ ((k : ℤ) - 1074) := by positivity
  push_cast
  nlinarith

theorem strictMono_grid : StrictMono grid := strictMono_nat_of_lt_succ grid_lt_succ

theorem grid_zero : grid 0 = 0 := by simp [grid, block_pos]

theorem grid_nonneg (rank : Nat) : 0 ≤ grid rank := by
  rw [← grid_zero]
  exact strictMono_grid.monotone (Nat.zero_le rank)

/-! ### The order of doubles -/

/-- The number at a key. -/
def signedGrid (key : ℤ) : ℚ := if key < 0 then -grid key.natAbs else grid key.natAbs

theorem toRat_eq_signedGrid (x : Binary64) : x.toRat = signedGrid x.key := by
  unfold toRat signedGrid key
  cases x.negative with
  | false =>
    simp
  | true =>
    by_cases hzero : x.rank = 0
    · simp [hzero, grid_zero]
    · simp [hzero]

theorem signedGrid_lt_succ (key : ℤ) : signedGrid key < signedGrid (key + 1) := by
  unfold signedGrid
  rcases Int.lt_or_le key 0 with hneg | hnonneg
  · have hstep : key.natAbs = (key + 1).natAbs + 1 := by omega
    have hgrid := grid_lt_succ (key + 1).natAbs
    rw [if_pos hneg, hstep]
    split
    · exact neg_lt_neg hgrid
    · linarith [grid_nonneg (key + 1).natAbs]
  · have hstep : (key + 1).natAbs = key.natAbs + 1 := by omega
    rw [if_neg (by omega), if_neg (by omega), hstep]
    exact grid_lt_succ _

theorem strictMono_signedGrid : StrictMono signedGrid := strictMono_int_of_lt_succ signedGrid_lt_succ

/-- **The keys are ordered as the numbers are.** -/
theorem toRat_lt_iff {x y : Binary64} : x.toRat < y.toRat ↔ x.key < y.key := by
  rw [toRat_eq_signedGrid, toRat_eq_signedGrid, strictMono_signedGrid.lt_iff_lt]

theorem toRat_le_iff {x y : Binary64} : x.toRat ≤ y.toRat ↔ x.key ≤ y.key := by
  rw [toRat_eq_signedGrid, toRat_eq_signedGrid, strictMono_signedGrid.le_iff_le]

theorem toRat_eq_iff {x y : Binary64} : x.toRat = y.toRat ↔ x.key = y.key := by
  rw [toRat_eq_signedGrid, toRat_eq_signedGrid, strictMono_signedGrid.injective.eq_iff]

theorem abs_toRat (x : Binary64) : |x.toRat| = grid x.rank := by
  unfold toRat
  split
  · rw [abs_neg, abs_of_nonneg (grid_nonneg _)]
  · exact abs_of_nonneg (grid_nonneg _)

end RecordGate.Binary64
