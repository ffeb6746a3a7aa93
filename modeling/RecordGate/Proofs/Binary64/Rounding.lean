import Mathlib.Data.Nat.Cast.Order.Field
import RecordGate.Proofs.Binary64.Order

/-!
# Rounding to the nearest double

Rounding a ratio finds the power of two that the last binary place of the result stands for, and then the natural
number nearest to the ratio counted in this place.  The doubles next to the ratio on either side are multiples of
this power of two, so the nearest multiple is the nearest double, and of two equally near ones the even multiple
has the even significand.

## The argument

* `roundDiv` is the natural number nearest to a quotient, and the even one of two (`abs_roundDiv_sub_le_abs`).
* `lastPlace` is guessed from the binary lengths of numerator and denominator and corrected by one at most.
  `lastPlace_spec` says what comes out: counted in this place the ratio is below two blocks, and not below one block
  unless the place is the smallest there is.
* So the rank of the result is that of a double in the block of this place, and rounding up into the next block is
  right as well, since `grid` goes on there without a gap (`exists_rankOf_eq`).
* Of the doubles only the two next to the ratio can be nearest (`exists_neighbour`), and the evenness of a rank is that
  of the significand.

An integer of 64 bits is never past the greatest double, so that no overflow has to be spoken of.  What follows for
comparisons needs only that rounding goes to the nearest: it keeps what a double can hold (`Nearest.toRat_eq`) and it
never turns an order around (`Nearest.toRat_le`).

Main statement: `nearest_ofInt`.
-/

namespace RecordGate.Binary64

/-- What a number rounds to: no double is nearer to it, and where another one is as near, the significand is even. -/
structure Nearest (x : Binary64) (q : ℚ) : Prop where
  le : ∀ y : Binary64, |x.toRat - q| ≤ |y.toRat - q|
  even : ∀ y : Binary64, y.toRat ≠ x.toRat → |y.toRat - q| = |x.toRat - q| → x.significand % 2 = 0

/-! ### Rounded quotients -/

/-- A quotient is rounded down up to the middle and up from the middle, in the middle to the even side. -/
theorem roundDiv_cases (num den : Nat) :
    (roundDiv num den = num / den ∧ 2 * (num % den) ≤ den ∧ (2 * (num % den) = den → num / den % 2 = 0)) ∨
      (roundDiv num den = num / den + 1 ∧ den ≤ 2 * (num % den) ∧
        (2 * (num % den) = den → num / den % 2 = 1)) := by
  unfold roundDiv
  dsimp only
  split
  next h =>
    simp only [Bool.or_eq_true, decide_eq_true_eq, Bool.and_eq_true, beq_iff_eq] at h
    right
    omega
  next h =>
    simp only [Bool.or_eq_true, decide_eq_true_eq, Bool.and_eq_true, beq_iff_eq] at h
    left
    omega

section

variable (num : Nat) {den : Nat}

theorem cast_div_eq (hden : 0 < den) : (num : ℚ) / den = (num / den : Nat) + (num % den : Nat) / den := by
  have hsplit : (num : ℚ) = den * (num / den : Nat) + (num % den : Nat) := by
    exact_mod_cast (Nat.div_add_mod num den).symm
  have hpos : (den : ℚ) ≠ 0 := by positivity
  field_simp
  exact hsplit

theorem abs_roundDiv_sub_le (hden : 0 < den) : |(roundDiv num den : ℚ) - num / den| ≤ 1 / 2 := by
  have hpos : (0 : ℚ) < den := by exact_mod_cast hden
  rw [cast_div_eq num hden, abs_le]
  have hrem : (0 : ℚ) ≤ (num % den : Nat) / den := by positivity
  have hless : ((num % den : Nat) : ℚ) / den < 1 := by
    rw [div_lt_one hpos]
    exact_mod_cast Nat.mod_lt num hden
  rcases roundDiv_cases num den with ⟨hdown, hhalf, -⟩ | ⟨hup, hhalf, -⟩
  · have hle : ((num % den : Nat) : ℚ) / den ≤ 1 / 2 := by
      rw [div_le_iff₀ hpos]
      have : (2 * (num % den : Nat) : ℚ) ≤ den := by exact_mod_cast hhalf
      linarith
    rw [hdown]
    constructor <;> linarith
  · have hge : 1 / 2 ≤ ((num % den : Nat) : ℚ) / den := by
      rw [le_div_iff₀ hpos]
      have : (den : ℚ) ≤ 2 * (num % den : Nat) := by exact_mod_cast hhalf
      linarith
    rw [hup]
    push_cast
    constructor <;> linarith

theorem roundDiv_even {num : Nat} (hden : 0 < den) (h : |(roundDiv num den : ℚ) - num / den| = 1 / 2) :
    roundDiv num den % 2 = 0 := by
  have hpos : (0 : ℚ) < den := by exact_mod_cast hden
  rw [cast_div_eq num hden] at h
  have hhalf : ((num % den : Nat) : ℚ) / den = 1 / 2 → 2 * (num % den) = den := by
    intro heq
    rw [div_eq_iff hpos.ne'] at heq
    have : (2 * (num % den : Nat) : ℚ) = den := by linarith
    exact_mod_cast this
  rcases roundDiv_cases num den with ⟨hdown, -, heven⟩ | ⟨hup, -, hodd⟩
  · rw [hdown] at h ⊢
    apply heven
    apply hhalf
    have hrem : (0 : ℚ) ≤ (num % den : Nat) / den := by positivity
    rwa [sub_add_cancel_left, abs_neg, abs_of_nonneg hrem] at h
  · rw [hup] at h ⊢
    have hless : ((num % den : Nat) : ℚ) / den < 1 := by
      rw [div_lt_one hpos]
      exact_mod_cast Nat.mod_lt num hden
    push_cast at h
    rw [add_sub_add_left_eq_sub, abs_of_pos (by linarith)] at h
    have := hodd (hhalf (by linarith))
    omega

/-- No natural number is nearer to a quotient than the rounded one. -/
theorem abs_roundDiv_sub_le_abs (hden : 0 < den) (m : Nat) :
    |(roundDiv num den : ℚ) - num / den| ≤ |(m : ℚ) - num / den| ∧
      (m ≠ roundDiv num den → |(m : ℚ) - num / den| = |(roundDiv num den : ℚ) - num / den| →
        roundDiv num den % 2 = 0) := by
  have hhalf := abs_roundDiv_sub_le num hden
  by_cases hm : m = roundDiv num den
  · exact ⟨by rw [hm], fun hne => absurd hm hne⟩
  · have hapart : (1 : ℚ) ≤ |(m : ℚ) - roundDiv num den| := by
      have : (1 : ℤ) ≤ |(m : ℤ) - roundDiv num den| := Int.one_le_abs (by omega)
      exact_mod_cast this
    have htriangle := abs_sub_le (m : ℚ) (num / den) (roundDiv num den)
    rw [abs_sub_comm (num / den : ℚ)] at htriangle
    refine ⟨by linarith, ?_⟩
    intro _ heq
    apply roundDiv_even hden
    linarith

end

/-! ### The last place -/

theorem powerOfTwo_pos (e : Int) : 0 < (powerOfTwo e).1 ∧ 0 < (powerOfTwo e).2 := by
  cases e with
  | ofNat k => exact ⟨Nat.pow_pos (by decide), Nat.one_pos⟩
  | negSucc k => exact ⟨Nat.one_pos, Nat.pow_pos (by decide)⟩

theorem powerOfTwo_eq (e : Int) : ((powerOfTwo e).1 : ℚ) / (powerOfTwo e).2 = 2 ^ e := by
  cases e with
  | ofNat k => simp [powerOfTwo]
  | negSucc k => simp [powerOfTwo, zpow_negSucc]

theorem scaled_eq (num den : Nat) (e : Int) :
    ((num * (powerOfTwo e).2 : Nat) : ℚ) / (den * (powerOfTwo e).1 : Nat) = num / den / 2 ^ e := by
  obtain ⟨hone, htwo⟩ := powerOfTwo_pos e
  rw [← powerOfTwo_eq]
  push_cast
  field_simp

theorem le_scaled_iff {den : Nat} (hden : 0 < den) (num m : Nat) (e : Int) :
    m ≤ num * (powerOfTwo e).2 / (den * (powerOfTwo e).1) ↔ (m : ℚ) ≤ num / den / 2 ^ e := by
  have hpos : 0 < den * (powerOfTwo e).1 := Nat.mul_pos hden (powerOfTwo_pos e).1
  rw [← scaled_eq, le_div_iff₀ (by exact_mod_cast hpos), Nat.le_div_iff_mul_le hpos]
  norm_cast

theorem ratio_bounds {num den : Nat} (hnum : 0 < num) (hden : 0 < den) :
    (2 : ℚ) ^ ((num.log2 : ℤ) - den.log2 - 1) < num / den ∧
      (num : ℚ) / den < 2 ^ ((num.log2 : ℤ) - den.log2 + 1) := by
  have hpos : (0 : ℚ) < den := by exact_mod_cast hden
  have hnumle : (2 : ℚ) ^ (num.log2 : ℤ) ≤ num := by exact_mod_cast Nat.log2_self_le hnum.ne'
  have hnumlt : (num : ℚ) < 2 ^ ((num.log2 : ℤ) + 1) := by exact_mod_cast Nat.lt_log2_self
  have hdenle : (2 : ℚ) ^ (den.log2 : ℤ) ≤ den := by exact_mod_cast Nat.log2_self_le hden.ne'
  have hdenlt : (den : ℚ) < 2 ^ ((den.log2 : ℤ) + 1) := by exact_mod_cast Nat.lt_log2_self
  constructor
  · rw [lt_div_iff₀ hpos]
    calc (2 : ℚ) ^ ((num.log2 : ℤ) - den.log2 - 1) * den
        < 2 ^ ((num.log2 : ℤ) - den.log2 - 1) * 2 ^ ((den.log2 : ℤ) + 1) := by gcongr
      _ = 2 ^ (num.log2 : ℤ) := by rw [← zpow_add₀ (by norm_num)]; congr 1; ring
      _ ≤ num := hnumle
  · rw [div_lt_iff₀ hpos]
    calc (num : ℚ) < 2 ^ ((num.log2 : ℤ) + 1) := hnumlt
      _ = 2 ^ ((num.log2 : ℤ) - den.log2 + 1) * 2 ^ (den.log2 : ℤ) := by
        rw [← zpow_add₀ (by norm_num)]; congr 1; ring
      _ ≤ 2 ^ ((num.log2 : ℤ) - den.log2 + 1) * den := by gcongr

/-- The last place, or the place below it. -/
def guessedPlace (num den : Nat) : Int := max (-1074) ((num.log2 : Int) - den.log2 - 53)

theorem lastPlace_eq (num den : Nat) :
    lastPlace num den =
      if 2 * block ≤ num * (powerOfTwo (guessedPlace num den)).2 / (den * (powerOfTwo (guessedPlace num den)).1)
      then guessedPlace num den + 1 else guessedPlace num den := rfl

/-- The last place of a ratio is the one in which it has 53 binary digits, or the last of all places if it has
fewer there. -/
theorem lastPlace_spec {num den : Nat} (hnum : 0 < num) (hden : 0 < den) :
    -1074 ≤ lastPlace num den ∧
      (num : ℚ) / den / 2 ^ lastPlace num den < (2 * block : Nat) ∧
      (lastPlace num den = -1074 ∨ (block : ℚ) ≤ num / den / 2 ^ lastPlace num den) ∧
      lastPlace num den ≤ guessedPlace num den + 1 := by
  obtain ⟨hlow, hhigh⟩ := ratio_bounds hnum hden
  have hblock : ((2 * block : Nat) : ℚ) = 2 ^ (53 : ℤ) := by norm_num [block]
  have hhalf : (block : ℚ) = 2 ^ (52 : ℤ) := by norm_num [block]
  rw [lastPlace_eq]
  obtain ⟨guess, hguess⟩ : ∃ guess, guess = guessedPlace num den := ⟨_, rfl⟩
  rw [← hguess]
  unfold guessedPlace at hguess
  have hpos : (0 : ℚ) < 2 ^ guess := by positivity
  have hcond := le_scaled_iff hden num (2 * block) guess
  by_cases hge : ((2 * block : Nat) : ℚ) ≤ num / den / 2 ^ guess
  · rw [if_pos (hcond.2 hge)]
    refine ⟨by omega, ?_, .inr ?_, le_refl _⟩
    · rw [hblock, div_lt_iff₀ (by positivity), ← zpow_add₀ (by norm_num)]
      refine hhigh.trans_le (zpow_le_zpow_right₀ (by norm_num) ?_)
      omega
    · rw [hblock, le_div_iff₀ hpos, ← zpow_add₀ (by norm_num)] at hge
      rw [hhalf, le_div_iff₀ (by positivity), ← zpow_add₀ (by norm_num)]
      refine (zpow_le_zpow_right₀ (by norm_num) ?_).trans hge
      omega
  · rw [if_neg fun h => hge (hcond.1 h)]
    refine ⟨by omega, not_le.1 hge, ?_, by omega⟩
    rcases le_or_gt ((num.log2 : ℤ) - den.log2 - 53) (-1074) with hsmall | hlarge
    · exact .inl (by omega)
    · right
      rw [hhalf, le_div_iff₀ hpos, ← zpow_add₀ (by norm_num)]
      refine (zpow_le_zpow_right₀ (by norm_num) ?_).trans hlow.le
      omega

/-! ### The nearest magnitude -/

section

variable {num den : Nat}

/-- The rank that a ratio is rounded to: the first rank of the block of the last place, and the rounded multiple of
that place. -/
theorem exists_rankOf_eq (hnum : 0 < num) (hden : 0 < den) :
    ∃ k n d : Nat, 0 < d ∧ (n : ℚ) / d = num / den / 2 ^ ((k : ℤ) - 1074) ∧
      n / d < 2 * block ∧ (k = 0 ∨ block ≤ n / d) ∧ (k : ℤ) ≤ guessedPlace num den + 1075 ∧
      rankOf num den = k * block + roundDiv n d := by
  obtain ⟨hmin, hless, hnormal, hguess⟩ := lastPlace_spec hnum hden
  obtain ⟨k, hk⟩ : ∃ k : Nat, (k : ℤ) = lastPlace num den + 1074 := ⟨(lastPlace num den + 1074).toNat, by omega⟩
  have hplace : (k : ℤ) - 1074 = lastPlace num den := by omega
  have htoNat : (lastPlace num den + 1074).toNat = k := by omega
  have hpos : 0 < den * (powerOfTwo (lastPlace num den)).1 := Nat.mul_pos hden (powerOfTwo_pos _).1
  refine ⟨k, num * (powerOfTwo (lastPlace num den)).2, den * (powerOfTwo (lastPlace num den)).1, hpos, ?_, ?_, ?_,
    by omega, ?_⟩
  · rw [hplace, scaled_eq]
  · exact Nat.lt_of_not_le fun hle => not_le.2 hless ((le_scaled_iff hden num _ _).1 hle)
  · rcases hnormal with hmin | hnormal
    · exact .inl (by omega)
    · exact .inr ((le_scaled_iff hden num _ _).2 hnormal)
  · have hzero : (num = 0 || den = 0) = false := by simp [hnum.ne', hden.ne']
    rw [← htoNat, rankOf, hzero]
    rfl

theorem roundDiv_eq_or (n d : Nat) : roundDiv n d = n / d ∨ roundDiv n d = n / d + 1 := by
  rcases roundDiv_cases n d with ⟨hdown, -⟩ | ⟨hup, -⟩
  · exact .inl hdown
  · exact .inr hup

theorem significand_mod_two (x : Binary64) : x.significand % 2 = x.rank % 2 := by
  have hblock : block % 2 = 0 := by decide
  unfold significand
  split
  · rfl
  · have hmod : x.rank % block % 2 = x.rank % 2 := Nat.mod_mod_of_dvd _ (Nat.dvd_of_mod_eq_zero hblock)
    omega

theorem mul_block_add_mod_two (k m : Nat) : (k * block + m) % 2 = m % 2 := by
  have hblock : block % 2 = 0 := by decide
  rw [Nat.add_mod, Nat.mul_mod, hblock]
  simp

/-- Of the two magnitudes around a number one is at least as near as any other. -/
theorem exists_neighbour {t : ℚ} {below : Nat} (hlow : grid below ≤ t) (hhigh : t < grid (below + 1)) (rank : Nat) :
    ∃ r, (r = below ∨ r = below + 1) ∧ |grid r - t| ≤ |grid rank - t| ∧
      (|grid rank - t| = |grid r - t| → rank = r) := by
  rcases Nat.lt_or_ge below rank with hright | hleft
  · have hle : grid (below + 1) ≤ grid rank := strictMono_grid.monotone hright
    refine ⟨below + 1, .inr rfl, ?_⟩
    rw [abs_of_pos (by linarith), abs_of_pos (by linarith)]
    refine ⟨by linarith, ?_⟩
    intro heq
    exact strictMono_grid.injective (by linarith)
  · have hle : grid rank ≤ grid below := strictMono_grid.monotone hleft
    refine ⟨below, .inl rfl, ?_⟩
    rw [abs_of_nonpos (by linarith), abs_of_nonpos (by linarith)]
    refine ⟨by linarith, ?_⟩
    intro heq
    exact strictMono_grid.injective (by linarith)

/-- **No magnitude is nearer to a ratio than the one it is rounded to**, and if another one is as near, the rank is
even. -/
theorem abs_grid_rankOf_sub_le (hnum : 0 < num) (hden : 0 < den) (rank : Nat) :
    |grid (rankOf num den) - num / den| ≤ |grid rank - num / den| ∧
      (rank ≠ rankOf num den → |grid rank - num / den| = |grid (rankOf num den) - num / den| →
        rankOf num den % 2 = 0) := by
  obtain ⟨k, n, d, hd, hratio, hless, hnormal, -, hrank⟩ := exists_rankOf_eq hnum hden
  have hpow : (0 : ℚ) < 2 ^ ((k : ℤ) - 1074) := by positivity
  have hnum : (num : ℚ) / den = n / d * 2 ^ ((k : ℤ) - 1074) := by
    rw [hratio]
    field_simp
  have hgrid {m : Nat} (hm : m = n / d ∨ m = n / d + 1) :
      grid (k * block + m) = m * 2 ^ ((k : ℤ) - 1074) := by
    refine grid_mul_block_add (by omega) (hnormal.imp id fun h => ?_)
    omega
  have hdist {m : Nat} (hm : m = n / d ∨ m = n / d + 1) :
      |grid (k * block + m) - num / den| = |(m : ℚ) - n / d| * 2 ^ ((k : ℤ) - 1074) := by
    rw [hgrid hm, hnum, ← sub_mul, abs_mul, abs_of_pos hpow]
  have hlow : grid (k * block + n / d) ≤ num / den := by
    rw [hgrid (.inl rfl), hnum]
    gcongr
    exact Nat.cast_div_le
  have hhigh : (num : ℚ) / den < grid (k * block + n / d + 1) := by
    have hceil : (n : ℚ) / d < (n / d + 1 : Nat) := by
      rw [div_lt_iff₀ (by exact_mod_cast hd)]
      exact_mod_cast (Nat.div_lt_iff_lt_mul hd).1 (Nat.lt_succ_self (n / d))
    rw [Nat.add_assoc, hgrid (.inr rfl), hnum]
    gcongr
  obtain ⟨r, hr, hnear, hsame⟩ := exists_neighbour hlow hhigh rank
  obtain ⟨m, hm, rfl⟩ : ∃ m, (m = n / d ∨ m = n / d + 1) ∧ r = k * block + m := by
    rcases hr with rfl | rfl
    · exact ⟨_, .inl rfl, rfl⟩
    · exact ⟨_, .inr rfl, Nat.add_assoc _ _ _⟩
  obtain ⟨hround, heven⟩ := abs_roundDiv_sub_le_abs n hd m
  have hrounded : |grid (rankOf num den) - num / den| ≤ |grid (k * block + m) - num / den| := by
    rw [hrank, hdist (roundDiv_eq_or n d), hdist hm]
    gcongr
  refine ⟨hrounded.trans hnear, ?_⟩
  intro hne heq
  obtain rfl := hsame (le_antisymm (heq.trans_le hrounded) hnear)
  have hmne : m ≠ roundDiv n d := by
    rintro rfl
    exact hne hrank.symm
  rw [hrank, mul_block_add_mod_two]
  apply heven hmne
  rw [hrank, hdist (roundDiv_eq_or n d), hdist hm] at heq
  exact mul_right_cancel₀ hpow.ne' heq

end

/-! ### Integers -/

theorem rankOf_lt_limit {n : Nat} (hn : n < 2 ^ 64) : rankOf n 1 < limit := by
  rcases Nat.eq_zero_or_pos n with rfl | hpos
  · decide
  · obtain ⟨k, m, d, -, -, hless, -, hk, hrank⟩ := exists_rankOf_eq hpos Nat.one_pos
    have hlog : n.log2 < 64 := (Nat.log2_lt hpos.ne').2 hn
    have hone : Nat.log2 1 = 0 := by decide
    unfold guessedPlace at hk
    have hround := roundDiv_eq_or m d
    have hkle : k ≤ 1087 := by omega
    rw [hrank]
    calc k * block + roundDiv m d ≤ 1087 * block + 2 * block := by
          have := Nat.mul_le_mul_right block hkle
          omega
      _ < limit := by decide

theorem rank_ofInt {i : ℤ} (hi : i.natAbs < 2 ^ 64) : (ofInt i).rank = rankOf i.natAbs 1 := by
  have hlt := rankOf_lt_limit hi
  change min (rankOf i.natAbs 1) (limit - 1) = rankOf i.natAbs 1
  omega

theorem abs_grid_rankOf_one_sub_le (n rank : Nat) :
    |grid (rankOf n 1) - n| ≤ |grid rank - n| ∧
      (rank ≠ rankOf n 1 → |grid rank - n| = |grid (rankOf n 1) - n| → rankOf n 1 % 2 = 0) := by
  rcases Nat.eq_zero_or_pos n with rfl | hpos
  · have hzero : rankOf 0 1 = 0 := by decide
    rw [hzero]
    simp [grid_zero]
  · have hone : (n : ℚ) / (1 : Nat) = n := by simp
    have hnear := abs_grid_rankOf_sub_le hpos Nat.one_pos rank
    rwa [hone] at hnear

theorem toRat_ofInt {i : ℤ} (hi : i.natAbs < 2 ^ 64) :
    (ofInt i).toRat = if i < 0 then -grid (rankOf i.natAbs 1) else grid (rankOf i.natAbs 1) := by
  rw [toRat, rank_ofInt hi]
  simp [ofInt]

theorem abs_toRat_ofInt_sub {i : ℤ} (hi : i.natAbs < 2 ^ 64) :
    |(ofInt i).toRat - i| = |grid (rankOf i.natAbs 1) - i.natAbs| := by
  rw [toRat_ofInt hi, Nat.cast_natAbs]
  rcases Int.lt_or_le i 0 with hneg | hnonneg
  · rw [if_pos hneg, abs_of_neg hneg, ← abs_neg]
    push_cast
    ring_nf
  · rw [if_neg (by omega), abs_of_nonneg hnonneg]

theorem abs_grid_sub_natAbs_le (y : Binary64) (i : ℤ) : |grid y.rank - i.natAbs| ≤ |y.toRat - i| := by
  rw [← abs_toRat, Nat.cast_natAbs, Int.cast_abs]
  exact abs_abs_sub_abs_le _ _

theorem rank_even_of_opposite {i : ℤ} (hi : i.natAbs < 2 ^ 64) {y : Binary64} (hrank : y.rank = rankOf i.natAbs 1)
    (hne : y.toRat ≠ (ofInt i).toRat) (heq : |y.toRat - i| = |(ofInt i).toRat - i|) : rankOf i.natAbs 1 % 2 = 0 := by
  have hzero : grid (rankOf i.natAbs 1) = 0 → rankOf i.natAbs 1 % 2 = 0 := by
    rw [← grid_zero, strictMono_grid.injective.eq_iff]
    intro hrank
    rw [hrank]
  have hgrid := grid_nonneg (rankOf i.natAbs 1)
  rw [toRat_ofInt hi] at hne heq
  rw [toRat, hrank] at hne heq
  rcases Int.lt_or_le i 0 with hneg | hnonneg
  · have hi' : (i : ℚ) < 0 := by exact_mod_cast hneg
    apply hzero
    cases hy : y.negative with
    | true => simp [hy, hneg] at hne
    | false =>
      simp only [hy, Bool.false_eq_true, if_false, if_pos hneg] at heq
      rw [abs_of_pos (by linarith)] at heq
      rcases abs_cases (-grid (rankOf i.natAbs 1) - i) with ⟨habs, -⟩ | ⟨habs, -⟩ <;> linarith
  · have hi' : (0 : ℚ) ≤ i := by exact_mod_cast hnonneg
    have hnot : ¬ i < 0 := by omega
    cases hy : y.negative with
    | false => simp [hy, hnot] at hne
    | true =>
      simp only [hy, if_true, if_neg hnot] at heq
      rw [abs_of_nonpos (by linarith)] at heq
      rcases abs_cases (grid (rankOf i.natAbs 1) - i) with ⟨habs, -⟩ | ⟨habs, -⟩
      · have hi0 : (i : ℚ) = 0 := by linarith
        have hi0' : i = 0 := by exact_mod_cast hi0
        rw [hi0']
        decide
      · apply hzero
        linarith

/-- **An integer of 64 bits becomes the double nearest to it.** -/
theorem nearest_ofInt {i : ℤ} (hi : i.natAbs < 2 ^ 64) : Nearest (ofInt i) i where
  le y := by
    rw [abs_toRat_ofInt_sub hi]
    exact (abs_grid_rankOf_one_sub_le _ y.rank).1.trans (abs_grid_sub_natAbs_le y i)
  even y hne heq := by
    rw [significand_mod_two, rank_ofInt hi]
    obtain ⟨hnear, heven⟩ := abs_grid_rankOf_one_sub_le i.natAbs y.rank
    have hsame : |grid y.rank - i.natAbs| = |grid (rankOf i.natAbs 1) - i.natAbs| := by
      apply le_antisymm _ hnear
      rw [← abs_toRat_ofInt_sub hi, ← heq]
      exact abs_grid_sub_natAbs_le y i
    by_cases hrank : y.rank = rankOf i.natAbs 1
    · exact rank_even_of_opposite hi hrank hne heq
    · exact heven hrank hsame

/-! ### What rounding keeps -/

theorem Nearest.toRat_eq {x : Binary64} {q : ℚ} (h : Nearest x q) (hexact : ∃ y : Binary64, y.toRat = q) :
    x.toRat = q := by
  obtain ⟨y, hy⟩ := hexact
  have hle := h.le y
  rw [hy, sub_self, abs_zero] at hle
  exact sub_eq_zero.1 (abs_nonpos_iff.1 hle)

theorem Nearest.toRat_le {x y : Binary64} {p q : ℚ} (h : Nearest x p) (h' : Nearest y q) (hpq : p < q) :
    x.toRat ≤ y.toRat := by
  by_contra hgt
  rw [not_le] at hgt
  -- each of the two numbers lies on its own side of the middle between the doubles
  have hp := sq_le_sq.2 (h.le y)
  have hq := sq_le_sq.2 (h'.le x)
  have hpmid : x.toRat + y.toRat ≤ 2 * p := by nlinarith
  have hqmid : 2 * q ≤ x.toRat + y.toRat := by nlinarith
  linarith

theorem exists_grid_eq {n : Nat} (hn : n ≤ 2 * block) : ∃ rank, rank < limit ∧ grid rank = n := by
  rcases Nat.eq_zero_or_pos n with rfl | hpos
  · exact ⟨0, by decide, by simpa using grid_zero⟩
  rcases Nat.lt_or_eq_of_le hn with hlt | rfl
  · have hlog : n.log2 < 53 := (Nat.log2_lt hpos.ne').2 hlt
    have hpow : 2 ^ n.log2 * 2 ^ (52 - n.log2) = block := by
      rw [← Nat.pow_add, Nat.add_sub_cancel' (by omega)]
      rfl
    have hge : block ≤ n * 2 ^ (52 - n.log2) := by
      rw [← hpow]
      exact Nat.mul_le_mul_right _ (Nat.log2_self_le hpos.ne')
    have hle : n * 2 ^ (52 - n.log2) ≤ 2 * block := by
      rw [← hpow, ← Nat.mul_assoc, Nat.mul_comm 2, ← Nat.pow_succ]
      exact Nat.mul_le_mul_right _ Nat.lt_log2_self.le
    refine ⟨(n.log2 + 1022) * block + n * 2 ^ (52 - n.log2), ?_, ?_⟩
    · calc (n.log2 + 1022) * block + n * 2 ^ (52 - n.log2) ≤ 1074 * block + 2 * block := by
            have := Nat.mul_le_mul_right block (show n.log2 + 1022 ≤ 1074 by omega)
            omega
        _ < limit := by decide
    · have hexp : ((n.log2 + 1022 : Nat) : ℤ) - 1074 = -((52 - n.log2 : Nat) : ℤ) := by omega
      rw [grid_mul_block_add hle (.inr hge), hexp, zpow_neg, zpow_natCast]
      push_cast
      field_simp
  · refine ⟨1075 * block + block, by decide, ?_⟩
    rw [grid_mul_block_add (by omega) (.inr (le_refl _))]
    norm_num [block]

theorem exists_toRat_eq {i : ℤ} (hi : i.natAbs ≤ 2 ^ 53) : ∃ x : Binary64, x.toRat = i := by
  obtain ⟨rank, hfinite, hgrid⟩ := exists_grid_eq (show i.natAbs ≤ 2 * block from hi)
  refine ⟨⟨i < 0, rank, hfinite⟩, ?_⟩
  rw [toRat, hgrid, Nat.cast_natAbs]
  rcases Int.lt_or_le i 0 with hneg | hnonneg
  · simp [hneg, abs_of_neg hneg]
  · have hnot : ¬ i < 0 := by omega
    simp [hnot, abs_of_nonneg hnonneg]

end RecordGate.Binary64
