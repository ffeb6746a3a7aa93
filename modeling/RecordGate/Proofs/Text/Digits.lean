import Mathlib.Data.Nat.Basic
import Mathlib.Tactic.IntervalCases
import RecordGate.Text.Blank

/-!
# Decimal digits

A number has many texts of decimal digits, and one of them without superfluous zeros.  Writing the number that
digits read as gives these digits without the zeros before them.

Main statement: `digits_number`.
-/

namespace RecordGate.Text

/-- Digits without the zeros that stand before another digit, so that a lone zero stays. -/
def withoutZeros : List Char → List Char
  | '0' :: d :: ds => withoutZeros (d :: ds)
  | ds => ds

theorem withoutZeros_ne_nil {ds : List Char} (h : ds ≠ []) : withoutZeros ds ≠ [] := by
  fun_induction withoutZeros ds with
  | case1 d ds ih => exact ih (List.cons_ne_nil d ds)
  | case2 ds => exact h

theorem withoutZeros_suffix (ds : List Char) : withoutZeros ds <:+ ds := by
  fun_induction withoutZeros ds with
  | case1 d ds ih => exact ih.trans (List.suffix_cons '0' (d :: ds))
  | case2 ds => exact List.suffix_refl ds

theorem number_withoutZeros (ds : List Char) : number (withoutZeros ds) = number ds := by
  fun_induction withoutZeros ds with
  | case1 d ds ih =>
    rw [ih, number, number, Nat.ofDigitChars_cons (c := '0')]
    rfl
  | case2 ds => rfl

/-! ### Writing what digits read as -/

theorem digits_of_isDigit {c : Char} (h : isDigit c = true) : digits (c.toNat - '0'.toNat) = [c] := by
  rw [isDigit_iff] at h
  obtain ⟨n, hn⟩ : ∃ n, c.toNat = 48 + n := ⟨c.toNat - 48, by omega⟩
  have hc : c = Char.ofNat (48 + n) := by rw [← hn, Char.ofNat_toNat]
  have hlt : n < 10 := by omega
  subst hc
  interval_cases n <;> rfl

/-- Digits that are read behind a number are written behind it. -/
theorem digits_ofDigitChars {n : Nat} (hn : 0 < n) {ds : List Char} (h : ∀ c ∈ ds, isDigit c = true) :
    digits (Nat.ofDigitChars 10 ds n) = digits n ++ ds := by
  induction ds generalizing n with
  | nil => simp
  | cons c ds ih =>
    obtain ⟨hc, hds⟩ := List.forall_mem_cons.1 h
    have hlt : c.toNat - '0'.toNat < 10 := by
      have hbounds := isDigit_iff.1 hc
      have hzero : '0'.toNat = 48 := rfl
      omega
    have hfirst : digits (10 * n + (c.toNat - '0'.toNat)) = digits n ++ [c] := by
      rw [digits, ← Nat.toDigits_append_toDigits (by decide) hn hlt]
      exact congrArg (digits n ++ ·) (digits_of_isDigit hc)
    rw [Nat.ofDigitChars_cons, ih (by omega) hds, hfirst, List.append_assoc, List.singleton_append]

/-- **A number that is read from digits is written without the zeros before them.** -/
theorem digits_number {ds : List Char} (hne : ds ≠ []) (h : ∀ c ∈ ds, isDigit c = true) :
    digits (number ds) = withoutZeros ds := by
  rw [← number_withoutZeros]
  fun_induction withoutZeros ds with
  | case1 d ds ih => exact ih (List.cons_ne_nil d ds) (List.forall_mem_cons.1 h).2
  | case2 ds hzero =>
    obtain ⟨c, cs, rfl⟩ := List.exists_cons_of_ne_nil hne
    obtain ⟨hc, hcs⟩ := List.forall_mem_cons.1 h
    cases cs with
    | nil =>
      rw [number, Nat.ofDigitChars_cons, Nat.ofDigitChars_nil, Nat.mul_zero, Nat.zero_add, digits_of_isDigit hc]
    | cons d cs =>
      have hpos : 0 < c.toNat - '0'.toNat := by
        have hbounds := isDigit_iff.1 hc
        have hne0 : c ≠ '0' := fun heq => hzero d cs (by rw [heq])
        have hval : c.toNat ≠ '0'.toNat := fun heq => hne0 (Char.toNat_inj.1 heq)
        have hzeroVal : '0'.toNat = 48 := rfl
        omega
      rw [number, Nat.ofDigitChars_cons, Nat.mul_zero, Nat.zero_add, digits_ofDigitChars hpos hcs,
        digits_of_isDigit hc, List.singleton_append]

example : withoutZeros "007".toList = "7".toList ∧ withoutZeros "000".toList = "0".toList := by decide

end RecordGate.Text
