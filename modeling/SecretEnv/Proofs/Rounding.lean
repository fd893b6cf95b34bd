import Mathlib.Algebra.Order.Field.Power
import Mathlib.Algebra.Order.Group.Abs
import Mathlib.Data.Nat.Log
import Mathlib.Tactic.FieldSimp
import Mathlib.Tactic.Linarith
import Mathlib.Tactic.NormNum
import Mathlib.Tactic.Positivity
import Mathlib.Tactic.Ring
import SecretEnv.Number.Binary64

/-!
# Rounding to the nearest

**What the arithmetic on naturals computes is the double nearest to a fraction, and the even one of
two that are equally near** (`Binary64.Nearest`, `Binary64.nearest_of_ofDecimal?`). Whether a
rounded number stays below a bound is then a question about the number itself: between two
neighbouring doubles the cut is half-way, and belongs to the even one (`Binary64.Nearest.le_iff`).
-/

namespace SecretEnv

/-! ### Naturals -/

/-- The natural nearest to a number: at most a half away, and even where it is just a half. -/
structure NearestNatural (q : ℚ) (n : ℕ) : Prop where
  near : |(n : ℚ) - q| ≤ 1 / 2
  even : |(n : ℚ) - q| = 1 / 2 → Even n

namespace NearestNatural

variable {q : ℚ} {n : ℕ}

/-- Two different naturals are one apart, so they share at least that much distance. -/
theorem one_le_add {k : ℕ} (hk : k ≠ n) : 1 ≤ |(n : ℚ) - q| + |(k : ℚ) - q| := by
  have happart : (1 : ℚ) ≤ |(n : ℚ) - k| := by
    have hne : (n : ℤ) - k ≠ 0 := by omega
    exact_mod_cast Int.one_le_abs hne
  have htriangle := abs_sub_le (n : ℚ) q k
  rw [abs_sub_comm q] at htriangle
  linarith

theorem le_of_natural (h : NearestNatural q n) (k : ℕ) : |(n : ℚ) - q| ≤ |(k : ℚ) - q| := by
  by_cases hk : k = n
  · rw [hk]
  · have hshared := one_le_add (q := q) hk
    have hnear := h.near
    linarith

theorem even_of_tie (h : NearestNatural q n) {k : ℕ} (hk : k ≠ n)
    (htie : |(n : ℚ) - q| = |(k : ℚ) - q|) : Even n := by
  have hshared := one_le_add (q := q) hk
  have hnear := h.near
  exact h.even (by linarith)

/-- What is at most a half becomes nothing. -/
theorem eq_zero_iff (h : NearestNatural q n) (hq : 0 ≤ q) : n = 0 ↔ q ≤ 1 / 2 := by
  constructor
  · rintro rfl
    have hnear := h.near
    rwa [Nat.cast_zero, zero_sub, abs_neg, abs_of_nonneg hq] at hnear
  · intro hhalf
    by_contra hpos
    have hzero := h.le_of_natural 0
    rw [Nat.cast_zero, zero_sub, abs_neg, abs_of_nonneg hq] at hzero
    have hone : (1 : ℚ) ≤ n := by exact_mod_cast Nat.one_le_iff_ne_zero.mpr hpos
    have habs := le_abs_self ((n : ℚ) - q)
    have hn : n = 1 := by
      have hle : (n : ℚ) ≤ 1 := by linarith
      have hle : n ≤ 1 := by exact_mod_cast hle
      omega
    subst hn
    have heven := h.even (by rw [Nat.cast_one] at *; linarith)
    exact absurd heven (by decide)

end NearestNatural

theorem nearestNatural_roundHalfEven (num : ℕ) {den : ℕ} (hden : 0 < den) :
    NearestNatural (num / den) (roundHalfEven num den) := by
  have hpos : (0 : ℚ) < den := by exact_mod_cast hden
  obtain ⟨rest, hrest⟩ : ∃ rest : ℚ, rest = ((num % den : ℕ) : ℚ) / den := ⟨_, rfl⟩
  have hsplit : (num : ℚ) / den = (num / den : ℕ) + rest := by
    have heq : (num : ℚ) = den * (num / den : ℕ) + (num % den : ℕ) := by
      exact_mod_cast (Nat.div_add_mod num den).symm
    rw [hrest]
    field_simp
    exact heq
  have hbelow : 2 * (num % den) < den ↔ rest < 1 / 2 := by
    rw [hrest, div_lt_iff₀ hpos, ← Nat.cast_lt (α := ℚ)]
    push_cast
    constructor <;> intro h <;> linarith
  have habove : den < 2 * (num % den) ↔ 1 / 2 < rest := by
    rw [hrest, lt_div_iff₀ hpos, ← Nat.cast_lt (α := ℚ)]
    push_cast
    constructor <;> intro h <;> linarith
  have hdown : |((num / den : ℕ) : ℚ) - num / den| = rest := by
    have hnonneg : 0 ≤ rest := by rw [hrest]; positivity
    rw [hsplit, sub_add_cancel_left, abs_neg, abs_of_nonneg hnonneg]
  have hup : |((num / den + 1 : ℕ) : ℚ) - num / den| = 1 - rest := by
    have hless : rest ≤ 1 := by
      rw [hrest, div_le_one hpos]
      exact_mod_cast (Nat.mod_lt num hden).le
    rw [hsplit, Nat.cast_add, Nat.cast_one, add_sub_add_left_eq_sub,
      abs_of_nonneg (by linarith)]
  simp only [roundHalfEven]
  split_ifs with h1 h2 h3
  · have hlt := hbelow.mp h1
    exact ⟨by linarith, fun htie => by linarith⟩
  · have hlt := habove.mp h2
    exact ⟨by linarith, fun htie => by linarith⟩
  · have hle := not_lt.mp (habove.not.mp h2)
    exact ⟨by linarith, fun _ => Nat.even_iff.mpr h3⟩
  · have hge := not_lt.mp (hbelow.not.mp h1)
    exact ⟨by linarith, fun _ => Nat.even_iff.mpr (by omega)⟩

/-- A power with a negative exponent, as a quotient of powers without. -/
theorem pow_toNat_div_pow_toNat (b : ℚ) (e : ℤ) :
    b ^ e.toNat / b ^ (-e).toNat = b ^ e := by
  obtain ⟨n, rfl | rfl⟩ := e.eq_nat_or_neg <;> simp

namespace Binary64

/-! ### Doubles as numbers -/

/-- The number that a double is. -/
def value (x : Binary64) : ℚ := x.mantissa * 2 ^ x.exponent

/-- The mantissas and exponents that 64 bits can hold. -/
structure IsDouble (x : Binary64) : Prop where
  mantissa_lt : x.mantissa < 2 ^ 53
  exponent_ge : -1074 ≤ x.exponent
  exponent_le : x.exponent ≤ 971

/-- As 64 bits hold it: with all the digits it can have. -/
def Full (x : Binary64) : Prop := x.mantissa = 0 ∨ 2 ^ 52 ≤ x.mantissa ∨ x.exponent = -1074

/-- The double nearest to a number, and the even one of two that are equally near. -/
structure Nearest (q : ℚ) (x : Binary64) : Prop where
  isDouble : IsDouble x
  full : Full x
  near : ∀ y : Binary64, IsDouble y → |x.value - q| ≤ |y.value - q|
  even : ∀ y : Binary64, IsDouble y → y.value ≠ x.value → |x.value - q| = |y.value - q| →
    Even x.mantissa

theorem two_zpow_pos (e : ℤ) : (0 : ℚ) < 2 ^ e := zpow_pos (by norm_num) e

theorem value_nonneg (x : Binary64) : 0 ≤ x.value :=
  mul_nonneg (Nat.cast_nonneg _) (two_zpow_pos _).le

theorem numerator_div_denominator (x : Binary64) :
    (x.numerator : ℚ) / x.denominator = x.value := by
  rw [numerator, denominator, value, ← pow_toNat_div_pow_toNat, ← mul_div_assoc]
  push_cast [Nat.pow_eq]
  rfl

/-- A double is a multiple of every smaller power of two. -/
theorem exists_value_eq {x : Binary64} {e : ℤ} (h : e ≤ x.exponent) :
    ∃ k : ℕ, x.value = k * 2 ^ e ∧ k = x.mantissa * 2 ^ (x.exponent - e).toNat := by
  refine ⟨_, ?_, rfl⟩
  rw [value]
  push_cast
  rw [← zpow_natCast, Int.toNat_of_nonneg (by omega), mul_assoc, ← zpow_add₀ two_ne_zero,
    sub_add_cancel]

/-- A double with a smaller exponent is smaller than all full ones. -/
theorem value_lt_of_exponent_lt {x : Binary64} {e : ℤ} (hx : IsDouble x) (h : x.exponent < e) :
    x.value < 2 ^ 52 * 2 ^ e := by
  have hmantissa : (x.mantissa : ℚ) < 2 ^ 53 := by exact_mod_cast hx.mantissa_lt
  have hpower : (2 : ℚ) ^ x.exponent ≤ 2 ^ (e - 1) :=
    zpow_le_zpow_right₀ (by norm_num) (by omega)
  calc x.value < 2 ^ 53 * 2 ^ x.exponent :=
        mul_lt_mul_of_pos_right hmantissa (two_zpow_pos _)
    _ ≤ 2 ^ 53 * 2 ^ (e - 1) := by gcongr
    _ = 2 ^ 52 * 2 ^ e := by rw [zpow_sub_one₀ two_ne_zero]; ring

/-- Full doubles that are the same number have the same mantissa. -/
theorem Full.mantissa_eq {x y : Binary64} (hfull : Full x) (hfull' : Full y) (hx : IsDouble x)
    (hy : IsDouble y) (h : x.value = y.value) : x.mantissa = y.mantissa := by
  -- the one with the greater exponent is a multiple of the other's power
  have hwlog : ∀ {x y : Binary64}, Full y → IsDouble x → IsDouble y → x.value = y.value →
      x.exponent ≤ y.exponent → x.mantissa = y.mantissa := by
    intro x y hfull hx hy h hle
    obtain ⟨k, hk, hmantissa⟩ := exists_value_eq hle
    have hxk : x.mantissa = k := by
      have heq : (x.mantissa : ℚ) * 2 ^ x.exponent = k * 2 ^ x.exponent := by rw [← hk, ← h, value]
      exact_mod_cast mul_right_cancel₀ (two_zpow_pos _).ne' heq
    rcases hle.eq_or_lt with heq | hlt
    · rw [hxk, hmantissa, heq]
      simp
    · have htwo : 2 ^ 1 ≤ 2 ^ (y.exponent - x.exponent).toNat :=
        Nat.pow_le_pow_right (by decide) (by omega)
      have hless := hx.mantissa_lt
      have hge := hx.exponent_ge
      rcases hfull with hzero | hmany | hleast
      · rw [hxk, hmantissa, hzero, Nat.zero_mul]
      · have hmul := Nat.mul_le_mul hmany htwo
        omega
      · omega
  rcases le_total x.exponent y.exponent with hle | hle
  · exact hwlog hfull' hx hy h hle
  · exact (hwlog hfull hy hx h.symm hle).symm

/-! ### Neighbours -/

/-- No double lies between a full one and the next one. -/
theorem value_le_or_le {x : Binary64} (hx : IsDouble x) {m : ℕ} {e : ℤ}
    (hfull : 2 ^ 52 ≤ m ∨ e = -1074) :
    x.value ≤ m * 2 ^ e ∨ (m + 1) * 2 ^ e ≤ x.value := by
  by_cases hexponent : e ≤ x.exponent
  · obtain ⟨k, hk, -⟩ := exists_value_eq hexponent
    rw [hk]
    rcases le_or_gt k m with hle | hlt
    · left
      gcongr
    · right
      have hlt : (m : ℚ) + 1 ≤ k := by exact_mod_cast hlt
      gcongr
  · have hge := hx.exponent_ge
    have hmany : (2 : ℚ) ^ 52 ≤ m := by
      rcases hfull with hmany | hleast
      · exact_mod_cast hmany
      · omega
    left
    calc x.value ≤ 2 ^ 52 * 2 ^ e := (value_lt_of_exponent_lt hx (by omega)).le
      _ ≤ m * 2 ^ e := by gcongr

/-- The next one is a double as well, and not even if this one is. -/
theorem exists_succ {m : ℕ} {e : ℤ} (hm : m < 2 ^ 53) (hge : -1074 ≤ e) (hle : e ≤ 970)
    (hfull : 2 ^ 52 ≤ m ∨ e = -1074) :
    ∃ next : Binary64, IsDouble next ∧ Full next ∧ next.value = (m + 1) * 2 ^ e ∧
      (Even m → ¬ Even next.mantissa) := by
  by_cases hlast : m + 1 = 2 ^ 53
  · refine ⟨⟨2 ^ 52, e + 1⟩, ⟨by norm_num, by dsimp only; omega, by dsimp only; omega⟩,
      .inr (.inl le_rfl), ?_, fun heven => ?_⟩
    · have hlast : (m : ℚ) + 1 = 2 ^ 53 := by exact_mod_cast hlast
      rw [value, hlast, zpow_add_one₀ two_ne_zero]
      push_cast
      ring
    · obtain ⟨half, rfl⟩ := heven
      omega
  · refine ⟨⟨m + 1, e⟩, ⟨by dsimp only; omega, hge, by dsimp only; omega⟩,
      .inr (hfull.imp (fun hmany => by dsimp only; omega) id), ?_, fun heven => ?_⟩
    · rw [value]
      push_cast
      rfl
    · exact Nat.not_even_iff_odd.mpr heven.add_one

/-! ### The middle between neighbours -/

section Middle

variable {x low high q : ℚ}

/-- Whoever is below and at least as near as the upper one sees the number before the middle. -/
theorem le_middle (hx : x ≤ low) (hlt : low < high) (hnear : |x - q| ≤ |high - q|) :
    q ≤ (low + high) / 2 := by
  by_contra hafter
  have hfar : q - x ≤ |x - q| := by
    rw [abs_sub_comm]
    exact le_abs_self _
  have hclose : |high - q| < q - low := abs_lt.mpr ⟨by linarith, by linarith⟩
  linarith

theorem middle_le (hx : high ≤ x) (hlt : low < high) (hnear : |x - q| ≤ |low - q|) :
    (low + high) / 2 ≤ q := by
  by_contra hbefore
  have hfar : x - q ≤ |x - q| := le_abs_self _
  have hclose : |low - q| < high - q := abs_lt.mpr ⟨by linarith, by linarith⟩
  linarith

theorem abs_low_sub_middle (hlt : low < high) : |low - (low + high) / 2| = (high - low) / 2 := by
  rw [abs_sub_comm, abs_of_nonneg (by linarith)]
  ring

theorem abs_high_sub_middle (hlt : low < high) :
    |high - (low + high) / 2| = (high - low) / 2 := by
  rw [abs_of_nonneg (by linarith)]
  ring

end Middle

/-- **A rounded number stays at a double or below it** if and only if the number itself lies before
the middle of this double and the next one, or on it where this one is even. -/
theorem Nearest.le_iff {q : ℚ} {x : Binary64} {m : ℕ} {e : ℤ} (h : Nearest q x) (hm : m < 2 ^ 53)
    (hge : -1074 ≤ e) (hle : e ≤ 970) (hfull : 2 ^ 52 ≤ m ∨ e = -1074) :
    x.value ≤ m * 2 ^ e ↔
      q < (m + 1 / 2) * 2 ^ e ∨ q = (m + 1 / 2) * 2 ^ e ∧ Even m := by
  obtain ⟨high, hhigh, hfullHigh, hvalue, hodd⟩ := exists_succ hm hge hle hfull
  obtain ⟨low, hlow⟩ : ∃ low : Binary64, low = ⟨m, e⟩ := ⟨_, rfl⟩
  have hdouble : IsDouble low := by
    rw [hlow]
    exact ⟨hm, hge, by dsimp only; omega⟩
  have hfullLow : Full low := by
    rw [hlow]
    exact .inr hfull
  have hlowValue : low.value = m * 2 ^ e := by rw [hlow, value]
  have hlt : low.value < high.value := by
    have hpower := two_zpow_pos e
    rw [hlowValue, hvalue, add_mul, one_mul]
    linarith
  have hmiddle : ((m : ℚ) + 1 / 2) * 2 ^ e = (low.value + high.value) / 2 := by
    rw [hlowValue, hvalue]
    ring
  rw [hmiddle, ← hlowValue]
  constructor
  · intro hx
    have hnear := h.near high hhigh
    refine (le_middle hx hlt hnear).lt_or_eq.imp_right fun hq => ⟨hq, ?_⟩
    -- on the middle it is as near as the upper one, so it is the lower one, and even
    subst hq
    rw [abs_high_sub_middle hlt] at hnear
    have hlower : x.value = low.value := by
      have hfar := neg_abs_le (x.value - (low.value + high.value) / 2)
      linarith
    have heven := h.even high hhigh (by linarith) (by
      rw [hlower, abs_low_sub_middle hlt, abs_high_sub_middle hlt])
    rwa [h.full.mantissa_eq hfullLow h.isDouble hdouble hlower, hlow] at heven
  · intro hq
    by_contra hx
    have hupper : high.value ≤ x.value := by
      have hside := value_le_or_le h.isDouble hfull
      rw [← hlowValue, ← hvalue] at hside
      exact hside.resolve_left hx
    have hnear := h.near low hdouble
    have hafter := middle_le hupper hlt hnear
    rcases hq with hq | ⟨rfl, hm⟩
    · linarith
    · rw [abs_low_sub_middle hlt] at hnear
      have heq : x.value = high.value := by
        have hfar := le_abs_self (x.value - (low.value + high.value) / 2)
        linarith
      have heven := h.even low hdouble (by rw [heq]; exact hlt.ne) (by
        rw [heq, abs_low_sub_middle hlt, abs_high_sub_middle hlt])
      rw [h.full.mantissa_eq hfullHigh h.isDouble hhigh heq] at heven
      exact hodd hm heven

/-! ### Rounding computes it -/

/-- The exponent leaves a mantissa of 53 bits, or is the least one and leaves no more. -/
theorem exponentOf_spec {num den : ℕ} (hnum : 0 < num) (hden : 0 < den) :
    -1074 ≤ exponentOf num den ∧ (num / den : ℚ) < 2 ^ 53 * 2 ^ exponentOf num den ∧
      (exponentOf num den = -1074 ∨ 2 ^ 52 * 2 ^ exponentOf num den ≤ (num / den : ℚ)) := by
  have hlog : ∀ n : ℕ, 0 < n → (2 : ℚ) ^ (n.log2 : ℤ) ≤ n ∧ (n : ℚ) < 2 ^ ((n.log2 : ℤ) + 1) := by
    intro n hn
    have hbelow : 2 ^ n.log2 ≤ n := Nat.log2_self_le hn.ne'
    have habove : n < 2 ^ (n.log2 + 1) := Nat.lt_log2_self
    constructor
    · rw [zpow_natCast]
      exact_mod_cast hbelow
    · rw [← Nat.cast_succ, zpow_natCast]
      exact_mod_cast habove
  obtain ⟨hnumLow, hnumHigh⟩ := hlog num hnum
  obtain ⟨hdenLow, hdenHigh⟩ := hlog den hden
  have hpos : (0 : ℚ) < den := by exact_mod_cast hden
  obtain ⟨estimate, hestimate⟩ : ∃ estimate : ℤ, estimate = num.log2 - den.log2 := ⟨_, rfl⟩
  have hlow : (2 : ℚ) ^ (estimate - 1) ≤ num / den := by
    rw [hestimate, sub_sub, zpow_sub₀ two_ne_zero]
    exact div_le_div₀ (Nat.cast_nonneg _) hnumLow hpos hdenHigh.le
  have hhigh : (num / den : ℚ) < 2 ^ (estimate + 1) := by
    rw [hestimate, sub_add_eq_add_sub, zpow_sub₀ two_ne_zero]
    exact div_lt_div₀ hnumHigh hdenLow (two_zpow_pos _).le (two_zpow_pos _)
  have hreached : den * Nat.pow 2 estimate.toNat ≤ num * Nat.pow 2 (-estimate).toNat ↔
      (2 : ℚ) ^ estimate ≤ num / den := by
    rw [← pow_toNat_div_pow_toNat, div_le_div_iff₀ (by positivity) hpos, mul_comm den]
    exact_mod_cast Iff.rfl
  obtain ⟨full, hfull, hfullLow, hfullHigh⟩ : ∃ full : ℤ,
      exponentOf num den = max full (-1074) ∧ (2 : ℚ) ^ 52 * 2 ^ full ≤ num / den ∧
        (num / den : ℚ) < 2 ^ 53 * 2 ^ full := by
    have hpower : ∀ (n : ℕ) (k : ℤ), (2 : ℚ) ^ n * 2 ^ k = 2 ^ (n + k) := by
      intro n k
      rw [zpow_add₀ two_ne_zero, zpow_natCast]
    by_cases h : (2 : ℚ) ^ estimate ≤ num / den
    · refine ⟨estimate - 52, ?_, ?_, ?_⟩
      · simp only [exponentOf, ← hestimate, decide_eq_true_eq]
        rw [if_pos (hreached.mpr h)]
      · rwa [hpower, show (52 : ℕ) + (estimate - 52) = estimate by push_cast; ring]
      · rwa [hpower, show (53 : ℕ) + (estimate - 52) = estimate + 1 by push_cast; ring]
    · refine ⟨estimate - 53, ?_, ?_, ?_⟩
      · simp only [exponentOf, ← hestimate, decide_eq_true_eq]
        rw [if_neg (hreached.not.mpr h)]
      · rwa [hpower, show (52 : ℕ) + (estimate - 53) = estimate - 1 by push_cast; ring]
      · rw [hpower, show (53 : ℕ) + (estimate - 53) = estimate by push_cast; ring]
        exact not_le.mp h
  rw [hfull]
  refine ⟨le_max_right _ _, hfullHigh.trans_le ?_, ?_⟩
  · gcongr
    · norm_num
    · exact le_max_left _ _
  · rcases le_total full (-1074) with hle | hle
    · exact .inl (max_eq_right hle)
    · rw [max_eq_left hle]
      exact .inr hfullLow

/-- What is nearest on the grid of the exponent is nearest among all doubles: those off the grid are
smaller than the number by more than the grid's own. -/
theorem nearest_of_nearestNatural {q : ℚ} {e : ℤ} {m : ℕ} {x : Binary64}
    (hlow : e = -1074 ∨ 2 ^ 52 * 2 ^ e ≤ q) (hm : NearestNatural (q / 2 ^ e) m)
    (hdouble : IsDouble x) (hfull : Full x) (hvalue : x.value = m * 2 ^ e)
    (hparity : Even m → Even x.mantissa) : Nearest q x := by
  have hpower := two_zpow_pos e
  have hscale : ∀ k : ℕ, |(k : ℚ) * 2 ^ e - q| = |k - q / 2 ^ e| * 2 ^ e := by
    intro k
    rw [← abs_of_pos hpower, ← abs_mul, abs_of_pos hpower, sub_mul,
      div_mul_cancel₀ _ hpower.ne']
  -- on the grid there is a number that is as near as any double, and it is this one if it ties
  have hgrid : ∀ y : Binary64, IsDouble y → ∃ k : ℕ, |(k : ℚ) * 2 ^ e - q| ≤ |y.value - q| ∧
      (|(k : ℚ) * 2 ^ e - q| = |y.value - q| → y.value = k * 2 ^ e) := by
    intro y hy
    by_cases hexponent : e ≤ y.exponent
    · obtain ⟨k, hk, -⟩ := exists_value_eq hexponent
      exact ⟨k, by rw [hk], fun _ => hk⟩
    · have hge := hy.exponent_ge
      have hreached := hlow.resolve_left (by omega)
      have hbelow := value_lt_of_exponent_lt hy (not_le.mp hexponent)
      have hcloser : |((2 ^ 52 : ℕ) : ℚ) * 2 ^ e - q| < |y.value - q| := by
        push_cast
        rw [abs_sub_comm, abs_of_nonneg (by linarith), abs_sub_comm, abs_of_nonneg (by linarith)]
        linarith
      exact ⟨2 ^ 52, hcloser.le, fun htie => absurd htie hcloser.ne⟩
  have hnearest : ∀ k : ℕ, |x.value - q| ≤ |(k : ℚ) * 2 ^ e - q| := by
    intro k
    rw [hvalue, hscale, hscale]
    exact mul_le_mul_of_nonneg_right (hm.le_of_natural k) hpower.le
  refine ⟨hdouble, hfull, fun y hy => ?_, fun y hy hne htie => ?_⟩
  · obtain ⟨k, hk, -⟩ := hgrid y hy
    exact (hnearest k).trans hk
  · obtain ⟨k, hk, heq⟩ := hgrid y hy
    have hsame : |x.value - q| = |(k : ℚ) * 2 ^ e - q| :=
      le_antisymm (hnearest k) (hk.trans htie.ge)
    have hy := heq (hsame.symm.trans htie)
    refine hparity (hm.even_of_tie (k := k) ?_ ?_)
    · rintro rfl
      exact hne (hy.trans hvalue.symm)
    · rw [hvalue, hscale, hscale] at hsame
      exact mul_right_cancel₀ hpower.ne' hsame

/-- The double with a rounded mantissa; one that has become too long is halved. -/
def ofRounded (m : ℕ) (e : ℤ) : Binary64 := if m = 2 ^ 53 then ⟨2 ^ 52, e + 1⟩ else ⟨m, e⟩

theorem value_ofRounded (m : ℕ) (e : ℤ) : (ofRounded m e).value = m * 2 ^ e := by
  rw [ofRounded]
  split
  · rename_i h
    rw [value, h, zpow_add_one₀ two_ne_zero]
    push_cast
    ring
  · rfl

theorem isDouble_ofRounded {m : ℕ} {e : ℤ} (hm : m ≤ 2 ^ 53) (hge : -1074 ≤ e)
    (hle : (ofRounded m e).exponent ≤ 971) : IsDouble (ofRounded m e) := by
  rw [ofRounded] at hle ⊢
  split_ifs at hle ⊢
  · exact ⟨by norm_num, by dsimp only; omega, hle⟩
  · exact ⟨by dsimp only; omega, hge, hle⟩

theorem full_ofRounded {m : ℕ} {e : ℤ} (h : e = -1074 ∨ 2 ^ 52 ≤ m) : Full (ofRounded m e) := by
  rw [ofRounded]
  split
  · exact .inr (.inl le_rfl)
  · exact .inr h.symm

theorem even_ofRounded {m : ℕ} (h : Even m) (e : ℤ) : Even (ofRounded m e).mantissa := by
  rw [ofRounded]
  split
  · exact ⟨2 ^ 51, by norm_num⟩
  · exact h

/-- A positive quotient is rounded at its exponent, and is found unless the exponent is too
great. -/
theorem exists_nearest?_eq {num den : ℕ} (hnum : 0 < num) (hden : 0 < den) :
    ∃ (e : ℤ) (m : ℕ), -1074 ≤ e ∧ m ≤ 2 ^ 53 ∧ (e = -1074 ∨ 2 ^ 52 ≤ m) ∧
      (e = -1074 ∨ 2 ^ 52 * 2 ^ e ≤ (num / den : ℚ)) ∧ NearestNatural (num / den / 2 ^ e) m ∧
        nearest? num den =
          if (ofRounded m e).exponent ≤ 971 then some (ofRounded m e) else none := by
  obtain ⟨e, he⟩ : ∃ e, e = exponentOf num den := ⟨_, rfl⟩
  obtain ⟨m, hm⟩ : ∃ m, m = roundHalfEven (num * Nat.pow 2 (-e).toNat)
      (den * Nat.pow 2 e.toNat) := ⟨_, rfl⟩
  obtain ⟨hge, hhigh, hlow⟩ := exponentOf_spec hnum hden
  rw [← he] at hge hhigh hlow
  have hpower := two_zpow_pos e
  have hnearest : NearestNatural (num / den / 2 ^ e) m := by
    have hscaled : (num / den / 2 ^ e : ℚ) =
        (num * Nat.pow 2 (-e).toNat : ℕ) / (den * Nat.pow 2 e.toNat : ℕ) := by
      rw [← pow_toNat_div_pow_toNat]
      push_cast [Nat.pow_eq]
      field_simp
    rw [hscaled, hm]
    exact nearestNatural_roundHalfEven _ (Nat.mul_pos hden (Nat.pow_pos two_pos))
  obtain ⟨hbelow, habove⟩ := abs_le.mp hnearest.near
  have hlong : m ≤ 2 ^ 53 := by
    have hlt : (num / den / 2 ^ e : ℚ) < 2 ^ 53 := (div_lt_iff₀ hpower).mpr hhigh
    have hlt : (m : ℚ) < (2 ^ 53 + 1 : ℕ) := by
      push_cast
      linarith
    have hlt : m < 2 ^ 53 + 1 := by exact_mod_cast hlt
    omega
  have hshort : e = -1074 ∨ 2 ^ 52 ≤ m := by
    refine hlow.imp_right fun hlow => ?_
    have hle : (2 : ℚ) ^ 52 ≤ num / den / 2 ^ e := (le_div_iff₀ hpower).mpr hlow
    have hlt : ((2 ^ 52 : ℕ) : ℚ) < (m + 1 : ℕ) := by
      push_cast
      linarith
    have hlt : 2 ^ 52 < m + 1 := by exact_mod_cast hlt
    omega
  refine ⟨e, m, hge, hlong, hshort, hlow, hnearest, ?_⟩
  simp only [nearest?, ← he, ← hm, if_neg hnum.ne']
  rfl

/-- The least number that is rounded out of range. -/
def overflow : ℚ := (2 ^ 53 - 1 / 2) * 2 ^ (971 : ℤ)

/-- What is less than half the least double is nearest to zero. -/
theorem nearest_zero {q : ℚ} (hq : 0 ≤ q) (hlt : q < 2 ^ (-1075 : ℤ)) : Nearest q ⟨0, 0⟩ := by
  have hpower := two_zpow_pos (-1074)
  have hless : q / 2 ^ (-1074 : ℤ) < 1 / 2 := by
    rw [div_lt_iff₀ hpower]
    calc q < 2 ^ (-1074 - 1 : ℤ) := hlt
      _ = 1 / 2 * 2 ^ (-1074 : ℤ) := by rw [zpow_sub_one₀ two_ne_zero]; ring
  have hdistance : |((0 : ℕ) : ℚ) - q / 2 ^ (-1074 : ℤ)| = q / 2 ^ (-1074 : ℤ) := by
    rw [Nat.cast_zero, zero_sub, abs_neg, abs_of_nonneg (div_nonneg hq hpower.le)]
  have hnearest : NearestNatural (q / 2 ^ (-1074 : ℤ)) 0 :=
    ⟨by rw [hdistance]; exact hless.le, fun _ => Even.zero⟩
  exact nearest_of_nearestNatural (.inl rfl) hnearest ⟨by decide, by decide, by decide⟩ (.inl rfl)
    (by simp [value]) id

/-- The double that is found is the nearest one. -/
theorem nearest_of_nearest? {num den : ℕ} {x : Binary64} (hden : 0 < den)
    (h : nearest? num den = some x) : Nearest (num / den) x := by
  rcases Nat.eq_zero_or_pos num with rfl | hnum
  · cases h
    simpa using nearest_zero le_rfl (two_zpow_pos _)
  · obtain ⟨e, m, hge, hlong, hshort, hlow, hnearest, heq⟩ := exists_nearest?_eq hnum hden
    rw [heq] at h
    split at h
    · rename_i hle
      cases h
      exact nearest_of_nearestNatural hlow hnearest (isDouble_ofRounded hlong hge hle)
        (full_ofRounded hshort) (value_ofRounded m e) fun heven => even_ofRounded heven e
    · cases h

/-- Only what is out of range has no nearest double. -/
theorem overflow_le_of_nearest? {num den : ℕ} (hden : 0 < den) (h : nearest? num den = none) :
    overflow ≤ num / den := by
  rcases Nat.eq_zero_or_pos num with rfl | hnum
  · cases h
  · obtain ⟨e, m, hge, hlong, hshort, hlow, hnearest, heq⟩ := exists_nearest?_eq hnum hden
    rw [heq] at h
    split at h
    · cases h
    · rename_i hgreat
      rw [ofRounded] at hgreat
      split at hgreat
      · rename_i hm
        have hnear := (abs_le.mp hnearest.near).2
        have hquotient : (2 ^ 53 - 1 / 2 : ℚ) ≤ num / den / 2 ^ e := by
          have hm : (m : ℚ) = 2 ^ 53 := by exact_mod_cast hm
          linarith
        calc overflow ≤ (2 ^ 53 - 1 / 2) * 2 ^ e := by
              rw [overflow]
              gcongr
              · norm_num
              · dsimp only at hgreat
                omega
          _ ≤ num / den := (le_div_iff₀ (two_zpow_pos e)).mp hquotient
      · have hreached := hlow.resolve_left (by dsimp only at hgreat; omega)
        calc overflow ≤ 2 ^ 52 * 2 ^ (971 + 1 : ℤ) := by
              rw [overflow, zpow_add_one₀ two_ne_zero]
              have hpower := two_zpow_pos 971
              generalize (2 : ℚ) ^ (971 : ℤ) = power at hpower ⊢
              linarith
          _ ≤ 2 ^ 52 * 2 ^ e := by
              gcongr
              · norm_num
              · dsimp only at hgreat
                omega
          _ ≤ num / den := hreached

/-! ### Decimals -/

theorem le_digits {digits : ℕ} (h : digits ≠ 0) : 10 ^ (digits.log2 / 4) ≤ digits :=
  calc 10 ^ (digits.log2 / 4) ≤ (2 ^ 4) ^ (digits.log2 / 4) := Nat.pow_le_pow_left (by decide) _
    _ = 2 ^ (4 * (digits.log2 / 4)) := (Nat.pow_mul ..).symm
    _ ≤ 2 ^ digits.log2 := Nat.pow_le_pow_right (by decide) (Nat.mul_div_le ..)
    _ ≤ digits := Nat.log2_self_le h

theorem digits_lt (digits : ℕ) : digits < 2 * 10 ^ digits.log2 :=
  calc digits < 2 ^ (digits.log2 + 1) := Nat.lt_log2_self
    _ = 2 * 2 ^ digits.log2 := Nat.pow_succ'
    _ ≤ 2 * 10 ^ digits.log2 := Nat.mul_le_mul_left _ (Nat.pow_le_pow_left (by decide) _)

/-- What is refused for its size alone is out of range. -/
theorem overflow_le_of_magnitude {digits : ℕ} {exponent : ℤ} (h : digits ≠ 0)
    (hgreat : 400 < (digits.log2 : ℤ) / 4 + exponent) : overflow ≤ digits * 10 ^ exponent := by
  have hdigits : (10 : ℚ) ^ ((digits.log2 : ℤ) / 4) ≤ digits := by
    have hcast : (digits.log2 : ℤ) / 4 = (digits.log2 / 4 : ℕ) := by norm_cast
    rw [hcast, zpow_natCast]
    exact_mod_cast le_digits h
  have hpowers : (2 : ℕ) ^ (53 + 971) ≤ 10 ^ 400 := by decide +kernel
  calc overflow ≤ 2 ^ 53 * 2 ^ (971 : ℤ) := by
        rw [overflow]
        gcongr
        norm_num
    _ ≤ 10 ^ (400 : ℤ) := by
        rw [zpow_ofNat, zpow_ofNat, ← pow_add]
        exact_mod_cast hpowers
    _ ≤ 10 ^ ((digits.log2 : ℤ) / 4 + exponent) := zpow_le_zpow_right₀ (by norm_num) hgreat.le
    _ = 10 ^ ((digits.log2 : ℤ) / 4) * 10 ^ exponent := zpow_add₀ (by norm_num) _ _
    _ ≤ digits * 10 ^ exponent := by gcongr

/-- What is taken for zero for its size alone is nearest to zero. -/
theorem lt_of_magnitude {digits : ℕ} {exponent : ℤ}
    (hsmall : (digits.log2 : ℤ) + exponent < -400) :
    (digits : ℚ) * 10 ^ exponent < 2 ^ (-1075 : ℤ) := by
  have hdigits : (digits : ℚ) < 2 * 10 ^ (digits.log2 : ℤ) := by
    rw [zpow_natCast]
    exact_mod_cast digits_lt digits
  calc (digits : ℚ) * 10 ^ exponent < 2 * 10 ^ (digits.log2 : ℤ) * 10 ^ exponent := by gcongr
    _ = 2 * 10 ^ ((digits.log2 : ℤ) + exponent) := by rw [mul_assoc, ← zpow_add₀ (by norm_num)]
    _ ≤ 2 * 10 ^ (-400 : ℤ) := by
        gcongr
        norm_num
    _ ≤ 2 ^ (-1075 : ℤ) := by
        have hpowers : (2 : ℚ) * 2 ^ 1075 ≤ 10 ^ 400 := by
          exact_mod_cast (by decide +kernel : 2 * 2 ^ 1075 ≤ 10 ^ 400)
        rw [zpow_neg, zpow_neg, zpow_ofNat, zpow_ofNat, ← div_eq_mul_inv, ← one_div,
          div_le_div_iff₀ (by positivity) (by positivity)]
        rwa [one_mul]

/-- The quotient of naturals that stands for a decimal. -/
theorem decimal_eq (digits : ℕ) (exponent : ℤ) :
    ((digits * Nat.pow 10 exponent.toNat : ℕ) : ℚ) / (Nat.pow 10 (-exponent).toNat : ℕ) =
      digits * 10 ^ exponent := by
  rw [← pow_toNat_div_pow_toNat, ← mul_div_assoc]
  push_cast [Nat.pow_eq]
  rfl

/-- The double that a decimal is read as is the nearest one. -/
theorem nearest_of_ofDecimal? {digits : ℕ} {exponent : ℤ} {x : Binary64}
    (h : ofDecimal? digits exponent = some x) : Nearest (digits * 10 ^ exponent) x := by
  simp only [ofDecimal?] at h
  split_ifs at h with hzero hgreat hsmall
  · cases h
    rw [hzero, Nat.cast_zero, zero_mul]
    exact nearest_zero le_rfl (two_zpow_pos _)
  · cases h
    exact nearest_zero (by positivity) (lt_of_magnitude hsmall)
  · have hden : 0 < Nat.pow 10 (-exponent).toNat := Nat.pow_pos (by decide)
    have hnearest := nearest_of_nearest? hden h
    rwa [decimal_eq] at hnearest

/-- Only a decimal that is out of range is read as no double. -/
theorem overflow_le_of_ofDecimal? {digits : ℕ} {exponent : ℤ}
    (h : ofDecimal? digits exponent = none) : overflow ≤ digits * 10 ^ exponent := by
  simp only [ofDecimal?] at h
  split_ifs at h with hzero hgreat hsmall
  · exact overflow_le_of_magnitude hzero hgreat
  · have hden : 0 < Nat.pow 10 (-exponent).toNat := Nat.pow_pos (by decide)
    have hoverflow := overflow_le_of_nearest? hden h
    rwa [decimal_eq] at hoverflow

end Binary64

end SecretEnv
