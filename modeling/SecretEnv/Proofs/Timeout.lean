import SecretEnv.Proofs.Numeral
import SecretEnv.Proofs.Rounding
import SecretEnv.Settings

/-!
# Timeouts

**The timeout that variables choose is the number of seconds that its text spells**, as a double and
then in whole nanoseconds (`Approximates`). Which texts are taken is decided between the two steps
(`Settings.timeout_of_variables`): the double must be positive, and below the least number of
seconds that no duration holds. Seconds that are positive as a double can still be no nanosecond, so
a timeout of nothing is taken, and only from half a nanosecond on is every timeout positive.
-/

namespace SecretEnv

open Binary64

/-- What a text must spell to be taken as a timeout: seconds that are positive as a double, and
fewer as a double than no duration holds. -/
structure TimeoutText (raw : String) (seconds : ℚ) : Prop where
  spells : Numeral.Spells (Text.trim raw).toList seconds
  positive : 2 ^ (-1075 : ℤ) < seconds
  limited : seconds < 2 ^ 64 - 2 ^ 10

/-- A duration is so many seconds, to the nearest double and then to the nearest nanosecond. -/
def Approximates (seconds : ℚ) (duration : Duration) : Prop :=
  ∃ x : Binary64, Nearest seconds x ∧ NearestNatural (x.value * 10 ^ 9) duration.nanoseconds

/-- The middle between the two doubles around half a nanosecond. -/
def lastVanishing : ℚ := (4835703278458516 + 1 / 2) * 2 ^ (-83 : ℤ)

theorem lastVanishing_lt : lastVanishing < 1 / (2 * 10 ^ 9) := by
  rw [lastVanishing]
  norm_num

/-! ### Bounds on doubles as bounds on seconds -/

section Bounds

variable {seconds : ℚ} {x : Binary64}

/-- A double is zero for what is at most half the least one. -/
theorem Binary64.Nearest.mantissa_eq_zero_iff (h : Nearest seconds x) :
    x.mantissa = 0 ↔ seconds ≤ 2 ^ (-1075 : ℤ) := by
  have hcut : x.value ≤ (0 : ℕ) * 2 ^ (-1074 : ℤ) ↔ _ :=
    h.le_iff (by decide) le_rfl (by decide) (.inr rfl)
  have hmiddle : (((0 : ℕ) : ℚ) + 1 / 2) * 2 ^ (-1074 : ℤ) = 2 ^ (-1075 : ℤ) := by
    rw [show (-1075 : ℤ) = -1074 - 1 from rfl, zpow_sub_one₀ two_ne_zero, Nat.cast_zero, zero_add,
      one_div, mul_comm]
  have hzero : x.value ≤ (0 : ℕ) * 2 ^ (-1074 : ℤ) ↔ x.mantissa = 0 := by
    rw [Nat.cast_zero, zero_mul, (value_nonneg x).ge_iff_eq', value,
      mul_eq_zero_iff_right (two_zpow_pos _).ne', Nat.cast_eq_zero]
  rw [hmiddle] at hcut
  rw [← hzero, hcut, le_iff_lt_or_eq]
  simp

/-- Before the middle of the last double below the limit of durations and the limit, the seconds
are below the limit as a double. -/
theorem Binary64.Nearest.lt_limit_iff (h : Nearest seconds x) :
    x.value < 2 ^ 64 ↔ seconds < 2 ^ 64 - 2 ^ 10 := by
  have hcut : x.value ≤ (2 ^ 53 - 1 : ℕ) * 2 ^ (11 : ℤ) ↔ _ :=
    h.le_iff (by decide) (by decide) (by decide) (.inl (by decide))
  have hside := value_le_or_le h.isDouble (m := 2 ^ 53 - 1) (e := 11) (.inl (by decide))
  have hodd : ¬ Even 9007199254740991 := by decide
  norm_num [hodd] at hcut hside ⊢
  rw [← hcut]
  exact ⟨fun hlt => hside.resolve_right hlt.not_ge, fun hle => by linarith⟩

/-- Up to the middle of the two doubles around half a nanosecond, the seconds are at most that as a
double. -/
theorem Binary64.Nearest.le_half_nanosecond_iff (h : Nearest seconds x) :
    x.value * 10 ^ 9 ≤ 1 / 2 ↔ seconds ≤ lastVanishing := by
  have hcut : x.value ≤ (4835703278458516 : ℕ) * 2 ^ (-83 : ℤ) ↔ _ :=
    h.le_iff (by decide) (by decide) (by decide) (.inl (by decide))
  have hside := value_le_or_le h.isDouble (m := 4835703278458516) (e := -83) (.inl (by decide))
  have heven : Even 4835703278458516 := by decide
  rw [lastVanishing]
  norm_num [heven] at hcut hside ⊢
  rw [← le_iff_lt_or_eq] at hcut
  rw [← hcut]
  constructor
  · intro hhalf
    refine hside.resolve_right fun hgreat => ?_
    linarith
  · intro hle
    linarith

/-- No nanosecond is left of the seconds up to that middle. -/
theorem Approximates.eq_zero_iff {duration : Duration} (h : Approximates seconds duration) :
    duration.nanoseconds = 0 ↔ seconds ≤ lastVanishing := by
  obtain ⟨x, hdouble, hnanoseconds⟩ := h
  have hnonneg : 0 ≤ x.value * 10 ^ 9 := mul_nonneg (value_nonneg x) (by norm_num)
  rw [hnanoseconds.eq_zero_iff hnonneg, hdouble.le_half_nanosecond_iff]

/-- What is out of the range of doubles is beyond the limit of durations. -/
theorem limit_le_overflow : (2 ^ 64 - 2 ^ 10 : ℚ) ≤ overflow :=
  calc (2 ^ 64 - 2 ^ 10 : ℚ) = (2 ^ 53 - 1 / 2) * 2 ^ (11 : ℤ) := by norm_num
    _ ≤ overflow := by
        rw [overflow]
        gcongr <;> norm_num

end Bounds

/-! ### From seconds to a duration -/

theorem Duration.ofSeconds?_eq_none_iff {x : Binary64} :
    ofSeconds? x = none ↔ 2 ^ 64 ≤ x.value := by
  have hpos : (0 : ℚ) < x.denominator := by
    rw [denominator, Nat.pow_eq]
    positivity
  have hlimit : secondsLimit * x.denominator ≤ x.numerator ↔ 2 ^ 64 ≤ x.value := by
    rw [← numerator_div_denominator, le_div_iff₀ hpos, ← Nat.cast_le (α := ℚ), secondsLimit]
    norm_num
  rw [ofSeconds?, ← hlimit]
  split <;> simp_all

theorem Duration.nearestNatural_of_ofSeconds? {x : Binary64} {duration : Duration}
    (h : ofSeconds? x = some duration) :
    NearestNatural (x.value * 10 ^ 9) duration.nanoseconds := by
  rw [ofSeconds?] at h
  split at h
  · cases h
  · cases h
    have hden : 0 < x.denominator := Nat.pow_pos (by decide)
    have hround := nearestNatural_roundHalfEven (x.numerator * 1000000000) hden
    rw [Nat.cast_mul, mul_div_right_comm, numerator_div_denominator] at hround
    norm_num at hround ⊢
    exact hround

namespace Numeral

theorem nearest_of_positiveDouble? {numeral : Numeral} {x : Binary64}
    (h : numeral.positiveDouble? = some x) :
    ∃ seconds, numeral.value? = some seconds ∧ 2 ^ (-1075 : ℤ) < seconds ∧ Nearest seconds x := by
  unfold positiveDouble? at h
  split at h
  · rename_i digits exponent
    split at h
    · rename_i y hy
      split at h
      · cases h
      · rename_i hpositive
        cases h
        have hnearest := nearest_of_ofDecimal? hy
        refine ⟨_, rfl, ?_⟩
        simp only [Bool.false_eq_true, if_false, one_mul]
        exact ⟨not_le.mp (hnearest.mantissa_eq_zero_iff.not.mp hpositive), hnearest⟩
    · cases h
  · cases h

/-- A number without a positive double is none of a timeout. -/
theorem outside_of_positiveDouble? {numeral : Numeral} {seconds : ℚ}
    (h : numeral.positiveDouble? = none) (hvalue : numeral.value? = some seconds) :
    seconds ≤ 2 ^ (-1075 : ℤ) ∨ overflow ≤ seconds := by
  unfold positiveDouble? at h
  split at h
  · rename_i digits exponent
    simp only [value?, Bool.false_eq_true, if_false, one_mul, Option.some.injEq] at hvalue
    subst hvalue
    split at h
    · rename_i y hy
      split at h
      · rename_i hzero
        exact .inl ((nearest_of_ofDecimal? hy).mantissa_eq_zero_iff.mp hzero)
      · cases h
    · rename_i hnone
      exact .inr (overflow_le_of_ofDecimal? hnone)
  · rename_i hother
    cases numeral with
    | finite negative digits exponent =>
        cases negative with
        | false => exact absurd rfl (hother digits exponent)
        | true =>
            cases hvalue
            left
            have hnonneg : (0 : ℚ) ≤ digits * 10 ^ exponent := by positivity
            have hpower := two_zpow_pos (-1075)
            simp only [if_true, neg_mul, one_mul]
            linarith
    | infinite => cases hvalue
    | notANumber => cases hvalue

end Numeral

namespace Settings

/-! ### The texts of timeouts -/

/-- A timeout is taken off a text that spells its seconds. -/
theorem timeoutText_of_parseTimeout {raw : String} {timeout : Duration}
    (h : parseTimeout raw = .ok timeout) :
    ∃ seconds, TimeoutText raw seconds ∧ Approximates seconds timeout := by
  unfold parseTimeout at h
  split at h
  · cases h
  · rename_i numeral hread
    split at h
    · cases h
    · rename_i x hdouble
      obtain ⟨seconds, hvalue, hpositive, hnearest⟩ := Numeral.nearest_of_positiveDouble? hdouble
      split at h
      · cases h
      · rename_i duration hduration
        cases h
        have hsome : Duration.ofSeconds? x ≠ none := by simp [hduration]
        have hlimited := not_le.mp (Duration.ofSeconds?_eq_none_iff.not.mp hsome)
        exact ⟨seconds, ⟨Numeral.spells_iff.mpr ⟨numeral, hread, hvalue⟩, hpositive,
          hnearest.lt_limit_iff.mp hlimited⟩, x, hnearest,
          Duration.nearestNatural_of_ofSeconds? hduration⟩

/-- A text that spells the seconds of a timeout is taken. -/
theorem parseTimeout_of_timeoutText {raw : String} {seconds : ℚ} (h : TimeoutText raw seconds) :
    ∃ timeout, parseTimeout raw = .ok timeout := by
  obtain ⟨numeral, hread, hvalue⟩ := Numeral.spells_iff.mp h.spells
  cases hdouble : numeral.positiveDouble? with
  | none =>
      rcases Numeral.outside_of_positiveDouble? hdouble hvalue with hsmall | hgreat
      · exact absurd h.positive hsmall.not_gt
      · exact absurd h.limited (limit_le_overflow.trans hgreat).not_gt
  | some x =>
      obtain ⟨same, hsame, -, hnearest⟩ := Numeral.nearest_of_positiveDouble? hdouble
      obtain rfl : same = seconds := Option.some.inj (hsame.symm.trans hvalue)
      have hlimited := hnearest.lt_limit_iff.mpr h.limited
      cases hduration : Duration.ofSeconds? x with
      | none => exact absurd hlimited (Duration.ofSeconds?_eq_none_iff.mp hduration).not_gt
      | some duration =>
          refine ⟨duration, ?_⟩
          simp only [parseTimeout, hread, hdouble, hduration]

theorem parseTimeout_error {raw : String} {error : Error} (h : parseTimeout raw = .error error) :
    ∃ message, error = .configuration message := by
  unfold parseTimeout at h
  repeat' split at h
  all_goals cases h
  all_goals exact ⟨_, rfl⟩

/-! ### The choice of variables -/

/-- The variable is absent or empty, or its text is parsed. -/
theorem timeoutOf_cases (vars : Variables) :
    ((∀ raw, vars[Names.fetchTimeout]? = some raw → raw = "") ∧ timeoutOf vars = .ok none) ∨
      ∃ raw, vars[Names.fetchTimeout]? = some raw ∧ raw ≠ "" ∧
        timeoutOf vars = (parseTimeout raw).map some := by
  rw [timeoutOf, nonEmpty?]
  cases vars[Names.fetchTimeout]? with
  | none => exact .inl ⟨nofun, rfl⟩
  | some raw =>
      by_cases hempty : raw = ""
      · subst hempty
        exact .inl ⟨fun raw hraw => (Option.some.inj hraw).symm, by simp [Option.filter]⟩
      · exact .inr ⟨raw, rfl, hempty, by simp [Option.filter, hempty]⟩

theorem map_some_eq_ok_iff {parsed : Except Error Duration} {timeout : Option Duration} :
    parsed.map some = .ok timeout ↔
      ∃ duration, parsed = .ok duration ∧ timeout = some duration := by
  cases parsed <;> simp [Except.map, eq_comm]

theorem timeoutOf_eq_none_iff {vars : Variables} :
    timeoutOf vars = .ok none ↔ ∀ raw, vars[Names.fetchTimeout]? = some raw → raw = "" := by
  rcases timeoutOf_cases vars with ⟨habsent, htimeout⟩ | ⟨raw, hraw, hne, htimeout⟩
  · exact ⟨fun _ => habsent, fun _ => htimeout⟩
  · rw [htimeout, map_some_eq_ok_iff]
    constructor
    · rintro ⟨duration, -, hnone⟩
      cases hnone
    · exact fun habsent => absurd (habsent raw hraw) hne

/-- Variables choose a timeout, or none, if and only if the text is taken where there is one. -/
theorem exists_timeoutOf_iff {vars : Variables} :
    (∃ timeout, timeoutOf vars = .ok timeout) ↔
      ∀ raw, vars[Names.fetchTimeout]? = some raw → raw ≠ "" →
        ∃ seconds, TimeoutText raw seconds := by
  rcases timeoutOf_cases vars with ⟨habsent, htimeout⟩ | ⟨raw, hraw, hne, htimeout⟩
  · exact ⟨fun _ raw hraw hne => absurd (habsent raw hraw) hne, fun _ => ⟨none, htimeout⟩⟩
  · simp only [htimeout, map_some_eq_ok_iff]
    constructor
    · rintro ⟨timeout, duration, hparse, -⟩ other hother -
      obtain rfl : raw = other := Option.some.inj (hraw.symm.trans hother)
      obtain ⟨seconds, htext, -⟩ := timeoutText_of_parseTimeout hparse
      exact ⟨seconds, htext⟩
    · intro htaken
      obtain ⟨seconds, htext⟩ := htaken raw hraw hne
      obtain ⟨duration, hparse⟩ := parseTimeout_of_timeoutText htext
      exact ⟨some duration, duration, hparse, rfl⟩

/-- A chosen timeout is the one that the variable's text spells. -/
theorem exists_of_timeoutOf {vars : Variables} {timeout : Duration}
    (h : timeoutOf vars = .ok (some timeout)) :
    ∃ raw seconds, vars[Names.fetchTimeout]? = some raw ∧ TimeoutText raw seconds ∧
      Approximates seconds timeout := by
  rcases timeoutOf_cases vars with ⟨-, htimeout⟩ | ⟨raw, hraw, -, htimeout⟩
  · rw [htimeout] at h
    cases h
  · rw [htimeout, map_some_eq_ok_iff] at h
    obtain ⟨duration, hparse, hsome⟩ := h
    cases hsome
    obtain ⟨seconds, htext, hnear⟩ := timeoutText_of_parseTimeout hparse
    exact ⟨raw, seconds, hraw, htext, hnear⟩

theorem timeoutOf_error {vars : Variables} {error : Error} (h : timeoutOf vars = .error error) :
    ∃ message, error = .configuration message := by
  rcases timeoutOf_cases vars with ⟨-, htimeout⟩ | ⟨raw, -, -, htimeout⟩
  · rw [htimeout] at h
    cases h
  · rw [htimeout] at h
    cases hparse : parseTimeout raw with
    | ok duration =>
        rw [hparse] at h
        cases h
    | error reason =>
        rw [hparse] at h
        cases h
        exact parseTimeout_error hparse

/-! ### The other choices -/

/-- What variables choose apart from the timeout. -/
def otherChoices (vars : Variables) : Choices where
  resolverVersion := nonEmpty? vars Names.sourceVersion
  resolverDir := nonEmpty? vars Names.sourceDir
  cacheByDefault := vars.contains Names.shouldCache

theorem ofVariables_eq (vars : Variables) :
    ofVariables vars = (timeoutOf vars).bind fun timeout =>
      ({ otherChoices vars with fetchTimeout := timeout } : Choices).settle := rfl

theorem otherChoices_erase (vars : Variables) :
    otherChoices (vars.erase Names.fetchTimeout) = otherChoices vars := by
  have hkept : ∀ name, name ≠ Names.fetchTimeout →
      (vars.erase Names.fetchTimeout)[name]? = vars[name]? := by
    intro name hname
    simp [Std.ExtTreeMap.getElem?_erase, hname.symm]
  have hcache : (vars.erase Names.fetchTimeout).contains Names.shouldCache =
      vars.contains Names.shouldCache := by
    rw [← Std.ExtTreeMap.isSome_getElem?_eq_contains, hkept _ (by decide),
      Std.ExtTreeMap.isSome_getElem?_eq_contains]
  simp only [otherChoices, nonEmpty?, hkept Names.sourceVersion (by decide),
    hkept Names.sourceDir (by decide), hcache]

/-- The timeout has no part in whether choices can be settled. -/
theorem settle_withTimeout (choices : Choices) (timeout : Option Duration) :
    ({ choices with fetchTimeout := timeout } : Choices).settle =
      choices.settle.map fun settings => { settings with fetchTimeout := timeout } := by
  unfold Choices.settle
  dsimp only
  split <;> rfl

theorem settle_error {choices : Choices} {error : Error} (h : choices.settle = .error error) :
    ∃ message, error = .configuration message := by
  unfold Choices.settle at h
  dsimp only at h
  split at h
  · cases h
    exact ⟨_, rfl⟩
  · cases h

/-- Without the variable of the timeout, variables settle the other choices. -/
theorem ofVariables_erase (vars : Variables) :
    ofVariables (vars.erase Names.fetchTimeout) = (otherChoices vars).settle := by
  have habsent : timeoutOf (vars.erase Names.fetchTimeout) = .ok none :=
    timeoutOf_eq_none_iff.mpr fun raw hraw => by simp at hraw
  rw [ofVariables_eq, habsent, otherChoices_erase]
  rfl

/-- Settings are the other choices, settled, with the timeout. -/
theorem ofVariables_eq_ok_iff {vars : Variables} {settings : Settings} :
    ofVariables vars = .ok settings ↔
      timeoutOf vars = .ok settings.fetchTimeout ∧
        ∃ other, (otherChoices vars).settle = .ok other ∧
          settings = { other with fetchTimeout := settings.fetchTimeout } := by
  rw [ofVariables_eq]
  cases timeoutOf vars with
  | error error => exact ⟨nofun, fun h => nomatch h.1⟩
  | ok timeout =>
      rw [Except.bind, settle_withTimeout]
      cases (otherChoices vars).settle with
      | error error => exact ⟨nofun, fun h => nomatch h.2⟩
      | ok other =>
          constructor
          · intro h
            cases h
            exact ⟨rfl, other, rfl, rfl⟩
          · rintro ⟨htimeout, same, hsame, heq⟩
            cases hsame
            cases htimeout
            exact congrArg Except.ok heq.symm

theorem ofVariables_error {vars : Variables} {error : Error}
    (h : ofVariables vars = .error error) : ∃ message, error = .configuration message := by
  rw [ofVariables_eq] at h
  cases htimeout : timeoutOf vars with
  | error fault =>
      rw [htimeout] at h
      cases h
      exact timeoutOf_error htimeout
  | ok timeout =>
      rw [htimeout] at h
      exact settle_error h

/-! ### The timeout of settings -/

/-- **The timeout that variables choose.** Variables make settings if and only if they do so without
the timeout, and this is absent, empty or a text that is taken; whatever makes no settings is an
error of the configuration. Settings have no timeout if and only if it is absent or empty. Otherwise
they have the one nearest to the seconds that the text spells. This one is zero if and only if the
seconds do not pass the middle of the two doubles around half a nanosecond, so from half a
nanosecond on it is positive. -/
theorem timeout_of_variables (vars : Variables) :
    ((∃ settings, ofVariables vars = .ok settings) ↔
      (∃ settings, ofVariables (vars.erase Names.fetchTimeout) = .ok settings) ∧
        ∀ raw, vars[Names.fetchTimeout]? = some raw → raw ≠ "" →
          ∃ seconds, TimeoutText raw seconds) ∧
    (∀ error, ofVariables vars = .error error → ∃ message, error = .configuration message) ∧
    ∀ settings, ofVariables vars = .ok settings →
      (settings.fetchTimeout = none ↔
        ∀ raw, vars[Names.fetchTimeout]? = some raw → raw = "") ∧
      ∀ timeout, settings.fetchTimeout = some timeout →
        ∃ raw seconds, vars[Names.fetchTimeout]? = some raw ∧ TimeoutText raw seconds ∧
          Approximates seconds timeout ∧
          (timeout.nanoseconds = 0 ↔ seconds ≤ lastVanishing) ∧
          (1 / (2 * 10 ^ 9) ≤ seconds → 0 < timeout.nanoseconds) := by
  refine ⟨?_, fun error => ofVariables_error, fun settings hsettings => ?_⟩
  · rw [← exists_timeoutOf_iff, ofVariables_erase]
    constructor
    · rintro ⟨settings, hsettings⟩
      obtain ⟨htimeout, other, hother, -⟩ := ofVariables_eq_ok_iff.mp hsettings
      exact ⟨⟨other, hother⟩, _, htimeout⟩
    · rintro ⟨⟨other, hother⟩, timeout, htimeout⟩
      exact ⟨{ other with fetchTimeout := timeout },
        ofVariables_eq_ok_iff.mpr ⟨htimeout, other, hother, rfl⟩⟩
  · obtain ⟨htimeout, -⟩ := ofVariables_eq_ok_iff.mp hsettings
    constructor
    · rw [← timeoutOf_eq_none_iff, htimeout, Except.ok.injEq]
    · intro timeout hsome
      rw [hsome] at htimeout
      obtain ⟨raw, seconds, hraw, htext, hnear⟩ := exists_of_timeoutOf htimeout
      refine ⟨raw, seconds, hraw, htext, hnear, hnear.eq_zero_iff, fun hhalf => ?_⟩
      have hgreat : ¬ seconds ≤ lastVanishing := by
        have hlast := lastVanishing_lt
        linarith
      exact Nat.pos_of_ne_zero (hnear.eq_zero_iff.not.mpr hgreat)

example : (parseTimeout " .5e-9 ").toOption = some ⟨1⟩ := by decide +kernel

/-- A tenth of a nanosecond is taken, and no time at all is left of it. -/
theorem tiny_timeout_is_zero :
    let vars : Variables := (∅ : Variables).insert Names.fetchTimeout "1e-10"
    (ofVariables vars).toOption.map Settings.fetchTimeout = some (some ⟨0⟩) := by
  decide +kernel

end Settings

end SecretEnv
