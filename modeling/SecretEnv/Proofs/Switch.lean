import SecretEnv.Proofs.Environment
import SecretEnv.Proofs.Load

/-!
# The switch for automatic loading

**A value in the switch stops an attempt exactly if it is text** (`Autoload.switch_works_iff_text`).
The switch is read as text, and a value that is none reads as if the switch were not there, although
every question for its presence would find it. So the attempt goes on as it would without one: it
asks for its loader, runs the resolver and writes what it is given.
-/

namespace SecretEnv.Autoload

/-- Loading is switched off in an environment by a text that is not empty, and by nothing else. -/
theorem isDisabled_process_iff {env : Environment} :
    isDisabled (.process env) = true ↔ ∃ text, text ≠ "" ∧
      env[Utf8.encode Names.disableAutoload]? = some (Utf8.encode text) := by
  rw [isDisabled, Store.value?, Environment.value?_of_validName env (by decide)]
  cases henv : env[Utf8.encode Names.disableAutoload]? with
  | none => simp
  | some value =>
      rw [Option.bind_some]
      cases htext : Utf8.decode? value with
      | none =>
          -- octets that do not read as text are not those of a text
          have hnone : ∀ text, value ≠ Utf8.encode text := by
            intro text heq
            rw [heq, Utf8.decode?_encode] at htext
            cases htext
          simp [hnone]
      | some text =>
          have hvalue : value = Utf8.encode text := (Utf8.decode?_eq_some_iff.mp htext).symm
          have hsame : ∀ other, value = Utf8.encode other ↔ other = text := by
            intro other
            rw [hvalue]
            exact ⟨fun heq => (Utf8.encode_injective heq).symm, fun heq => by rw [heq]⟩
          simp [hsame]

section

variable {env : Environment} {value : Octets}

/-- A value that is not empty switches loading off exactly if it is text. -/
theorem isDisabled_process_iff_of_value
    (hswitch : env[Utf8.encode Names.disableAutoload]? = some value) (hvalue : value ≠ []) :
    isDisabled (.process env) = true ↔ ∃ text, Utf8.encode text = value := by
  rw [isDisabled_process_iff, hswitch]
  constructor
  · intro ⟨text, _, htext⟩
    exact ⟨text, (Option.some.inj htext).symm⟩
  · intro ⟨text, htext⟩
    refine ⟨text, ?_, by rw [htext]⟩
    intro hempty
    rw [hempty] at htext
    exact hvalue htext.symm

end

section

variable {calling : Calling} {executor : Executor} {around : Surroundings} {store : Store}
  {visiting : Visiting}

/-- An attempt that is switched off has only set the flag. -/
theorem run_of_isDisabled {loader : Except Error Loader} (h : isDisabled store = true) :
    run false calling executor around store loader visiting =
      ⟨.ok .disabled, false, [], store, true⟩ := by
  simp [run_eq, h]

/-- An attempt that is not switched off comes to the load that its loader makes of its request. -/
theorem run_of_enabled {chosen : Loader} (h : isDisabled store = false) :
    run false calling executor around store (.ok chosen) visiting =
      loadWith chosen calling executor around store visiting :=
  run_of_some (by simp [loader?, h, Except.toOption])

end

/-- **The switch works exactly with text.** In an environment where the switch has a value that is
not empty, a first attempt that is waited for in any way is disabled if the value is text: it asks
for no loader, runs nothing, and leaves the environment as it was and the flag set. If the value is
no text, the attempt sets the flag and asks for a loader. Without one it ends with that error; with
one it gives the result, the runs and the writes of a load that asks the environment for its cache.
So it is disabled exactly if the value is text. -/
theorem switch_works_iff_text {env : Environment} {value : Octets}
    (hswitch : env[Utf8.encode Names.disableAutoload]? = some value) (hvalue : value ≠ [])
    (calling : Calling) (executor : Executor) (around : Surroundings)
    (loader : Except Error Loader) (visiting : Visiting) :
    let attempt := run false calling executor around (.process env) loader visiting
    ((∃ text, Utf8.encode text = value) →
      attempt = ⟨.ok .disabled, false, [], .process env, true⟩) ∧
    ((∀ text, Utf8.encode text ≠ value) →
      attempt.loaderAsked = true ∧ attempt.hasRun = true ∧
      (∀ error, loader = .error error →
        attempt.result = .error error ∧ attempt.calls = [] ∧ attempt.store = .process env) ∧
      ∀ chosen, loader = .ok chosen →
        let loaded := chosen.load calling executor around (.process env)
          { cache := some (env.contains (Utf8.encode Names.shouldCache)) } visiting
        attempt.result = loaded.result.map .loaded ∧ attempt.calls = loaded.calls ∧
          attempt.store = loaded.store) := by
  intro attempt
  have hdisabled := isDisabled_process_iff_of_value hswitch hvalue
  constructor
  · intro htext
    exact run_of_isDisabled (hdisabled.mpr htext)
  · intro hnotText
    have henabled : isDisabled (.process env) = false := by
      rw [Bool.eq_false_iff, Ne, hdisabled]
      exact not_exists.mpr hnotText
    cases loader with
    | error error =>
        have hattempt : attempt = ⟨.error error, true, [], .process env, true⟩ := by
          simp [attempt, run_eq, henabled]
        rw [hattempt]
        refine ⟨rfl, rfl, ?_, ?_⟩
        · intro other hother
          exact ⟨by rw [Except.error.inj hother], rfl, rfl⟩
        · intro chosen hchosen
          cases hchosen
    | ok chosen =>
        have hattempt : attempt = loadWith chosen calling executor around (.process env) visiting :=
          run_of_enabled henabled
        have hrequest : requestFor (.process env) =
            { cache := some (env.contains (Utf8.encode Names.shouldCache)) } := by
          rw [requestFor, Store.has, Environment.has_of_validName env (by decide)]
        rw [hattempt, loadWith, hrequest]
        refine ⟨rfl, rfl, ?_, ?_⟩
        · intro error herror
          cases herror
        · intro other hother
          cases hother
          exact ⟨rfl, rfl, rfl⟩

/-- With `0` in the switch nothing is asked for; with the octet 0xFF there, a variable is fetched
and written. -/
theorem switch_works_with_zero_only :
    let key := Utf8.encode Names.disableAutoload
    let loader : Except Error Loader :=
      .ok ⟨⟨"2.4.1", .besideProgram, "a", "b", false, none⟩, "/r"⟩
    let executor : Executor := fun _ => .ok ⟨.exited 0, Utf8.encode "\x7b\"A\":\"1\"\x7d", []⟩
    let around : Surroundings := ⟨⟨∅, []⟩, ∅⟩
    let textual := ((∅ : Environment).assign "ENVKEY" "k").insert key [0x30]
    let broken := ((∅ : Environment).assign "ENVKEY" "k").insert key [0xFF]
    let attempt := run false .blocking executor around (.process broken) loader .byName
    (textual[key]? = some [0x30] ∧ broken[key]? = some [0xFF]) ∧
      run false .awaited executor around (.process textual) loader .byName =
        ⟨.ok .disabled, false, [], .process textual, true⟩ ∧
      attempt.loaderAsked = true ∧ attempt.calls.length = 1 ∧ attempt.store.has "A" = true := by
  intro key loader executor around textual broken attempt
  have htextual : textual[key]? = some [0x30] := by decide +kernel
  have hbroken : broken[key]? = some [0xFF] := by decide +kernel
  have hunreadable : Utf8.decode? [0xFF] = none := by decide +kernel
  have hnotText : ∀ text, Utf8.encode text ≠ [0xFF] := by
    intro text htext
    rw [Utf8.decode?_eq_some_iff.mpr htext] at hunreadable
    cases hunreadable
  obtain ⟨hdisabled, -⟩ :=
    switch_works_iff_text htextual (by decide) .awaited executor around loader .byName
  obtain ⟨-, henabled⟩ :=
    switch_works_iff_text hbroken (by decide) .blocking executor around loader .byName
  refine ⟨⟨htextual, hbroken⟩, hdisabled ⟨"0", rfl⟩, (henabled hnotText).1, ?_⟩
  decide +kernel

/-- The switch does not work with every value: with the octet 0xFF in it, an attempt asks for its
loader, runs the resolver and writes a variable. -/
theorem not_disabled_by_every_value :
    ¬ ∀ (env : Environment) (value : Octets) (executor : Executor) (around : Surroundings)
        (loader : Except Error Loader),
      env[Utf8.encode Names.disableAutoload]? = some value → value ≠ [] →
        run false .blocking executor around (.process env) loader =
          ⟨.ok .disabled, false, [], .process env, true⟩ := by
  intro hall
  let env : Environment :=
    ((∅ : Environment).assign "ENVKEY" "k").insert (Utf8.encode Names.disableAutoload) [0xFF]
  let executor : Executor := fun _ => .ok ⟨.exited 0, Utf8.encode "\x7b\"A\":\"1\"\x7d", []⟩
  let loader : Except Error Loader :=
    .ok ⟨⟨"2.4.1", .besideProgram, "a", "b", false, none⟩, "/r"⟩
  have hdisabled := hall env [0xFF] executor ⟨⟨∅, []⟩, ∅⟩ loader (by decide +kernel) (by decide)
  have hwrites :
      (run false .blocking executor ⟨⟨∅, []⟩, ∅⟩ (.process env) loader).store.has "A" = true ∧
        env.has "A" = false := by
    decide +kernel
  rw [hdisabled] at hwrites
  exact Bool.false_ne_true (hwrites.2.symm.trans hwrites.1)

end SecretEnv.Autoload
