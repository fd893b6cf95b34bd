import SecretEnv.Proofs.Environment

/-!
# Asking for a variable after any changes

**All ways to ask for a variable agree, whatever was there first and whatever was done since**
(`Environment.accessors_agree_after_changes`). One asks for a text, one for presence and one for all
variables that are texts, and each sees the same octets through a filter of its own; so a variable
that is there and has no text is one whose octets are none. What a change does is said once, for
every variable (`getElem?_perform`), and by it what a run leaves under a name depends on the changes
for that name alone (`getElem?_performAll`).
-/

namespace SecretEnv

namespace Environment

/-- A call that may change the environment. Any name may be given to be set; one that no environment
can hold may not be given to be removed. -/
inductive Change where
  /-- A variable is set. -/
  | set (name value : String)
  /-- A variable is set if it is absent. -/
  | setIfAbsent (name value : String)
  /-- A variable is removed. -/
  | remove (name : String) (valid : validName name = true)

namespace Change

/-- The variable that is to be changed. -/
def name : Change → String
  | set name _ => name
  | setIfAbsent name _ => name
  | remove name _ => name

/-- What a change that is not refused leaves of what its variable held. -/
def leaves : Change → Option Octets → Option Octets
  | set _ value, _ => some (Utf8.encode value)
  | setIfAbsent _ value, held => held.or (some (Utf8.encode value))
  | remove _ _, _ => none

end Change

/-- A change: whether it wrote a value, or the error, and the environment after it. -/
def perform (env : Environment) : Change → Except Error Bool × Environment
  | .set name value =>
    match env.setVar name value with
    | .error error => (.error error, env)
    | .ok after => (.ok true, after)
  | .setIfAbsent name value =>
    match env.setIfAbsent name value with
    | .error error => (.error error, env)
    | .ok (written, after) => (.ok written, after)
  | .remove name _ => (.ok false, env.unset name)

/-- The environment after changes, whether or not each of them succeeds. -/
def performAll (env : Environment) (changes : List Change) : Environment :=
  changes.foldl (fun env change => (env.perform change).2) env

/-- All ways to ask for a variable say the same of it. -/
structure Agrees (env : Environment) (name : String) : Prop where
  /-- A value that is text is the one that is listed. -/
  text : ∀ value, env.value? name = some value ↔ env.vars[name]? = some value
  /-- Presence is that of octets, whatever they are. -/
  presence : env.has name = true ↔ ∃ octets, env[Utf8.encode name]? = some octets
  /-- A variable that is there without a text holds the octets of none. -/
  noText : (env.has name = true ∧ env.value? name = none) ↔
    ∃ octets, env[Utf8.encode name]? = some octets ∧ ∀ text, Utf8.encode text ≠ octets

theorem validName_iff {name : String} :
    validName name = true ↔ name ≠ "" ∧ '=' ∉ name.toList ∧ '\x00' ∉ name.toList := by
  simp [validName, and_assoc]

/-! ### The ways to ask -/

section

variable {env : Environment} {name : String}

theorem value?_eq_some_iff (hvalid : validName name = true) {value : String} :
    env.value? name = some value ↔ env[Utf8.encode name]? = some (Utf8.encode value) := by
  rw [value?_of_validName env hvalid, Option.bind_eq_some_iff]
  simp only [Utf8.decode?_eq_some_iff]
  constructor
  · rintro ⟨octets, hheld, rfl⟩
    exact hheld
  · intro hheld
    exact ⟨_, hheld, rfl⟩

theorem agrees_of_validName (env : Environment) (hvalid : validName name = true) :
    env.Agrees name := by
  have hpresence : env.has name = true ↔ ∃ octets, env[Utf8.encode name]? = some octets := by
    rw [has_of_validName env hvalid, Std.ExtTreeMap.contains_iff_mem, mem_iff_exists_getElem?]
  refine ⟨fun value => ?_, hpresence, ?_⟩
  · rw [value?_eq_some_iff hvalid, getElem?_vars_eq_some_iff]
  · rw [hpresence, Option.eq_none_iff_forall_ne_some]
    simp only [ne_eq, value?_eq_some_iff hvalid]
    constructor
    · rintro ⟨⟨octets, hheld⟩, hnone⟩
      refine ⟨octets, hheld, fun text htext => hnone text ?_⟩
      rw [hheld, htext]
    · rintro ⟨octets, hheld, hnone⟩
      refine ⟨⟨octets, hheld⟩, fun text htext => hnone text ?_⟩
      exact Option.some.inj (htext.symm.trans hheld)

/-- Whoever asks for a variable sees its octets and nothing else of the environment. -/
theorem asked_congr {other : Environment} (hvalid : validName name = true)
    (h : other[Utf8.encode name]? = env[Utf8.encode name]?) :
    other.value? name = env.value? name ∧ other.has name = env.has name ∧
      other.vars[name]? = env.vars[name]? := by
  refine ⟨?_, ?_, ?_⟩
  · rw [value?_of_validName other hvalid, value?_of_validName env hvalid, h]
  · rw [has_of_validName other hvalid, has_of_validName env hvalid,
      ← Std.ExtTreeMap.isSome_getElem?_eq_contains, ← Std.ExtTreeMap.isSome_getElem?_eq_contains, h]
  · apply Option.ext
    intro value
    rw [getElem?_vars_eq_some_iff, getElem?_vars_eq_some_iff, h]

/-! ### One change -/

/-- A name that no environment can hold is refused, and nothing is changed. -/
theorem perform_of_not_validName (env : Environment) {change : Change}
    (h : ¬ validName change.name = true) :
    env.perform change = (.error (invalidName change.name), env) := by
  cases change with
  | set name value =>
      have hname : ¬ validName name = true := h
      simp only [perform, setVar, if_neg hname, Change.name]
  | setIfAbsent name value =>
      have hname : ¬ validName name = true := h
      simp only [perform, setIfAbsent, if_neg hname, Change.name]
  | remove name valid => exact absurd valid h

theorem perform_set (env : Environment) (hvalid : validName name = true) (value : String) :
    env.perform (.set name value) = (.ok true, env.assign name value) := by
  simp only [perform, setVar, if_pos hvalid]

theorem perform_setIfAbsent (env : Environment) (hvalid : validName name = true) (value : String) :
    env.perform (.setIfAbsent name value) =
      if env.has name then (.ok false, env) else (.ok true, env.assign name value) := by
  cases hhas : env.has name <;> simp [perform, setIfAbsent, hvalid, hhas]

/-- A change fails exactly if no environment can hold its name. -/
theorem perform_eq_error_iff (env : Environment) {change : Change} {error : Error} :
    (env.perform change).1 = .error error ↔
      validName change.name = false ∧ error = invalidName change.name := by
  by_cases hvalid : validName change.name = true
  · have hok : ∃ written, (env.perform change).1 = .ok written := by
      cases change with
      | set name value => exact ⟨_, congrArg Prod.fst (perform_set env hvalid value)⟩
      | setIfAbsent name value =>
          have hname : validName name = true := hvalid
          have hperform := perform_setIfAbsent env hname value
          cases hhas : env.has name with
          | true => exact ⟨false, by rw [hperform, hhas]; rfl⟩
          | false => exact ⟨true, by rw [hperform, hhas]; rfl⟩
      | remove name valid => exact ⟨_, rfl⟩
    obtain ⟨written, hwritten⟩ := hok
    simp [hwritten, hvalid]
  · rw [perform_of_not_validName env hvalid]
    simp [hvalid, eq_comm]

theorem getElem?_assign (env : Environment) (name value : String) (octets : Octets) :
    (env.assign name value)[octets]? =
      if Utf8.encode name = octets then some (Utf8.encode value) else env[octets]? := by
  rw [assign, Std.ExtTreeMap.getElem?_insert]
  simp

/-- The step: what a change that is not refused leaves, under every name. -/
theorem getElem?_perform (env : Environment) {change : Change}
    (hvalid : validName change.name = true) (octets : Octets) :
    (env.perform change).2[octets]? =
      if Utf8.encode change.name = octets then change.leaves env[octets]? else env[octets]? := by
  cases change with
  | set name value =>
      have hname : validName name = true := hvalid
      rw [perform_set env hname, getElem?_assign]
      rfl
  | setIfAbsent name value =>
      have hname : validName name = true := hvalid
      rw [perform_setIfAbsent env hname]
      have hpresence := (agrees_of_validName env hname).presence
      by_cases hoctets : Utf8.encode name = octets
      · subst hoctets
        cases hheld : env[Utf8.encode name]? with
        | none =>
            have habsent : env.has name = false := by simpa [hheld] using hpresence
            simp [habsent, getElem?_assign, Change.name, Change.leaves]
        | some held =>
            have hthere : env.has name = true := by simpa [hheld] using hpresence
            simp [hthere, hheld, Change.name, Change.leaves]
      · cases env.has name <;> simp [getElem?_assign, Change.name, hoctets]
  | remove name valid =>
      rw [perform, unset, Std.ExtTreeMap.getElem?_erase]
      by_cases hoctets : Utf8.encode name = octets <;>
        simp [Change.name, Change.leaves, hoctets]

/-- No change reaches another variable. -/
theorem getElem?_perform_of_ne (env : Environment) {change : Change} {octets : Octets}
    (h : octets ≠ Utf8.encode change.name) : (env.perform change).2[octets]? = env[octets]? := by
  by_cases hvalid : validName change.name = true
  · rw [getElem?_perform env hvalid, if_neg h.symm]
  · rw [perform_of_not_validName env hvalid]

end

/-! ### Runs of changes -/

/-- What a run leaves under a name is what the changes for that name leave, one after the other. -/
theorem getElem?_performAll (env : Environment) (changes : List Change) {name : String}
    (hvalid : validName name = true) :
    (env.performAll changes)[Utf8.encode name]? =
      (changes.filter (·.name = name)).foldl (fun held change => change.leaves held)
        env[Utf8.encode name]? := by
  induction changes generalizing env with
  | nil => rfl
  | cons change rest ih =>
      rw [performAll, List.foldl_cons, ← performAll, ih]
      by_cases hname : change.name = name
      · subst hname
        rw [List.filter_cons_of_pos (by simp), List.foldl_cons, getElem?_perform env hvalid,
          if_pos rfl]
      · have hne : Utf8.encode name ≠ Utf8.encode change.name :=
          fun heq => hname (Utf8.encode_injective heq).symm
        rw [List.filter_cons_of_neg (by simpa using hname), getElem?_perform_of_ne env hne]

/-- **Asking for a variable after any changes.** After any run of changes, from any environment, all
ways to ask for a variable agree, and it holds what the changes for it alone would have left. A
variable is set if absent exactly if it is not there, and has the text from then on; otherwise
nothing is changed. A change fails exactly for a name that is empty or has a `=` or a NUL in it, and
then changes nothing; and no change reaches another variable, however that is asked for. -/
theorem accessors_agree_after_changes (env : Environment) (changes : List Change) (name : String)
    (hempty : name ≠ "") (hequals : '=' ∉ name.toList) (hnul : '\x00' ∉ name.toList) :
    let now := env.performAll changes
    now.Agrees name ∧
    now[Utf8.encode name]? =
      (changes.filter (·.name = name)).foldl (fun held change => change.leaves held)
        env[Utf8.encode name]? ∧
    (∀ value, let set := now.perform (.setIfAbsent name value)
      (now.has name = false → set.1 = .ok true ∧ set.2.value? name = some value) ∧
      (now.has name = true → set.1 = .ok false ∧ set.2 = now)) ∧
    (∀ change, (∃ error, (now.perform change).1 = .error error) ↔
      change.name = "" ∨ '=' ∈ change.name.toList ∨ '\x00' ∈ change.name.toList) ∧
    (∀ change error, (now.perform change).1 = .error error → (now.perform change).2 = now) ∧
    ∀ change, (∀ octets, octets ≠ Utf8.encode change.name →
        (now.perform change).2[octets]? = now[octets]?) ∧
      (change.name ≠ name → let after := (now.perform change).2
        after.value? name = now.value? name ∧ after.has name = now.has name ∧
          after.vars[name]? = now.vars[name]?) := by
  intro now
  have hvalid : validName name = true := validName_iff.mpr ⟨hempty, hequals, hnul⟩
  refine ⟨agrees_of_validName now hvalid, getElem?_performAll env changes hvalid,
    fun value => ⟨fun habsent => ?_, fun hthere => ?_⟩, fun change => ?_,
    fun change error hfailed => ?_,
    fun change => ⟨fun octets => getElem?_perform_of_ne now, fun hother => ?_⟩⟩
  · rw [perform_setIfAbsent now hvalid, habsent, if_neg Bool.false_ne_true,
      value?_eq_some_iff hvalid, getElem?_assign, if_pos rfl]
    exact ⟨rfl, rfl⟩
  · rw [perform_setIfAbsent now hvalid, hthere, if_pos rfl]
    exact ⟨rfl, rfl⟩
  · have hinvalid : validName change.name = false ↔
        change.name = "" ∨ '=' ∈ change.name.toList ∨ '\x00' ∈ change.name.toList := by
      rw [← Bool.not_eq_true, validName_iff]
      tauto
    simp only [perform_eq_error_iff, exists_and_left, exists_eq, and_true, hinvalid]
  · have hinvalid := ((perform_eq_error_iff now).mp hfailed).1
    rw [perform_of_not_validName now (Bool.eq_false_iff.mp hinvalid)]
  · have hne : Utf8.encode name ≠ Utf8.encode change.name :=
      fun heq => hother (Utf8.encode_injective heq).symm
    exact asked_congr hvalid (getElem?_perform_of_ne now hne)

/-- It says of a variable that is no text that it is seen by its presence alone, that setting it if
absent does nothing, and that neither a refused change nor one of another variable reaches it. -/
theorem accessors_agree_beside_no_text :
    let env : Environment := (∅ : Environment).insert (Utf8.encode "K") [0xFF]
    let removal : Change := .remove "A" (by decide +kernel)
    let now := env.performAll [.set "A=" "1", .setIfAbsent "K" "v", .set "A" "", removal]
    now.has "K" = true ∧ now.value? "K" = none ∧ now.vars["K"]? = none ∧
      (∃ octets, now[Utf8.encode "K"]? = some octets ∧ ∀ text, Utf8.encode text ≠ octets) ∧
      now.perform (.setIfAbsent "K" "w") = (.ok false, now) ∧
      (now.perform (.set "" "w")).2 = now ∧
      (now.perform (.set "A" "w")).2.has "K" = true := by
  intro env removal now
  have hhas : now.has "K" = true := by decide +kernel
  have hvalue : now.value? "K" = none := by decide +kernel
  obtain ⟨hagrees, -, hset, hfails, hkept, hothers⟩ :=
    accessors_agree_after_changes env [.set "A=" "1", .setIfAbsent "K" "v", .set "A" "", removal]
      "K" (by decide) (by decide) (by decide)
  obtain ⟨hresult, hleft⟩ := (hset "w").2 hhas
  obtain ⟨error, herror⟩ := (hfails (.set "" "w")).mpr (.inl rfl)
  obtain ⟨-, hpresence, -⟩ := (hothers (.set "A" "w")).2 (by decide)
  refine ⟨hhas, hvalue, ?_, hagrees.noText.mp ⟨hhas, hvalue⟩, Prod.ext hresult hleft,
    hkept _ error herror, hpresence.trans hhas⟩
  rw [Option.eq_none_iff_forall_ne_some]
  intro value hlisted
  have htext : now.value? "K" = some value := (hagrees.text value).mpr hlisted
  rw [hvalue] at htext
  cases htext

end Environment

end SecretEnv
