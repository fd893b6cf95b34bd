import SecretEnv.Proofs.CacheChoice

/-!
# What the resolver is told

**The resolver's command line tells five things of its options, and can be read in one way only**
(`Resolver.command_line_is_unambiguous`). The caller's name and version may be any texts, the flags
themselves among them: they have places of their own, and what stands there is not looked at for
flags. Behind them each part is known by its first argument, which is that of no other part, so that
reading from the front never has to guess. Looking for a flag anywhere, as `Arguments.valueOf?`
does, is no such reading.
-/

namespace SecretEnv.Resolver

/-- What a command line tells the resolver. -/
structure Told where
  cache : Bool
  memCache : Bool
  clientName : String
  clientVersion : String
  overrideFile : Option String
  deriving Repr, DecidableEq

/-- What options tell the resolver. Its directory, its time and the permitted names are kept from
it. -/
def Options.told (options : Options) : Told where
  cache := options.cache
  memCache := options.memCache
  clientName := options.clientName
  clientVersion := options.clientVersion
  overrideFile := options.overrideFile

/-! ### Reading a command line -/

/-- Takes a flag off the front, if it stands there. -/
def takeFlag (flag : String) : List String → Bool × List String
  | [] => (false, [])
  | arg :: rest => if arg = flag then (true, rest) else (false, arg :: rest)

/-- Reads what may stand behind the flags: nothing, or the override file. -/
def readOverrideFile : List String → Option (Option String)
  | [] => some none
  | [flag, path] => if flag = Flag.dotenvFile then some (some path) else none
  | _ => none

/-- Reads what stands behind the caller's name and version. -/
def readFlags (clientName clientVersion : String) (args : List String) : Option Told :=
  let (cache, rest) := takeFlag Flag.cache args
  let (memCache, last) := takeFlag Flag.memCache rest
  (readOverrideFile last).map fun overrideFile =>
    ⟨cache, memCache, clientName, clientVersion, overrideFile⟩

/-- Reads a command line. The name and the version are taken as they are. -/
def readArguments : List String → Option Told
  | json :: nameFlag :: clientName :: versionFlag :: clientVersion :: rest =>
    if json = Flag.json ∧ nameFlag = Flag.clientName ∧ versionFlag = Flag.clientVersion then
      readFlags clientName clientVersion rest
    else none
  | _ => none

/-! ### One part after the other -/

/-- A flag is taken exactly if it was put, where no other part begins with it. -/
theorem takeFlag_append {flag : String} {rest : List String} (h : rest.head? ≠ some flag)
    (on : Bool) : takeFlag flag ((if on then [flag] else []) ++ rest) = (on, rest) := by
  cases on with
  | true => exact if_pos rfl
  | false =>
      cases rest with
      | nil => rfl
      | cons arg rest => exact if_neg fun heq => h (congrArg some heq)

theorem eq_append_of_takeFlag {flag : String} {args rest : List String} {on : Bool}
    (h : takeFlag flag args = (on, rest)) : args = (if on then [flag] else []) ++ rest := by
  cases args with
  | nil =>
      cases h
      rfl
  | cons arg args =>
      rw [takeFlag] at h
      split at h
      · rename_i harg
        cases h
        rw [harg]
        rfl
      · cases h
        rfl

/-- The arguments for an override file, if there is one. -/
theorem readOverrideFile_eq_some_iff {args : List String} {file : Option String} :
    readOverrideFile args = some file ↔
      args = (file.map fun path => [Flag.dotenvFile, path]).getD [] := by
  constructor
  · intro h
    unfold readOverrideFile at h
    split at h
    · cases h
      rfl
    · rename_i flag path
      split at h
      · rename_i hflag
        cases h
        rw [hflag]
        rfl
      · cases h
    · cases h
  · rintro rfl
    cases file with
    | none => rfl
    | some path => simp [readOverrideFile]

theorem readFlags_eq_some_iff {clientName clientVersion : String} {args : List String}
    {told : Told} :
    readFlags clientName clientVersion args = some told ↔
      told.clientName = clientName ∧ told.clientVersion = clientVersion ∧
        args = (if told.cache then [Flag.cache] else []) ++
          ((if told.memCache then [Flag.memCache] else []) ++
            (told.overrideFile.map fun path => [Flag.dotenvFile, path]).getD []) := by
  obtain ⟨cache, memCache, name, version, file⟩ := told
  constructor
  · intro h
    unfold readFlags at h
    cases hcache : takeFlag Flag.cache args with
    | mk cacheRead rest =>
        cases hmemCache : takeFlag Flag.memCache rest with
        | mk memCacheRead last =>
            simp only [hcache, hmemCache, Option.map_eq_some_iff] at h
            obtain ⟨fileRead, hfile, heq⟩ := h
            cases heq
            refine ⟨rfl, rfl, ?_⟩
            rw [eq_append_of_takeFlag hcache, eq_append_of_takeFlag hmemCache,
              readOverrideFile_eq_some_iff.mp hfile]
  · rintro ⟨rfl, rfl, rfl⟩
    -- no part begins with the flag of a part before it
    have hdotenvMemCache : Flag.dotenvFile ≠ Flag.memCache := by decide
    have hdotenvCache : Flag.dotenvFile ≠ Flag.cache := by decide
    have hmemCacheCache : Flag.memCache ≠ Flag.cache := by decide
    have hlast : ((file.map fun path => [Flag.dotenvFile, path]).getD []).head? ≠
        some Flag.memCache := by
      cases file <;> simp [hdotenvMemCache]
    have hrest : ((if memCache then [Flag.memCache] else []) ++
        (file.map fun path => [Flag.dotenvFile, path]).getD []).head? ≠ some Flag.cache := by
      cases memCache <;> cases file <;> simp [hdotenvCache, hmemCacheCache]
    simp only [readFlags, takeFlag_append hrest, takeFlag_append hlast,
      readOverrideFile_eq_some_iff.mpr rfl, Option.map_some]

/-! ### The whole command line -/

theorem readArguments_toArguments (options : Options) :
    readArguments options.toArguments.toList = some options.told := by
  rw [toList_toArguments]
  simp only [List.cons_append, List.nil_append, readArguments, and_self, if_true]
  exact readFlags_eq_some_iff.mpr ⟨rfl, rfl, rfl⟩

/-- Nothing else is read than what options are told as. -/
theorem exists_of_readArguments {args : List String} {told : Told}
    (h : readArguments args = some told) :
    ∃ options : Options, options.told = told ∧ options.toArguments.toList = args := by
  unfold readArguments at h
  split at h
  · split at h
    · rename_i hfixed
      obtain ⟨rfl, rfl, rfl⟩ := hfixed
      obtain ⟨rfl, rfl, rfl⟩ := readFlags_eq_some_iff.mp h
      refine ⟨{ cache := told.cache, memCache := told.memCache, clientName := told.clientName
                clientVersion := told.clientVersion, overrideFile := told.overrideFile }, rfl, ?_⟩
      rw [toList_toArguments]
      rfl
    · cases h
  · cases h

theorem toArguments_eq_of_told_eq {options other : Options} (h : options.told = other.told) :
    options.toArguments = other.toArguments := by
  cases other
  cases h
  rfl

/-- **What the resolver is told.** A command line is read back as the five things that its options
tell, whatever texts the name, the version and the path are; so two options have one command line if
and only if they agree in these five. What is read at all is the command line of some options, and
the directory, the time and the permitted names make no difference to it. -/
theorem command_line_is_unambiguous (options other : Options) :
    readArguments options.toArguments.toList = some options.told ∧
    (options.toArguments = other.toArguments ↔
      options.cache = other.cache ∧ options.memCache = other.memCache ∧
        options.clientName = other.clientName ∧ options.clientVersion = other.clientVersion ∧
          options.overrideFile = other.overrideFile) ∧
    (∀ (args : List String) (told : Told), readArguments args = some told ↔
      ∃ asked : Options, asked.told = told ∧ asked.toArguments.toList = args) ∧
    ∀ (cwd : Option String) (timeout : Option Duration) (permitted : Option (List String)),
      let changed := { options with cwd := cwd, timeout := timeout, permitted := permitted }
      changed.toArguments = options.toArguments := by
  refine ⟨readArguments_toArguments options, ⟨fun hsame => ?_, fun hsame => ?_⟩,
    fun args told => ⟨exists_of_readArguments, ?_⟩, fun cwd timeout permitted => ?_⟩
  · have htold : some options.told = some other.told := by
      rw [← readArguments_toArguments, ← readArguments_toArguments, hsame]
    have hfields := Option.some.inj htold
    simpa only [Options.told, Told.mk.injEq] using hfields
  · refine toArguments_eq_of_told_eq ?_
    simpa only [Options.told, Told.mk.injEq] using hsame
  · rintro ⟨asked, rfl, rfl⟩
    exact readArguments_toArguments asked
  · exact toArguments_eq_of_told_eq rfl

-- a name that is itself a flag misleads a look-up, and not the reading
example :
    let options : Options := { clientName := "--client-version", clientVersion := "--cache" }
    options.toArguments.valueOf? Flag.clientVersion = some "--client-version" ∧
      readArguments options.toArguments.toList = some options.told := by decide +kernel

end SecretEnv.Resolver
