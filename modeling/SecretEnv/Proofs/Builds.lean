import SecretEnv.Loader
import SecretEnv.Proofs.Timeout
import SecretEnv.Proofs.Trim

/-!
# Builds and their paths

**A path below a directory is that of one build at most, and every version that settings can have
has one** (`Platform.builds_have_paths_of_their_own`). A version may hold anything, also what stands
behind it in the path; so the path is read from its end. What stands behind the version there
(`Platform.ending`) is not the end of what stands there for another platform, and is as long as it
is for the platform alone; what is left in front is the version.
-/

namespace SecretEnv

/-! ### Paths below a directory -/

namespace Path

/-- What stands in front of a path below a directory. -/
def front (base : String) : List Char :=
  if base.isEmpty || base.toList.getLast? == some '/' then base.toList else base.toList ++ ['/']

theorem toList_join {base path : String} (hrelative : isAbsolute path = false) :
    (join base path).toList = front base ++ path.toList := by
  rw [join, hrelative, front, Bool.false_or]
  by_cases hempty : base.isEmpty = true
  · simp [String.isEmpty_iff.mp hempty]
  · by_cases hslash : (base.toList.getLast? == some '/') = true
    · simp [hempty, hslash]
    · simp [hempty, hslash]

theorem prefix_front (base : String) : base.toList <+: front base := by
  unfold front
  split
  · exact List.prefix_rfl
  · exact List.prefix_append ..

end Path

namespace Platform

/-! ### The path of a build -/

/-- What stands behind the version in the path of a build. -/
def ending (platform : Platform) : List Char :=
  ('_' :: platform.displayed.toList) ++ '/' :: platform.executableName.toList

theorem toList_dirName (platform : Platform) (version : String) :
    (platform.dirName version).toList =
      "envkey-source_".toList ++ version.toList ++ '_' :: platform.displayed.toList := by
  simp [dirName, Names.resolver]

theorem isAbsolute_dirName (platform : Platform) (version : String) :
    Path.isAbsolute (platform.dirName version) = false := by
  rw [Path.isAbsolute, toList_dirName]
  rfl

/-- The path of a build is put together of the directory, the version and what stands behind it. -/
theorem toList_path (platform : Platform) (base version : String) :
    (Path.join (Path.join base (platform.dirName version)) platform.executableName).toList =
      Path.front base ++ "envkey-source_".toList ++ version.toList ++ platform.ending := by
  have hname : Path.isAbsolute platform.executableName = false := by
    rw [Path.isAbsolute, executableName, String.toList_append]
    rfl
  have hdir : (Path.join base (platform.dirName version)).toList = _ :=
    Path.toList_join (isAbsolute_dirName platform version)
  -- the name of the directory ends in the architecture, so a slash is put behind it
  have hlast : (Path.join base (platform.dirName version)).toList.getLast? = some '4' := by
    have hfour : platform.displayed.toList.getLast? = some '4' := by
      obtain ⟨system, architecture⟩ := platform
      cases system <;> cases architecture <;> decide +kernel
    rw [hdir, toList_dirName]
    simp [List.getLast?_append, List.getLast?_cons, hfour]
  have hfront : Path.front (Path.join base (platform.dirName version)) =
      (Path.join base (platform.dirName version)).toList ++ ['/'] := by
    have hempty : (Path.join base (platform.dirName version)).isEmpty = false := by
      rw [Bool.eq_false_iff]
      intro hempty
      rw [String.isEmpty_iff.mp hempty] at hlast
      cases hlast
    rw [Path.front, hlast, hempty]
    rfl
  rw [Path.toList_join hname, hfront, hdir, toList_dirName]
  simp only [ending, List.append_assoc, List.cons_append, List.nil_append]

/-- Every platform. -/
def all : List Platform :=
  [.darwin, .linux, .freebsd, .windows].flatMap fun system => [⟨system, .amd64⟩, ⟨system, .arm64⟩]

theorem mem_all (platform : Platform) : platform ∈ all := by
  obtain ⟨system, architecture⟩ := platform
  cases system <;> cases architecture <;> decide

/-- What stands behind the version for one platform does not end what stands there for another. -/
theorem eq_of_ending_suffix {platform other : Platform} (h : platform.ending <:+ other.ending) :
    platform = other := by
  have hall : ∀ platform ∈ all, ∀ other ∈ all,
      platform.ending <:+ other.ending → platform = other := by decide +kernel
  exact hall platform (mem_all platform) other (mem_all other) h

/-- Read from its end, a text tells the platform, and then the version in front. -/
theorem eq_of_append_ending {platform other : Platform} {version another : List Char}
    (h : version ++ platform.ending = another ++ other.ending) :
    version = another ∧ platform = other := by
  have hplatform : platform = other := by
    have hsuffix : other.ending <:+ version ++ platform.ending := h ▸ List.suffix_append ..
    rcases List.suffix_or_suffix_of_suffix (List.suffix_append version platform.ending) hsuffix with
      hends | hends
    · exact eq_of_ending_suffix hends
    · exact (eq_of_ending_suffix hends).symm
  subst hplatform
  exact ⟨List.append_cancel_right h, rfl⟩

/-! ### Which versions have a path -/

theorem isEmpty_trim (version : String) :
    (Text.trim version).isEmpty = Text.isBlankText version := by
  rw [Bool.eq_iff_iff, String.isEmpty_iff, ← String.toList_eq_nil_iff, Text.toList_trim,
    Text.trimChars_eq_nil_iff, Text.isBlankText]

theorem locate_eq (platform : Platform) (base version : String) :
    platform.locate base version =
      if Text.isBlankText version then .error blankVersion
      else .ok (Path.join (Path.join base (platform.dirName (Text.trim version)))
        platform.executableName) := by
  rw [← isEmpty_trim]
  rfl

/-- The text of a located path. -/
theorem toList_of_locate {platform : Platform} {base version path : String}
    (h : platform.locate base version = .ok path) :
    path.toList = Path.front base ++ "envkey-source_".toList ++ (Text.trim version).toList ++
      platform.ending := by
  rw [locate_eq] at h
  split at h
  · cases h
  · cases h
    exact toList_path platform base (Text.trim version)

theorem eq_of_locate_eq {platform other : Platform} {base version another path : String}
    (h : platform.locate base version = .ok path) (hother : other.locate base another = .ok path) :
    Text.trim another = Text.trim version ∧ other = platform := by
  have hsame := (toList_of_locate hother).symm.trans (toList_of_locate h)
  simp only [List.append_assoc, List.append_cancel_left_eq] at hsame
  obtain ⟨hversion, hplatform⟩ := eq_of_append_ending hsame
  exact ⟨String.toList_inj.mp hversion, hplatform⟩

end Platform

/-! ### Settings and the version -/

theorem Choices.settle_eq_error_iff {choices : Choices} {version : String} {error : Error}
    (h : choices.resolverVersion = some version) :
    choices.settle = .error error ↔
      Text.isBlankText version = true ∧ error = Platform.blankVersion := by
  rw [settle, h]
  dsimp only [Option.getD_some]
  split <;> simp [*, eq_comm]

namespace Settings

/-- Settings come of choices, of variables, or of the environment of the process. -/
inductive Made (settings : Settings) : Prop where
  | chosen {choices : Choices} (h : choices.settle = .ok settings)
  | ofVariables {vars : Variables} (h : Settings.ofVariables vars = .ok settings)
  | ofEnvironment {env : Environment} (h : Settings.ofEnvironment env = .ok settings)

theorem exists_settle_of_ofVariables {vars : Variables} {settings : Settings}
    (h : Settings.ofVariables vars = .ok settings) :
    ∃ choices : Choices, choices.settle = .ok settings := by
  rw [ofVariables_eq] at h
  cases htimeout : timeoutOf vars with
  | error error =>
      rw [htimeout] at h
      cases h
  | ok timeout =>
      rw [htimeout] at h
      exact ⟨_, h⟩

/-- However settings were made, their version shows something. -/
theorem Made.version_shown {settings : Settings} (h : settings.Made) :
    Text.isBlankText settings.resolverVersion = false := by
  have hchoices : ∃ choices : Choices, choices.settle = .ok settings := by
    cases h with
    | chosen h => exact ⟨_, h⟩
    | ofVariables h => exact exists_settle_of_ofVariables h
    | ofEnvironment h => exact exists_settle_of_ofVariables h
  obtain ⟨choices, hsettle⟩ := hchoices
  unfold Choices.settle at hsettle
  dsimp only at hsettle
  split at hsettle
  · cases hsettle
  · rename_i hshown
    cases hsettle
    exact Bool.eq_false_iff.mpr hshown

end Settings

namespace Platform

/-- **Builds have paths of their own.** The path of a version's build on a platform begins with the
directory, and below that directory it is the path of no other version, up to blanks at its ends,
and of no other platform. A version has no path exactly if no settings can be made with it, and then
for the same reason; so with all settings that were made there is a loader on this platform, and it
uses the path of their version. -/
theorem builds_have_paths_of_their_own (platform : Platform) (base version : String) :
    (∀ path, platform.locate base version = .ok path →
      base.toList <+: path.toList ∧
      ∀ (other : Platform) (another : String), other.locate base another = .ok path →
        Text.trim another = Text.trim version ∧ other = platform) ∧
    (∀ choices : Choices, choices.resolverVersion = some version →
      ∀ error, platform.locate base version = .error error ↔ choices.settle = .error error) ∧
    (∀ error, platform.locate base version = .error error →
      error = .configuration "resolver version must not be empty") ∧
    ∀ (settings : Settings) (programDir : String), settings.Made → ∃ path,
      (⟨.linux, .amd64⟩ : Platform).locate (settings.resolverDir.path programDir)
        settings.resolverVersion = .ok path ∧
      Loader.ofSettings settings programDir = .ok ⟨settings, path⟩ := by
  have herror : ∀ error, platform.locate base version = .error error ↔
      Text.isBlankText version = true ∧ error = blankVersion := by
    intro error
    rw [locate_eq]
    split <;> simp [*, eq_comm]
  refine ⟨fun path hpath => ⟨?_, fun other another => eq_of_locate_eq hpath⟩,
    fun choices hversion error => ?_, fun error hfailed => ((herror error).mp hfailed).2,
    fun settings programDir hmade => ?_⟩
  · rw [toList_of_locate hpath, List.append_assoc, List.append_assoc]
    exact (Path.prefix_front base).trans (List.prefix_append ..)
  · rw [herror, Choices.settle_eq_error_iff hversion]
  · have hpath := locate_eq host (settings.resolverDir.path programDir) settings.resolverVersion
    rw [hmade.version_shown, if_neg Bool.false_ne_true] at hpath
    exact ⟨_, hpath, by rw [Loader.ofSettings, Settings.resolverPath, hpath]; rfl⟩

/-- It says so of a version with a slash and the name of another platform in it; a version of one
ideographic space has no path and makes no settings, and settings with blanks around their version
have a loader. -/
theorem odd_version_has_a_path_of_its_own :
    let platform : Platform := ⟨.windows, .arm64⟩
    let path := "/opt/envkey-source_1/2_linux_amd64_windows_arm64/envkey-source.exe"
    let blank : Choices := { resolverVersion := some "\u3000" }
    let padded : Choices := { resolverVersion := some " 2\n", resolverDir := some "d" }
    platform.locate "/opt" " 1/2_linux_amd64\n" = .ok path ∧
      "/opt".toList <+: path.toList ∧
      (∀ (other : Platform) (another : String), other.locate "/opt" another = .ok path →
        Text.trim another = "1/2_linux_amd64" ∧ other = platform) ∧
      platform.locate "/opt" "\u3000" = .error blankVersion ∧ blank.settle = .error blankVersion ∧
      ∃ settings, padded.settle = .ok settings ∧ Loader.ofSettings settings "/p" =
        .ok ⟨settings, "d/envkey-source_2_linux_amd64/envkey-source"⟩ := by
  intro platform path blank padded
  have hpath : platform.locate "/opt" " 1/2_linux_amd64\n" = .ok path := by decide +kernel
  have htrim : Text.trim " 1/2_linux_amd64\n" = "1/2_linux_amd64" := by decide +kernel
  have hblank : platform.locate "/opt" "\u3000" = .error blankVersion := by decide +kernel
  have hsettle : padded.settle =
      .ok ⟨" 2\n", .inDirectory "d", "envkey-rs", "0.1.0", false, none⟩ := by decide +kernel
  obtain ⟨hown, -, -, hloader⟩ :=
    builds_have_paths_of_their_own platform "/opt" " 1/2_linux_amd64\n"
  obtain ⟨-, hsame, -⟩ := builds_have_paths_of_their_own platform "/opt" "\u3000"
  obtain ⟨hbase, hother⟩ := hown path hpath
  obtain ⟨found, hfound, hloaded⟩ := hloader _ "/p" (.chosen hsettle)
  have hplace : (⟨.linux, .amd64⟩ : Platform).locate "d" " 2\n" =
      .ok "d/envkey-source_2_linux_amd64/envkey-source" := by decide +kernel
  obtain rfl := Except.ok.inj (hplace.symm.trans hfound)
  exact ⟨hpath, hbase, fun other another h => htrim ▸ hother other another h, hblank,
    (hsame blank rfl _).mp hblank, _, hsettle, hloaded⟩

end Platform

end SecretEnv
