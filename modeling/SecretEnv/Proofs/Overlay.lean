import SecretEnv.Child.Course
import SecretEnv.Proofs.CacheChoice
import SecretEnv.Proofs.Places

/-!
# Which file is laid over the answer

**The override file is read from the directory of this process, and laid over by the resolver from
its own** (`Loader.overlay_is_the_file_read_iff`). Both are given the same path, so it is one file
if the path is absolute or the resolver works where this process does; but a relative path that is
not led out of both directories to a common one names two. Nothing notices: the one is checked and
may give the credential, and the values of the other are what comes back.
-/

namespace SecretEnv

/-- A file that could be read is there, at the place that its path names. -/
theorem OverrideFile.opened_of_read {files : FileTree} {env : Environment} {path : String}
    {file : OverrideFile} (h : read files env path = .ok file) :
    let place := FileTree.named files.workingDir path
    ∃ content executable, files.resolveFrom files.workingDir path = .ok place ∧
      files.nodeAt? place = some (.file content true executable) ∧
      Override.readEntries env content = .ok file.entries := by
  obtain ⟨content, executable, hfind, hentries⟩ := find_of_read h
  unfold FileTree.find FileTree.findFrom at hfind
  cases hresolve : files.resolveFrom files.workingDir path with
  | error fault => simp [hresolve] at hfind
  | ok place =>
      obtain rfl := FileTree.eq_named_of_resolveFrom hresolve
      simp only [hresolve] at hfind
      cases hnode : files.nodeAt? (FileTree.named files.workingDir path) with
      | none => simp [hnode] at hfind
      | some node =>
          simp only [hnode] at hfind
          cases hfind
          exact ⟨content, executable, rfl, hnode, hentries⟩

namespace Child

/-- The directory that a child works in: one named from that of this process, or else that one. -/
def directory (files : FileTree) : Option String → Place
  | none => files.workingDir
  | some dir => FileTree.named files.workingDir dir

/-- A child that gets as far as its directory sees the same files from there. -/
theorem eq_of_filesIn {files seen : FileTree} {cwd : Option String}
    (h : filesIn files cwd = .ok seen) :
    seen = { files with workingDir := directory files cwd } := by
  cases cwd with
  | none =>
      cases h
      rfl
  | some dir =>
      unfold filesIn at h
      cases hresolve : files.resolveFrom files.workingDir dir with
      | error fault => simp [hresolve] at h
      | ok place =>
          obtain rfl := FileTree.eq_named_of_resolveFrom hresolve
          simp only [hresolve] at h
          split at h
          · cases h
            rfl
          · cases h
          · cases h

end Child

/-- The path of the override file is the last argument of the resolver, behind its flag. -/
theorem Resolver.toList_toArguments_of_overrideFile {options : Options} {path : String}
    (h : options.overrideFile = some path) :
    ∃ before, options.toArguments.toList = before ++ [Flag.dotenvFile, path] := by
  simp only [Options.toArguments, h]
  exact ⟨_, Arguments.toList_pushFlag ..⟩

namespace Loader

/-- The override file of a request has been read. -/
theorem exists_read_of_hasRead {around : Surroundings} {store : Store} {request : Request}
    {file : Option OverrideFile} {path : String} (h : HasRead around store request file)
    (hpath : request.overrideFile = some path) :
    ∃ given, OverrideFile.read around.files (store.ambient around.env) path = .ok given := by
  rcases h with ⟨hnone, -⟩ | ⟨other, given, hother, hread, -⟩
  · rw [hpath] at hnone
    cases hnone
  · rw [hpath] at hother
    cases hother
    exact ⟨given, hread⟩

/-- **Which file is laid over.** For every run of the resolver for a request with an override file:
the file was read at the place that its path names from the directory of this process; the
resolver is given the same path, and from its directory the path names what it would name here below
the request's directory. These are the same place exactly if the path is absolute, or if the two
directories are the same as many levels up as the path goes; so they are where no directory is
requested. A child that is started does see the files from that directory, and can follow the path
to no other place. -/
theorem overlay_is_the_file_read_iff {loader : Loader} {calling : Calling} {executor : Executor}
    {around : Surroundings} {store : Store} {request : Request} {path : String} {call : Invocation}
    (hpath : request.overrideFile = some path)
    (hcall : call ∈ (loader.fetch calling executor around store request).calls) :
    let here := around.files.workingDir
    let there := Child.directory around.files call.cwd
    let levels := (Route.ofPath path).up
    (∃ file content executable,
      OverrideFile.read around.files (store.ambient around.env) path = .ok file ∧
      around.files.resolveFrom here path = .ok (FileTree.named here path) ∧
      around.files.nodeAt? (FileTree.named here path) = some (.file content true executable)) ∧
    call.cwd = request.cwd ∧ (∃ before, call.args = before ++ [Resolver.Flag.dotenvFile, path]) ∧
    (∀ dir, request.cwd = some dir →
      FileTree.named there path = FileTree.named here (Path.join dir path)) ∧
    (FileTree.named there path = FileTree.named here path ↔
      Path.isAbsolute path = true ∨ there.above levels = here.above levels) ∧
    (request.cwd = none → FileTree.named there path = FileTree.named here path) ∧
    (∀ seen, Child.filesIn around.files call.cwd = .ok seen →
      seen.nodes = around.files.nodes ∧ seen.workingDir = there ∧
      ∀ place, seen.resolveFrom seen.workingDir path = .ok place →
        place = FileTree.named there path) := by
  intro here there levels
  rcases fetch_cases loader calling around store request with
    ⟨-, credential, ⟨file, hread, -⟩, hfetch⟩ | ⟨-, result, hfetch⟩
  · rw [hfetch, ranWith] at hcall
    obtain rfl := List.mem_singleton.mp hcall
    have hagree := FileTree.named_eq_named_iff there here path
    refine ⟨?_, rfl, Resolver.toList_toArguments_of_overrideFile hpath, ?_, hagree, ?_, ?_⟩
    · obtain ⟨given, hgiven⟩ := exists_read_of_hasRead hread hpath
      obtain ⟨content, executable, hplace, hnode, -⟩ := OverrideFile.opened_of_read hgiven
      exact ⟨given, content, executable, hgiven, hplace, hnode⟩
    · intro dir hdir
      have hthere : there = FileTree.named here dir := by
        simp only [there, invocation, hdir, Child.directory, here]
      rw [hthere, FileTree.named_join]
    · intro hnone
      have hthere : there = here := by
        simp only [there, invocation, hnone, Child.directory, here]
      rw [hthere]
    · intro seen hseen
      rw [Child.eq_of_filesIn hseen]
      refine ⟨rfl, rfl, ?_⟩
      intro place hplace
      exact FileTree.eq_named_of_resolveFrom hplace
  · rw [hfetch] at hcall
    cases hcall

/-- Beside a directory `sub` with a file of the same name, `o.env` is laid over from `sub` and read
from here; `/w/o.env` is one file for both. -/
theorem overlay_is_the_file_read_by_absolute_path :
    let loader : Loader := ⟨⟨"2.4.1", .besideProgram, "a", "b", false, none⟩, "/r"⟩
    let executor : Executor := fun _ => .ok ⟨.exited 1, [], []⟩
    let files := ((FileTree.mk ∅ ["w"]).writeFile "o.env" (Utf8.encode "A=1") false).writeFile
      "sub/o.env" (Utf8.encode "A=2") false
    let around : Surroundings := ⟨files, ∅⟩
    let store : Store := .memory ((∅ : Variables).insert "ENVKEY" "k")
    let request (path : String) : Request := { overrideFile := some path, cwd := some "sub" }
    let content? (seen : FileTree) (path : String) :=
      (OverrideFile.read seen ∅ path).toOption.map OverrideFile.entries
    (∃ call, (loader.fetch .awaited executor around store (request "o.env")).calls = [call] ∧
      FileTree.named (Child.directory files call.cwd) "o.env" ≠ FileTree.named ["w"] "o.env" ∧
      (Child.filesIn files call.cwd).toOption.map (content? · "o.env") = some (some [("A", "2")]) ∧
      content? files "o.env" = some [("A", "1")]) ∧
    ∃ call, (loader.fetch .awaited executor around store (request "/w/o.env")).calls = [call] ∧
      FileTree.named (Child.directory files call.cwd) "/w/o.env" =
        FileTree.named ["w"] "/w/o.env" := by
  intro loader executor files around store request content?
  have hone : (loader.fetch .awaited executor around store (request "o.env")).calls.length = 1 ∧
      (loader.fetch .awaited executor around store (request "/w/o.env")).calls.length = 1 :=
    ⟨rfl, rfl⟩
  obtain ⟨call, hcall⟩ := List.length_eq_one_iff.mp hone.1
  obtain ⟨other, hother⟩ := List.length_eq_one_iff.mp hone.2
  obtain ⟨-, hcwd, -, -, hsame, -⟩ :=
    overlay_is_the_file_read_iff rfl (hcall ▸ List.mem_singleton_self call)
  obtain ⟨-, -, -, -, hotherSame, -⟩ :=
    overlay_is_the_file_read_iff rfl (hother ▸ List.mem_singleton_self other)
  refine ⟨⟨call, hcall, hsame.not.mpr ?_, ?_⟩, other, hother, hotherSame.mpr (.inl rfl)⟩
  · rw [hcwd]
    decide
  · rw [hcwd]
    decide

/-- The file that is laid over need not be the one that was read: with a directory in the request, a
relative path can name another one. -/
theorem overlay_can_be_another_file :
    ¬ ∀ (loader : Loader) (executor : Executor) (around : Surroundings) (store : Store)
        (request : Request) (path : String),
      request.overrideFile = some path →
        ∀ call ∈ (loader.fetch .awaited executor around store request).calls,
          FileTree.named (Child.directory around.files call.cwd) path =
            FileTree.named around.files.workingDir path := by
  intro hall
  let loader : Loader := ⟨⟨"2.4.1", .besideProgram, "a", "b", false, none⟩, "/r"⟩
  let files := ((FileTree.mk ∅ ["w"]).writeFile "o.env" (Utf8.encode "A=1") false).writeFile
    "sub/o.env" (Utf8.encode "A=2") false
  let store : Store := .memory ((∅ : Variables).insert "ENVKEY" "k")
  have hsame := hall loader (fun _ => .ok ⟨.exited 1, [], []⟩) ⟨files, ∅⟩ store
    { overrideFile := some "o.env", cwd := some "sub" } "o.env" rfl
  revert hsame
  decide

end Loader

end SecretEnv
