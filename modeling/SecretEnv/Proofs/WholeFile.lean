import SecretEnv.Proofs.FileNames
import SecretEnv.Proofs.Invocation
import SecretEnv.Proofs.References

/-!
# Override files, all or nothing

**Whether a line can be read is a matter of the line alone** (`Override.readable_or_stops`): what
its references stand for goes into its value, but neither into the verdict on it nor into the words
of the fault. So a file is read if all of its lines are readable, in whatever environment, and the
first line that is not says all of the error (`OverrideFile.read_eq_error_iff`). A file that is read
gives its entries in order, each line seeing the names before it, and the last one for a name
counts. One that is not read leaves nothing that a fetch or a load could use. What the lines of a
file are is settled apart from all this (`Override.lines_eq_iff`).
-/

namespace SecretEnv

namespace Override

/-! ### Lines, whatever their references stand for -/

/-- A line stops the reading of a file, whatever its references stand for. -/
inductive Stops : Octets → Stop → Prop where
  | notText {octets : Octets} {fault : Utf8.Fault} (h : Utf8.decode octets = .error fault) :
      Stops octets (.notText fault)
  | malformed {line : String} {fault : LineFault}
      (h : ∀ lookup, readLine lookup line = .error fault) :
      Stops (Utf8.encode line) (.malformed fault)

/-- A line is text and is nothing or an entry, whatever its references stand for. -/
def Readable (octets : Octets) : Prop :=
  ∃ line, Utf8.encode line = octets ∧ ∀ lookup, ∃ read, readLine lookup line = .ok read

section

variable {lookup₁ lookup₂ : String → String} {place : Place}

/-- A character that the value does not go on behind asks for no name. -/
theorem move_eq_of_next?_eq_none {c : Char} (h : (move lookup₁ place c).next? = none) :
    move lookup₂ place c = move lookup₁ place c := by
  cases place with
  | reference quoted name =>
      simp only [move] at h
      split at h
      · cases h
      split at h
      · cases h
      split at h <;> cases h
  | braced quoted name =>
      simp only [move] at h
      split at h <;> cases h
  | plain quoted => rfl
  | escape quoted => rfl
  | single => rfl
  | done => rfl

/-- Where a value may not end, it may not whatever the references stand for. -/
theorem finish?_eq_none_congr (h : finish? lookup₁ place = none) :
    finish? lookup₂ place = none := by
  cases place with
  | plain quoted => cases quoted <;> simp_all [finish?]
  | escape quoted => cases quoted <;> simp_all [finish?]
  | reference quoted name => cases quoted <;> simp_all [finish?]
  | braced quoted name => rfl
  | single => rfl
  | done => cases h

theorem readFrom_error_congr {cs : List Char} {index : Nat} {failure : Failure}
    (h : readFrom lookup₁ index place cs = .error failure) :
    readFrom lookup₂ index place cs = .error failure := by
  induction cs generalizing place index with
  | nil =>
      rw [readFrom] at h ⊢
      cases hfinish : finish? lookup₁ place with
      | some text =>
          rw [hfinish] at h
          cases h
      | none =>
          rw [hfinish] at h
          rw [finish?_eq_none_congr hfinish]
          exact h
  | cons c rest ih =>
      rw [readFrom] at h ⊢
      cases hmove : move lookup₁ place c with
      | go text next =>
          -- the text may be another one, but the value goes on at the same place
          have hnext : (move lookup₂ place c).next? = some next := by
            rw [next?_move lookup₂ lookup₁, hmove]
            rfl
          obtain ⟨other, hother⟩ : ∃ other, move lookup₂ place c = .go other next := by
            cases hmove₂ : move lookup₂ place c <;> simp_all [Move.next?]
          rw [hmove] at h
          rw [hother]
          cases hrest : readFrom lookup₁ (index + 1) next rest with
          | ok value =>
              simp only [hrest, Except.map] at h
              cases h
          | error found =>
              simp only [hrest, Except.map] at h
              cases h
              simp only [ih hrest, Except.map]
      | stop =>
          rw [hmove] at h
          cases h
      | refuse =>
          have hnone : (move lookup₁ place c).next? = none := by rw [hmove]; rfl
          rw [hmove] at h
          rw [move_eq_of_next?_eq_none hnone, hmove]
          exact h

theorem readLine_error_congr {line : String} {fault : LineFault}
    (h : readLine lookup₁ line = .error fault) : readLine lookup₂ line = .error fault := by
  simp only [readLine] at h ⊢
  split at h
  · cases h
  rename_i hstart
  rw [if_neg hstart]
  split at h
  · exact h
  split at h
  · cases h
  rename_i hvalue
  simp only [if_neg hvalue]
  split at h
  · cases h
  · rename_i failure hfailure
    rw [readValue] at hfailure
    have hsame : readFrom lookup₂ _ _ _ = _ := readFrom_error_congr hfailure
    simp only [readValue, hsame]
    exact h

end

/-- Every line is readable or stops the reading. -/
theorem readable_or_stops (octets : Octets) : Readable octets ∨ ∃ stop, Stops octets stop := by
  cases hdecode : Utf8.decode octets with
  | error fault => exact .inr ⟨_, .notText hdecode⟩
  | ok line =>
      obtain rfl := Utf8.decode_eq_ok_iff.mp hdecode
      cases hread : readLine (fun _ => "") line with
      | error fault => exact .inr ⟨_, .malformed fun lookup => readLine_error_congr hread⟩
      | ok read =>
          refine .inl ⟨line, rfl, fun lookup => ?_⟩
          cases hother : readLine lookup line with
          | ok other => exact ⟨other, rfl⟩
          | error fault =>
              rw [readLine_error_congr hother] at hread
              cases hread

/-- No line is readable and stops the reading. -/
theorem Readable.not_stops {octets : Octets} (h : Readable octets) (stop : Stop) :
    ¬ Stops octets stop := by
  obtain ⟨line, hline, hread⟩ := h
  intro hstops
  cases hstops with
  | notText hdecode =>
      rw [Utf8.decode_eq_ok_iff.mpr hline] at hdecode
      cases hdecode
  | malformed hfault =>
      obtain rfl := Utf8.encode_injective hline
      obtain ⟨read, hok⟩ := hread fun _ => ""
      rw [hfault] at hok
      cases hok

/-! ### The lines of a file -/

/-- The entries that lines give which are read one after the other: each is read with the names
before it, and adds its own. -/
inductive Yields (env : Environment) :
    Variables → List Octets → List (String × String) → Prop where
  | nil {known : Variables} : Yields env known [] []
  | nothing {known : Variables} {line : String} {rest : List Octets}
      {entries : List (String × String)} (h : readLine (referenced env known) line = .ok none)
      (hrest : Yields env known rest entries) :
      Yields env known (Utf8.encode line :: rest) entries
  | entry {known : Variables} {line name value : String} {rest : List Octets}
      {entries : List (String × String)}
      (h : readLine (referenced env known) line = .ok (some (name, value)))
      (hrest : Yields env (known.insert name value) rest entries) :
      Yields env known (Utf8.encode line :: rest) ((name, value) :: entries)

/-- The first line that is not readable, and what stops the reading there. -/
structure FirstStop (content : List Octets) (before : List Octets) (octets : Octets)
    (after : List Octets) (stop : Stop) : Prop where
  split : content = before ++ octets :: after
  readable : ∀ line ∈ before, Readable line
  stops : Stops octets stop

section

variable {env : Environment} {known : Variables} {content : List Octets}

/-- Reading gives the entries of the lines. -/
theorem readLines_eq_ok_iff {entries : List (String × String)} :
    readLines env known content = .ok entries ↔ Yields env known content entries := by
  constructor
  · intro h
    induction content generalizing known entries with
    | nil =>
        cases h
        exact .nil
    | cons octets rest ih =>
        rw [readLines] at h
        split at h
        · cases h
        rename_i line hdecode
        obtain rfl := Utf8.decode_eq_ok_iff.mp hdecode
        split at h
        · cases h
        · rename_i hline
          exact .nothing hline (ih h)
        · rename_i name value hline
          cases hrest : readLines env (known.insert name value) rest with
          | error stop =>
              rw [hrest] at h
              cases h
          | ok others =>
              rw [hrest] at h
              cases h
              exact .entry hline (ih hrest)
  · intro h
    induction h with
    | nil => rfl
    | nothing hline hrest ih => simp only [readLines, Utf8.decode_encode, hline, ih]
    | entry hline hrest ih => simp only [readLines, Utf8.decode_encode, hline, ih, Except.map]

theorem readable_or_firstStop (content : List Octets) :
    (∀ octets ∈ content, Readable octets) ∨
      ∃ before octets after stop, FirstStop content before octets after stop := by
  induction content with
  | nil => exact .inl nofun
  | cons octets rest ih =>
      rcases readable_or_stops octets with hreadable | ⟨stop, hstops⟩
      · rcases ih with hall | ⟨before, found, after, stop, hsplit, hbefore, hstops⟩
        · exact .inl (List.forall_mem_cons.mpr ⟨hreadable, hall⟩)
        · exact .inr ⟨octets :: before, found, after, stop, by rw [hsplit]; rfl,
            List.forall_mem_cons.mpr ⟨hreadable, hbefore⟩, hstops⟩
      · exact .inr ⟨[], octets, rest, stop, rfl, nofun, hstops⟩

/-- A readable line is passed, whatever is known before it and whatever comes behind it. -/
theorem readLines_cons_of_readable {octets : Octets} (h : Readable octets) (env : Environment)
    (known : Variables) (rest : List Octets) :
    ∃ (after : Variables) (entries : List (String × String)),
      readLines env known (octets :: rest) =
        (readLines env after rest).map (entries ++ ·) := by
  obtain ⟨line, rfl, hline⟩ := h
  obtain ⟨read, hread⟩ := hline (referenced env known)
  have hid (result : Except Stop (List (String × String))) :
      result.map ([] ++ ·) = result := by cases result <;> rfl
  cases read with
  | none => exact ⟨known, [], by simp only [readLines, Utf8.decode_encode, hread, hid]⟩
  | some entry =>
      obtain ⟨name, value⟩ := entry
      refine ⟨known.insert name value, [(name, value)], ?_⟩
      simp only [readLines, Utf8.decode_encode, hread, List.singleton_append]

theorem exists_readLines_of_readable (h : ∀ octets ∈ content, Readable octets)
    (env : Environment) (known : Variables) :
    ∃ entries, readLines env known content = .ok entries := by
  induction content generalizing known with
  | nil => exact ⟨[], rfl⟩
  | cons octets rest ih =>
      obtain ⟨hoctets, hrest⟩ := List.forall_mem_cons.mp h
      obtain ⟨after, entries, hread⟩ := readLines_cons_of_readable hoctets env known rest
      obtain ⟨others, hothers⟩ := ih hrest after
      exact ⟨entries ++ others, by rw [hread, hothers]; rfl⟩

/-- The first line that is not readable ends the reading, whatever is known and whatever comes
behind it. -/
theorem readLines_of_firstStop {before after : List Octets} {octets : Octets} {stop : Stop}
    (h : FirstStop content before octets after stop) (env : Environment) (known : Variables) :
    readLines env known content = .error stop := by
  obtain ⟨rfl, hbefore, hstops⟩ := h
  induction before generalizing known with
  | nil =>
      cases hstops with
      | notText hdecode => simp only [List.nil_append, readLines, hdecode]
      | malformed hline => simp only [List.nil_append, readLines, Utf8.decode_encode, hline]
  | cons line before ih =>
      obtain ⟨hline, hbefore⟩ := List.forall_mem_cons.mp hbefore
      obtain ⟨next, entries, hread⟩ :=
        readLines_cons_of_readable hline env known (before ++ octets :: after)
      rw [List.cons_append, hread, ih next hbefore]
      rfl

end

/-- Lines behind the first one that is not readable do not matter. -/
theorem FirstStop.append {content before after : List Octets} {octets : Octets} {stop : Stop}
    (h : FirstStop content before octets after stop) (more : List Octets) :
    FirstStop (content ++ more) before octets (after ++ more) stop :=
  ⟨by rw [h.split, List.append_assoc, List.cons_append], h.readable, h.stops⟩

/-- What stops the reading is the line's alone. -/
theorem Stops.unique {octets : Octets} {stop other : Stop} (h : Stops octets stop)
    (hother : Stops octets other) : stop = other := by
  have hfirst (stop : Stop) (h : Stops octets stop) : FirstStop [octets] [] octets [] stop :=
    ⟨rfl, nofun, h⟩
  have hread := readLines_of_firstStop (hfirst stop h) ∅ ∅
  rw [readLines_of_firstStop (hfirst other hother) ∅ ∅] at hread
  cases hread
  rfl

end Override

namespace OverrideFile

/-! ### Files -/

/-- A file at a path cannot be read, with this error: it is no file, it is closed to this process,
it is one of the system's programs, or it has a line that stops the reading. -/
inductive Unreadable (files : FileTree) (path : String) : Error → Prop where
  | noFile (h : ∀ node, files.find path = .ok node → node = .directory) :
      Unreadable files path (.overrideFile path "file does not exist" none)
  | closed {content : Octets} {executable : Bool}
      (h : files.find path = .ok (.file content false executable)) :
      Unreadable files path (.overrideFile path "failed to open file"
        (some "Permission denied (os error 13)"))
  | program {name : String} (h : files.find path = .ok (.program name)) :
      Unreadable files path (.overrideFile path "failed to parse file" (some notText))
  | line {content : Octets} {executable : Bool} {before after : List Octets} {octets : Octets}
      {stop : Override.Stop} (h : files.find path = .ok (.file content true executable))
      (first : Override.FirstStop (Override.lines content) before octets after stop) :
      Unreadable files path (.overrideFile path stop.message (some (causeOf stop)))

/-- What a file gives by its entries: for each name the value of its last entry, the credential
apart from the variables, and no name that an environment cannot hold. -/
structure LastWins (file : OverrideFile) : Prop where
  vars : ∀ name value : String, file.vars[name]? = some value ↔
    ∃ before after, file.entries = before ++ (name, value) :: after ∧ name ∉ after.map Prod.fst
  secrets : ∀ name : String,
    file.secrets[name]? = if name = Names.credential then none else file.vars[name]?
  validNames : ∀ name ∈ file.vars, Environment.validName name = true

section

variable {files : FileTree} {env : Environment} {path : String}

theorem read_of_content {content : Octets} {executable : Bool}
    (h : files.find path = .ok (.file content true executable)) :
    read files env path =
      match Override.readLines env ∅ (Override.lines content) with
      | .ok entries => .ok ⟨path, entries⟩
      | .error stop => .error (.overrideFile path stop.message (some (causeOf stop))) := by
  rw [read, h]
  rfl

theorem read_of_unreadable {error : Error} (h : Unreadable files path error) :
    read files env path = .error error := by
  cases h with
  | noFile h =>
      cases hfind : files.find path with
      | error fault => rw [read, hfind]
      | ok node =>
          obtain rfl := h node hfind
          rw [read, hfind]
  | closed h => rw [read, h]
  | program h => rw [read, h]
  | line h first =>
      rw [read_of_content h, Override.readLines_of_firstStop first]

/-- A file is read if it is there, open to this process, and readable line by line. -/
theorem unreadable_or_readable (files : FileTree) (path : String) :
    (∃ error, Unreadable files path error) ∨
      ∃ content executable, files.find path = .ok (.file content true executable) ∧
        ∀ octets ∈ Override.lines content, Override.Readable octets := by
  cases hfind : files.find path with
  | error fault => exact .inl ⟨_, .noFile fun node hnode => by rw [hfind] at hnode; cases hnode⟩
  | ok node =>
      cases node with
      | directory =>
          refine .inl ⟨_, .noFile fun node hnode => ?_⟩
          rw [hfind] at hnode
          exact (Except.ok.inj hnode).symm
      | program name => exact .inl ⟨_, .program hfind⟩
      | file content readable executable =>
          cases readable with
          | false => exact .inl ⟨_, .closed hfind⟩
          | true =>
              rcases Override.readable_or_firstStop (Override.lines content) with
                hall | ⟨before, octets, after, stop, hfirst⟩
              · exact .inr ⟨content, executable, rfl, hall⟩
              · exact .inl ⟨_, .line hfind hfirst⟩

theorem exists_read_iff : (∃ file, read files env path = .ok file) ↔
    ∃ content executable, files.find path = .ok (.file content true executable) ∧
      ∀ octets ∈ Override.lines content, Override.Readable octets := by
  constructor
  · rintro ⟨file, hread⟩
    rcases unreadable_or_readable files path with ⟨error, hunreadable⟩ | hreadable
    · rw [read_of_unreadable hunreadable] at hread
      cases hread
    · exact hreadable
  · rintro ⟨content, executable, hfind, hall⟩
    obtain ⟨entries, hentries⟩ := Override.exists_readLines_of_readable hall env ∅
    exact ⟨⟨path, entries⟩, by rw [read_of_content hfind, hentries]⟩

theorem read_eq_error_iff {error : Error} :
    read files env path = .error error ↔ Unreadable files path error := by
  refine ⟨fun hread => ?_, read_of_unreadable⟩
  rcases unreadable_or_readable files path with ⟨other, hunreadable⟩ | hreadable
  · rw [read_of_unreadable hunreadable] at hread
    cases hread
    exact hunreadable
  · obtain ⟨file, hfile⟩ : ∃ file, read files env path = .ok file := exists_read_iff.mpr hreadable
    rw [hfile] at hread
    cases hread

theorem yields_of_read {file : OverrideFile} (h : read files env path = .ok file) :
    file.path = path ∧ ∃ content executable,
      files.find path = .ok (.file content true executable) ∧
      Override.Yields env ∅ (Override.lines content) file.entries := by
  obtain ⟨content, executable, hfind, -⟩ := exists_read_iff.mp ⟨file, h⟩
  rw [read_of_content hfind] at h
  split at h
  · rename_i entries hentries
    cases h
    exact ⟨rfl, content, executable, hfind, Override.readLines_eq_ok_iff.mp hentries⟩
  · cases h

theorem lastWins_of_read {file : OverrideFile} (h : read files env path = .ok file) :
    LastWins file where
  vars := by
    intro name value
    rw [vars, Variables.getElem?_ofEntries]
    constructor
    · intro hlast
      obtain ⟨before, after, hsplit, hnone⟩ := List.lookup_eq_some_iff.mp hlast
      refine ⟨after.reverse, before.reverse, ?_, ?_⟩
      · rw [← List.reverse_reverse file.entries, hsplit]
        simp
      · simpa [List.mem_map] using fun other hmem => by
          simpa using hnone _ hmem
    · rintro ⟨before, after, hsplit, hnone⟩
      rw [hsplit]
      exact lastValue?_of_last hnone before value
  secrets := by
    intro name
    rw [secrets, Std.ExtTreeMap.getElem?_erase]
    by_cases hname : name = Names.credential
    · simp [hname]
    · rw [if_neg (by simpa using Ne.symm hname), if_neg hname]
  validNames := validName_of_read h

/-- Files that stop the reading at the same line give the same error, whatever else is in them and
in the environment. -/
theorem read_eq_of_firstStop {other : FileTree} {content otherContent : Octets}
    {executable otherExecutable : Bool} {before after otherBefore otherAfter : List Octets}
    {octets : Octets} {stop otherStop : Override.Stop}
    (hfind : files.find path = .ok (.file content true executable))
    (hother : other.find path = .ok (.file otherContent true otherExecutable))
    (hfirst : Override.FirstStop (Override.lines content) before octets after stop)
    (hotherFirst :
      Override.FirstStop (Override.lines otherContent) otherBefore octets otherAfter otherStop)
    (otherEnv : Environment) : read files env path = read other otherEnv path := by
  rw [read_of_unreadable (.line hfind hfirst), read_of_unreadable (.line hother hotherFirst),
    hfirst.stops.unique hotherFirst.stops]

end

end OverrideFile

/-! ### What becomes of a file that cannot be read -/

namespace Loader

/-- A fetch or a load with a file that cannot be read ends with its error, or is not begun: it runs
nothing and leaves the store alone. -/
theorem fetch_and_load_of_unreadable {files : FileTree} {path : String} {error : Error}
    (h : OverrideFile.Unreadable files path error) (loader : Loader) (calling : Calling)
    (executor : Executor) (env : Environment) (store : Store) {request : Request}
    (hpath : request.overrideFile = some path) (visiting : Visiting) :
    let failure := calling.obstacle?.getD error
    loader.fetch calling executor ⟨files, env⟩ store request = ⟨.error failure, []⟩ ∧
      loader.load calling executor ⟨files, env⟩ store request visiting =
        ⟨.error failure, [], store⟩ := by
  intro failure
  have hfetch :
      loader.fetch calling executor ⟨files, env⟩ store request = ⟨.error failure, []⟩ := by
    rw [fetch_eq, fetchAwaited, plan_of_unusable hpath (OverrideFile.read_of_unreadable h)]
    cases hcalling : calling.obstacle? <;> simp only [failure, hcalling] <;> rfl
  refine ⟨hfetch, ?_⟩
  rw [load_eq, hfetch]

end Loader

/-- **All or nothing, and the last entry wins.** For all files, environments and paths: a file is
read exactly if it is there, open to this process, and all of its lines are readable. It then gives
the entries of its lines, each read with the names before it, and for each name the value of the
last one. Otherwise the error names the path and is that of the first line that is not readable, if
it could be opened, the same in all environments: files that agree up to the end of such a line, or
that have no more in common than the first such line, give the same error. And a fetch or a load for
a file that cannot be read ends with just this error, without a credential, without a run of the
resolver, and with the store as it was. The lines are those that a content is cut into at its line
feeds. -/
theorem OverrideFile.read_all_or_nothing (files : FileTree) (env : Environment) (path : String) :
    ((∃ file, read files env path = .ok file) ↔
      ∃ content executable, files.find path = .ok (.file content true executable) ∧
        ∀ octets ∈ Override.lines content, Override.Readable octets) ∧
    (∀ file, read files env path = .ok file → file.path = path ∧ LastWins file ∧
      ∃ content executable, files.find path = .ok (.file content true executable) ∧
        Override.Yields env ∅ (Override.lines content) file.entries) ∧
    (∀ error, read files env path = .error error ↔ Unreadable files path error) ∧
    (∀ (other : FileTree) (otherEnv : Environment) content executable otherContent otherExecutable,
      files.find path = .ok (.file content true executable) →
      other.find path = .ok (.file otherContent true otherExecutable) →
      (∀ before octets after stop otherBefore otherAfter otherStop,
        Override.FirstStop (Override.lines content) before octets after stop →
        Override.FirstStop (Override.lines otherContent) otherBefore octets otherAfter otherStop →
        read files env path = read other otherEnv path) ∧
      ∀ start rest otherRest, content = start ++ 0x0A :: rest →
        otherContent = start ++ 0x0A :: otherRest →
        (∃ octets ∈ Override.lines (start ++ [0x0A]), ¬ Override.Readable octets) →
        read files env path = read other otherEnv path) ∧
    (∀ error, Unreadable files path error →
      ∀ (loader : Loader) calling executor (around : Environment) store (request : Request)
        visiting, request.overrideFile = some path →
        let failure := calling.obstacle?.getD error
        loader.fetch calling executor ⟨files, around⟩ store request = ⟨.error failure, []⟩ ∧
          loader.load calling executor ⟨files, around⟩ store request visiting =
            ⟨.error failure, [], store⟩) ∧
    ∀ content lines, Override.lines content = lines ↔ Override.CutsInto content lines := by
  refine ⟨exists_read_iff, ?_, fun error => read_eq_error_iff, ?_, ?_,
    fun content lines => Override.lines_eq_iff⟩
  · intro file hread
    obtain ⟨hpath, hyields⟩ := yields_of_read hread
    exact ⟨hpath, lastWins_of_read hread, hyields⟩
  · intro other otherEnv content executable otherContent otherExecutable hfind hother
    refine ⟨fun _ _ _ _ _ _ _ hfirst hotherFirst =>
      read_eq_of_firstStop hfind hother hfirst hotherFirst otherEnv, ?_⟩
    rintro start rest otherRest rfl rfl ⟨bad, hbad, hunreadable⟩
    -- the first line that is not readable lies in the common part
    rcases Override.readable_or_firstStop (Override.lines (start ++ [0x0A])) with
      hall | ⟨before, octets, after, stop, hfirst⟩
    · exact absurd (hall bad hbad) hunreadable
    · have hextends (rest : Octets) :
          Override.FirstStop (Override.lines (start ++ 0x0A :: rest)) before octets
            (after ++ Override.lines rest) stop := by
        rw [Override.lines_append]
        exact hfirst.append (Override.lines rest)
      exact read_eq_of_firstStop hfind hother (hextends rest) (hextends otherRest) otherEnv
  · intro error hunreadable loader calling executor around store request visiting hpath
    exact Loader.fetch_and_load_of_unreadable hunreadable loader calling executor around store hpath
      visiting

/-- In a file of four lines, the first ended by a carriage return as well, the third has a quote that
nothing closes. The two readable lines before it leave nothing in the store of a load, nothing is
run, and the error is that of any file which goes on otherwise behind the third line. -/
theorem OverrideFile.nothing_of_file_with_bad_third_line :
    let start := Utf8.encode "A=1\r\nB=$A\nC='x"
    let content := start ++ 0x0A :: Utf8.encode "D=4"
    let other := start ++ 0x0A :: Utf8.encode "ENVKEY=k\n"
    let files : FileTree :=
      ⟨(∅ : Std.ExtTreeMap Place Node).insert ["f"] (.file content true false), []⟩
    let otherFiles : FileTree :=
      ⟨(∅ : Std.ExtTreeMap Place Node).insert ["f"] (.file other true false), []⟩
    let error : Error := .overrideFile "f" "malformed line ''x' at offset 1"
      (some "Error parsing line: ''x', error at line index: 1")
    let loader : Loader := ⟨⟨"2.4.1", .besideProgram, "a", "b", false, none⟩, "/r"⟩
    let executor : Executor := fun _ => .ok ⟨.exited 0, Utf8.encode "\x7b\x7d", []⟩
    let request : Request := { credential := some "k", overrideFile := some "f" }
    Override.CutsInto content
      [Utf8.encode "A=1", Utf8.encode "B=$A", Utf8.encode "C='x", Utf8.encode "D=4"] ∧
    read files ∅ "f" = .error error ∧ read otherFiles ∅ "f" = .error error ∧
    loader.load .blocking executor ⟨files, ∅⟩ (.memory ∅) request =
      ⟨.error error, [], .memory ∅⟩ := by
  intro start content other files otherFiles error loader executor request
  have hfind : files.find "f" = .ok (.file content true false) := rfl
  have hother : otherFiles.find "f" = .ok (.file other true false) := rfl
  have hlines : Override.lines content =
      [Utf8.encode "A=1", Utf8.encode "B=$A"] ++ Utf8.encode "C='x" :: [Utf8.encode "D=4"] := by
    decide +kernel
  have hreadable : ∀ octets ∈ [Utf8.encode "A=1", Utf8.encode "B=$A"], Override.Readable octets :=
    List.forall_mem_cons.mpr ⟨⟨"A=1", rfl, fun _ => ⟨_, rfl⟩⟩,
      List.forall_mem_singleton.mpr ⟨"B=$A", rfl, fun _ => ⟨_, rfl⟩⟩⟩
  have hstops : Override.Stops (Utf8.encode "C='x") (.malformed ⟨"'x", 1⟩) :=
    .malformed fun _ => rfl
  have hunreadable : Unreadable files "f" error := .line hfind ⟨hlines, hreadable, hstops⟩
  obtain ⟨-, -, hfails, hagree, hload, hcut⟩ := read_all_or_nothing files ∅ "f"
  obtain ⟨-, hcommon⟩ := hagree otherFiles ∅ content false other false hfind hother
  have hsame := hcommon start _ _ rfl rfl
    ⟨Utf8.encode "C='x", by decide +kernel, fun h => h.not_stops _ hstops⟩
  have hread := (hfails error).mpr hunreadable
  exact ⟨(hcut _ _).mp hlines, hread, hsame.symm.trans hread,
    (hload error hunreadable loader .blocking executor ∅ (.memory ∅) request .byName rfl).2⟩

example : (Override.readEntries ∅ (Utf8.encode "A=1\nB=$A\nA=2\n")).toOption =
    some [("A", "1"), ("B", "1"), ("A", "2")] := by decide +kernel

end SecretEnv
