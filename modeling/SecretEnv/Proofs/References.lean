import SecretEnv.Proofs.Lines
import SecretEnv.Proofs.Load

/-!
# What an override file refers to

**A file is read alike in two environments that give its references the same texts**, and what is
fetched and loaded with it is then the same too. References are resolved in the environment of the
process before the file itself is asked, so that the values of a file, its credential among them,
can come from there even if the store is a map in memory. Which names a file refers to is a matter
of its text alone: what a reference stands for is put into a value and not read again.
-/

namespace SecretEnv

namespace Override

/-! ### References in a value -/

/-- The name that a character asks for at a place, as it ends a reference. -/
def Place.asked? (place : Place) (c : Char) : Option String :=
  match place with
  | .reference _ name =>
    if Text.isAlphanumeric c ∨ (c = '\x7b' ∧ name = []) then none else some (String.ofList name)
  | .braced _ name => if c = '\x7d' then some (String.ofList name) else none
  | _ => none

/-- The name that the end of a value asks for. -/
def Place.askedAtEnd? : Place → Option String
  | .reference false name => some (String.ofList name)
  | _ => none

/-- The place of the next character, if the value goes on. -/
def Move.next? : Move → Option Place
  | .go _ place => some place
  | _ => none

/-- The names that the rest of a value refers to, from a place on. -/
def referencesFrom (place : Place) : List Char → List String
  | [] => place.askedAtEnd?.toList
  | c :: rest =>
    (place.asked? c).toList ++
      match (move (fun _ => "") place c).next? with
      | some next => referencesFrom next rest
      | none => []

section

variable {lookup₁ lookup₂ : String → String} {place : Place}

/-- What a character does depends on the name that it asks for. -/
theorem move_congr {c : Char} (h : ∀ name ∈ place.asked? c, lookup₁ name = lookup₂ name) :
    move lookup₁ place c = move lookup₂ place c := by
  cases place with
  | reference quoted name =>
      simp only [Place.asked?] at h
      simp only [move]
      split
      · rfl
      split
      · rfl
      · rename_i halpha hbrace
        rw [if_neg (by simp [halpha, hbrace])] at h
        rw [h _ rfl]
  | braced quoted name =>
      simp only [Place.asked?] at h
      simp only [move]
      split
      · rename_i hc
        rw [if_pos hc] at h
        rw [h _ rfl]
      · rfl
  | plain quoted => rfl
  | escape quoted => rfl
  | single => rfl
  | done => rfl

/-- Where the next character stands does not depend on the look-up at all. -/
theorem next?_move (lookup₁ lookup₂ : String → String) (place : Place) (c : Char) :
    (move lookup₁ place c).next? = (move lookup₂ place c).next? := by
  cases place with
  | reference quoted name =>
      simp only [move]
      split
      · rfl
      split
      · rfl
      split <;> rfl
  | braced quoted name =>
      simp only [move]
      split <;> rfl
  | plain quoted => rfl
  | escape quoted => rfl
  | single => rfl
  | done => rfl

theorem finish?_congr (h : ∀ name ∈ place.askedAtEnd?, lookup₁ name = lookup₂ name) :
    finish? lookup₁ place = finish? lookup₂ place := by
  cases place with
  | reference quoted name =>
      cases quoted with
      | false => simp [finish?, h _ rfl]
      | true => rfl
  | plain quoted => cases quoted <;> rfl
  | escape quoted => cases quoted <;> rfl
  | braced quoted name => rfl
  | single => rfl
  | done => rfl

theorem readFrom_congr {cs : List Char} (index : Nat)
    (h : ∀ name ∈ referencesFrom place cs, lookup₁ name = lookup₂ name) :
    readFrom lookup₁ index place cs = readFrom lookup₂ index place cs := by
  induction cs generalizing place index with
  | nil =>
      have hend : finish? lookup₁ place = finish? lookup₂ place :=
        finish?_congr fun name hname => h name (by simpa [referencesFrom] using hname)
      rw [readFrom, readFrom, hend]
  | cons c rest ih =>
      rw [referencesFrom] at h
      have hmove : move lookup₁ place c = move lookup₂ place c :=
        move_congr fun name hname => h name (List.mem_append_left _ (by simpa using hname))
      rw [readFrom, readFrom, hmove]
      cases hgo : move lookup₂ place c with
      | go text next =>
          have hnext : (move (fun _ => "") place c).next? = some next := by
            rw [next?_move _ lookup₂, hgo]
            rfl
          rw [hnext] at h
          simp only [ih (index + 1) fun name hname => h name (List.mem_append_right _ hname)]
      | stop => rfl
      | refuse => rfl

end

/-! ### References in a line and in a file -/

/-- The names that a line refers to. -/
def lineReferences (line : String) : List String :=
  let start := Text.trimStart (Text.trimEnd line.toList)
  if nothingLeft start then []
  else
    match readKey start with
    | .error _ => []
    | .ok (_, rest) =>
      let value := Text.trimStart rest
      if nothingLeft value then [] else referencesFrom (.plain false) value

/-- The names that the lines of a file refer to. -/
def references (content : List Octets) : List String :=
  content.flatMap fun octets => ((Utf8.decode? octets).map lineReferences).getD []

theorem readLine_congr {lookup₁ lookup₂ : String → String} {line : String}
    (h : ∀ name ∈ lineReferences line, lookup₁ name = lookup₂ name) :
    readLine lookup₁ line = readLine lookup₂ line := by
  simp only [lineReferences] at h
  simp only [readLine]
  split
  · rfl
  rename_i hstart
  rw [if_neg hstart] at h
  split
  · rfl
  rename_i name rest hkey
  rw [hkey] at h
  dsimp only at h
  split
  · rfl
  rename_i hvalue
  rw [if_neg hvalue] at h
  simp only [readValue, readFrom_congr 0 h]

end Override

/-- Two environments give the same texts for some names. -/
def Environment.AgreeOn (names : List String) (env₁ env₂ : Environment) : Prop :=
  ∀ name ∈ names, env₁.value? name = env₂.value? name

namespace Override

/-- The lines of a file are read alike, and so are the names that later lines can refer to. -/
theorem readLines_congr {env₁ env₂ : Environment} {content : List Octets} (known : Variables)
    (h : Environment.AgreeOn (references content) env₁ env₂) :
    readLines env₁ known content = readLines env₂ known content := by
  induction content generalizing known with
  | nil => rfl
  | cons octets rest ih =>
      have hrest := fun known => ih known fun name hname =>
        h name (List.mem_append_right _ hname)
      rw [readLines, readLines]
      cases hdecode : Utf8.decode octets with
      | error fault => rfl
      | ok line =>
          have hline : readLine (referenced env₁ known) line =
              readLine (referenced env₂ known) line := by
            apply readLine_congr
            intro name hname
            have hvalue := h name
              (List.mem_append_left _ (by simpa [Utf8.decode?, hdecode, Except.toOption]))
            rw [referenced, referenced, hvalue]
          simp only [hline, hrest]

end Override

namespace OverrideFile

/-- The names that the file at a path refers to. -/
def references (files : FileTree) (path : String) : List String :=
  match files.find path with
  | .ok (.file content true _) => Override.references (Override.lines content)
  | _ => []

theorem read_congr {files : FileTree} {env₁ env₂ : Environment} {path : String}
    (h : Environment.AgreeOn (references files path) env₁ env₂) :
    read files env₁ path = read files env₂ path := by
  unfold references at h
  unfold read
  split
  · rename_i content executable hfind
    rw [hfind] at h
    simp only [Override.readEntries, Override.readLines_congr ∅ h]
  all_goals rfl

end OverrideFile

/-! ### Files without a dollar -/

/-- An ASCII character of a text is among its octets. -/
theorem Utf8.mem_encode {c : Char} {text : String} (hc : c.toNat < 0x80) (h : c ∈ text.toList) :
    UInt8.ofNat c.toNat ∈ Utf8.encode text := by
  refine List.mem_flatMap.mpr ⟨c, h, ?_⟩
  simp [Utf8.encodeChar, hc]

namespace Override

/-- Whether a place is inside a reference. -/
def Place.refers : Place → Bool
  | .reference .. => true
  | .braced .. => true
  | _ => false

/-- Outside of a reference no name is asked for. -/
theorem asks_nothing {place : Place} (h : place.refers = false) :
    (∀ c, place.asked? c = none) ∧ place.askedAtEnd? = none := by
  cases place with
  | reference quoted name => cases h
  | braced quoted name => cases h
  | plain quoted => exact ⟨fun _ => rfl, rfl⟩
  | escape quoted => exact ⟨fun _ => rfl, rfl⟩
  | single => exact ⟨fun _ => rfl, rfl⟩
  | done => exact ⟨fun _ => rfl, rfl⟩

/-- Without a dollar no reference begins. -/
theorem refers_of_next? {place next : Place} {c : Char} (hplace : place.refers = false)
    (hc : c ≠ '$') (h : (move (fun _ => "") place c).next? = some next) : next.refers = false := by
  cases place with
  | reference quoted name => cases hplace
  | braced quoted name => cases hplace
  | plain quoted =>
      simp only [move, if_neg hc] at h
      split at h
      · cases h; rfl
      split at h
      · cases h; rfl
      split at h
      · cases h; rfl
      split at h
      · cases h; rfl
      split at h
      · cases h; rfl
      · cases h; rfl
  | escape quoted =>
      simp only [move] at h
      split at h
      · cases h; rfl
      · cases h
  | single =>
      simp only [move] at h
      split at h
      · cases h; rfl
      · cases h; rfl
  | done =>
      simp only [move] at h
      split at h
      · cases h; rfl
      split at h
      · cases h
      · cases h

theorem referencesFrom_eq_nil {place : Place} {cs : List Char} (hplace : place.refers = false)
    (hcs : '$' ∉ cs) : referencesFrom place cs = [] := by
  induction cs generalizing place with
  | nil =>
      rw [referencesFrom, (asks_nothing hplace).2]
      rfl
  | cons c rest ih =>
      rw [List.mem_cons, not_or] at hcs
      rw [referencesFrom, (asks_nothing hplace).1 c]
      cases hnext : (move (fun _ => "") place c).next? with
      | none => rfl
      | some next => exact ih (refers_of_next? hplace (Ne.symm hcs.1) hnext) hcs.2

theorem readName?_suffix {cs name rest : List Char} (h : readName? cs = some (name, rest)) :
    rest <:+ cs := by
  cases cs with
  | nil => cases h
  | cons c cs =>
      rw [readName?] at h
      split at h
      · cases h
        exact List.dropWhile_suffix _
      · cases h

/-- What follows the `=` behind a name is the end of what follows the name. -/
theorem suffix_of_trimStart {cs rest : List Char} (h : Text.trimStart cs = '=' :: rest) :
    rest <:+ cs := by
  have hsuffix : '=' :: rest <:+ cs := h ▸ List.dropWhile_suffix _
  exact (List.suffix_cons ..).trans hsuffix

theorem readKey_suffix {cs name rest : List Char} (h : readKey cs = .ok (name, rest)) :
    rest <:+ cs := by
  unfold readKey at h
  split at h
  · cases h
  rename_i first afterFirst hfirst
  split at h
  · rename_i value hvalue
    cases h
    exact (suffix_of_trimStart hvalue).trans (readName?_suffix hfirst)
  split at h
  · -- the name is the second one
    split at h
    · cases h
    rename_i hsecond
    have hname : Text.trimStart afterFirst <:+ cs :=
      (List.dropWhile_suffix _).trans (readName?_suffix hfirst)
    split at h
    · rename_i hvalue
      cases h
      exact (suffix_of_trimStart hvalue).trans ((readName?_suffix hsecond).trans hname)
    · cases h
  · cases h

theorem lineReferences_eq_nil {line : String} (h : '$' ∉ line.toList) :
    lineReferences line = [] := by
  have hstart : Text.trimStart (Text.trimEnd line.toList) ⊆ line.toList := by
    intro c hc
    exact List.mem_reverse.mp (List.dropWhile_subset _
      (List.mem_reverse.mp (List.dropWhile_subset _ hc)))
  simp only [lineReferences]
  split
  · rfl
  split
  · rfl
  rename_i hkey
  split
  · rfl
  refine referencesFrom_eq_nil rfl fun hmem => ?_
  exact h (hstart ((readKey_suffix hkey).subset (List.dropWhile_subset _ hmem)))

/-- A file without a dollar refers to nothing. -/
theorem references_eq_nil {content : Octets} (h : UInt8.ofNat '$'.toNat ∉ content) :
    references (lines content) = [] := by
  refine List.flatMap_eq_nil_iff.mpr fun octets hoctets => ?_
  cases hdecode : Utf8.decode octets with
  | error fault => simp [Utf8.decode?, hdecode, Except.toOption]
  | ok line =>
      have hline : '$' ∉ line.toList := by
        intro hmem
        refine h (mem_of_mem_lines hoctets ?_)
        rw [← Utf8.decode_eq_ok_iff.mp hdecode]
        exact Utf8.mem_encode (by decide) hmem
      simp only [Utf8.decode?, hdecode, Except.toOption, Option.map_some, Option.getD_some]
      exact lineReferences_eq_nil hline

end Override

namespace OverrideFile

/-- A file without a dollar is read alike in all environments. -/
theorem read_eq_of_no_dollar {files : FileTree} {path : String} {content : Octets}
    {readable executable : Bool} (hfind : files.find path = .ok (.file content readable executable))
    (h : UInt8.ofNat '$'.toNat ∉ content) (env₁ env₂ : Environment) :
    read files env₁ path = read files env₂ path := by
  refine read_congr ?_
  have hnone : references files path = [] := by
    unfold references
    rw [hfind]
    cases readable with
    | true => exact Override.references_eq_nil h
    | false => rfl
  rw [hnone]
  exact nofun

end OverrideFile

/-! ### Fetches and loads -/

namespace Loader

variable {loader : Loader} {executor : Executor} {files : FileTree} {env₁ env₂ : Environment}
  {vars : Variables} {request : Request}

/-- A fetch from a map in memory sees the environment of the process through the override file
alone. -/
theorem plan_congr
    (h : ∀ path, request.overrideFile = some path →
      OverrideFile.read files env₁ path = OverrideFile.read files env₂ path) :
    loader.plan ⟨files, env₁⟩ (.memory vars) request =
      loader.plan ⟨files, env₂⟩ (.memory vars) request := by
  have hfile : overrideFile ⟨files, env₁⟩ (.memory vars) request =
      overrideFile ⟨files, env₂⟩ (.memory vars) request := by
    unfold overrideFile
    cases hpath : request.overrideFile with
    | none => rfl
    | some path => simp only [Store.ambient, h path hpath]
  rw [plan, plan, hfile]

/-- **What a fetch sees of the environment of the process.** Two environments that give the same
texts for the names that a file refers to make no difference to its reading, and those that do so
for the override file of a request make none to what is fetched or loaded for it from a map in
memory: neither to the result nor to the runs of the resolver nor to the map afterwards. -/
theorem fetch_and_load_see_references_only (files : FileTree) (env₁ env₂ : Environment) :
    (∀ path, Environment.AgreeOn (OverrideFile.references files path) env₁ env₂ →
      OverrideFile.read files env₁ path = OverrideFile.read files env₂ path) ∧
    ∀ (loader : Loader) calling executor vars request visiting,
      (∀ path, request.overrideFile = some path →
        Environment.AgreeOn (OverrideFile.references files path) env₁ env₂) →
      loader.fetch calling executor ⟨files, env₁⟩ (.memory vars) request =
          loader.fetch calling executor ⟨files, env₂⟩ (.memory vars) request ∧
        loader.load calling executor ⟨files, env₁⟩ (.memory vars) request visiting =
          loader.load calling executor ⟨files, env₂⟩ (.memory vars) request visiting := by
  refine ⟨fun path => OverrideFile.read_congr, ?_⟩
  intro loader calling executor vars request visiting h
  have hfetch : loader.fetch calling executor ⟨files, env₁⟩ (.memory vars) request =
      loader.fetch calling executor ⟨files, env₂⟩ (.memory vars) request := by
    rw [fetch_eq, fetch_eq, fetchAwaited, fetchAwaited,
      plan_congr fun path hpath => OverrideFile.read_congr (h path hpath)]
  refine ⟨hfetch, ?_⟩
  rw [load_eq, load_eq, hfetch]

/-- It says of a file with `A=$X` that a variable `P` of the process makes no difference to a load,
which sets `A` to the text of `X`. -/
theorem load_sees_one_reference_only :
    let files : FileTree :=
      ⟨(∅ : Std.ExtTreeMap Place Node).insert ["f"] (.file (Utf8.encode "A=$X\n") true false), []⟩
    let env₁ := ((∅ : Environment).assign "X" "1").assign "P" "2"
    let env₂ := (∅ : Environment).assign "X" "1"
    let loader : Loader := ⟨⟨"2.4.1", .besideProgram, "a", "b", false, none⟩, "/r"⟩
    let executor : Executor := fun _ => .ok ⟨.exited 1, [], []⟩
    let loaded (env : Environment) :=
      loader.load .blocking executor ⟨files, env⟩ (.memory ∅) { overrideFile := some "f" }
    loaded env₁ = loaded env₂ ∧
      (loaded env₂).result.toOption.map (·.toList) = some [("A", "1")] := by
  intro files env₁ env₂ loader executor loaded
  have hagree : Environment.AgreeOn (OverrideFile.references files "f") env₁ env₂ := by
    unfold Environment.AgreeOn
    decide +kernel
  obtain ⟨-, hload⟩ := fetch_and_load_see_references_only files env₁ env₂
  refine ⟨(hload loader .blocking executor ∅ { overrideFile := some "f" } .byName ?_).2, ?_⟩
  · rintro path hpath
    cases hpath
    exact hagree
  · decide +kernel

/-- A variable of the process decides whether the resolver is run, and so what a fetch gives, where
the file takes its credential from it. -/
theorem fetch_depends_on_process_environment :
    let files : FileTree :=
      ⟨(∅ : Std.ExtTreeMap Place Node).insert ["f"]
        (.file (Utf8.encode "ENVKEY=$K\nA=1\n") true false), []⟩
    let loader : Loader := ⟨⟨"2.4.1", .besideProgram, "a", "b", false, none⟩, "/r"⟩
    let executor : Executor := fun _ => .ok ⟨.exited 0, Utf8.encode "\x7b\"B\":\"2\"\x7d", []⟩
    let fetched (env : Environment) :=
      loader.fetch .blocking executor ⟨files, env⟩ (.memory ∅) { overrideFile := some "f" }
    ((fetched ∅).result.toOption.map (·.toList) = some [("A", "1")] ∧
        (fetched ∅).calls.length = 0) ∧
      let env := (∅ : Environment).assign "K" "k"
      (fetched env).result.toOption.map (·.toList) = some [("B", "2")] ∧
        (fetched env).calls.length = 1 := by
  decide +kernel

end Loader

end SecretEnv
