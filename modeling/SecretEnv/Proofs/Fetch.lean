import SecretEnv.Loader
import SecretEnv.Proofs.Answer
import SecretEnv.Proofs.Credential
import SecretEnv.Proofs.Utf8

/-!
# How a fetch ends

**A fetch ends in exactly one of nine ways, and the first one that applies decides.** `Ends` says
for each way what has to be the case and what the result then is: in terms of the override file, the
texts that may be the credential, the run of the resolver and its answer, and without the functions
that a fetch is made of. What a way presupposes is that the earlier ones do not apply: a credential
is looked for once the file is read, an exit code is looked at once the run is over, and an answer
once the child has ended well.
-/

namespace SecretEnv

/-- The ways in which a fetch ends, in the order in which they are decided. -/
inductive Way where
  /-- The override file cannot be used. -/
  | unusableFile
  /-- There is no credential, but variables in the override file. -/
  | fileOnly
  /-- There is no credential, nor anything else. -/
  | noCredential
  /-- The resolver could not be run, or was not done in time. -/
  | notFinished
  /-- The resolver ended with a failure. -/
  | failed
  /-- The resolver's answer is no text. -/
  | notText
  /-- The resolver refuses the credential. -/
  | refused
  /-- The resolver's answer is malformed. -/
  | malformed
  /-- The resolver gives variables. -/
  | fetched
  deriving Repr, DecidableEq

/-- An override file that cannot be read is named in the error. -/
theorem OverrideFile.error_of_read {files : FileTree} {env : Environment} {path : String}
    {error : Error} (h : read files env path = .error error) :
    ∃ detail cause, error = .overrideFile path detail cause := by
  unfold read at h
  split at h
  case h_1 =>
    split at h
    · cases h
    · cases h
      exact ⟨_, _, rfl⟩
  all_goals
    cases h
    exact ⟨_, _, rfl⟩

/-- An override file that has been read was there and open, and had these entries. -/
theorem OverrideFile.find_of_read {files : FileTree} {env : Environment} {path : String}
    {file : OverrideFile} (h : read files env path = .ok file) :
    ∃ content executable, files.find path = .ok (.file content true executable) ∧
      Override.readEntries env content = .ok file.entries := by
  unfold read at h
  split at h
  case h_1 content executable hfind =>
    split at h
    · rename_i entries hentries
      cases h
      exact ⟨content, executable, hfind, hentries⟩
    · cases h
  all_goals cases h

namespace Loader

section

variable (loader : Loader) (executor : Executor) (around : Surroundings) (store : Store)
  (request : Request)

/-- The run of the resolver for a request, with a credential. -/
def invocation (credential : String) : Invocation where
  command := loader.binary
  args := (loader.optionsFor store request).toArguments.toList
  env := store.snapshot.insert Names.credential credential
  cwd := request.cwd
  timeout := loader.settings.fetchTimeout

/-- The file of a request has been read, or none was given. -/
def HasRead (file : Option OverrideFile) : Prop :=
  (request.overrideFile = none ∧ file = none) ∨
    ∃ path given, request.overrideFile = some path ∧
      OverrideFile.read around.files (store.ambient around.env) path = .ok given ∧
      file = some given

/-- The texts that may be the credential. -/
def texts (file : Option OverrideFile) : List (Option String) :=
  Credential.texts request.credential (store.value? Names.credential) file

/-- The resolver is run with a credential. -/
def Asks (credential : String) : Prop :=
  ∃ file, HasRead around store request file ∧
    Credential.Chooses (texts store request file) credential

/-- A child ended well and wrote these octets. -/
def Answers (stdout : Octets) : Prop :=
  ∃ credential output, Asks around store request credential ∧
    executor (loader.invocation store request credential) = .ok output ∧
    output.ending = .exited 0 ∧ output.stdout = stdout

/-- A fetch ends in a way, with a result. -/
inductive Ends : Way → Except Error Variables → Prop where
  | unusableFile {path detail : String} {cause : Option String}
      (given : request.overrideFile = some path)
      (unreadable : OverrideFile.read around.files (store.ambient around.env) path =
        .error (.overrideFile path detail cause)) :
      Ends .unusableFile (.error (.overrideFile path detail cause))
  | fileOnly {file : OverrideFile} {name value : String}
      (read : HasRead around store request (some file))
      (blank : Credential.AllBlank (texts store request (some file)))
      (other : name ≠ Names.credential) (has : file.vars[name]? = some value) :
      Ends .fileOnly
        (.ok (Variables.permitted (file.vars.erase Names.credential) request.permitted))
  | noCredential {file : Option OverrideFile} (read : HasRead around store request file)
      (blank : Credential.AllBlank (texts store request file))
      (bare : ∀ given, file = some given →
        ∀ name, name ≠ Names.credential → given.vars[name]? = none) :
      Ends .noCredential (.error Credential.nowhere)
  | timedOut {credential operation : String} {limit : Duration}
      (asks : Asks around store request credential)
      (late : executor (loader.invocation store request credential) =
        .error (.timeout operation limit)) :
      Ends .notFinished (.error (.fetchFailed loader.binary
        ("resolver did not finish within " ++ limit.text ++ " and was killed") none))
  | notRun {credential : String} {error : Error} (asks : Asks around store request credential)
      (failure : executor (loader.invocation store request credential) = .error error)
      (other : ∀ operation limit, error ≠ .timeout operation limit) :
      Ends .notFinished (.error (.fetchFailed loader.binary error.message none))
  | failed {credential : String} {output : Output} (asks : Asks around store request credential)
      (ran : executor (loader.invocation store request credential) = .ok output)
      (failure : output.ending ≠ .exited 0) :
      Ends .failed (.error (.fetchFailed loader.binary (Resolver.diagnostics output)
        output.ending.code?))
  | notText {stdout : Octets} {fault : Utf8.Fault}
      (answers : Answers loader executor around store request stdout)
      (unreadable : Utf8.decode stdout = .error fault) :
      Ends .notText (.error (.malformedResponse
        ("resolver output is not valid UTF-8: " ++ fault.message) none))
  | refused {text message : String}
      (answers : Answers loader executor around store request (Utf8.encode text))
      (refuses : Resolver.Refuses (Text.trimChars text.toList) message) :
      Ends .refused (.error (.invalidCredential message))
  | malformed {text detail : String}
      (answers : Answers loader executor around store request (Utf8.encode text))
      (malforms : Resolver.Malforms (Text.trimChars text.toList) detail) :
      Ends .malformed (.error (.malformedResponse detail none))
  | fetched {text : String} {vars : Variables}
      (answers : Answers loader executor around store request (Utf8.encode text))
      (gives : Resolver.Gives (Text.trimChars text.toList) vars) :
      Ends .fetched (.ok (vars.permitted request.permitted))

end

/-! ### Which way it is -/

/-- The way that an answer leads to. -/
def wayOfAnswer (stdout : Octets) : Way :=
  match Utf8.decode stdout with
  | .error _ => .notText
  | .ok text =>
    match Resolver.decodeResponse text with
    | .ok _ => .fetched
    | .error error => if error.isInvalidCredential then .refused else .malformed

/-- The way that a run of the resolver leads to. -/
def wayOfRun : Except Error Output → Way
  | .error _ => .notFinished
  | .ok output => if output.succeeded then wayOfAnswer output.stdout else .failed

/-- The way that a plan leads to. -/
def wayOfPlan (loader : Loader) (executor : Executor) : Except Error Plan → Way
  | .error error => if error.isMissingCredential then .noCredential else .unusableFile
  | .ok (.fileOnly _) => .fileOnly
  | .ok (.ask credential options snapshot) =>
    wayOfRun (executor (Resolver.call loader.binary credential options snapshot))

section

variable {loader : Loader} {executor : Executor} {around : Surroundings} {store : Store}
  {request : Request}

/-! ### The plan -/

theorem overrideFile_of_hasRead {file : Option OverrideFile}
    (h : HasRead around store request file) : overrideFile around store request = .ok file := by
  rcases h with ⟨hnone, rfl⟩ | ⟨path, given, hpath, hread, rfl⟩
  · rw [overrideFile, hnone]
  · rw [overrideFile, hpath]
    simp only [hread]
    rfl

theorem plan_of_unusable {path : String} {error : Error}
    (hpath : request.overrideFile = some path)
    (hread : OverrideFile.read around.files (store.ambient around.env) path = .error error) :
    loader.plan around store request = .error error := by
  rw [plan, overrideFile, hpath]
  simp only [hread]
  rfl

theorem plan_of_allBlank {file : Option OverrideFile} (hread : HasRead around store request file)
    (hblank : Credential.AllBlank (texts store request file)) :
    loader.plan around store request = planWithout Credential.nowhere file := by
  rw [plan, overrideFile_of_hasRead hread]
  simp only [Credential.resolve_of_allBlank hblank]
  rfl

theorem plan_of_asks {credential : String} (h : Asks around store request credential) :
    loader.plan around store request =
      .ok (.ask ⟨credential⟩ (loader.optionsFor store request) store.snapshot) := by
  obtain ⟨file, hread, hchooses⟩ := h
  obtain ⟨source, hresolve⟩ := Credential.resolve_of_chooses hchooses
  rw [plan, overrideFile_of_hasRead hread]
  simp only [hresolve]

theorem isEmpty_secrets_iff {file : OverrideFile} :
    file.secrets.isEmpty = true ↔
      ∀ name, name ≠ Names.credential → file.vars[name]? = none := by
  rw [OverrideFile.secrets, Std.ExtTreeMap.isEmpty_iff]
  constructor
  · intro hempty name hname
    have hread : (file.vars.erase Names.credential)[name]? = none := by simp [hempty]
    rw [Std.ExtTreeMap.getElem?_erase, if_neg (by simpa using Ne.symm hname)] at hread
    exact hread
  · intro hnone
    apply Std.ExtTreeMap.ext_getElem?
    intro name
    rw [Std.ExtTreeMap.getElem?_erase]
    split
    · simp
    · rename_i hname
      rw [hnone name (by rintro rfl; simp at hname)]
      simp

/-- Nothing but an unusable file ends a plan before the credential is looked for. -/
theorem exists_hasRead_or_error (around : Surroundings) (store : Store) (request : Request) :
    (∃ file, HasRead around store request file) ∨
      ∃ path detail cause, request.overrideFile = some path ∧
        OverrideFile.read around.files (store.ambient around.env) path =
          .error (.overrideFile path detail cause) := by
  cases hpath : request.overrideFile with
  | none => exact .inl ⟨none, .inl ⟨hpath, rfl⟩⟩
  | some path =>
      cases hread : OverrideFile.read around.files (store.ambient around.env) path with
      | ok given => exact .inl ⟨some given, .inr ⟨path, given, hpath, hread, rfl⟩⟩
      | error error =>
          obtain ⟨detail, cause, rfl⟩ := OverrideFile.error_of_read hread
          exact .inr ⟨path, detail, cause, rfl, hread⟩

/-! ### The result -/

theorem result_of_asks {credential : String} (h : Asks around store request credential) :
    (loader.fetchAwaited executor around store request).result =
      (Resolver.interpret loader.binary
        (executor (loader.invocation store request credential))).map fun vars =>
          vars.permitted request.permitted := by
  rw [fetchAwaited, plan_of_asks h]
  rfl

theorem way_of_asks {credential : String} (h : Asks around store request credential) :
    wayOfPlan loader executor (loader.plan around store request) =
      wayOfRun (executor (loader.invocation store request credential)) := by
  rw [plan_of_asks h]
  rfl

/-- An answer decides both the way and the result. -/
theorem way_and_result_of_answers {stdout : Octets}
    (h : Answers loader executor around store request stdout) :
    wayOfPlan loader executor (loader.plan around store request) = wayOfAnswer stdout ∧
      (loader.fetchAwaited executor around store request).result =
        (Resolver.readOutput stdout).map fun vars => vars.permitted request.permitted := by
  obtain ⟨credential, output, hasks, hran, hending, rfl⟩ := h
  have hsucceeded : output.succeeded = true := by simp [Output.succeeded, hending]
  constructor
  · rw [way_of_asks hasks, hran, wayOfRun, if_pos hsucceeded]
  · rw [result_of_asks hasks, hran, Resolver.interpret, if_pos hsucceeded]

/-! ### Every way is the way -/

theorem way_and_result_of_ends {way : Way} {result : Except Error Variables}
    (h : Ends loader executor around store request way result) :
    way = wayOfPlan loader executor (loader.plan around store request) ∧
      result = (loader.fetchAwaited executor around store request).result := by
  cases h with
  | @unusableFile path detail cause given unreadable =>
      rw [fetchAwaited, plan_of_unusable given unreadable]
      exact ⟨rfl, rfl⟩
  | @fileOnly file name value read blank other has =>
      have hfull : file.secrets.isEmpty = false := by
        rw [Bool.eq_false_iff, Ne, isEmpty_secrets_iff]
        intro hnone
        rw [hnone name other] at has
        cases has
      rw [fetchAwaited, plan_of_allBlank read blank, planWithout]
      simp only [hfull]
      exact ⟨rfl, rfl⟩
  | @noCredential file read blank bare =>
      -- no file and a bare file are alike here
      have hplan : planWithout Credential.nowhere file = .error Credential.nowhere := by
        cases file with
        | none => rfl
        | some file => rw [planWithout, if_pos (isEmpty_secrets_iff.mpr (bare file rfl))]
      rw [fetchAwaited, plan_of_allBlank read blank, hplan]
      exact ⟨rfl, rfl⟩
  | timedOut asks late =>
      rw [way_of_asks asks, result_of_asks asks, late]
      exact ⟨rfl, rfl⟩
  | @notRun credential error asks failure other =>
      rw [way_of_asks asks, result_of_asks asks, failure]
      refine ⟨rfl, ?_⟩
      cases error with
      | timeout operation limit => exact absurd rfl (other operation limit)
      | _ => rfl
  | @failed credential output asks ran failure =>
      have hfailed : output.succeeded = false := by simp [Output.succeeded, failure]
      rw [way_of_asks asks, result_of_asks asks, ran, wayOfRun, Resolver.interpret, hfailed]
      exact ⟨rfl, rfl⟩
  | notText answers unreadable =>
      obtain ⟨hway, hresult⟩ := way_and_result_of_answers answers
      rw [hway, hresult, wayOfAnswer, Resolver.readOutput, unreadable]
      exact ⟨rfl, rfl⟩
  | refused answers refuses =>
      obtain ⟨hway, hresult⟩ := way_and_result_of_answers answers
      have hread := Resolver.decodeTrimmed_of_refuses refuses
      rw [← Resolver.decodeResponse] at hread
      rw [hway, hresult, wayOfAnswer, Resolver.readOutput, Utf8.decode_encode]
      simp only [hread]
      exact ⟨rfl, rfl⟩
  | malformed answers malforms =>
      obtain ⟨hway, hresult⟩ := way_and_result_of_answers answers
      have hread := Resolver.decodeTrimmed_of_malforms malforms
      rw [← Resolver.decodeResponse] at hread
      rw [hway, hresult, wayOfAnswer, Resolver.readOutput, Utf8.decode_encode]
      simp only [hread]
      exact ⟨rfl, rfl⟩
  | fetched answers gives =>
      obtain ⟨hway, hresult⟩ := way_and_result_of_answers answers
      have hread := Resolver.decodeTrimmed_of_gives gives
      rw [← Resolver.decodeResponse] at hread
      rw [hway, hresult, wayOfAnswer, Resolver.readOutput, Utf8.decode_encode]
      simp only [hread, true_and]
      rfl

/-! ### There is a way -/

theorem exists_ends_of_answers {stdout : Octets}
    (h : Answers loader executor around store request stdout) :
    ∃ way result, Ends loader executor around store request way result := by
  cases hdecode : Utf8.decode stdout with
  | error fault => exact ⟨_, _, .notText h hdecode⟩
  | ok text =>
      -- octets that read as a text are those of the text
      rw [← Utf8.decode_eq_ok_iff.mp hdecode] at h
      rcases Resolver.refuses_or_malforms_or_gives (Text.trimChars text.toList) with
        ⟨message, hrefuses⟩ | ⟨detail, hmalforms⟩ | ⟨vars, hgives⟩
      · exact ⟨_, _, .refused h hrefuses⟩
      · exact ⟨_, _, .malformed h hmalforms⟩
      · exact ⟨_, _, .fetched h hgives⟩

theorem exists_ends_of_asks {credential : String} (h : Asks around store request credential) :
    ∃ way result, Ends loader executor around store request way result := by
  cases hrun : executor (loader.invocation store request credential) with
  | error error =>
      by_cases htimeout : ∃ operation limit, error = .timeout operation limit
      · obtain ⟨operation, limit, rfl⟩ := htimeout
        exact ⟨_, _, .timedOut h hrun⟩
      · exact ⟨_, _, .notRun h hrun fun operation limit heq => htimeout ⟨operation, limit, heq⟩⟩
  | ok output =>
      by_cases hending : output.ending = .exited 0
      · exact exists_ends_of_answers ⟨credential, output, h, hrun, hending, rfl⟩
      · exact ⟨_, _, .failed h hrun hending⟩

theorem exists_ends (loader : Loader) (executor : Executor) (around : Surroundings)
    (store : Store) (request : Request) :
    ∃ way result, Ends loader executor around store request way result := by
  rcases exists_hasRead_or_error around store request with
    ⟨file, hread⟩ | ⟨path, detail, cause, hpath, hunreadable⟩
  · rcases Credential.allBlank_or_chooses (texts store request file) with
      hblank | ⟨credential, hchooses⟩
    · by_cases hbare : ∀ given, file = some given →
          ∀ name, name ≠ Names.credential → given.vars[name]? = none
      · exact ⟨_, _, .noCredential hread hblank hbare⟩
      · simp only [not_forall] at hbare
        obtain ⟨given, rfl, name, hname, hhas⟩ := hbare
        obtain ⟨value, hvalue⟩ := Option.ne_none_iff_exists'.mp hhas
        exact ⟨_, _, .fileOnly hread hblank hname hvalue⟩
    · exact exists_ends_of_asks ⟨file, hread, hchooses⟩
  · exact ⟨_, _, .unusableFile hpath hunreadable⟩

end

/-- **How a fetch ends.** For every loader, resolver, surroundings, store and request there is one
way in which a fetch ends, and one result that it then has: the one that it gives. -/
theorem fetch_ends_in_one_way (loader : Loader) (executor : Executor) (around : Surroundings)
    (store : Store) (request : Request) :
    ∃ way, ∀ other result, Ends loader executor around store request other result ↔
      other = way ∧ result = (loader.fetch .awaited executor around store request).result := by
  refine ⟨wayOfPlan loader executor (loader.plan around store request), fun other result => ?_⟩
  refine ⟨way_and_result_of_ends, ?_⟩
  rintro ⟨rfl, rfl⟩
  -- the fetch does end somehow, and every way in which it ends is this one
  obtain ⟨way, result, hends⟩ := exists_ends loader executor around store request
  obtain ⟨rfl, rfl⟩ := way_and_result_of_ends hends
  exact hends

end Loader

end SecretEnv
