import SecretEnv.Proofs.FileNames
import SecretEnv.Proofs.Permitted
import SecretEnv.Proofs.References
import SecretEnv.Proofs.Usage

/-!
# A map in memory in place of the environment

**A map in memory does for an environment of texts that holds the same variables**: whatever is
asked of the two, done with them, fetched and loaded, as long as all names are valid, comes to the
same on both and leaves them holding the same variables again (`Usage.map_stands_for_environment`).
The environment holds octets and reads them back as text where it can; with texts only, nothing is
lost on the way. Two things could tell the stores apart and are kept out: a name that only the map
takes, and an override file that refers to variables of the process, which are those of the store
only if that is the environment.
-/

namespace SecretEnv

namespace Environment

/-- All names and all values are texts. -/
def IsText (env : Environment) : Prop :=
  ∀ name value, env[name]? = some value →
    ∃ nameText valueText, Utf8.encode nameText = name ∧ Utf8.encode valueText = value

/-- Made of variables, an environment holds texts. -/
theorem isText_ofVariables (vars : Variables) : (ofVariables vars).IsText := by
  intro name value h
  obtain ⟨nameText, valueText, -, hname, hvalue⟩ := getElem?_ofVariables_eq_some_iff.mp h
  exact ⟨nameText, valueText, hname, hvalue⟩

theorem getElem?_ofVariables_encode_eq_some_iff {vars : Variables} {name value : String} :
    (ofVariables vars)[Utf8.encode name]? = some (Utf8.encode value) ↔
      vars[name]? = some value := by
  rw [getElem?_ofVariables_encode, Option.map_eq_some_iff]
  constructor
  · intro h
    obtain ⟨other, hother, hencode⟩ := h
    rw [hother, Utf8.encode_injective hencode]
  · intro h
    exact ⟨value, h, rfl⟩

/-- An environment of texts is made of the variables that it holds. -/
theorem eq_ofVariables {env : Environment} {vars : Variables} (htext : env.IsText)
    (hsame : ∀ name value,
      vars[name]? = some value ↔ env[Utf8.encode name]? = some (Utf8.encode value)) :
    env = ofVariables vars := by
  apply Std.ExtTreeMap.ext_getElem?
  intro octets
  apply Option.ext
  intro held
  rw [getElem?_ofVariables_eq_some_iff]
  constructor
  · intro hheld
    obtain ⟨name, value, rfl, rfl⟩ := htext octets held hheld
    exact ⟨name, value, (hsame name value).mpr hheld, rfl, rfl⟩
  · intro h
    obtain ⟨name, value, hvalue, rfl, rfl⟩ := h
    exact (hsame name value).mp hvalue

/-- What is read as text from an environment made of variables is these. -/
theorem vars_ofVariables (vars : Variables) : (ofVariables vars).vars = vars := by
  apply Std.ExtTreeMap.ext_getElem?
  intro name
  apply Option.ext
  intro value
  rw [getElem?_vars_eq_some_iff, getElem?_ofVariables_encode_eq_some_iff]

end Environment

/-! ### A map and an environment -/

namespace Store

/-- The first store is a map in memory, the second an environment of texts, and both hold the same
variables. -/
inductive Doubles : Store → Store → Prop where
  | intro {vars : Variables} {env : Environment} (text : env.IsText)
      (same : ∀ name value,
        vars[name]? = some value ↔ env[Utf8.encode name]? = some (Utf8.encode value)) :
      Doubles (.memory vars) (.process env)

theorem doubles_ofVariables (vars : Variables) :
    Doubles (.memory vars) (.process (Environment.ofVariables vars)) :=
  .intro (Environment.isText_ofVariables vars) fun _ _ =>
    Environment.getElem?_ofVariables_encode_eq_some_iff.symm

namespace Doubles

variable {memory process : Store} {name : String}

theorem exists_eq (h : Doubles memory process) :
    ∃ vars, memory = .memory vars ∧ process = .process (Environment.ofVariables vars) := by
  cases h with
  | @intro vars env text same =>
      exact ⟨vars, rfl, by rw [Environment.eq_ofVariables text same]⟩

theorem contents_eq (h : Doubles memory process) : memory.contents = process.contents := by
  obtain ⟨vars, rfl, rfl⟩ := h.exists_eq
  rfl

/-- A text comes back from its octets. -/
theorem value?_eq (h : Doubles memory process) (hname : Environment.validName name = true) :
    memory.value? name = process.value? name := by
  obtain ⟨vars, rfl, rfl⟩ := h.exists_eq
  rw [value?, value?, Environment.value?_of_validName _ hname,
    Environment.getElem?_ofVariables_encode]
  cases vars[name]? with
  | none => rfl
  | some value => exact (Utf8.decode?_encode value).symm

theorem has_eq (h : Doubles memory process) (hname : Environment.validName name = true) :
    memory.has name = process.has name := by
  obtain ⟨vars, rfl, rfl⟩ := h.exists_eq
  rw [has, has, Environment.has_of_validName _ hname, Environment.contains_ofVariables_encode]

theorem snapshot_eq (h : Doubles memory process) : memory.snapshot = process.snapshot := by
  obtain ⟨vars, rfl, rfl⟩ := h.exists_eq
  exact (Environment.vars_ofVariables vars).symm

theorem accepts_iff (h : Doubles memory process) :
    memory.accepts name = true ∧ process.accepts name = true ↔
      Environment.validName name = true := by
  obtain ⟨vars, rfl, rfl⟩ := h.exists_eq
  simp [accepts]

/-! ### Writes -/

theorem write (h : Doubles memory process) (name value : String) :
    Doubles (memory.write name value) (process.write name value) := by
  obtain ⟨vars, rfl, rfl⟩ := h.exists_eq
  have hcontents : Environment.ofVariables (vars.insert name value) =
      (Environment.ofVariables vars).assign name value := contents_write (.memory vars) name value
  rw [Store.write, Store.write, ← hcontents]
  exact doubles_ofVariables _

theorem overlay (h : Doubles memory process) (set : Variables) :
    Doubles (memory.overlay set) (process.overlay set) := by
  obtain ⟨vars, rfl, rfl⟩ := h.exists_eq
  have hcontents : Environment.ofVariables (vars ∪ set) =
      Environment.ofVariables vars ∪ Environment.ofVariables set :=
    contents_overlay (.memory vars) set
  rw [Store.overlay, Store.overlay, ← hcontents]
  exact doubles_ofVariables _

theorem setIfAbsent (h : Doubles memory process) (hname : Environment.validName name = true)
    (value : String) :
    ∃ written memory' process', memory.setIfAbsent name value = .ok (written, memory') ∧
      process.setIfAbsent name value = .ok (written, process') ∧ Doubles memory' process' := by
  obtain ⟨hmemory, hprocess⟩ := h.accepts_iff.mpr hname
  rw [setIfAbsent_eq, setIfAbsent_eq, if_pos hmemory, if_pos hprocess, ← h.has_eq hname]
  split
  · exact ⟨false, memory, process, rfl, rfl, h⟩
  · exact ⟨true, _, _, rfl, rfl, h.write name value⟩

/-- Each store may visit the variables in an order of its own. -/
theorem merge (h : Doubles memory process) {secrets : Variables}
    (hnames : ∀ name ∈ secrets, Environment.validName name = true) (first second : Visiting) :
    (memory.merge secrets first).result = (process.merge secrets second).result ∧
      Doubles (memory.merge secrets first).store (process.merge secrets second).store := by
  obtain ⟨set, hset, hadds⟩ := merge_of_accepts first fun name hname =>
    (h.accepts_iff.mpr (hnames name hname)).1
  obtain ⟨other, hother, haddsOther⟩ := merge_of_accepts second fun name hname =>
    (h.accepts_iff.mpr (hnames name hname)).2
  -- both write what is absent from the same contents
  have hsame : set = other := by rw [hadds.restricted, haddsOther.restricted, h.contents_eq]
  subst hsame
  rw [hset, hother, hadds.union, haddsOther.union]
  exact ⟨rfl, h.overlay set⟩

end Doubles

end Store

/-! ### Fetches, loads and attempts -/

/-- The names in every answer are valid. -/
def Executor.AnswersValidNames (executor : Executor) : Prop :=
  ∀ call output vars, executor call = .ok output →
    Resolver.readOutput output.stdout = .ok vars →
      ∀ name ∈ vars, Environment.validName name = true

/-- No dollar stands in the override file of a request. -/
def Request.WithoutDollar (request : Request) (files : FileTree) : Prop :=
  ∀ path content readable executable, request.overrideFile = some path →
    files.find path = .ok (.file content readable executable) → UInt8.ofNat '$'.toNat ∉ content

theorem Request.withoutDollar_of_none {request : Request} {files : FileTree}
    (h : request.overrideFile = none) : request.WithoutDollar files := by
  intro path content readable executable hpath
  rw [h] at hpath
  cases hpath

namespace Loader

variable {loader : Loader} {calling : Calling} {executor : Executor} {around : Surroundings}
  {memory process : Store} {request : Request}

/-- Without a dollar the file is read alike, whatever the environment. -/
theorem overrideFile_eq_of_withoutDollar (h : request.WithoutDollar around.files)
    (first second : Store) :
    overrideFile around first request = overrideFile around second request := by
  unfold overrideFile
  cases hpath : request.overrideFile with
  | none => rfl
  | some path =>
      have hread (env₁ env₂ : Environment) : OverrideFile.read around.files env₁ path =
          OverrideFile.read around.files env₂ path := by
        cases hfind : around.files.find path with
        | error fault => simp only [OverrideFile.read, hfind]
        | ok node =>
            cases node with
            | file content readable executable =>
                exact OverrideFile.read_eq_of_no_dollar hfind (h path _ _ _ hpath hfind) env₁ env₂
            | directory => simp only [OverrideFile.read, hfind]
            | program name => simp only [OverrideFile.read, hfind]
      simp only [hread (first.ambient around.env) (second.ambient around.env)]

/-- A fetch asks both stores the same and is told the same. -/
theorem fetch_eq_of_doubles (h : Store.Doubles memory process)
    (hfile : request.WithoutDollar around.files) :
    loader.fetch calling executor around memory request =
      loader.fetch calling executor around process request := by
  have hcached : memory.has Names.shouldCache = process.has Names.shouldCache :=
    h.has_eq (by decide)
  have hcredential : memory.value? Names.credential = process.value? Names.credential :=
    h.value?_eq (by decide)
  have hoptions : loader.optionsFor memory request = loader.optionsFor process request := by
    simp only [optionsFor, cacheFor, hcached]
  have hplan : loader.plan around memory request = loader.plan around process request := by
    rw [plan, plan, overrideFile_eq_of_withoutDollar hfile memory process, hcredential, hoptions,
      h.snapshot_eq]
  rw [fetch_eq, fetch_eq, fetchAwaited, fetchAwaited, hplan]

/-- The names of what is fetched are those of a file or of an answer. -/
theorem validName_of_fetch {store : Store} {secrets : Variables}
    (hanswers : executor.AnswersValidNames)
    (h : (loader.fetch calling executor around store request).result = .ok secrets) :
    ∀ name ∈ secrets, Environment.validName name = true := by
  rw [fetch_eq_fetchAwaited (obstacle?_of_fetch h)] at h
  obtain ⟨way, result, hends⟩ := exists_ends loader executor around store request
  obtain ⟨-, hresult⟩ := way_and_result_of_ends hends
  rw [h] at hresult
  subst hresult
  cases hends with
  | @fileOnly file _ _ read _ _ _ =>
      intro name hname
      have herased := Variables.mem_of_mem_permitted hname
      have hmem : name ∈ file.vars := Std.ExtTreeMap.mem_of_mem_erase herased
      rcases read with ⟨-, hnone⟩ | ⟨path, given, -, hread, hgiven⟩
      · cases hnone
      · cases hgiven
        exact OverrideFile.validName_of_read hread name hmem
  | @fetched text vars answers gives =>
      obtain ⟨credential, output, -, hran, -, hstdout⟩ := answers
      have hread : Resolver.readOutput output.stdout = .ok vars := by
        rw [hstdout, Resolver.readOutput, Utf8.decode_encode]
        exact Resolver.decodeTrimmed_of_gives gives
      intro name hname
      exact hanswers _ output vars hran hread name (Variables.mem_of_mem_permitted hname)

theorem load_of_doubles (loader : Loader) (calling : Calling) (h : Store.Doubles memory process)
    (hfile : request.WithoutDollar around.files) (hanswers : executor.AnswersValidNames)
    (first second : Visiting) :
    let loaded₁ := loader.load calling executor around memory request first
    let loaded₂ := loader.load calling executor around process request second
    loaded₁.result = loaded₂.result ∧ loaded₁.calls = loaded₂.calls ∧
      Store.Doubles loaded₁.store loaded₂.store := by
  intro loaded₁ loaded₂
  have hfetch : loader.fetch calling executor around memory request =
      loader.fetch calling executor around process request := fetch_eq_of_doubles h hfile
  simp only [loaded₁, loaded₂, load_eq, ← hfetch]
  cases hresult : (loader.fetch calling executor around memory request).result with
  | error error => exact ⟨rfl, rfl, h⟩
  | ok secrets =>
      obtain ⟨hmerged, hstores⟩ := h.merge (validName_of_fetch hanswers hresult) first second
      exact ⟨hmerged, rfl, hstores⟩

end Loader

namespace Autoload

variable {memory process : Store}

theorem run_of_doubles (h : Store.Doubles memory process) {executor : Executor}
    (hanswers : executor.AnswersValidNames) (hasRun : Bool) (calling : Calling)
    (around : Surroundings) (loader : Except Error Loader) (first second : Visiting) :
    let attempt₁ := run hasRun calling executor around memory loader first
    let attempt₂ := run hasRun calling executor around process loader second
    attempt₁.result = attempt₂.result ∧ attempt₁.loaderAsked = attempt₂.loaderAsked ∧
      attempt₁.calls = attempt₂.calls ∧ attempt₁.hasRun = attempt₂.hasRun ∧
        Store.Doubles attempt₁.store attempt₂.store := by
  intro attempt₁ attempt₂
  have hvalue : memory.value? Names.disableAutoload = process.value? Names.disableAutoload :=
    h.value?_eq (by decide)
  have hcached : memory.has Names.shouldCache = process.has Names.shouldCache :=
    h.has_eq (by decide)
  have hswitch : isDisabled memory = isDisabled process := by rw [isDisabled, isDisabled, hvalue]
  have hrequest : requestFor memory = requestFor process := by rw [requestFor, requestFor, hcached]
  simp only [attempt₁, attempt₂, run_eq, hswitch]
  split
  · exact ⟨rfl, rfl, rfl, rfl, h⟩
  split
  · exact ⟨rfl, rfl, rfl, rfl, h⟩
  cases loader with
  | error error => exact ⟨rfl, rfl, rfl, rfl, h⟩
  | ok loader =>
      have hfile : (requestFor process).WithoutDollar around.files :=
        Request.withoutDollar_of_none rfl
      obtain ⟨hresult, hcalls, hstores⟩ :=
        Loader.load_of_doubles loader calling h hfile hanswers first second
      simp only [loadWith, hrequest, hresult, hcalls, true_and]
      exact hstores

end Autoload

/-! ### Whole runs -/

/-- What is asked of a store, or done with it. -/
inductive Operation where
  /-- The value of a variable is asked for. -/
  | value (name : String)
  /-- It is asked whether a variable is there. -/
  | presence (name : String)
  /-- All variables are asked for. -/
  | snapshot
  /-- A program does something with the store. -/
  | act (action : Action)

/-- All that comes back from an operation. -/
inductive Reply where
  | value (value : Option String)
  | presence (present : Bool)
  | variables (vars : Variables)
  | written (result : Except Error Bool)
  | merged (result : Except Error Variables)
  | fetched (result : Except Error Variables) (calls : List Invocation)
  | loaded (result : Except Error Variables) (calls : List Invocation)
  | attempted (result : Except Error Autoload.Outcome) (loaderAsked : Bool)
      (calls : List Invocation)
  | nothing

/-- The same action with its variables visited in the given order. -/
def Action.visitedBy (visiting : Visiting) : Action → Action
  | .load loader calling executor around request _ =>
    .load loader calling executor around request visiting
  | .autoload loader calling executor around _ => .autoload loader calling executor around visiting
  | .merge secrets _ => .merge secrets visiting
  | .fetch loader calling executor around request => .fetch loader calling executor around request
  | .setIfAbsent name value => .setIfAbsent name value
  | .reset => .reset

/-- An action has valid names only, and nothing to do with the environment of the process beside its
store. -/
def Action.Proper : Action → Prop
  | .fetch _ _ _ around request => request.WithoutDollar around.files
  | .load _ _ executor around request _ =>
    request.WithoutDollar around.files ∧ executor.AnswersValidNames
  | .autoload _ _ executor _ _ => executor.AnswersValidNames
  | .merge secrets _ => ∀ name ∈ secrets, Environment.validName name = true
  | .setIfAbsent name _ => Environment.validName name = true
  | .reset => True

/-- An operation asks for a valid name, or is such an action. -/
def Operation.Proper : Operation → Prop
  | .value name => Environment.validName name = true
  | .presence name => Environment.validName name = true
  | .snapshot => True
  | .act action => action.Proper

namespace Usage

/-- What comes back from an action. -/
def reply (usage : Usage) : Action → Reply
  | .fetch loader calling executor around request =>
    let fetched := loader.fetch calling executor around usage.store request
    .fetched fetched.result fetched.calls
  | .load loader calling executor around request visiting =>
    let loaded := loader.load calling executor around usage.store request visiting
    .loaded loaded.result loaded.calls
  | .autoload loader calling executor around visiting =>
    let attempt := Autoload.run usage.hasRun calling executor around usage.store loader visiting
    .attempted attempt.result attempt.loaderAsked attempt.calls
  | .merge secrets visiting => .merged (usage.store.merge secrets visiting).result
  | .setIfAbsent name value => .written ((usage.store.setIfAbsent name value).map (·.1))
  | .reset => .nothing

/-- What comes back from an operation, and what it leaves; variables are visited in the given
order. -/
def operate (usage : Usage) (operation : Operation) (visiting : Visiting) : Reply × Usage :=
  match operation with
  | .value name => (.value (usage.store.value? name), usage)
  | .presence name => (.presence (usage.store.has name), usage)
  | .snapshot => (.variables usage.store.snapshot, usage)
  | .act action =>
    (usage.reply (action.visitedBy visiting), (usage.perform (action.visitedBy visiting)).2)

/-- The replies to a sequence of operations, each with what was left after it. -/
def trace (usage : Usage) : List (Operation × Visiting) → List (Reply × Usage)
  | [] => []
  | (operation, visiting) :: rest =>
    let next := usage.operate operation visiting
    next :: next.2.trace rest

/-- One program uses a map in memory, the other an environment of texts with the same variables, and
both have the same flag. -/
structure Doubles (memory process : Usage) : Prop where
  store : Store.Doubles memory.store process.store
  hasRun : memory.hasRun = process.hasRun

/-- Of an operation on each, both had the same reply, and what is left still goes together. -/
structure SameStep (memory process : Reply × Usage) : Prop where
  reply : memory.1 = process.1
  left : Doubles memory.2 process.2

theorem sameStep_act {memory process : Usage} (h : Doubles memory process) {action : Action}
    (hproper : action.Proper) (first second : Visiting) :
    SameStep (memory.operate (.act action) first) (process.operate (.act action) second) := by
  obtain ⟨hstore, hflag⟩ := h
  cases action with
  | fetch loader calling executor around request =>
      have hfetch : loader.fetch calling executor around memory.store request =
          loader.fetch calling executor around process.store request :=
        Loader.fetch_eq_of_doubles hstore hproper
      simp only [operate, Action.visitedBy, reply, perform, hfetch]
      exact ⟨rfl, ⟨hstore, hflag⟩⟩
  | load loader calling executor around request visiting =>
      obtain ⟨hfile, hanswers⟩ := hproper
      obtain ⟨hresult, hcalls, hstores⟩ :=
        Loader.load_of_doubles loader calling hstore hfile hanswers first second
      simp only [operate, Action.visitedBy, reply, perform, hresult, hcalls]
      exact ⟨rfl, ⟨hstores, hflag⟩⟩
  | autoload loader calling executor around visiting =>
      obtain ⟨hresult, hasked, hcalls, hrun, hstores⟩ := Autoload.run_of_doubles hstore hproper
        process.hasRun calling around loader first second
      simp only [operate, Action.visitedBy, reply, perform, hflag, hresult, hasked, hcalls, hrun]
      exact ⟨rfl, ⟨hstores, rfl⟩⟩
  | reset => exact ⟨rfl, ⟨hstore, rfl⟩⟩
  | merge secrets visiting =>
      obtain ⟨hresult, hstores⟩ := hstore.merge hproper first second
      exact ⟨congrArg Reply.merged hresult, ⟨hstores, hflag⟩⟩
  | setIfAbsent name value =>
      obtain ⟨written, memory', process', hmemory, hprocess, hstores⟩ :=
        hstore.setIfAbsent hproper value
      simp only [operate, Action.visitedBy, reply, perform, hmemory, hprocess]
      exact ⟨rfl, ⟨hstores, hflag⟩⟩

theorem sameStep_operate {memory process : Usage} (h : Doubles memory process)
    {operation : Operation} (hproper : operation.Proper) (first second : Visiting) :
    SameStep (memory.operate operation first) (process.operate operation second) := by
  cases operation with
  | value name => exact ⟨congrArg Reply.value (h.store.value?_eq hproper), h⟩
  | presence name => exact ⟨congrArg Reply.presence (h.store.has_eq hproper), h⟩
  | snapshot => exact ⟨congrArg Reply.variables h.store.snapshot_eq, h⟩
  | act action => exact sameStep_act h hproper first second

theorem sameStep_trace {memory process : Usage} (h : Doubles memory process)
    (steps : List (Operation × Visiting × Visiting)) (hproper : ∀ step ∈ steps, step.1.Proper) :
    List.Forall₂ SameStep (memory.trace (steps.map fun step => (step.1, step.2.1)))
      (process.trace (steps.map fun step => (step.1, step.2.2))) := by
  induction steps generalizing memory process with
  | nil => exact .nil
  | cons step rest ih =>
      have hstep := sameStep_operate h (hproper step List.mem_cons_self) step.2.1 step.2.2
      exact .cons hstep (ih hstep.left fun other hother =>
        hproper other (List.mem_cons_of_mem _ hother))

/-- **A map in memory stands for the environment.** If an environment holds texts only and a map in
memory the same variables, then every sequence of operations with valid names (questions, writes,
merges, fetches, loads and automatic loads, in any order, and each merge in an order of its own) is
replied to alike by both, step by step, and after every step the environment still holds texts only
and the map the same variables. -/
theorem map_stands_for_environment {vars : Variables} {env : Environment} (htext : env.IsText)
    (hsame : ∀ name value,
      vars[name]? = some value ↔ env[Utf8.encode name]? = some (Utf8.encode value))
    (hasRun : Bool) (steps : List (Operation × Visiting × Visiting))
    (hproper : ∀ step ∈ steps, step.1.Proper) :
    List.Forall₂ SameStep
      (trace ⟨.memory vars, hasRun⟩ (steps.map fun step => (step.1, step.2.1)))
      (trace ⟨.process env, hasRun⟩ (steps.map fun step => (step.1, step.2.2))) := by
  have hstart : Doubles ⟨.memory vars, hasRun⟩ ⟨.process env, hasRun⟩ :=
    ⟨.intro htext hsame, rfl⟩
  exact sameStep_trace hstart steps hproper

/-- A program that looks at a variable, writes one, merges two in either order, loads and then loads
automatically, over the environment and over a map in its place. -/
theorem map_stands_for_environment_with_one_variable :
    let vars := (∅ : Variables).insert "A" "1"
    let env := Environment.ofVariables vars
    let executor : Executor := fun _ =>
      .ok ⟨.exited 0, Utf8.encode "\x7b\"A\":\"8\",\"E\":\"5\"\x7d", []⟩
    let loader : Loader := ⟨⟨"2.4.1", .besideProgram, "a", "b", false, none⟩, "/r"⟩
    let around : Surroundings := ⟨⟨∅, []⟩, ∅⟩
    let backwards : Visiting := ⟨fun vars => vars.toList.reverse, fun _ => List.reverse_perm _⟩
    let steps : List (Operation × Visiting × Visiting) :=
      [(.value "A", .byName, .byName), (.act (.setIfAbsent "B" "2"), .byName, .byName),
        (.act (.merge (((∅ : Variables).insert "C" "3").insert "D" "4") .byName), .byName,
          backwards),
        (.act (.load loader .awaited executor around { credential := some "k" } .byName),
          backwards, .byName),
        (.act (.autoload (.ok loader) .blocking executor around .byName), .byName, .byName),
        (.snapshot, .byName, .byName)]
    let overMap := trace ⟨.memory vars, false⟩ (steps.map fun step => (step.1, step.2.1))
    let overEnv := trace ⟨.process env, false⟩ (steps.map fun step => (step.1, step.2.2))
    (∀ step ∈ steps, step.1.Proper) ∧ List.Forall₂ SameStep overMap overEnv ∧
      (overEnv.map fun step => step.2.store.snapshot.toList).getLast? =
        some [("A", "1"), ("B", "2"), ("C", "3"), ("D", "4"), ("E", "5")] := by
  intro vars env executor loader around backwards steps overMap overEnv
  have hvalid {vars : Variables} (h : vars.keys.all Environment.validName = true) :
      ∀ name ∈ vars, Environment.validName name = true := fun name hname =>
    List.all_eq_true.mp h name (Std.ExtTreeMap.mem_keys.mpr hname)
  have hmerged : ∀ name ∈ ((∅ : Variables).insert "C" "3").insert "D" "4",
      Environment.validName name = true := hvalid (by decide +kernel)
  have hanswers : executor.AnswersValidNames := by
    intro call output answer hrun hread
    cases hrun
    have hkeys : (Resolver.readOutput (Utf8.encode "\x7b\"A\":\"8\",\"E\":\"5\"\x7d")).toOption.map
        (·.keys.all Environment.validName) = some true := by
      decide +kernel
    rw [hread] at hkeys
    exact hvalid (Option.some.inj hkeys)
  have hproper : ∀ step ∈ steps, step.1.Proper := by
    simp only [steps, List.forall_mem_cons, Operation.Proper, Action.Proper]
    exact ⟨by decide, by decide, hmerged,
      ⟨Request.withoutDollar_of_none rfl, hanswers⟩, hanswers, trivial, List.forall_mem_nil _⟩
  refine ⟨hproper, ?_, by decide +kernel⟩
  exact map_stands_for_environment (Environment.isText_ofVariables vars)
    (fun _ _ => Environment.getElem?_ofVariables_encode_eq_some_iff.symm) false steps hproper

end Usage

end SecretEnv
