import SecretEnv.Proofs.Load

/-!
# Attempts at automatic loading, move by move

**An attempt is six moves, and between two of them anything may happen elsewhere.** It looks at the
flag and sets it, in one move; it reads the two switches in its store; it asks for a loader; it
fetches; it merges. Each move finds the flag and the store as they are by then. An attempt that
nothing comes between is `Autoload.run` (`moves_of_run`).
-/

namespace SecretEnv.Autoload

/-- How far an attempt has come. -/
inductive Stage where
  /-- It has not looked at the flag. -/
  | waiting
  /-- It has set the flag, and found it not set before. -/
  | entered
  /-- It has found that loading is not switched off. -/
  | allowed
  /-- It knows what it asks for. -/
  | prepared (request : Request)
  /-- It has a loader. -/
  | equipped (request : Request) (loader : Loader)
  /-- It has fetched variables. -/
  | fetched (secrets : Variables)
  /-- It is over. -/
  | ended (result : Except Error Outcome)

/-- Whether an attempt is past the flag: it has looked, and has not come too late. -/
def Stage.proceeds : Stage → Bool
  | .waiting => false
  | .ended (.ok .alreadyRan) => false
  | _ => true

/-- An attempt so far: its stage, whether it has asked for a loader, and what it has run. -/
structure Progress where
  stage : Stage
  loaderAsked : Bool
  calls : List Invocation

/-- An attempt that has done nothing. -/
def Progress.initial : Progress := ⟨.waiting, false, []⟩

/-- The variables that an attempt gives back as written by it. -/
def Progress.written (progress : Progress) : Variables :=
  match progress.stage with
  | .ended (.ok outcome) => outcome.written
  | _ => ∅

/-- Only an attempt that has loaded gives variables back. -/
theorem exists_loaded_of_written {progress : Progress} (h : progress.written ≠ ∅) :
    ∃ vars, progress.stage = .ended (.ok (.loaded vars)) := by
  unfold Progress.written at h
  split at h
  case h_1 outcome hstage =>
    cases outcome with
    | loaded vars => exact ⟨vars, hstage⟩
    | disabled => exact absurd rfl h
    | alreadyRan => exact absurd rfl h
  case h_2 => exact absurd rfl h

/-- One move of an attempt, with what it meets outside. -/
inductive Move where
  /-- It looks at the flag and sets it. -/
  | check
  /-- It reads whether loading is switched off. -/
  | readSwitch
  /-- It reads whether the cache may be used. -/
  | readCache
  /-- It asks for a loader and gets this answer. -/
  | askLoader (answer : Except Error Loader)
  /-- It fetches. -/
  | fetch (calling : Calling) (executor : Executor) (around : Surroundings)
  /-- It merges, in this order. -/
  | merge (visiting : Visiting)

/-- What a move of an attempt can read and change: the flag, its own store and its progress. -/
structure View where
  hasRun : Bool
  store : Store
  progress : Progress

namespace View

/-- The same view, with the attempt at another stage. -/
def atStage (view : View) (stage : Stage) : View :=
  { view with progress := { view.progress with stage := stage } }

/-- What a move comes to, if it is the one that the attempt makes next. -/
def move? (view : View) (move : Move) : Option View :=
  match view.progress.stage, move with
  | .waiting, .check =>
    let (first, hasRun) := checkAndSet view.hasRun
    some ({ view with hasRun := hasRun }.atStage
      (if first then .entered else .ended (.ok .alreadyRan)))
  | .entered, .readSwitch =>
    some (view.atStage (if isDisabled view.store then .ended (.ok .disabled) else .allowed))
  | .allowed, .readCache => some (view.atStage (.prepared (requestFor view.store)))
  | .prepared request, .askLoader answer =>
    let stage := match answer with
      | .error error => .ended (.error error)
      | .ok loader => .equipped request loader
    some { view with progress := ⟨stage, true, view.progress.calls⟩ }
  | .equipped request loader, .fetch calling executor around =>
    let fetched := loader.fetch calling executor around view.store request
    let stage := match fetched.result with
      | .error error => .ended (.error error)
      | .ok secrets => .fetched secrets
    let calls := view.progress.calls ++ fetched.calls
    some { view with progress := ⟨stage, view.progress.loaderAsked, calls⟩ }
  | .fetched secrets, .merge visiting =>
    let merged := view.store.merge secrets visiting
    some ({ view with store := merged.store }.atStage (.ended (merged.result.map .loaded)))
  | _, _ => none

/-- What moves one after the other come to. -/
def moves? (view : View) (moves : List Move) : Option View := moves.foldlM move? view

/-! ### A move at its stage

Unfolding `move?` for a whole attempt tries every one of its cases for every move; here is what each
move comes to at the stage that it belongs to. -/

section

variable (hasRun : Bool) (store : Store) (asked : Bool) (calls : List Invocation)

@[simp] theorem move?_check : move? ⟨hasRun, store, ⟨.waiting, asked, calls⟩⟩ .check =
    some ⟨true, store, ⟨if hasRun then .ended (.ok .alreadyRan) else .entered, asked, calls⟩⟩ := by
  cases hasRun <;> rfl

@[simp] theorem move?_readSwitch : move? ⟨hasRun, store, ⟨.entered, asked, calls⟩⟩ .readSwitch =
    some ⟨hasRun, store,
      ⟨if isDisabled store then .ended (.ok .disabled) else .allowed, asked, calls⟩⟩ :=
  rfl

@[simp] theorem move?_readCache : move? ⟨hasRun, store, ⟨.allowed, asked, calls⟩⟩ .readCache =
    some ⟨hasRun, store, ⟨.prepared (requestFor store), asked, calls⟩⟩ :=
  rfl

@[simp] theorem move?_askLoader (request : Request) (answer : Except Error Loader) :
    move? ⟨hasRun, store, ⟨.prepared request, asked, calls⟩⟩ (.askLoader answer) =
      some ⟨hasRun, store, ⟨match answer with
        | .error error => .ended (.error error)
        | .ok loader => .equipped request loader, true, calls⟩⟩ :=
  rfl

@[simp] theorem move?_fetch (request : Request) (loader : Loader) (calling : Calling)
    (executor : Executor) (around : Surroundings) :
    move? ⟨hasRun, store, ⟨.equipped request loader, asked, calls⟩⟩
        (.fetch calling executor around) =
      let fetched := loader.fetch calling executor around store request
      some ⟨hasRun, store, ⟨match fetched.result with
        | .error error => .ended (.error error)
        | .ok secrets => .fetched secrets, asked, calls ++ fetched.calls⟩⟩ :=
  rfl

@[simp] theorem move?_merge (secrets : Variables) (visiting : Visiting) :
    move? ⟨hasRun, store, ⟨.fetched secrets, asked, calls⟩⟩ (.merge visiting) =
      let merged := store.merge secrets visiting
      some ⟨hasRun, merged.store, ⟨.ended (merged.result.map .loaded), asked, calls⟩⟩ :=
  rfl

end

/-! ### What a move can do -/

section

variable {view after : View} {move : Move}

/-- An attempt that is over makes no move. -/
theorem move?_of_ended {result : Except Error Outcome} (h : view.progress.stage = .ended result)
    (move : Move) : view.move? move = none := by
  simp [move?, h]

/-- The first move sets the flag, whatever it finds. -/
theorem move?_check_eq_some_iff :
    view.move? .check = some after ↔ view.progress.stage = .waiting ∧
      { view with hasRun := true }.atStage
        (if view.hasRun then .ended (.ok .alreadyRan) else .entered) = after := by
  unfold move?
  cases hflag : view.hasRun <;> split <;> simp_all [checkAndSet]

/-- No other move touches the flag. -/
theorem hasRun_of_move? (h : view.move? move = some after) (hcheck : move ≠ .check) :
    after.hasRun = view.hasRun := by
  unfold move? at h
  split at h
  case h_1 => exact absurd rfl hcheck
  case h_7 => cases h
  all_goals
    cases h
    rfl

/-- Only the last move touches the store. -/
theorem store_of_move? (h : view.move? move = some after)
    (hmerge : ∀ visiting, move ≠ .merge visiting) : after.store = view.store := by
  unfold move? at h
  split at h
  case h_6 => exact absurd rfl (hmerge _)
  case h_7 => cases h
  all_goals
    cases h
    rfl

/-- Every move but the first leaves an attempt among those that proceed. -/
theorem proceeds_of_move? (h : view.move? move = some after) (hcheck : move ≠ .check) :
    after.progress.stage.proceeds = true := by
  unfold move? at h
  split at h
  case h_1 => exact absurd rfl hcheck
  case h_2 =>
    cases h
    cases hdisabled : isDisabled view.store <;> simp [atStage, Stage.proceeds]
  case h_3 =>
    cases h
    rfl
  case h_4 request answer _ =>
    cases h
    cases answer <;> rfl
  case h_5 request loader calling executor around _ =>
    cases h
    simp only
    split <;> rfl
  case h_6 secrets visiting _ =>
    cases h
    simp only [atStage]
    cases (view.store.merge secrets visiting).result <;> rfl
  case h_7 => cases h

/-- An attempt that is not over can make a move, however flag and store are. -/
theorem exists_move? (h : ∀ result, view.progress.stage ≠ .ended result) :
    ∃ move, (view.move? move).isSome := by
  cases hstage : view.progress.stage with
  | waiting => exact ⟨.check, by simp [move?, hstage]⟩
  | entered => exact ⟨.readSwitch, by simp [move?, hstage]⟩
  | allowed => exact ⟨.readCache, by simp [move?, hstage]⟩
  | prepared request => exact ⟨.askLoader (.error Calling.refused), by simp [move?, hstage]⟩
  | equipped request loader =>
      exact ⟨.fetch .blocking (fun _ => .error Calling.refused) ⟨⟨∅, []⟩, ∅⟩,
        by simp [move?, hstage]⟩
  | fetched secrets => exact ⟨.merge .byName, by simp [move?, hstage]⟩
  | ended result => exact absurd hstage (h result)

end

end View

/-! ### An attempt without interruption -/

/-- All moves that an attempt may come to. -/
def course (calling : Calling) (executor : Executor) (around : Surroundings)
    (loader : Except Error Loader) (visiting : Visiting) : List Move :=
  [.check, .readSwitch, .readCache, .askLoader loader, .fetch calling executor around,
    .merge visiting]

/-- An attempt that nothing comes between makes its moves up to some point, and then it is over and
has come to what `run` says. -/
theorem moves_of_run (hasRun : Bool) (calling : Calling) (executor : Executor)
    (around : Surroundings) (store : Store) (loader : Except Error Loader) (visiting : Visiting) :
    let attempt := run hasRun calling executor around store loader visiting
    ∃ moves, moves <+: course calling executor around loader visiting ∧
      (View.mk hasRun store .initial).moves? moves =
        some ⟨attempt.hasRun, attempt.store,
          ⟨.ended attempt.result, attempt.loaderAsked, attempt.calls⟩⟩ := by
  intro attempt
  by_cases hran : hasRun = true
  · refine ⟨_, List.take_prefix 1 _, ?_⟩
    simp [course, View.moves?, Progress.initial, attempt, run_eq, hran]
  by_cases hdisabled : isDisabled store = true
  · refine ⟨_, List.take_prefix 2 _, ?_⟩
    simp [course, View.moves?, Progress.initial, attempt, run_eq, hran,
      hdisabled]
  cases loader with
  | error error =>
      refine ⟨_, List.take_prefix 4 _, ?_⟩
      simp [course, View.moves?, Progress.initial, attempt, run_eq, hran,
        hdisabled]
  | ok loader =>
      cases hfetch : (loader.fetch calling executor around store (requestFor store)).result with
      | error error =>
          refine ⟨_, List.take_prefix 5 _, ?_⟩
          simp [course, View.moves?, Progress.initial, attempt, run_eq, hran,
            hdisabled, loadWith, Loader.load_eq, hfetch, Except.map]
      | ok secrets =>
          refine ⟨_, List.take_prefix 6 _, ?_⟩
          simp [course, View.moves?, Progress.initial, attempt, run_eq, hran,
            hdisabled, loadWith, Loader.load_eq, hfetch]

end SecretEnv.Autoload
