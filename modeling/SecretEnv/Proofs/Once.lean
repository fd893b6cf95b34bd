import Mathlib.Data.List.Induction
import Mathlib.Logic.Function.Basic
import SecretEnv.Proofs.Attempt

/-!
# Loading automatically at most once

**Between two resets the first attempt that looks at the flag goes on, and all others turn back**,
however the moves of any number of attempts and the resets come after one another
(`once_between_resets`). The flag says whether an attempt has looked at it since the last reset, and
nothing else touches it; so what becomes of the attempt that goes on does not matter to the others.
The moves are those of `Autoload.run`: an attempt that nothing comes between comes to what that says
(`System.exists_runs?_of_run`).
-/

namespace SecretEnv.Autoload

variable {ι κ : Type}

/-- Attempts that share a flag: the flag, the stores, and how far each attempt has come. -/
structure System (ι κ : Type) where
  hasRun : Bool
  stores : κ → Store
  attempts : ι → Progress

/-- What can happen next. -/
inductive Event (ι : Type) where
  /-- The flag is taken back. -/
  | reset
  /-- An attempt makes a move. -/
  | move (attempt : ι) (move : Move)

namespace System

/-- Nothing has happened, and the flag is not set. -/
def initial (stores : κ → Store) : System ι κ := ⟨false, stores, fun _ => .initial⟩

section

variable [DecidableEq ι] [DecidableEq κ] (place : ι → κ)

/-- What an attempt sees; several may have the same store. -/
def view (system : System ι κ) (attempt : ι) : View :=
  ⟨system.hasRun, system.stores (place attempt), system.attempts attempt⟩

/-- What an attempt has made of its view. -/
def update (system : System ι κ) (attempt : ι) (view : View) : System ι κ :=
  ⟨view.hasRun, Function.update system.stores (place attempt) view.store,
    Function.update system.attempts attempt view.progress⟩

/-- What an event comes to, if it can happen. -/
def step? (system : System ι κ) : Event ι → Option (System ι κ)
  | .reset => some { system with hasRun := false }
  | .move attempt move =>
    ((system.view place attempt).move? move).map (system.update place attempt)

/-- What events one after the other come to. -/
def runs? (system : System ι κ) (trace : List (Event ι)) : Option (System ι κ) :=
  trace.foldlM (step? place) system

end

end System

/-- An attempt has looked at the flag, and there was no reset after that. -/
def LookedSinceReset (trace : List (Event ι)) : Prop :=
  ∃ before attempt after, trace = before ++ .move attempt .check :: after ∧ .reset ∉ after

theorem not_lookedSinceReset_nil : ¬ LookedSinceReset ([] : List (Event ι)) := by
  rintro ⟨before, attempt, after, h, -⟩
  simp at h

/-- The last event decides, unless it is another move. -/
theorem lookedSinceReset_concat_iff {trace : List (Event ι)} {event : Event ι} :
    LookedSinceReset (trace ++ [event]) ↔
      (∃ attempt, event = .move attempt .check) ∨ (event ≠ .reset ∧ LookedSinceReset trace) := by
  constructor
  · rintro ⟨before, attempt, after, h, hafter⟩
    rcases List.eq_nil_or_concat after with rfl | ⟨others, last, rfl⟩
    · exact .inl ⟨attempt, by simpa using (List.append_inj' h rfl).2⟩
    · have hsplit : trace ++ [event] =
          (before ++ .move attempt .check :: others) ++ [last] := by simpa using h
      obtain ⟨htrace, hlast⟩ := List.append_inj' hsplit rfl
      obtain rfl : event = last := by simpa using hlast
      refine .inr ⟨?_, before, attempt, others, htrace, fun hmem => hafter (by simp [hmem])⟩
      rintro rfl
      simp at hafter
  · rintro (⟨attempt, rfl⟩ | ⟨hevent, before, attempt, after, rfl, hafter⟩)
    · exact ⟨trace, attempt, [], rfl, by simp⟩
    · exact ⟨before, attempt, after ++ [event], by simp, by simp [hafter, hevent.symm]⟩

namespace System

variable [DecidableEq ι] [DecidableEq κ] {place : ι → κ} {system next : System ι κ}

/-! ### One event -/

theorem step?_move_eq_some_iff {attempt : ι} {move : Move} :
    system.step? place (.move attempt move) = some next ↔
      ∃ view, (system.view place attempt).move? move = some view ∧
        system.update place attempt view = next :=
  Option.map_eq_some_iff

/-- The flag is set after a look at it, and stays as it is but for a reset. -/
theorem hasRun_of_step? {event : Event ι} (h : system.step? place event = some next) :
    next.hasRun = true ↔
      (∃ attempt, event = .move attempt .check) ∨ (event ≠ .reset ∧ system.hasRun = true) := by
  cases event with
  | reset =>
      cases h
      simp
  | move attempt move =>
      obtain ⟨view, hview, rfl⟩ := step?_move_eq_some_iff.mp h
      by_cases hcheck : move = .check
      · subst hcheck
        obtain ⟨-, rfl⟩ := View.move?_check_eq_some_iff.mp hview
        simp [update, View.atStage]
      · have hflag : view.hasRun = system.hasRun := View.hasRun_of_move? hview hcheck
        simp [update, hflag, hcheck]

/-- Only a merge writes. -/
theorem stores_of_step? {event : Event ι} (h : system.step? place event = some next)
    (hmerge : ∀ attempt visiting, event ≠ .move attempt (.merge visiting)) :
    next.stores = system.stores := by
  cases event with
  | reset =>
      cases h
      rfl
  | move attempt move =>
      obtain ⟨view, hview, rfl⟩ := step?_move_eq_some_iff.mp h
      have hstore : view.store = system.stores (place attempt) := by
        refine View.store_of_move? hview fun visiting heq => ?_
        exact hmerge attempt visiting (by rw [heq])
      simp [update, hstore]

/-- An event of its own is the only one that brings an attempt on. -/
theorem attempts_of_step? {event : Event ι} {attempt : ι}
    (h : system.step? place event = some next) (hevent : ∀ move, event ≠ .move attempt move) :
    next.attempts attempt = system.attempts attempt := by
  cases event with
  | reset =>
      cases h
      rfl
  | move other move =>
      obtain ⟨view, -, rfl⟩ := step?_move_eq_some_iff.mp h
      have hne : attempt ≠ other := by
        rintro rfl
        exact hevent move rfl
      simp [update, hne]

/-- An attempt that is over has no event. -/
theorem ne_move_of_ended {event : Event ι} {attempt : ι} {result : Except Error Outcome}
    (h : system.step? place event = some next)
    (hended : (system.attempts attempt).stage = .ended result) (move : Move) :
    event ≠ .move attempt move := by
  rintro rfl
  obtain ⟨view, hview, -⟩ := step?_move_eq_some_iff.mp h
  rw [View.move?_of_ended hended] at hview
  cases hview

/-- An attempt looks at the flag from the start and only then, and goes on if that is not set. -/
theorem step?_check_eq_some_iff {attempt : ι} :
    system.step? place (.move attempt .check) = some next ↔
      (system.attempts attempt).stage = .waiting ∧
        system.update place attempt ({ system.view place attempt with hasRun := true }.atStage
          (if system.hasRun then .ended (.ok .alreadyRan) else .entered)) = next := by
  rw [step?_move_eq_some_iff]
  constructor
  · rintro ⟨view, hview, rfl⟩
    obtain ⟨hstage, rfl⟩ := View.move?_check_eq_some_iff.mp hview
    exact ⟨hstage, rfl⟩
  · rintro ⟨hstage, rfl⟩
    exact ⟨_, View.move?_check_eq_some_iff.mpr ⟨hstage, rfl⟩, rfl⟩

/-- No move leads back to the start. -/
theorem stage_ne_waiting_of_step? {attempt : ι} {move : Move}
    (h : system.step? place (.move attempt move) = some next) :
    (next.attempts attempt).stage ≠ .waiting := by
  intro hwaiting
  by_cases hcheck : move = .check
  · subst hcheck
    obtain ⟨-, rfl⟩ := step?_check_eq_some_iff.mp h
    simp only [update, Function.update_self, View.atStage] at hwaiting
    split at hwaiting <;> cases hwaiting
  · obtain ⟨view, hview, rfl⟩ := step?_move_eq_some_iff.mp h
    have hproceeds := View.proceeds_of_move? hview hcheck
    simp only [update, Function.update_self] at hwaiting
    rw [hwaiting] at hproceeds
    cases hproceeds

/-- An attempt that proceeds does so after every event. -/
theorem proceeds_of_step? {event : Event ι} {attempt : ι}
    (h : system.step? place event = some next)
    (hproceeds : (system.attempts attempt).stage.proceeds = true) :
    (next.attempts attempt).stage.proceeds = true := by
  by_cases hevent : ∃ move, event = .move attempt move
  · obtain ⟨move, rfl⟩ := hevent
    by_cases hcheck : move = .check
    · -- it would have to be at the start
      subst hcheck
      rw [(step?_check_eq_some_iff.mp h).1] at hproceeds
      cases hproceeds
    · obtain ⟨view, hview, rfl⟩ := step?_move_eq_some_iff.mp h
      simpa [update] using View.proceeds_of_move? hview hcheck
  · rw [attempts_of_step? h fun move heq => hevent ⟨move, heq⟩]
    exact hproceeds

/-! ### Many events -/

theorem runs?_append {earlier later : List (Event ι)} :
    system.runs? place (earlier ++ later) = some next ↔
      ∃ middle, system.runs? place earlier = some middle ∧
        middle.runs? place later = some next := by
  simp only [runs?, List.foldlM_append]
  exact Option.bind_eq_some_iff

theorem runs?_cons {event : Event ι} {later : List (Event ι)} :
    system.runs? place (event :: later) = some next ↔
      ∃ middle, system.step? place event = some middle ∧ middle.runs? place later = some next := by
  simp only [runs?, List.foldlM_cons]
  exact Option.bind_eq_some_iff

theorem runs?_singleton {event : Event ι} :
    system.runs? place [event] = some next ↔ system.step? place event = some next := by
  rw [runs?_cons]
  simp [runs?]

/-- The flag says whether an attempt has looked at it since the last reset. -/
theorem hasRun_of_runs? {stores : κ → Store} {trace : List (Event ι)}
    (h : (initial stores).runs? place trace = some system) :
    system.hasRun = true ↔ LookedSinceReset trace := by
  induction trace using List.reverseRecOn generalizing system with
  | nil =>
      cases h
      simp [initial, not_lookedSinceReset_nil]
  | append_singleton trace event ih =>
      obtain ⟨middle, hmiddle, hstep⟩ := runs?_append.mp h
      rw [hasRun_of_step? (runs?_singleton.mp hstep), lookedSinceReset_concat_iff, ih hmiddle]

/-- An attempt at its start has made no move. -/
theorem not_mem_of_waiting {stores : κ → Store} {trace : List (Event ι)} {attempt : ι}
    (h : (initial stores).runs? place trace = some system)
    (hwaiting : (system.attempts attempt).stage = .waiting) :
    system.attempts attempt = .initial ∧ ∀ move, Event.move attempt move ∉ trace := by
  induction trace using List.reverseRecOn generalizing system with
  | nil =>
      cases h
      exact ⟨rfl, by simp⟩
  | append_singleton trace event ih =>
      obtain ⟨middle, hmiddle, hstep⟩ := runs?_append.mp h
      rw [runs?_singleton] at hstep
      have hevent : ∀ move, event ≠ .move attempt move := by
        rintro move rfl
        exact stage_ne_waiting_of_step? hstep hwaiting
      rw [attempts_of_step? hstep hevent] at hwaiting ⊢
      obtain ⟨hinitial, hnone⟩ := ih hmiddle hwaiting
      exact ⟨hinitial, fun move => by simp [hnone move, (hevent move).symm]⟩

/-- An attempt that is over makes no move any more. -/
theorem attempts_of_ended {trace : List (Event ι)} {attempt : ι}
    {result : Except Error Outcome} (h : system.runs? place trace = some next)
    (hended : (system.attempts attempt).stage = .ended result) :
    next.attempts attempt = system.attempts attempt ∧ ∀ move, Event.move attempt move ∉ trace := by
  induction trace generalizing system with
  | nil =>
      cases h
      exact ⟨rfl, by simp⟩
  | cons event later ih =>
      obtain ⟨middle, hstep, hlater⟩ := runs?_cons.mp h
      have hevent := ne_move_of_ended hstep hended
      have hsame := attempts_of_step? hstep hevent
      obtain ⟨hnext, hnone⟩ := ih hlater (by rwa [hsame])
      exact ⟨hnext.trans hsame, fun move => by simp [hnone move, (hevent move).symm]⟩

/-- Without a move of its own an attempt stays as it is. -/
theorem attempts_of_runs? {trace : List (Event ι)} {attempt : ι}
    (h : system.runs? place trace = some next) (hnone : ∀ move, Event.move attempt move ∉ trace) :
    next.attempts attempt = system.attempts attempt := by
  induction trace generalizing system with
  | nil =>
      cases h
      rfl
  | cons event later ih =>
      obtain ⟨middle, hstep, hlater⟩ := runs?_cons.mp h
      have hevent : ∀ move, event ≠ .move attempt move := by
        rintro move rfl
        exact hnone move List.mem_cons_self
      rw [ih hlater fun move hmem => hnone move (List.mem_cons_of_mem event hmem),
        attempts_of_step? hstep hevent]

theorem proceeds_of_runs? {trace : List (Event ι)} {attempt : ι}
    (h : system.runs? place trace = some next)
    (hproceeds : (system.attempts attempt).stage.proceeds = true) :
    (next.attempts attempt).stage.proceeds = true := by
  induction trace generalizing system with
  | nil =>
      cases h
      exact hproceeds
  | cons event later ih =>
      obtain ⟨middle, hstep, hlater⟩ := runs?_cons.mp h
      exact ih hlater (proceeds_of_step? hstep hproceeds)

/-! ### Moves that nothing comes between -/

theorem update_view (system : System ι κ) (attempt : ι) :
    system.update place attempt (system.view place attempt) = system := by
  simp [update, view]

theorem view_update (attempt : ι) (after : View) :
    (system.update place attempt after).view place attempt = after := by
  simp [update, view]

theorem update_update (attempt : ι) (first second : View) :
    (system.update place attempt first).update place attempt second =
      system.update place attempt second := by
  simp [update]

/-- Moves of one attempt that nothing comes between are made in its own view. -/
theorem runs?_of_moves? {attempt : ι} {moves : List Move} {after : View}
    (h : (system.view place attempt).moves? moves = some after) :
    system.runs? place (moves.map (.move attempt)) = some (system.update place attempt after) := by
  induction moves generalizing system with
  | nil =>
      cases h
      rw [update_view]
      rfl
  | cons move moves ih =>
      rw [View.moves?, List.foldlM_cons] at h
      obtain ⟨middle, hmove, hrest⟩ := Option.bind_eq_some_iff.mp h
      have hstep : system.step? place (.move attempt move) =
          some (system.update place attempt middle) := by
        rw [step?, hmove, Option.map_some]
      have hlater : (system.update place attempt middle).runs? place (moves.map (.move attempt)) =
          some ((system.update place attempt middle).update place attempt after) :=
        ih (by rwa [view_update])
      rw [update_update] at hlater
      rw [List.map_cons, runs?_cons]
      exact ⟨_, hstep, hlater⟩

/-- An attempt at its start that nothing comes between makes its moves up to some point, and then it
is over and has come to what `run` says. -/
theorem exists_runs?_of_run {attempt : ι} (h : system.attempts attempt = .initial)
    (calling : Calling) (executor : Executor) (around : Surroundings)
    (loader : Except Error Loader) (visiting : Visiting) :
    let ran := run system.hasRun calling executor around (system.stores (place attempt)) loader
      visiting
    ∃ moves, moves <+: course calling executor around loader visiting ∧
      system.runs? place (moves.map (.move attempt)) = some (system.update place attempt
        ⟨ran.hasRun, ran.store, ⟨.ended ran.result, ran.loaderAsked, ran.calls⟩⟩) := by
  intro ran
  obtain ⟨moves, hprefix, hmoves⟩ := moves_of_run system.hasRun calling executor around
    (system.stores (place attempt)) loader visiting
  exact ⟨moves, hprefix, runs?_of_moves? (by rwa [view, h])⟩

end System

/-! ### Looks at the flag -/

section

variable [DecidableEq ι] [DecidableEq κ]

/-- An attempt comes too late: between the events before and after, it looks at the flag in vain. -/
structure TurnsBack (place : ι → κ) (stores : κ → Store) (before : List (Event ι)) (attempt : ι)
    (after : List (Event ι)) (system : System ι κ) : Prop where
  /-- It says that an earlier one went through, and has neither a loader nor run the resolver. -/
  ended : system.attempts attempt = ⟨.ended (.ok .alreadyRan), false, []⟩
  /-- It makes no other move. -/
  alone : ∀ move, Event.move attempt move ∉ before ++ after
  /-- Its one move leaves the stores alone. -/
  stores : ∀ middle looked, (System.initial stores).runs? place before = some middle →
    middle.step? place (.move attempt .check) = some looked → looked.stores = middle.stores

/-- An attempt comes first: between the events before and after, it looks at the flag and enters. -/
structure GoesOn (place : ι → κ) (stores : κ → Store) (before : List (Event ι)) (attempt : ι)
    (after : List (Event ι)) (system : System ι κ) : Prop where
  /-- It has entered as soon as it has looked. -/
  enters : ∀ looked,
    (System.initial stores).runs? place (before ++ [.move attempt .check]) = some looked →
      (looked.attempts attempt).stage = .entered
  /-- It never comes to say that an earlier one went through. -/
  proceeds : (system.attempts attempt).stage.proceeds = true
  /-- Whatever becomes of it, the flag stays set until a reset. -/
  flag : .reset ∉ after → system.hasRun = true

variable {place : ι → κ} {stores : κ → Store} {before after : List (Event ι)} {attempt : ι}
  {system : System ι κ}

/-- A look at the flag, taken out of a run. -/
theorem exists_look
    (h : (System.initial stores).runs? place (before ++ .move attempt .check :: after) =
      some system) :
    ∃ middle looked, (System.initial stores).runs? place before = some middle ∧
      middle.step? place (.move attempt .check) = some looked ∧
      looked.runs? place after = some system := by
  obtain ⟨middle, hbefore, hrest⟩ := System.runs?_append.mp h
  obtain ⟨looked, hlook, hafter⟩ := System.runs?_cons.mp hrest
  exact ⟨middle, looked, hbefore, hlook, hafter⟩

theorem turnsBack_of_lookedSinceReset
    (h : (System.initial stores).runs? place (before ++ .move attempt .check :: after) =
      some system) (hlooked : LookedSinceReset before) :
    TurnsBack place stores before attempt after system := by
  obtain ⟨middle, looked, hbefore, hlook, hafter⟩ := exists_look h
  have hstores : looked.stores = middle.stores := System.stores_of_step? hlook (by simp)
  obtain ⟨hwaiting, hafterLook⟩ := System.step?_check_eq_some_iff.mp hlook
  obtain ⟨hinitial, hnone⟩ := System.not_mem_of_waiting hbefore hwaiting
  have hflag := (System.hasRun_of_runs? hbefore).mpr hlooked
  -- after the look it is over, so that it stays as it is
  have hstage : looked.attempts attempt = ⟨.ended (.ok .alreadyRan), false, []⟩ := by
    rw [← hafterLook]
    simp [System.update, View.atStage, System.view, hinitial, hflag, Progress.initial]
  obtain ⟨hsame, hlater⟩ := System.attempts_of_ended hafter (by rw [hstage])
  refine ⟨hsame.trans hstage, fun move => by simp [hnone move, hlater move], ?_⟩
  intro first second hfirst hsecond
  rw [hbefore] at hfirst
  cases hfirst
  rw [hlook] at hsecond
  cases hsecond
  exact hstores

theorem goesOn_of_not_lookedSinceReset
    (h : (System.initial stores).runs? place (before ++ .move attempt .check :: after) =
      some system) (hlooked : ¬ LookedSinceReset before) :
    GoesOn place stores before attempt after system := by
  obtain ⟨middle, looked, hbefore, hlook, hafter⟩ := exists_look h
  have hrun : (System.initial stores).runs? place (before ++ [.move attempt .check]) =
      some looked :=
    System.runs?_append.mpr ⟨middle, hbefore, System.runs?_singleton.mpr hlook⟩
  have hflag : middle.hasRun = false := by
    simpa using mt (System.hasRun_of_runs? hbefore).mp hlooked
  have hentered : (looked.attempts attempt).stage = .entered := by
    obtain ⟨-, rfl⟩ := System.step?_check_eq_some_iff.mp hlook
    simp [System.update, View.atStage, hflag]
  refine ⟨?_, ?_, ?_⟩
  · intro other hother
    rw [hrun] at hother
    cases hother
    exact hentered
  · exact System.proceeds_of_runs? hafter (by rw [hentered]; rfl)
  · exact fun hreset => (System.hasRun_of_runs? h).mpr ⟨before, attempt, after, rfl, hreset⟩

/-- **At most once between resets.** However moves of attempts and resets come after one another:
the flag is set exactly if an attempt has looked at it since the last reset; an attempt that looks
goes on if it is the first to do so since then, and turns back if it is not; and only an attempt
that has loaded gives variables back. The moves are those of the program: an attempt that nothing
comes between finds the flag as it is, set or not, and comes to what `run` says. -/
theorem once_between_resets (place : ι → κ) (stores : κ → Store) {trace : List (Event ι)}
    {system : System ι κ} (h : (System.initial stores).runs? place trace = some system) :
    (system.hasRun = true ↔ LookedSinceReset trace) ∧
    (∀ before attempt after, trace = before ++ .move attempt .check :: after →
      (LookedSinceReset before → TurnsBack place stores before attempt after system) ∧
      (¬ LookedSinceReset before → GoesOn place stores before attempt after system)) ∧
    (∀ attempt, (system.attempts attempt).written ≠ ∅ →
      ∃ vars, (system.attempts attempt).stage = .ended (.ok (.loaded vars))) ∧
    ∀ attempt, system.attempts attempt = .initial → ∀ calling executor around loader visiting,
      let ran := run system.hasRun calling executor around (system.stores (place attempt)) loader
        visiting
      ∃ moves, moves <+: course calling executor around loader visiting ∧
        system.runs? place (moves.map (.move attempt)) = some (system.update place attempt
          ⟨ran.hasRun, ran.store, ⟨.ended ran.result, ran.loaderAsked, ran.calls⟩⟩) := by
  refine ⟨System.hasRun_of_runs? h, ?_, ?_, ?_⟩
  · rintro before attempt after rfl
    exact ⟨turnsBack_of_lookedSinceReset h, goesOn_of_not_lookedSinceReset h⟩
  · intro attempt hwritten
    exact exists_loaded_of_written hwritten
  · intro attempt hinitial calling executor around loader visiting
    exact System.exists_runs?_of_run hinitial calling executor around loader visiting

/-- Three attempts share a flag and a store. The first looks, the second looks and turns back, and
after a reset the third looks, before the first asks for its loader, fetches and merges; it has
loaded in the end, and the third still goes on. A fourth, which nothing comes between, then finds
the flag set and says so; made from the start instead, it loads. -/
theorem second_of_three_turns_back :
    let loader : Loader := ⟨⟨"2.4.1", .besideProgram, "a", "b", false, none⟩, "/r"⟩
    let executor : Executor := fun _ => .ok ⟨.exited 0, Utf8.encode "\x7b\"B\":\"2\"\x7d", []⟩
    let around : Surroundings := ⟨⟨∅, []⟩, ∅⟩
    let first : List (Event Nat) := [.move 0 .check]
    let reset : List (Event Nat) := [.move 0 .check, .move 1 .check, .reset]
    let load : List (Event Nat) := [.move 0 .readSwitch, .move 0 .readCache,
      .move 0 (.askLoader (.ok loader)), .move 0 (.fetch .blocking executor around),
      .move 0 (.merge .byName)]
    let place : Nat → Unit := fun _ => ()
    let stores : Unit → Store := fun _ => .memory (Variables.ofEntries [("ENVKEY", "k")])
    let start : System Nat Unit := .initial stores
    ∃ system, start.runs? place (reset ++ .move 2 .check :: load) = some system ∧
      system.hasRun = true ∧ (system.stores ()).value? "B" = some "2" ∧
      (∃ vars, (system.attempts 0).stage = .ended (.ok (.loaded vars))) ∧
      LookedSinceReset first ∧
      TurnsBack place stores first 1 (.reset :: .move 2 .check :: load) system ∧
      GoesOn place stores [] 0 (.move 1 .check :: .reset :: .move 2 .check :: load) system ∧
      GoesOn place stores reset 2 load system ∧
      (∃ moves : List Move, system.runs? place (moves.map (.move 3)) = some (system.update place 3
        ⟨true, system.stores (), ⟨.ended (.ok .alreadyRan), false, []⟩⟩)) ∧
      ∃ (moves : List Move) (after : System Nat Unit),
        start.runs? place (moves.map (.move 3)) = some after ∧ after.hasRun = true ∧
          (after.stores ()).value? "B" = some "2" := by
  intro loader executor around first reset load place stores start
  have hends : (start.runs? place (reset ++ .move 2 .check :: load)).map
      (fun system => ((system.attempts 0).written["B"]?, (system.stores ()).value? "B")) =
        some (some "2", some "2") := by decide +kernel
  obtain ⟨system, hsystem, hvalues⟩ := Option.map_eq_some_iff.mp hends
  obtain ⟨hwritten, hvalue⟩ := Prod.mk.inj hvalues
  have hnotEmpty : (system.attempts 0).written ≠ ∅ := by
    intro hempty
    rw [hempty] at hwritten
    simp at hwritten
  have hfirst : LookedSinceReset first := ⟨[], 0, [], rfl, by simp⟩
  have hreset : ¬ LookedSinceReset reset := by
    rw [show reset = [.move 0 .check, .move 1 .check] ++ [.reset] from rfl,
      lookedSinceReset_concat_iff]
    simp
  have hlast : LookedSinceReset (reset ++ .move 2 .check :: load) :=
    ⟨reset, 2, load, rfl, by simp [load]⟩
  obtain ⟨hflag, hlooks, hloaded, halone⟩ := once_between_resets place stores hsystem
  have hset : system.hasRun = true := hflag.mpr hlast
  have hfourth : system.attempts 3 = .initial :=
    System.attempts_of_runs? hsystem (by simp [reset, load])
  obtain ⟨moves, -, hmoves⟩ := halone 3 hfourth .blocking executor around (.ok loader) .byName
  rw [hset, run_eq, if_pos rfl] at hmoves
  obtain ⟨-, -, -, hfromStart⟩ := once_between_resets place stores
    (show start.runs? place [] = some start from rfl)
  obtain ⟨others, -, hothers⟩ := hfromStart 3 rfl .blocking executor around (.ok loader) .byName
  exact ⟨system, hsystem, hset, hvalue, hloaded 0 hnotEmpty, hfirst, (hlooks first 1 _ rfl).1 hfirst,
    (hlooks [] 0 _ rfl).2 not_lookedSinceReset_nil, (hlooks reset 2 load rfl).2 hreset,
    ⟨moves, hmoves⟩, others, _, hothers, by decide +kernel, by decide +kernel⟩

end

end SecretEnv.Autoload
