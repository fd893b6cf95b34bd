import SecretEnv.Error

/-!
# Waiting for a result

**A call either is awaited or blocks until it is done.** What is awaited is driven by whoever awaits
it. What blocks needs a runtime that drives it, which is made when it is first needed; making it may
fail, and inside something that is awaited no call may block. A call that nothing drives does
nothing at all (`Scene.run_eq`).

What the system says of the making of a runtime is given (`Scene.outside`). That a runtime is there
once it has been made is not checked again.
-/

namespace SecretEnv

/-- Where a call blocks. -/
inductive Scene where
  /-- Inside something that is awaited. -/
  | inside
  /-- Where nothing is awaited. A runtime can be made there, or there is a reason why it cannot. -/
  | outside (hindrance : Option String)
  deriving Repr, DecidableEq

/-- How the caller waits for a result. -/
inductive Calling where
  /-- The call is awaited. -/
  | awaited
  /-- The call blocks. -/
  | blocks (scene : Scene)
  deriving Repr, DecidableEq

/-- The call blocks, where nothing is awaited and a runtime can be made. -/
@[match_pattern] abbrev Calling.blocking : Calling := .blocks (.outside none)

/-- The call blocks, inside something that is awaited. -/
@[match_pattern] abbrev Calling.blockingInside : Calling := .blocks .inside

/-- The error of a call that may not block. -/
def Calling.refused : Error :=
  .configuration "cannot use block_on from within an async runtime; use the async variant"

/-- The error of a call for which no runtime can be made. -/
def Calling.noRuntime (reason : String) : Error :=
  .configuration s!"failed to create tokio runtime: {reason}"

/-- Keeps a runtime, once it has made one. -/
structure RuntimeKeeper where
  hasRuntime : Bool
  deriving Repr, DecidableEq

namespace RuntimeKeeper

/-- A keeper that has not made its runtime yet. -/
def fresh : RuntimeKeeper := ⟨false⟩

/-- The keeper with a runtime: the one it has, or one that is made now. -/
def ready (keeper : RuntimeKeeper) (hindrance : Option String) : Except Error RuntimeKeeper :=
  if keeper.hasRuntime then .ok keeper
  else
    match hindrance with
    | none => .ok ⟨true⟩
    | some reason => .error (Calling.noRuntime reason)

/-- The result of a call that is driven to its end, or what stands for it if there is no runtime. -/
def drive {α : Type} (keeper : RuntimeKeeper) (hindrance : Option String) (failed : Error → α)
    (call : Unit → α) : α × RuntimeKeeper :=
  match keeper.ready hindrance with
  | .error error => (failed error, keeper)
  | .ok keeper => (call (), keeper)

end RuntimeKeeper

namespace Scene

variable {α : Type}

/-- The result of a call that blocks, or what stands for it if it is not driven. Each call has a
keeper of its own. -/
def run (scene : Scene) (failed : Error → α) (call : Unit → α) : α :=
  match scene with
  | inside => failed Calling.refused
  | outside hindrance => (RuntimeKeeper.fresh.drive hindrance failed call).1

/-- Why a call is not driven, if it is not. -/
def obstacle? : Scene → Option Error
  | inside => some Calling.refused
  | outside hindrance => hindrance.map Calling.noRuntime

/-- A call is made, and nothing is done about it where there is an obstacle. -/
theorem run_eq (scene : Scene) (failed : Error → α) (call : Unit → α) :
    scene.run failed call =
      match scene.obstacle? with
      | some error => failed error
      | none => call () := by
  cases scene with
  | inside => rfl
  | outside hindrance => cases hindrance <;> rfl

end Scene

namespace Calling

/-- Why a call does not go ahead, if it does not. -/
def obstacle? : Calling → Option Error
  | awaited => none
  | blocks scene => scene.obstacle?

/-- The result of a call that may fail. -/
def attempt {α : Type} (calling : Calling) (call : Unit → Except Error α) : Except Error α :=
  match calling with
  | awaited => call ()
  | blocks scene => scene.run .error call

end Calling

end SecretEnv
