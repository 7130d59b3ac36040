import PixelBuffer.Event

/-!
# The platform and the log

A `World` is the platform together with the log written so far. An `Act` changes both: `onPlatform`
does something on the platform and `log` adds one event.
-/

namespace PixelBuffer

/-- The platform and the events logged so far, oldest first. -/
structure World where
  platform : Platform := {}
  log : Array Event := #[]

/-- Something done on the platform and logged. -/
abbrev Act := StateM World

namespace Act

/-- Does something on the platform and answers what it answers. -/
def onPlatform {α : Type} (action : Platform → α × Platform) : Act α := fun world =>
  let (answer, platform) := action world.platform
  (answer, { world with platform := platform })

/-- Changes the platform. -/
def changePlatform (change : Platform → Platform) : Act Unit := fun world =>
  ((), { world with platform := change world.platform })

/-- Logs one event. -/
def log (event : Event) : Act Unit := fun world =>
  ((), { world with log := world.log.push event })

@[simp] theorem onPlatform_apply {α : Type} (action : Platform → α × Platform) (world : World) :
    onPlatform action world =
      ((action world.platform).1, { world with platform := (action world.platform).2 }) := rfl

@[simp] theorem changePlatform_apply (change : Platform → Platform) (world : World) :
    changePlatform change world = ((), { world with platform := change world.platform }) := rfl

@[simp] theorem log_apply (event : Event) (world : World) :
    log event world = ((), { world with log := world.log.push event }) := rfl

end Act

/-- Acting in sequence is acting the second time in the state that the first act left. -/
@[simp] theorem bind_apply {σ α β : Type} (act : StateM σ α) (next : α → StateM σ β) (state : σ) :
    (act >>= next) state = next (act state).1 (act state).2 := rfl

@[simp] theorem map_apply {σ α β : Type} (f : α → β) (act : StateM σ α) (state : σ) :
    (f <$> act) state = (f (act state).1, (act state).2) := rfl

@[simp] theorem pure_apply {σ α : Type} (value : α) (state : σ) :
    (pure value : StateM σ α) state = (value, state) := rfl

end PixelBuffer
