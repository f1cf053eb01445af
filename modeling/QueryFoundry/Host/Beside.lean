import QueryFoundry.Host

/-!
# A memory beside a host

The same host with something kept beside its state. No operation of the host looks at it or changes
it, so whoever works on the host may keep notes there.
-/

namespace QueryFoundry

variable {σ τ α : Type}

/-- An action on a host, with a memory beside its state that stays as it is. -/
def besides (action : StateM σ α) : StateM (σ × τ) α := fun state =>
  let (result, after) := action state.1
  (result, (after, state.2))

/-- Operations on libraries, with a memory beside the state of the host. -/
def ModuleLoader.beside (loader : ModuleLoader σ) : ModuleLoader (σ × τ) where
  openLibrary path := besides (loader.openLibrary path)
  callInit library symbol := besides (loader.callInit library symbol)
  callRun table := besides (loader.callRun table)
  callRowCount table handle := besides (loader.callRowCount table handle)
  callFetch table handle := besides (loader.callFetch table handle)
  callRelease table handle := besides (loader.callRelease table handle)
  closeLibrary library := besides (loader.closeLibrary library)
  finish := besides loader.finish

namespace Host

/-- A host with a memory beside its state. -/
def beside (host : Host σ) : Host (σ × τ) where
  isUnicode := host.isUnicode
  workingDirectory state := host.workingDirectory state.1
  directoryFault? state := host.directoryFault? state.1
  homeDirectory state := host.homeDirectory state.1
  searchPath state := host.searchPath state.1
  backtrace? state := host.backtrace? state.1
  ended? state := host.ended? state.1
  pathExists state := host.pathExists state.1
  isFile state := host.isFile state.1
  isDirectory state := host.isDirectory state.1
  isExecutable state := host.isExecutable state.1
  clock state := host.clock state.1
  readText path := besides (host.readText path)
  readInput := besides host.readInput
  createDirectories path := besides (host.createDirectories path)
  writeText path text := besides (host.writeText path text)
  pause delay := besides (host.pause delay)
  spawn command := besides (host.spawn command)
  poll child := besides (host.poll child)
  wait child := besides (host.wait child)
  killGroup child := besides (host.killGroup child)
  capture command := besides (host.capture command)
  log entry := besides (host.log entry)
  print text := besides (host.print text)
  loader := host.loader.beside
  clock_le_poll child state := host.clock_le_poll child state.1
  clock_add_le_pause delay state := host.clock_add_le_pause delay state.1

end Host

/-- Add a note to a list that is kept beside the state of a host. -/
def note (entry : α) : StateM (σ × List α) Unit := fun state =>
  ((), (state.1, state.2 ++ [entry]))

end QueryFoundry
