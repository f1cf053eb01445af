import QueryFoundry.Proofs.CommandMoves
import QueryFoundry.Proofs.Trace

/-!
# Which events a command adds

On a host that writes down what it is asked, every action adds events. Which kinds of events may be
added is a preorder between the states before and after, so it is enough to know it of the
operations of the host.
-/

namespace QueryFoundry

variable {σ α : Type}

/-- Events that may be added are added to those that are written down, and no others. -/
def Adds (may : Event → Prop) (before after : σ × List Event) : Prop :=
  ∃ added, after.2 = before.2 ++ added ∧ ∀ event ∈ added, may event

instance (may : Event → Prop) : IsPreorder (σ × List Event) (Adds may) where
  refl before := ⟨[], (List.append_nil _).symm, fun _ member => absurd member List.not_mem_nil⟩
  trans first second third := by
    rintro ⟨front, second_eq, mayFront⟩ ⟨back, third_eq, mayBack⟩
    refine ⟨front ++ back, by rw [third_eq, second_eq, List.append_assoc], fun event member => ?_⟩
    exact (List.mem_append.mp member).elim (mayFront event) (mayBack event)

/-- An event of the work that generation and building are made of, but for the start of a tool. -/
def Event.IsWork : Event → Prop
  | textRead .. | inputRead _ | directoriesCreated .. | textWritten .. | paused _ | polled ..
  | waited .. | groupKilled .. | captured .. => True
  | _ => False

def Event.IsLoading : Event → Prop
  | libraryOpened .. | initCalled .. | runCalled .. | rowCountCalled .. | fetchCalled ..
  | releaseCalled .. | libraryClosed _ => True
  | _ => False

namespace Adds

variable {may : Event → Prop}

theorem recording {event : α → Event} (allowed : ∀ answer, may (event answer))
    (action : StateM σ α) : Moves (Adds may) (recording event action) := by
  intro before
  refine ⟨[event (action before.1).1], rfl, fun added member => ?_⟩
  obtain rfl := List.mem_singleton.mp member
  exact allowed _

theorem besides (action : StateM σ α) :
    Moves (Adds may) (besides action : StateM (σ × List Event) α) :=
  fun before => refl_of (Adds may) (_, before.2)

theorem worksIn (allowed : ∀ event : Event, event.IsWork → may event) (host : Host σ) :
    host.recorded.WorksIn (Adds may) where
  log _ := besides _
  readText path := recording (fun _ => allowed (.textRead path _) trivial) _
  version path := recording (fun _ => allowed (.captured (Tool.versionCommand path) _) trivial) _
  readInput := recording (fun _ => allowed (.inputRead _) trivial) _
  createDirectories path := recording (fun _ => allowed (.directoriesCreated path _) trivial) _
  writeText path text := recording (fun _ => allowed (.textWritten path text _) trivial) _
  pause delay := recording (fun _ => allowed (.paused delay) trivial) _
  poll child := recording (fun _ => allowed (.polled child _) trivial) _
  wait child := recording (fun _ => allowed (.waited child _) trivial) _
  killGroup child := recording (fun _ => allowed (.groupKilled child _) trivial) _

theorem spawn {command : Command} (allowed : ∀ answer, may (.spawned command answer))
    (host : Host σ) : Moves (Adds may) (host.recorded.spawn command) :=
  recording allowed _

theorem print {text : String} (allowed : may (.printed text)) (host : Host σ) :
    Moves (Adds may) (host.recorded.print text) :=
  recording (fun _ => allowed) _

theorem loader (allowed : ∀ event : Event, event.IsLoading → may event) (host : Host σ) :
    host.recorded.loader.MovesIn (Adds may) where
  openLibrary path := recording (fun _ => allowed (.libraryOpened path _) trivial) _
  callInit library symbol := recording (fun _ => allowed (.initCalled library symbol _) trivial) _
  callRun table := recording (fun _ => allowed (.runCalled table _) trivial) _
  callRowCount table handle :=
    recording (fun _ => allowed (.rowCountCalled table handle _) trivial) _
  callFetch table handle := recording (fun _ => allowed (.fetchCalled table handle _) trivial) _
  callRelease table handle := recording (fun _ => allowed (.releaseCalled table handle) trivial) _
  closeLibrary library := recording (fun _ => allowed (.libraryClosed library) trivial) _

end Adds

end QueryFoundry
