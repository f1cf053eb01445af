import Mathlib.Order.Defs.Unbundled
import QueryFoundry.Proofs.PipelineTrace

/-!
# How actions change a host

A relation between the state before an action and the state after it. Where it is a preorder and
the operations of a host keep to it, so does what is composed of them: the supervision of a tool, a
build, the stages of a run and the run as a whole.
-/

namespace QueryFoundry

variable {σ ε α β : Type}

/-- An action leads from each state to one that stands in a relation to it. -/
def Moves (relation : σ → σ → Prop) (action : StateM σ α) : Prop :=
  ∀ state, relation state (action state).2

theorem Moves.of_eq {relation : σ → σ → Prop} {action : StateM σ α} {state after : σ} {answer : α}
    (moves : Moves relation action) (gives : action state = (answer, after)) :
    relation state after := by
  have moved := moves state
  rwa [gives] at moved

/-- What the supervision of a command does on a host keeps to a relation. -/
structure Supervision.MovesIn (relation : σ → σ → Prop) (host : Host σ) (command : Command) :
    Prop where
  log : ∀ entry, Moves relation (host.log entry)
  pause : ∀ delay, Moves relation (host.pause delay)
  spawn : Moves relation (host.spawn command)
  poll : ∀ child, Moves relation (host.poll child)
  wait : ∀ child, Moves relation (host.wait child)
  killGroup : ∀ child, Moves relation (host.killGroup child)

/-- What is told to a callback keeps to a relation. -/
structure Callback.MovesIn (relation : σ → σ → Prop) (callback : Callback σ) : Prop where
  started : ∀ name stage, Moves relation (callback.started name stage)
  completed : ∀ name stage elapsed, Moves relation (callback.completed name stage elapsed)
  failed : ∀ name stage error, Moves relation (callback.failed name stage error)

namespace Pipeline

/-- The other pipeline differs in no more than its memory and its stage. -/
def Alike (pipeline other : Pipeline σ ε) : Prop :=
  ∃ memory stage, other = { pipeline with memory, stage }

/-- What is done with a pipeline, and with those like it, leaves a pipeline like it and keeps to a
relation on the host. -/
def Works (relation : σ → σ → Prop) (pipeline : Pipeline σ ε)
    (work : StateT (Pipeline σ ε) (StateM σ) α) : Prop :=
  ∀ current, Alike pipeline current → ∀ state,
    Alike pipeline (work current state).1.2 ∧ relation state (work current state).2

/-- What a run does beside the generation of its artifact keeps to a relation. -/
structure MovesIn (relation : σ → σ → Prop) (host : Host σ) (pipeline : Pipeline σ ε)
    (name : ArtifactName) : Prop where
  build : Supervision.MovesIn relation host
    (Supervision.started (pipeline.builder.command name) pipeline.builder.timeout)
  execute : ∀ memory, Moves relation (pipeline.executor name memory)
  tell : Callback.MovesIn relation pipeline.callback

section

variable {relation : σ → σ → Prop} {pipeline : Pipeline σ ε}

namespace Works

protected theorem onHost {action : StateM σ α} (moves : Moves relation action) :
    Works relation pipeline (onHost action : Run σ ε α) :=
  fun _ alike state => ⟨alike, moves state⟩

theorem look {next : Pipeline σ ε → Run σ ε α}
    (works : ∀ current, Alike pipeline current → Works relation pipeline (next current)) :
    Works relation pipeline (get >>= next : Run σ ε α) :=
  fun current alike state => works current alike current alike state

theorem lift {work : StateT (Pipeline σ ε) (StateM σ) (Except PipelineError α)}
    (works : Works relation pipeline work) :
    Works relation pipeline (ExceptT.lift work : Run σ ε (Except PipelineError α)) :=
  works

end Works

theorem works_hostWork {work : Pipeline σ ε → StateM σ (Except PipelineError α)}
    (moves : ∀ current, Alike pipeline current → Moves relation (work current)) :
    Works relation pipeline (hostWork work) :=
  fun current alike state => ⟨alike, moves current alike state⟩

theorem works_executorWork {name : ArtifactName}
    (moves : ∀ memory, Moves relation (pipeline.executor name memory)) :
    Works relation pipeline (executorWork name) := by
  rintro _ ⟨memory, stage, rfl⟩ state
  exact ⟨⟨_, stage, rfl⟩, moves memory state⟩

end

end Pipeline

section

variable {relation : σ → σ → Prop} [IsPreorder σ relation]

namespace Moves

protected theorem pure (answer : α) : Moves relation (pure answer : StateM σ α) :=
  refl_of relation

protected theorem bind {action : StateM σ α} {next : α → StateM σ β}
    (first : Moves relation action) (second : ∀ answer, Moves relation (next answer)) :
    Moves relation (action >>= next) :=
  fun state => trans_of relation (first state) (second _ _)

theorem get : Moves relation (get : StateM σ σ) :=
  refl_of relation

theorem forIn {items : List α} {body : α → β → StateM σ (ForInStep β)}
    (moves : ∀ item result, Moves relation (body item result)) (result : β) :
    Moves relation (forIn items result body) := by
  induction items generalizing result with
  | nil => exact .pure result
  | cons item items ih =>
      rw [List.forIn_cons]
      refine (moves item result).bind fun step => ?_
      cases step with
      | done last => exact .pure last
      | yield next => exact ih next

end Moves

namespace Supervision

variable {host : Host σ} {command : Command}

theorem moves_reap (moves : MovesIn relation host command) (job : Job)
    (outcome : WaitStatus → Duration → ToolOutcome) : Moves relation (reap host job outcome) := by
  refine (moves.wait job.child).bind fun answer => ?_
  cases answer with
  | error error => exact .pure _
  | ok status => exact Moves.get.bind fun _ => .pure _

theorem moves_finish (moves : MovesIn relation host command) (job : Job) :
    Moves relation (finish host job) :=
  moves_reap moves job .exited

theorem moves_collect (moves : MovesIn relation host command) (job : Job) :
    Moves relation (collect host job) :=
  moves_reap moves job fun _ => .timedOut

theorem moves_warnUnkilled (moves : MovesIn relation host command) (job : Job) (error : IoError) :
    Moves relation (warnUnkilled host job error) := by
  unfold warnUnkilled
  split
  · exact .pure _
  · exact moves.log _

theorem moves_expire (moves : MovesIn relation host command) (job : Job) :
    Moves relation (expire host job) := by
  refine (moves.killGroup job.child).bind fun answer => ?_
  cases answer with
  | error error => exact (moves_warnUnkilled moves job error).bind fun _ => moves_collect moves job
  | ok _ => exact moves_collect moves job

theorem moves_watch (moves : MovesIn relation host command) (job : Job) (timeout : Nat) :
    Moves relation (watch host job timeout) := by
  intro state
  have polled (before : σ) : relation before (host.poll job.child before).2 :=
    moves.poll job.child before
  fun_induction watch host job timeout state with
  | case1 state error after answer => simpa only [answer] using polled state
  | case2 state status after answer => simpa only [answer] using polled state
  | case3 state after answer late =>
      have asked : relation state after := by simpa only [answer] using polled state
      exact trans_of relation asked (moves_expire moves job after)
  | case4 state after answer early ih =>
      have asked : relation state after := by simpa only [answer] using polled state
      exact trans_of relation asked (trans_of relation (moves.pause _ after) ih)

theorem moves_run {timeout : Option Duration}
    (moves : MovesIn relation host (started command timeout)) :
    Moves relation (run host command timeout) := by
  refine (moves.log _).bind fun _ => Moves.get.bind fun state => moves.spawn.bind fun answer => ?_
  cases answer with
  | error error => exact .pure _
  | ok child =>
      cases timeout with
      | none => exact moves_finish moves _
      | some limit => exact moves_watch moves _ _

end Supervision

theorem moves_compile {host : Host σ} {builder : Builder} {name : ArtifactName}
    (moves : Supervision.MovesIn relation host
      (Supervision.started (builder.command name) builder.timeout)) :
    Moves relation (builder.compile host name) := by
  refine Moves.get.bind fun state => ?_
  split
  · refine Moves.bind (moves.log _) fun _ => ?_
    refine Moves.bind (Supervision.moves_run moves) fun answer => ?_
    cases answer with
    | error error => exact .pure _
    | ok outcome =>
        cases judged : builder.judge name outcome with
        | error error =>
            simp only [judged]
            exact .pure _
        | ok elapsed =>
            simp only [judged]
            exact Moves.bind (moves.log _) fun _ => .pure _
  · exact .pure _

namespace Pipeline

namespace Works

variable {pipeline : Pipeline σ ε}

protected theorem pure (answer : Except PipelineError α) :
    Works relation pipeline (pure answer : StateT (Pipeline σ ε) (StateM σ) _) :=
  fun _ alike state => ⟨alike, refl_of relation state⟩

protected theorem bind {action : Run σ ε α} {next : α → Run σ ε β}
    (first : Works relation pipeline action)
    (second : ∀ answer, Works relation pipeline (next answer)) :
    Works relation pipeline (action >>= next : Run σ ε β) := by
  intro current alike state
  obtain ⟨between, moved⟩ := first current alike state
  rcases ran : action current state with ⟨⟨answer, after⟩, stateAfter⟩
  rw [ran] at between moved
  rw [bind_of_ran ran]
  cases answer with
  | error error => exact ⟨between, moved⟩
  | ok answer =>
      obtain ⟨final, movedOn⟩ := second answer after between stateAfter
      exact ⟨final, trans_of relation moved movedOn⟩

theorem aside {action : StateM σ Unit} {asked : Bool} {next : Unit → Run σ ε α}
    (moves : Moves relation action) (works : Works relation pipeline (next ())) :
    Works relation pipeline (if asked then onHost action >>= next else next () : Run σ ε α) := by
  cases asked with
  | false => exact works
  | true => exact (Works.onHost moves).bind fun _ => works

theorem setStage (stage : Stage) :
    Works relation pipeline
      (modify fun pipeline => { pipeline with stage } : Run σ ε PUnit) := by
  rintro _ ⟨memory, _, rfl⟩ state
  exact ⟨⟨memory, stage, rfl⟩, refl_of relation state⟩

end Works

variable {host : Host σ} {pipeline : Pipeline σ ε}

theorem works_fail (logs : ∀ entry, Moves relation (host.log entry))
    (tells : Callback.MovesIn relation pipeline.callback) (name : ArtifactName)
    (error : PipelineError) : Works relation pipeline (fail host name error : Run σ ε α) := by
  refine .look fun current _ => ?_
  refine (Works.setStage .failed).bind fun _ => (Works.onHost (logs _)).bind fun _ => ?_
  refine .look fun later alike => ?_
  obtain ⟨_, _, rfl⟩ := alike
  exact (Works.onHost (tells.failed _ _ _)).bind fun _ => .pure _

theorem works_perform (logs : ∀ entry, Moves relation (host.log entry))
    (tells : Callback.MovesIn relation pipeline.callback) (name : ArtifactName) (stage : Stage)
    {work : StateT (Pipeline σ ε) (StateM σ) (Except PipelineError α)}
    (works : Works relation pipeline work) :
    Works relation pipeline (perform host name stage work) := by
  refine (Works.setStage stage).bind fun _ => (Works.onHost (logs _)).bind fun _ => ?_
  refine .look fun current alike => ?_
  obtain ⟨_, _, rfl⟩ := alike
  refine (Works.onHost (tells.started _ _)).bind fun _ => ?_
  refine (Works.onHost Moves.get).bind fun _ => works.lift.bind fun answer => ?_
  cases answer with
  | error error => exact works_fail logs tells name error
  | ok result =>
      refine (Works.onHost Moves.get).bind fun _ => .look fun later alike => ?_
      obtain ⟨_, _, rfl⟩ := alike
      exact (Works.onHost (tells.completed _ _ _)).bind fun _ => .pure _

/-- A run keeps to a relation when the generation of its artifact does and everything else. -/
theorem works_compileAndRun {producer : Producer σ} {name : ArtifactName}
    (moves : MovesIn relation host pipeline name)
    (generates : Moves relation (pipeline.generator.generate host producer name)) :
    Works relation pipeline (compileAndRun host producer name) := by
  obtain ⟨build, execute, tell⟩ := moves
  have logs := build.log
  unfold compileAndRun
  refine .aside (logs _) ((Works.setStage .start).bind fun _ => ?_)
  refine (works_perform logs tell name _ (works_hostWork ?_)).bind fun _ => ?_
  · rintro _ ⟨_, _, rfl⟩
    exact generates
  refine (works_perform logs tell name _ (works_hostWork ?_)).bind fun _ => ?_
  · rintro _ ⟨_, _, rfl⟩
    exact moves_compile build
  refine (works_perform logs tell name _ (works_executorWork execute)).bind fun _ => ?_
  exact (Works.setStage .done).bind fun _ => .pure _

end Pipeline

end

end QueryFoundry
