import QueryFoundry.Native.Processor.Service

/-!
# Running native code

What each instruction does, one step at a time, so that every run can be bounded and interrupted.
-/

namespace QueryFoundry.Native.Processor

open Text (Octets)

/-- Go on with the next instruction. -/
def next (memory : Memory) (state : ProcessorState) (operands : List UInt64) : Outcome :=
  .running ⟨memory, { state with
    operands, frame := { state.frame with position := state.frame.position + 1 } }⟩

/-- Go on at a position. -/
def jumpTo (memory : Memory) (state : ProcessorState) (operands : List UInt64)
    (position : Nat) : Outcome :=
  .running ⟨memory, { state with operands, frame := { state.frame with position } }⟩

/-- Stop, because something has no meaning. -/
def fail (memory : Memory) (state : ProcessorState) : Outcome :=
  .stopped .fault ⟨memory, state⟩

/-- Go on with memory that was changed, if that was possible. -/
def nextWith (state : ProcessorState) (operands : List UInt64) : Option Memory → Outcome
  | some memory => next memory state operands
  | none => fail {} state

/-- The handling of something that was caught is over. Its destructor is called, unless it is still
being handled further outside. -/
def endHandling (memory : Memory) (state : ProcessorState) (thrown : Thrown)
    (reason : CallReason) (done : Memory → ProcessorState → Outcome) : Outcome :=
  let outer := state.caught.drop 1
  let released := { state with caught := outer }
  if thrown.destructor == 0 || outer.contains thrown then done memory released
  else
    match enter? memory released thrown.destructor [thrown.object] reason with
    | some processor => .running processor
    | none => fail {} state

/-- Undo what was put off last, because something was thrown. -/
def unwind (memory : Memory) (state : ProcessorState) (thrown : Thrown) : Outcome :=
  match state.deferred with
  | [] => .stopped .aborted ⟨memory, state⟩
  | entry :: rest =>
      let frames := (state.frame :: state.callers).dropWhile fun frame => entry.depth < frame.depth
      match frames with
      | [] => fail memory state
      | frame :: callers =>
          let reached := { state with deferred := rest, frame, callers }
          let again : CallReason := .unwinding thrown
          match entry.action with
          | .shield => .stopped .aborted ⟨memory, state⟩
          | .call function argument =>
              match enter? memory reached function [argument] again with
              | some processor => .running processor
              | none => fail {} state
          | .caught handled =>
              if handled == thrown then
                resume memory { reached with caught := state.caught.drop 1 } thrown
              else endHandling memory reached handled again fun memory state =>
                resume memory state thrown
          | .handlers entries operands =>
              match chooseHandler? memory thrown.type entries with
              | none => resume memory reached thrown
              | some (position, distance) =>
                  let handling : DeferredEntry :=
                    { level := entry.level, depth := entry.depth, action := .caught thrown }
                  .running ⟨memory, { reached with
                    operands := (thrown.object + distance) :: operands
                    frame := { frame with position }
                    deferred := handling :: rest
                    caught := thrown :: state.caught }⟩
where
  /-- Go on unwinding at the next step: a frame without instructions stands for it. -/
  resume (memory : Memory) (state : ProcessorState) (thrown : Thrown) : Outcome :=
    .running ⟨memory, { state with
      callers := state.frame :: state.callers
      frame := { state.frame with
        code := #[], depth := state.frame.depth + 1, reason := .unwinding thrown } }⟩

/-- Return from the present function with a value. -/
def leaveFunction (memory : Memory) (state : ProcessorState) (value : UInt64)
    (operands : List UInt64) : Outcome :=
  match state.callers with
  | [] => fail memory state
  | caller :: callers =>
      let left := { state with frame := caller, callers }
      match state.frame.reason with
      | .unwinding thrown => unwind memory { left with operands } thrown
      | .leaving => .running ⟨memory, { left with operands }⟩
      | .value =>
          if callers.isEmpty && caller.depth == 0 then
            .stopped (.returned value) ⟨memory, { left with operands }⟩
          else .running ⟨memory, { left with operands := value :: operands }⟩

/-- Do what was put off at a level or further inside; when nothing is left, go on. -/
def leaveLevel (memory : Memory) (state : ProcessorState) (level : Nat)
    (done : Memory → ProcessorState → Outcome) : Outcome :=
  match state.deferred with
  | entry :: rest =>
      if entry.depth == state.frame.depth && level ≤ entry.level then
        let reached := { state with deferred := rest }
        match entry.action with
        | .call function argument =>
            match enter? memory reached function [argument] .leaving with
            | some processor => .running processor
            | none => fail {} state
        | .caught thrown =>
            endHandling memory reached thrown .leaving fun memory state =>
              .running ⟨memory, state⟩
        | .handlers .. | .shield => .running ⟨memory, reached⟩
      else done memory state
  | [] => done memory state

/-- Drop what was put off at a level or further inside. -/
def dismiss (state : ProcessorState) (level : Nat) : List DeferredEntry :=
  state.deferred.dropWhile fun entry =>
    entry.depth == state.frame.depth && level ≤ entry.level

/-- The handlers whose types are operands, and the operands that are left. -/
def handlerEntries : List (Bool × Nat) → List UInt64 → List (UInt64 × Nat) × List UInt64
  | [], operands => ([], operands)
  | (true, label) :: rest, type :: operands =>
      let (entries, left) := handlerEntries rest operands
      ((type, label) :: entries, left)
  | (_, label) :: rest, operands =>
      let (entries, left) := handlerEntries rest operands
      ((0, label) :: entries, left)

/-- The address that lies at a distance from another one. -/
def moved (address : UInt64) (distance : Nat) : UInt64 :=
  address + UInt64.ofNat distance

/-- Carry out an instruction that works on operands and memory. -/
def operate (memory : Memory) (state : ProcessorState) (instruction : Instruction)
    (operands : List UInt64) : Outcome :=
  match instruction, operands with
  | .push value, _ => next memory state (value :: operands)
  | .frame offset, _ => next memory state (UInt64.ofNat (state.frame.base + offset) :: operands)
  | .argument index, _ =>
      next memory state (UInt64.ofNat (state.frame.arguments + 8 * index) :: operands)
  | .load bytes isSigned, address :: rest =>
      match memory.load? address bytes with
      | some value =>
          let kept := if isSigned then
              NumberForm.takeBits 0 (8 * bytes) true value
            else value
          next memory state (kept :: rest)
      | none => fail memory state
  | .store bytes, value :: address :: rest => nextWith state rest (memory.store? address value bytes)
  | .copy bytes, source :: target :: rest => nextWith state rest (memory.copy? target source bytes)
  | .clear bytes, address :: rest => nextWith state rest (memory.clear? address bytes)
  | .duplicate, value :: rest => next memory state (value :: value :: rest)
  | .drop, _ :: rest => next memory state rest
  | .swap, first :: second :: rest => next memory state (second :: first :: rest)
  | .over, first :: second :: rest => next memory state (second :: first :: second :: rest)
  | .unary operator form, value :: rest =>
      match NumberForm.unary operator form value with
      | some result => next memory state (result :: rest)
      | none => fail memory state
  | .binary operator form, right :: left :: rest =>
      match NumberForm.binary operator form left right with
      | some result => next memory state (result :: rest)
      | none => fail memory state
  | .convert source target, value :: rest =>
      next memory state (NumberForm.convert source target value :: rest)
  | .takeBits first count isSigned, value :: rest =>
      next memory state (NumberForm.takeBits first count isSigned value :: rest)
  | .putBits first count, value :: word :: rest =>
      next memory state (NumberForm.putBits first count word value :: rest)
  | .label _, _ => next memory state operands
  | .jump label, _ => jumpTo memory state operands label
  | .jumpIfZero label, value :: rest =>
      if value == 0 then jumpTo memory state rest label else next memory state rest
  | .reserve, count :: rest =>
      let start := Memory.alignUp state.frame.limit 16
      let limit := start + Memory.alignUp count.toNat 16
      match memory.reach? (limit - Memory.stackBase + 64) with
      | some reached =>
          next reached { state with frame := { state.frame with limit } }
            (UInt64.ofNat start :: rest)
      | none => fail {} state
  | _, _ => fail memory state

/-- Carry out an instruction that changes which function goes on. -/
def transfer (memory : Memory) (state : ProcessorState) (instruction : Instruction)
    (operands : List UInt64) : Outcome :=
  let depth := state.frame.depth
  let putOff (level : Nat) (action : Deferred) (rest : List UInt64) : Outcome :=
    next memory { state with deferred := { level, depth, action } :: state.deferred } rest
  match instruction, operands with
  | .call count, address :: rest =>
      let arguments := rest.take count
      let behind := { state with
        operands := rest.drop count
        frame := { state.frame with position := state.frame.position + 1 } }
      match enter? memory behind address arguments .value with
      | some processor => .running processor
      | none => fail {} state
  | .finish, value :: rest =>
      leaveLevel memory state 0 fun memory state => leaveFunction memory state value rest
  | .defer level, function :: argument :: rest => putOff level (.call function argument) rest
  | .close level, _ =>
      leaveLevel memory state level fun memory state => next memory state operands
  | .dismiss level, _ =>
      next memory { state with deferred := dismiss state level } operands
  | .guard level handlers, _ =>
      let (entries, rest) := handlerEntries handlers operands
      putOff level (.handlers entries rest) rest
  | .shield level, _ => putOff level .shield operands
  | .throw, destructor :: type :: object :: rest =>
      unwind memory { state with operands := rest } { object, type, destructor }
  | .rethrow, _ =>
      match state.caught with
      | [] => .stopped .aborted ⟨memory, state⟩
      | thrown :: _ => unwind memory state thrown
  | .service name count, _ =>
      let arguments := operands.take count
      let rest := operands.drop count
      match Service.serve name arguments memory state with
      | .done value served changed => next served changed (value :: rest)
      | .ask request answer served changed =>
          .request request fun reply =>
            let (value, written) := answer reply served
            ⟨written, { changed with
              operands := value :: rest
              frame := { changed.frame with position := changed.frame.position + 1 } }⟩
      | .fork child served changed =>
          .fork child fun id =>
            ⟨served, { changed with
              operands := UInt64.ofNat id :: rest
              frame := { changed.frame with position := changed.frame.position + 1 } }⟩
      | .stop reason served => .stopped reason ⟨served, state⟩
  | _, _ => fail memory state

/-- Take a step. -/
def step : Processor → Outcome
  | ⟨memory, state⟩ =>
      match state.frame.code[state.frame.position]? with
      | none =>
          match state.frame.reason with
          | .unwinding thrown =>
              match state.callers with
              | frame :: callers => unwind memory { state with frame, callers } thrown
              | [] => fail memory state
          | _ => fail memory state
      | some instruction =>
          match instruction with
          | .call .. | .finish | .defer .. | .close .. | .dismiss .. | .guard .. | .shield ..
          | .throw | .rethrow | .service .. => transfer memory state instruction state.operands
          | other => operate memory state other state.operands

end QueryFoundry.Native.Processor
