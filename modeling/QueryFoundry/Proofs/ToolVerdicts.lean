import QueryFoundry.Proofs.Steps
import QueryFoundry.Proofs.TimeLimit

/-!
# Verdicts on tools

The build tool and the formatter are judged by the same verdict. It is read off the status word
with which the tool ended, off the limit it was given, or off the error that kept it from being
started or waited for. Each outcome of a supervised tool deserves one verdict and no other, and the
error that is reported tells which one it was.
-/

namespace QueryFoundry

variable {σ : Type}

namespace WaitStatus

/-- The low bits of a status word: zero for a process that exited by itself, and else the signal
that ended it. -/
def signal (status : WaitStatus) : Nat :=
  status.word.toNat % 128

/-- What stands in the place of a signal when a process has only been stopped. -/
def stopMark : Nat := 127

/-- The byte of a status word that holds the exit code. -/
def codeByte (status : WaitStatus) : Nat :=
  status.word.toNat / 256 % 256

theorem success_iff (status : WaitStatus) : status.success = true ↔ status.word.toNat = 0 := by
  rw [success, beq_iff_eq, ← UInt32.toNat_inj]
  rfl

/-- The exit code is there exactly when the process exited by itself. -/
theorem exitCode?_eq (status : WaitStatus) :
    status.exitCode? = if status.signal = 0 then some status.codeByte else none := by
  have low : (status.word &&& 0x7F).toNat = status.signal := by
    rw [UInt32.toNat_and]
    exact Nat.and_two_pow_sub_one_eq_mod status.word.toNat 7
  have code : ((status.word >>> 8) &&& 0xFF).toNat = status.codeByte := by
    rw [UInt32.toNat_and, UInt32.toNat_shiftRight]
    refine (Nat.and_two_pow_sub_one_eq_mod _ 8).trans ?_
    rw [Nat.shiftRight_eq_div_pow]
    rfl
  have byItself : status.word &&& 0x7F = 0 ↔ status.signal = 0 := by
    rw [← low, ← UInt32.toNat_inj]
    rfl
  rw [exitCode?, code]
  by_cases zero : status.signal = 0
  · rw [if_pos (byItself.mpr zero), if_pos zero]
  · rw [if_neg fun masked => zero (byItself.mp masked), if_neg zero]

end WaitStatus

/-- The errors of one kind are those with the error number for what is not there. -/
theorem IoError.kind_eq_notFound_iff (error : IoError) :
    error.kind = "NotFound" ↔ error = .notFound := by
  constructor
  · intro same
    cases error with
    | os errno =>
        change errnoKind errno = "NotFound" at same
        unfold errnoKind at same
        split at same <;> first | rfl | exact absurd same (by decide)
    | other text => simp [kind] at same
    | nulInPath => simp [kind] at same
    | nulInArgument => simp [kind] at same
    | invalidUtf8 => simp [kind] at same
  · rintro rfl
    rfl

/-- How a tool did. -/
inductive Verdict where
  | succeeded
  /-- It ended without success, with an exit code where it has one. -/
  | failed (code : Option Nat)
  /-- It did not end within its limit. -/
  | expired (limit : Duration)
  /-- It is not there. -/
  | missing
  /-- It could not be started or waited for. -/
  | broken (error : IoError)
deriving DecidableEq, Repr

namespace Verdict

/-- What a supervised tool came to deserves a verdict. -/
inductive Fits (timeout : Option Duration) : Except IoError ToolOutcome → Verdict → Prop
  | succeeded {status : WaitStatus} {elapsed : Duration} (zero : status.word.toNat = 0) :
      Fits timeout (.ok (.exited status elapsed)) .succeeded
  | exited {status : WaitStatus} {elapsed : Duration} (nonzero : status.word.toNat ≠ 0)
      (byItself : status.signal = 0) :
      Fits timeout (.ok (.exited status elapsed)) (.failed (some status.codeByte))
  | signaled {status : WaitStatus} {elapsed : Duration} (bySignal : 0 < status.signal)
      (ended : status.signal < WaitStatus.stopMark) :
      Fits timeout (.ok (.exited status elapsed)) (.failed none)
  /-- No process ends with such a word, but it is a word like others. -/
  | stopped {status : WaitStatus} {elapsed : Duration}
      (mark : status.signal = WaitStatus.stopMark) :
      Fits timeout (.ok (.exited status elapsed)) (.failed none)
  | expired {limit elapsed : Duration} (limited : timeout = some limit) :
      Fits timeout (.ok (.timedOut elapsed)) (.expired limit)
  | missing {error : IoError} (kind : error.kind = "NotFound") :
      Fits timeout (.error error) .missing
  | broken {error : IoError} (kind : error.kind ≠ "NotFound") :
      Fits timeout (.error error) (.broken error)

/-- The exit code that a verdict tells of. -/
def code? : Verdict → Option Nat
  | failed code => code
  | _ => none

/-- What is reported about a tool, with the errors that are its own. -/
def report (program : Path) (failure : Option Int → PipelineError)
    (expiry : Duration → PipelineError) : Verdict → Except PipelineError Unit
  | succeeded => .ok ()
  | failed code => .error (failure (code.map Int.ofNat))
  | expired limit => .error (expiry limit)
  | missing => .error (.toolNotFound program)
  | broken error => .error (.io error)

/-- The verdict that an answer reports, whichever of the two tools it is about. -/
def read? : Except PipelineError Unit → Option Verdict
  | .ok () => some succeeded
  | .error (.build _ code) | .error (.format _ code) => some (failed (code.map Int.toNat))
  | .error (.buildTimeout _ limit) | .error (.formatTimeout _ limit) => some (expired limit)
  | .error (.toolNotFound _) => some missing
  | .error (.io error) => some (broken error)
  | .error _ => none

variable {timeout : Option Duration} {outcome : Except IoError ToolOutcome}
variable {verdict other : Verdict}

/-- The verdict as the program reaches it. -/
def of (timeout : Option Duration) : Except IoError ToolOutcome → Verdict
  | .ok (.exited status _) => if status.success then succeeded else failed status.exitCode?
  | .ok (.timedOut elapsed) => expired (timeout.getD elapsed)
  | .error error => if error = .notFound then missing else broken error

theorem Fits.eq_of (fits : Fits timeout outcome verdict) : verdict = of timeout outcome := by
  -- A word with a signal in it is not zero.
  have unsuccessful {status : WaitStatus} (bySignal : status.signal ≠ 0) :
      ¬status.success = true := by
    intro success
    rw [WaitStatus.success_iff] at success
    simp [WaitStatus.signal, success] at bySignal
  cases fits with
  | succeeded zero => rw [of, if_pos ((WaitStatus.success_iff _).mpr zero)]
  | exited nonzero byItself =>
      rw [of, if_neg fun success => nonzero ((WaitStatus.success_iff _).mp success),
        WaitStatus.exitCode?_eq, if_pos byItself]
  | signaled bySignal ended =>
      have signal := Nat.ne_of_gt bySignal
      rw [of, if_neg (unsuccessful signal), WaitStatus.exitCode?_eq, if_neg signal]
  | @stopped status _ mark =>
      have signal : status.signal ≠ 0 := by simp [mark, WaitStatus.stopMark]
      rw [of, if_neg (unsuccessful signal), WaitStatus.exitCode?_eq, if_neg signal]
  | expired limited => rw [of, limited, Option.getD_some]
  | missing kind => rw [of, if_pos ((IoError.kind_eq_notFound_iff _).mp kind)]
  | broken kind => rw [of, if_neg fun same => kind ((IoError.kind_eq_notFound_iff _).mpr same)]

/-- Every outcome but the end of a limit that was not set deserves a verdict. -/
theorem exists_fits (limited : ∀ elapsed, outcome = .ok (.timedOut elapsed) → timeout.isSome) :
    ∃ verdict, Fits timeout outcome verdict := by
  rcases outcome with error | ⟨status, elapsed⟩ | elapsed
  · by_cases kind : error.kind = "NotFound"
    · exact ⟨_, .missing kind⟩
    · exact ⟨_, .broken kind⟩
  · by_cases zero : status.word.toNat = 0
    · exact ⟨_, .succeeded zero⟩
    have bounded : status.signal < 128 := Nat.mod_lt _ (by decide)
    rcases Nat.eq_zero_or_pos status.signal with byItself | bySignal
    · exact ⟨_, .exited zero byItself⟩
    by_cases mark : status.signal = WaitStatus.stopMark
    · exact ⟨_, .stopped mark⟩
    · have ended : status.signal < WaitStatus.stopMark := by
        simp only [WaitStatus.stopMark] at mark ⊢
        omega
      exact ⟨_, .signaled bySignal ended⟩
  · obtain ⟨limit, set⟩ := Option.isSome_iff_exists.mp (limited elapsed rfl)
    exact ⟨_, .expired set⟩

end Verdict

/-- A tool without a limit is waited for until it ends. -/
theorem Supervision.run_unlimited (host : Host σ) (command : Command) (state : σ)
    (elapsed : Duration) : (run host command none state).1 ≠ .ok (.timedOut elapsed) := by
  intro expires
  obtain ⟨events, -, supervised⟩ := recordsAt_run host command none state []
  rw [expires] at supervised
  cases supervised with
  | finished unlimited spawned gives finished => cases finished
  | watched limited spawned watched => cases limited

theorem Formatter.formatInPlace_eq {host : Host σ} {formatter : Formatter} {path : Path}
    {state after : σ} {outcome : Except IoError ToolOutcome}
    (ran : Supervision.run host (formatter.command path) formatter.timeout state =
      (outcome, after)) :
    formatter.formatInPlace host path state =
      (toolVerdict formatter.program (formatter.judge path) outcome, after) := by
  rw [formatInPlace, bind_of_eq ran]
  cases outcome with
  | error error => rfl
  | ok outcome => rfl

namespace Builder

def begun (host : Host σ) (builder : Builder) (name : ArtifactName) (state : σ) : σ :=
  (host.inform .building ("Building " ++ name.text ++ " in " ++ builder.root) state).2

theorem compile_verdict {host : Host σ} {builder : Builder} {state : σ} (name : ArtifactName)
    (stands : host.isDirectory state builder.root = true) :
    (builder.compile host name state).1.map (fun _ => ()) =
      toolVerdict builder.program (fun outcome => (builder.judge name outcome).map fun _ => ())
        (Supervision.run host (builder.command name) builder.timeout
          (builder.begun host name state)).1 := by
  have looked : (get : StateM σ σ) state = (state, state) := rfl
  have told : host.inform .building ("Building " ++ name.text ++ " in " ++ builder.root) state =
      ((), builder.begun host name state) := rfl
  rcases ran : Supervision.run host (builder.command name) builder.timeout
    (builder.begun host name state) with ⟨outcome, after⟩
  rw [compile, bind_of_eq looked, if_pos stands, bind_of_eq told, bind_of_eq ran]
  cases outcome with
  | error error => rfl
  | ok outcome =>
      dsimp only [toolVerdict]
      cases builder.judge name outcome with
      | error error => rfl
      | ok elapsed => rfl

end Builder

/-- The errors of a tool that are its own tell of a code or of a limit. -/
structure OwnErrors (failure : Option Int → PipelineError) (expiry : Duration → PipelineError) :
    Prop where
  failure_read : ∀ code, Verdict.read? (.error (failure code)) = some (.failed (code.map Int.toNat))
  expiry_read : ∀ limit, Verdict.read? (.error (expiry limit)) = some (.expired limit)
  failure_code : ∀ code, (failure code).exitCode? = code
  expiry_code : ∀ limit, (expiry limit).exitCode? = none

theorem ownErrors_build (name : String) : OwnErrors (.build name) (.buildTimeout name) :=
  ⟨fun _ => rfl, fun _ => rfl, fun _ => rfl, fun _ => rfl⟩

theorem ownErrors_format (path : Path) : OwnErrors (.format path) (.formatTimeout path) :=
  ⟨fun _ => rfl, fun _ => rfl, fun _ => rfl, fun _ => rfl⟩

namespace Verdict

variable {failure : Option Int → PipelineError} {expiry : Duration → PipelineError}

/-- The report of a verdict tells it from all others. -/
theorem read?_report (own : OwnErrors failure expiry) (program : Path) (verdict : Verdict) :
    read? (verdict.report program failure expiry) = some verdict := by
  cases verdict with
  | succeeded => rfl
  | failed code =>
      rw [report, own.failure_read]
      cases code with
      | none => rfl
      | some code => rfl
  | expired limit => exact own.expiry_read limit
  | missing => rfl
  | broken error => rfl

theorem exitCode?_of_report (own : OwnErrors failure expiry) {program : Path} {verdict : Verdict}
    {error : PipelineError} (reported : verdict.report program failure expiry = .error error) :
    error.exitCode? = verdict.code?.map Int.ofNat := by
  cases verdict with
  | succeeded => cases reported
  | failed code =>
      cases reported
      exact own.failure_code _
  | expired limit =>
      cases reported
      exact own.expiry_code limit
  | missing =>
      cases reported
      rfl
  | broken error =>
      cases reported
      rfl

theorem toolVerdict_eq_report {judge : ToolOutcome → Except PipelineError Unit}
    {timeout : Option Duration}
    (exited : ∀ status elapsed, judge (.exited status elapsed) =
      if status.success then .ok () else .error (failure (status.exitCode?.map Int.ofNat)))
    (timedOut : ∀ elapsed, judge (.timedOut elapsed) = .error (expiry (timeout.getD elapsed)))
    (program : Path) (outcome : Except IoError ToolOutcome) :
    toolVerdict program judge outcome = (of timeout outcome).report program failure expiry := by
  rcases outcome with error | ⟨status, elapsed⟩ | elapsed
  · rw [toolVerdict, of, PipelineError.ofSpawn]
    split
    · rfl
    · rfl
  · rw [toolVerdict, exited, of]
    split
    · rfl
    · rfl
  · exact timedOut elapsed

end Verdict

/-- A tool that was supervised from a state on has one verdict. The answer reports it, it can be
read off the answer again, and the exit code of an error is the one that the verdict tells of. -/
structure Judged (host : Host σ) (command : Command) (timeout : Option Duration)
    (failure : Option Int → PipelineError) (expiry : Duration → PipelineError) (state : σ)
    (answer : Except PipelineError Unit) (verdict : Verdict) : Prop where
  fits_iff : ∀ other : Verdict,
    other.Fits timeout (Supervision.run host command timeout state).1 ↔ other = verdict
  answer_eq : answer = verdict.report command.program failure expiry
  read?_eq : Verdict.read? answer = some verdict
  exitCode?_eq : ∀ error, answer = .error error → error.exitCode? = verdict.code?.map Int.ofNat

theorem exists_judged {failure : Option Int → PipelineError} {expiry : Duration → PipelineError}
    (own : OwnErrors failure expiry) (host : Host σ) {command : Command}
    {timeout : Option Duration} {judge : ToolOutcome → Except PipelineError Unit}
    (exited : ∀ status elapsed, judge (.exited status elapsed) =
      if status.success then .ok () else .error (failure (status.exitCode?.map Int.ofNat)))
    (timedOut : ∀ elapsed, judge (.timedOut elapsed) = .error (expiry (timeout.getD elapsed)))
    (state : σ) :
    ∃ verdict, Judged host command timeout failure expiry state
      (toolVerdict command.program judge (Supervision.run host command timeout state).1)
      verdict := by
  have limited (elapsed : Duration)
      (expires : (Supervision.run host command timeout state).1 = .ok (.timedOut elapsed)) :
      timeout.isSome := by
    cases timeout with
    | none => exact absurd expires (Supervision.run_unlimited host command state elapsed)
    | some limit => rfl
  obtain ⟨verdict, fits⟩ := Verdict.exists_fits limited
  have reported := Verdict.toolVerdict_eq_report exited timedOut command.program
    (Supervision.run host command timeout state).1
  rw [← fits.eq_of] at reported
  refine ⟨verdict, fun other => ?_, reported, ?_, fun error failed => ?_⟩
  · constructor
    · exact fun also => also.eq_of.trans fits.eq_of.symm
    · rintro rfl
      exact fits
  · rw [reported]
    exact Verdict.read?_report own command.program verdict
  · exact Verdict.exitCode?_of_report own (reported.symm.trans failed)

theorem Formatter.exists_judged (host : Host σ) (formatter : Formatter) (path : Path) (state : σ) :
    ∃ verdict, Judged host (formatter.command path) formatter.timeout (.format path)
      (.formatTimeout path) state (formatter.formatInPlace host path state).1 verdict := by
  rcases ran : Supervision.run host (formatter.command path) formatter.timeout state with
    ⟨outcome, after⟩
  have judged : ∃ verdict, Judged host (formatter.command path) formatter.timeout (.format path)
      (.formatTimeout path) state (toolVerdict (formatter.command path).program
        (formatter.judge path)
        (Supervision.run host (formatter.command path) formatter.timeout state).1) verdict :=
    QueryFoundry.exists_judged (ownErrors_format path) host (fun _ _ => rfl) (fun _ => rfl) state
  rw [ran] at judged
  rw [formatInPlace_eq ran]
  exact judged

/-- The build tool in its build root and the formatter have their verdicts by the same rules, and
their answers tell of them in the same way: each with errors of its own for a failure and for a
limit that is over, and with the same errors for a tool that is missing or could not be run. -/
theorem compile_and_formatInPlace_judged (host : Host σ) (builder : Builder) (formatter : Formatter)
    (name : ArtifactName) (path : Path) (state : σ)
    (stands : host.isDirectory state builder.root = true) :
    (∃ verdict, Judged host (builder.command name) builder.timeout (.build name.text)
      (.buildTimeout name.text) (builder.begun host name state)
      ((builder.compile host name state).1.map fun _ => ()) verdict) ∧
    ∃ verdict, Judged host (formatter.command path) formatter.timeout (.format path)
      (.formatTimeout path) state (formatter.formatInPlace host path state).1 verdict := by
  constructor
  · rw [Builder.compile_verdict name stands]
    refine exists_judged (ownErrors_build name.text) host (fun status elapsed => ?_)
      (fun elapsed => rfl) _
    rw [Builder.judge]
    split
    · rfl
    · rfl
  · exact formatter.exists_judged host path state

/-- A host with directories where each tool ends as soon as it is started, with the same status. -/
def Host.hasty (status : WaitStatus) : Host Nat :=
  { Host.endless with
    isDirectory := fun _ _ => true
    poll := fun _ => pure (.ok (some status))
    wait := fun _ => pure (.ok status)
    clock_le_poll := Host.endless.clock_le_poll }

/-- A build tool that exits with code 2 has failed with this code, and a formatter that ends by a
signal has failed with none. -/
theorem compile_and_formatInPlace_hasty :
    ((⟨"/", "make", [], none⟩ : Builder).compile (Host.hasty (.exited 2)) ⟨"t1"⟩ 0).1.map
        (fun _ => ()) = .error (.build "t1" (some 2)) ∧
      ((⟨"clang-format", "llvm", none⟩ : Formatter).formatInPlace (Host.hasty (.signaled 9))
        "t1.cpp" 0).1 = .error (.format "t1.cpp" none) := by
  constructor
  · obtain ⟨⟨verdict, judged⟩, -⟩ := compile_and_formatInPlace_judged (Host.hasty (.exited 2))
      ⟨"/", "make", [], none⟩ ⟨"clang-format", "llvm", none⟩ ⟨"t1"⟩ "t1.cpp" 0 rfl
    have fits : (Verdict.failed (some (WaitStatus.exited 2).codeByte)).Fits none
        (.ok (.exited (.exited 2) (Host.elapsedSince (Host.hasty (.exited 2)) 0 0))) :=
      .exited (by decide) (by decide)
    obtain rfl := (judged.fits_iff _).mp fits
    exact judged.answer_eq
  · obtain ⟨-, verdict, judged⟩ := compile_and_formatInPlace_judged (Host.hasty (.signaled 9))
      ⟨"/", "make", [], none⟩ ⟨"clang-format", "llvm", none⟩ ⟨"t1"⟩ "t1.cpp" 0 rfl
    have fits : (Verdict.failed none).Fits none
        (.ok (.exited (.signaled 9) (Host.elapsedSince (Host.hasty (.signaled 9)) 0 0))) :=
      .signaled (by decide) (by decide)
    obtain rfl := (judged.fits_iff _).mp fits
    exact judged.answer_eq

end QueryFoundry
