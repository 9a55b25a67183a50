import Chip8.Proofs.Time.Exact
import Chip8.Proofs.Time.Logged
/-!
# The counters of the clock account for what it has run

Once a second the clock reports its two counters and begins to count again. Whatever it is
asked for, in whatever order and at whatever times, nothing is counted twice and nothing is
left out: what has been reported and what is still to be reported are together all that
was run and shown (`counters_account`). A poll may leave off at any of its calls, because
that call failed or because the user quits; so the counters are said to account for a log
of calls (`Call.Accounts`), call by call. Only between a call that came back and the count
of it are they behind.
-/

namespace Chip8
namespace Call

/-- A report that came back, after which the clock begins to count again. -/
def settles : Call → Bool
  | report _ _ (some ()) => true
  | _ => false

/-- A repaint or a report that has failed. -/
def isLost : Call → Bool
  | refresh none | report _ _ none => true
  | _ => false

/-- The calls since the last report, the latest first. -/
def unreported (calls : List Call) : List Call := calls.takeWhile fun call => !call.settles

/-- How many frames were shown. -/
def framesIn (calls : List Call) : Nat := calls.count (refresh (some ()))

/-- How many instructions were run. -/
def opsIn (calls : List Call) : Nat := calls.count (step (some true))

/-- The sum of one of the figures over all reports. -/
def reported (figure : Int → Int → Int) : List Call → Int
  | [] => 0
  | report fps ops (some ()) :: earlier => figure fps ops + reported figure earlier
  | _ :: earlier => reported figure earlier

/-- **The counters account for the calls**, the latest of which comes first. -/
structure Accounts (frames ops : Nat) (calls : List Call) : Prop where
  /-- The frames that were reported, and those that are still to be, are those shown. -/
  shown : reported (fun fps _ => fps) calls + frames = framesIn calls
  /-- So with the instructions that were run. -/
  ran : reported (fun _ ops => ops) calls + ops = opsIn calls
  /-- The frames that are to be reported are those since the last report. -/
  frames : frames = framesIn (unreported calls)
  ops : ops = opsIn (unreported calls)
  /-- Every report carries what was shown and run since the one before. -/
  reports : ∀ fps ops done earlier, report fps ops done :: earlier <:+ calls →
    fps = framesIn (unreported earlier) ∧ ops = opsIn (unreported earlier)

variable {frames ops : Nat} {calls : List Call}

theorem accounts_nil : Accounts 0 0 [] where
  shown := rfl
  ran := rfl
  frames := rfl
  ops := rfl
  reports _ _ _ _ at_end := absurd (List.suffix_nil.1 at_end) (List.cons_ne_nil _ _)

theorem framesIn_cons (call : Call) (calls : List Call) :
    framesIn (call :: calls) = framesIn calls + framesIn [call] := by
  rw [Nat.add_comm, ← List.singleton_append, framesIn, List.count_append]
  rfl

theorem opsIn_cons (call : Call) (calls : List Call) :
    opsIn (call :: calls) = opsIn calls + opsIn [call] := by
  rw [Nat.add_comm, ← List.singleton_append, opsIn, List.count_append]
  rfl

/-- A call other than a report is one more frame or one more instruction, if it is one of
these. -/
theorem Accounts.called (accounts : Accounts frames ops calls) (call : Call)
    (other : ∀ fps ops done, call ≠ report fps ops done) :
    Accounts (frames + framesIn [call]) (ops + opsIn [call]) (call :: calls) := by
  have sums : ∀ figure, reported figure (call :: calls) = reported figure calls := by
    cases call with
    | report fps ops done => exact absurd rfl (other fps ops done)
    | _ => exact fun _ => rfl
  have since : unreported (call :: calls) = call :: unreported calls := by
    cases call with
    | report fps ops done => exact absurd rfl (other fps ops done)
    | _ => rfl
  obtain ⟨shown, ran, frames_eq, ops_eq, reports⟩ := accounts
  constructor
  · rw [sums, framesIn_cons call calls]
    omega
  · rw [sums, opsIn_cons call calls]
    omega
  · rw [since, framesIn_cons call (unreported calls), frames_eq]
  · rw [since, opsIn_cons call (unreported calls), ops_eq]
  · intro fps ops done earlier suffix
    rcases List.suffix_cons_iff.1 suffix with same | suffix
    · exact absurd (List.cons.inj same).1.symm (other fps ops done)
    · exact reports fps ops done earlier suffix

/-- A report of the counters carries what came since the one before. -/
theorem Accounts.reports_report (accounts : Accounts frames ops calls) (done : Option Unit)
    {fps' ops' : Int} {done' : Option Unit} {earlier : List Call}
    (suffix : report fps' ops' done' :: earlier <:+ report frames ops done :: calls) :
    fps' = framesIn (unreported earlier) ∧ ops' = opsIn (unreported earlier) := by
  rcases List.suffix_cons_iff.1 suffix with same | suffix
  · obtain ⟨⟨⟩, rfl⟩ := List.cons.inj same
    exact ⟨congrArg Nat.cast accounts.frames, congrArg Nat.cast accounts.ops⟩
  · exact accounts.reports fps' ops' done' earlier suffix

/-- A report of the counters that failed changes nothing. -/
theorem Accounts.lost (accounts : Accounts frames ops calls) :
    Accounts frames ops (report frames ops none :: calls) where
  shown := accounts.shown
  ran := accounts.ran
  frames := accounts.frames
  ops := accounts.ops
  reports _ _ _ _ suffix := accounts.reports_report none suffix

/-- After a report of the counters the count begins again. -/
theorem Accounts.report (accounts : Accounts frames ops calls) :
    Accounts 0 0 (report frames ops (some ()) :: calls) where
  shown := (Int.add_zero _).trans ((Int.add_comm _ _).trans accounts.shown)
  ran := (Int.add_zero _).trans ((Int.add_comm _ _).trans accounts.ran)
  frames := rfl
  ops := rfl
  reports _ _ _ _ suffix := accounts.reports_report (some ()) suffix

end Call

/-- Repaints and reports never fail. -/
structure Driven.Reliable {ε σ τ : Type} (driven : Driven ε σ τ) : Prop where
  refresh : ∀ before, ∃ after, driven.refresh before = .ok () after
  report : ∀ fps ops before, ∃ after, driven.report fps ops before = .ok () after

namespace Clocked

open Operation

variable {ε σ τ α : Type}

/-- The counters of the clock account for the log of its system. -/
def Accounted (clocked : Clocked τ (Logged σ)) : Prop :=
  Call.Accounts clocked.clock.frames clocked.clock.ops clocked.system.calls

/-! ## One call -/

/-- Times are of no account. -/
theorem keeps_reschedule (change : Schedule τ → Schedule τ) :
    Keeps Accounted (updateClock (σ := Logged σ) (ε := ε) (Clock.reschedule change)) :=
  Keeps.modify fun _ accounted => accounted

/-- Some calls are never counted. -/
theorem keeps_uncounted {call : Option α → Call} (operation : EStateM ε σ α)
    (other : ∀ result fps ops done, call result ≠ .report fps ops done)
    (frames : ∀ result, Call.framesIn [call result] = 0)
    (ops : ∀ result, Call.opsIn [call result] = 0) :
    Keeps Accounted (onSystem (τ := τ) (Logged.record call operation)) := by
  rintro ⟨clock, system, calls⟩ accounted
  refine left_record fun result after => ?_
  have called := accounted.called (call result) (other result)
  rw [frames, ops] at called
  exact called

variable (driven : Driven ε σ τ)

/-- A step is counted if an instruction was run; not if none was, nor if the step failed. -/
theorem keeps_runStep : Keeps Accounted (runStep driven.logged) := by
  rintro ⟨clock, system, calls⟩ accounted
  have called := fun ran => accounted.called (.step ran) nofun
  -- the counter lags behind the log until the result of the step has been looked at
  refine left_record_bind (fun after => called none) fun ran after => ?_
  cases ran with
  | false => exact called (some false)
  | true => exact called (some true)

/-- A repaint is counted once it has come back. -/
theorem keeps_refresh {next : EStateM ε (Clocked τ (Logged σ)) α} (later : Keeps Accounted next) :
    Keeps Accounted (onSystem driven.logged.refresh >>= fun _ =>
      updateClock (fun clock => { clock with frames := clock.frames + 1 }) >>= fun _ => next) := by
  rintro ⟨clock, system, calls⟩ accounted
  have called := fun done => accounted.called (.refresh done) nofun
  exact left_record_bind (fun after => called none) fun _ after => later _ (called (some ()))

variable [TimeScale τ]

/-- A report carries the counters, which are set back once it has come back. -/
theorem keeps_reportIfDue (now : τ) : Keeps Accounted (reportIfDue driven.logged now) := by
  refine Keeps.bind Keeps.get fun clocked => ?_
  split
  · refine Keeps.bind (keeps_reschedule _) fun _ => ?_
    -- if the report fails, the counters stay, and the next report carries them once more
    rintro ⟨clock, system, calls⟩ accounted
    exact left_record_bind (fun after => accounted.lost) fun _ after => accounted.report
  · exact Keeps.pure _

/-! ## A poll -/

theorem keeps_ensureStarted (now : τ) :
    Keeps Accounted (ensureStarted (ε := ε) (σ := Logged σ) now) := by
  refine Keeps.bind Keeps.get fun clocked => ?_
  split
  · exact Keeps.modify fun _ accounted => accounted
  · exact Keeps.pure _

theorem keeps_displayIfDue (now : τ) : Keeps Accounted (displayIfDue driven.logged now) := by
  refine Keeps.bind Keeps.get fun clocked => ?_
  split
  · refine Keeps.bind (keeps_uncounted _ nofun (fun _ => rfl) (fun _ => rfl)) fun quits => ?_
    split
    · exact Keeps.pure true
    · exact Keeps.bind (keeps_reschedule _) fun _ => keeps_refresh driven (Keeps.pure false)
  · exact Keeps.pure false

theorem keeps_resync (time : Schedule τ → τ) (change : τ → Schedule τ → Schedule τ) (now : τ) :
    Keeps Accounted (resync driven.logged time change now) := by
  refine Keeps.bind Keeps.get fun clocked => ?_
  split
  · exact Keeps.pure _
  · dsimp only
    split
    · exact Keeps.bind (keeps_uncounted _ nofun (fun _ => rfl) (fun _ => rfl)) fun _ =>
        keeps_reschedule _
    · exact Keeps.pure _

theorem keeps_runTicks (now : τ) (limit : Nat) :
    Keeps Accounted (runTicks driven.logged now limit) := by
  induction limit with
  | zero => exact Keeps.pure _
  | succ limit ih =>
    refine Keeps.bind Keeps.get fun clocked => ?_
    split
    · exact Keeps.bind (keeps_uncounted _ nofun (fun _ => rfl) (fun _ => rfl)) fun _ =>
        Keeps.bind (keeps_reschedule _) fun _ => ih
    · exact Keeps.pure _

theorem keeps_runSteps (now : τ) (speed limit : Nat) :
    Keeps Accounted (runSteps driven.logged now speed limit) := by
  induction limit with
  | zero => exact Keeps.pure _
  | succ limit ih =>
    refine Keeps.bind Keeps.get fun clocked => ?_
    split
    · exact Keeps.bind (keeps_runStep driven) fun _ => Keeps.bind (keeps_reschedule _) fun _ => ih
    · exact Keeps.pure _

/-- **A poll keeps the account**, wherever it leaves off. -/
theorem keeps_poll (now : τ) : Keeps Accounted (poll driven.logged now) := by
  refine Keeps.bind (keeps_ensureStarted now) fun _ => ?_
  refine Keeps.bind (keeps_reportIfDue driven now) fun _ => ?_
  refine Keeps.bind (keeps_displayIfDue driven now) fun quits => ?_
  split
  · exact Keeps.pure false
  · refine Keeps.bind (keeps_resync driven _ _ now) fun _ => ?_
    refine Keeps.bind (keeps_runTicks driven now _) fun _ => ?_
    refine Keeps.bind Keeps.get fun clocked => ?_
    split
    · exact Keeps.bind (keeps_runStep driven) fun _ => Keeps.pure true
    · refine Keeps.bind (keeps_resync driven _ _ now) fun _ => ?_
      exact Keeps.bind (keeps_runSteps driven now _ _) fun _ => Keeps.pure true

/-! ## Nothing is lost -/

omit [TimeScale τ] in
theorem keeps_unlost {call : Option α → Call} {operation : EStateM ε σ α}
    (back : ∀ result, (call (some result)).isLost = false)
    (fine : ∀ before, (call none).isLost = false ∨
      ∃ result after, operation before = .ok result after) :
    Keeps (fun logged => ∀ call ∈ logged.calls, call.isLost = false)
      (Logged.record call operation) := by
  rintro ⟨system, calls⟩ holds
  dsimp only [Logged.record]
  cases run : operation system with
  | ok result after => exact List.forall_mem_cons.2 ⟨back result, holds⟩
  | error error after =>
    rcases fine system with alike | ⟨result, after', run'⟩
    · exact List.forall_mem_cons.2 ⟨alike, holds⟩
    · exact nomatch run.symm.trans run'

omit [TimeScale τ] in
/-- Of a reliable system no repaint and no report is lost. -/
theorem confines_unlost {driven : Driven ε σ τ} (reliable : driven.Reliable) :
    Confines (fun logged => ∀ call ∈ logged.calls, call.isLost = false) (fun _ => True)
      driven.logged where
  step := (keeps_unlost (fun _ => rfl) fun _ => .inl rfl).confined
  tick := (keeps_unlost (fun _ => rfl) fun _ => .inl rfl).confined
  pollInputs := (keeps_unlost (fun _ => rfl) fun _ => .inl rfl).confined
  refresh := (keeps_unlost (fun _ => rfl) fun before => .inr ⟨(), reliable.refresh before⟩).confined
  report fps ops :=
    (keeps_unlost (fun _ => rfl) fun before => .inr ⟨(), reliable.report fps ops before⟩).confined
  note _ := (keeps_unlost (fun _ => rfl) fun _ => .inl rfl).confined

/-! ## A run -/

/-- A new clock has counted nothing. -/
theorem counters_of_create {speed : Option Int} {clock : Clock τ}
    (made : Clock.create speed = .ok clock) : clock.frames = 0 ∧ clock.ops = 0 := by
  dsimp only [Clock.create] at made
  split at made
  · cases made
    exact ⟨rfl, rfl⟩
  · split at made
    · cases made
      exact ⟨rfl, rfl⟩
    · exact nomatch made

/-- **The counters account for all that was run and shown.** A clock is made at any speed,
and asked to start and to poll in any order and at any times, on after the user has quit and
after polls that failed. At the end, the instructions that were reported and the counter
are together the steps that ran one, and the frames that were reported and the counter
are together the repaints; and each report has carried what came since the one before.
Repaints and reports that fail are not counted, and where they never fail there are none
of these. All this is read off a log that changes nothing. -/
theorem counters_account {speed : Option Int} {clock : Clock τ}
    (made : Clock.create speed = .ok clock) (system : σ) (commands : List (Command τ)) :
    let after := afterAll driven.logged ⟨clock, .fresh system⟩ commands
    Call.Accounts after.clock.frames after.clock.ops after.system.calls ∧
      (driven.Reliable → ∀ call ∈ after.system.calls, call.isLost = false) ∧
      after.erased = afterAll driven ⟨clock, system⟩ commands := by
  have first : Accounted ⟨clock, Logged.fresh system⟩ := by
    obtain ⟨frames, ops⟩ := counters_of_create made
    rw [Accounted, frames, ops]
    exact Call.accounts_nil
  refine ⟨?_, fun reliable => ?_, erased_afterAll driven ⟨clock, .fresh system⟩ commands⟩
  · exact holds_afterAll (fun now => Keeps.modify fun _ accounted => accounted)
      (keeps_poll driven) first commands
  · exact holds_afterAll
      (P := fun clocked : Clocked τ (Logged σ) =>
        ∀ call ∈ clocked.system.calls, call.isLost = false)
      (fun now => Keeps.modify fun _ holds => holds)
      (fun now => (confined_poll (confines_unlost reliable) now).keeps)
      (List.forall_mem_nil _) commands

/-- A system whose first step runs an instruction and whose second does not; the others
fail, and after one that has failed the user quits. -/
def stumbling : Driven Unit Nat ℚ where
  step
    | 0 => .ok true 1
    | 1 => .ok false 2
    | steps + 2 => .error () (steps + 3)
  tick := pure ()
  pollInputs steps := .ok (3 ≤ steps) steps
  refresh := pure ()
  report _ _ := pure ()
  note _ := pure ()
  now := pure 0
  rest := pure ()

/-- An uncapped clock that is started again, and polled until the user quits: one
instruction and three frames in three reports, and nothing still to be reported. -/
theorem counters_account_of_stumbling :
    ∃ clock, Clock.create (some 0) = .ok clock ∧
      let after := afterAll stumbling.logged ⟨clock, .fresh 0⟩
        [.poll 0, .poll 1, .start 1, .poll 2, .poll 3]
      Call.Accounts after.clock.frames after.clock.ops after.system.calls ∧
        (∀ call ∈ after.system.calls, call.isLost = false) ∧
        after.clock.frames = 0 ∧ after.clock.ops = 0 ∧
        after.system.calls.filter Call.settles =
          [.report 1 0 (some ()), .report 1 0 (some ()), .report 1 1 (some ())] := by
  obtain ⟨accounts, unlost, -⟩ := @counters_account _ _ _ stumbling _ (some 0) _ rfl 0
    [.poll 0, .poll 1, .start 1, .poll 2, .poll 3]
  have reliable : stumbling.Reliable :=
    ⟨fun before => ⟨before, rfl⟩, fun _ _ before => ⟨before, rfl⟩⟩
  refine ⟨_, rfl, accounts, unlost reliable, ?_, ?_, ?_⟩
  · decide +kernel
  · decide +kernel
  · decide +kernel

end Clocked
end Chip8
