import Chip8.Proofs.Machine.Soundness
import Chip8.Proofs.Session.Console
import Chip8.Session.Run
/-!
# From the plug-ins up to the end of the clock

Between bringing the plug-ins up and shutting them down a session puts the machine
together, loads the program, makes the clock and runs it. `Ending` lists all that this can
come to, with the failure that the session ends with, and `emulate_ends` says that there is
nothing else. Whatever it comes to, no plug-in is brought up or shut down on the way: what
is signalled is `InUse`.
-/

namespace Chip8

open Operation

/-! ## Signals of plug-ins that are up -/

/-- The signal neither brings a plug-in up nor shuts one down. -/
def Signal.InUse : Signal → Prop
  | .opened _ | .closed _ => False
  | _ => True

namespace Machine

/-- The machine has sent nothing but such signals. -/
def Using {δ : Type} (machine : Machine δ) : Prop := ∀ signal ∈ machine.outbox, signal.InUse

theorem inUse_push {outbox : Array Signal} {signal : Signal}
    (sent : ∀ other ∈ outbox, other.InUse) (inUse : signal.InUse) :
    ∀ other ∈ outbox.push signal, other.InUse := by
  intro other mem
  rcases Array.mem_push.1 mem with mem | rfl
  · exact sent other mem
  · exact inUse

theorem lasts_inUse :
    Lasts (fun _ outbox => ∀ signal ∈ outbox, signal.InUse) Silent Timed where
  sending silent sent := by
    refine inUse_push sent ?_
    rcases silent with ⟨call, rfl⟩ | ⟨entry, rfl⟩ <;> exact trivial
  setting _ sent other mem := by
    rw [← Array.mem_toList_iff, Array.toList_appendList, List.mem_append] at mem
    rcases mem with mem | mem
    · exact sent other (Array.mem_toList_iff.1 mem)
    · obtain ⟨request, -, rfl⟩ := List.mem_map.1 mem
      exact trivial

/-- The machine of a session that is about to run its program. -/
def fresh (names : Keymap) (traced : Bool) (noise : Nat → UInt8) (rom : List UInt8) :
    Machine Framebuffer :=
  (parts names Framebuffer.usual.1 traced noise).restarted.loadedWith rom

/-- From a keymap that can be read a sound machine is put together, and any program is loaded
into it. -/
theorem exists_loaded {text : String} {names : Keymap} (parsed : Keymap.parse text = .ok names)
    (traced : Bool) (noise : Nat → UInt8) (rom : List UInt8) :
    ∃ start count left, assemble (fun socket => some socket.duties) text Framebuffer.usual.1
        traced noise = .ok start ∧
      loadRom rom start = .ok count left ∧ left.Using ∧ left.Sound 64 32 ∧
      left = { fresh names traced noise rom with outbox := left.outbox } := by
  obtain ⟨outbox, on⟩ := @switchOn_eq Framebuffer.usualWidth Framebuffer.usualHeight
    (by decide) (by decide) names traced noise
  have reachable := Reachable.start (by decide) (by decide) on
  obtain ⟨more, loaded⟩ := loadRom_eq reachable.sound rom
  have kept := lasts_inUse.loadRom rom _ (reachable.tells lasts_inUse nofun)
  rw [loaded] at kept
  refine ⟨_, _, _, ?_, loaded, kept, (reachable.sound.loadedWith rom).withOutbox more, rfl⟩
  rw [assemble_of_duties, parsed]
  exact congrArg (Except.mapError AssemblyError.fault) on

end Machine

/-- A run brings no plug-in up and shuts none down, however it ends. -/
theorem Console.keeps_run_using {δ : Type} [Display δ] :
    Keeps (fun clocked : Clocked Float (Console δ) => clocked.system.machine.Using) run :=
  keeps_run_of_lasts Machine.lasts_inUse fun sent => Machine.inUse_push sent trivial

/-! ## Choices -/

/-- The settings of a session, none of them missing. -/
structure Choices where
  filename : Setting String
  clockSpeed : Setting Int
  renderer : Setting String
  scale : Setting Int
  muted : Bool
  keymap : Setting String
  logLevel : Setting String
  debug : Bool

/-- The settings that are chosen. -/
def Choices.toSettings (choices : Choices) : Settings where
  filename := some choices.filename
  clockSpeed := some choices.clockSpeed
  renderer := some choices.renderer
  scale := some choices.scale
  muted := some choices.muted
  keymap := some choices.keymap
  logLevel := some choices.logLevel
  debug := some choices.debug

theorem Setting.resolve_eq_none {α : Type} {usual : α} {setting : Setting α}
    (none : setting.resolve usual = none) : setting = .empty := by
  cases setting with
  | empty => rfl
  | unset | value a => exact nomatch none

namespace Session

/-! ## Endings -/

section Endings

variable (surroundings : Surroundings) (choices : Choices) (suite : Suite) (rom : List UInt8)

/-- The machine was put together for the session, and has loaded the program. -/
def Loaded (machine : Machine Framebuffer) : Prop :=
  ∃ text start count left, choices.keymap.resolve Keymap.usual = some text ∧
    Machine.assemble (fun socket => some socket.duties) text Framebuffer.usual.1 choices.debug
      surroundings.noise = .ok start ∧
    Machine.loadRom rom start = .ok count left ∧ machine = left.takeSignals.2

/-- Such a machine is sound and fresh. -/
theorem Loaded.eq_fresh {machine : Machine Framebuffer}
    (loaded : Loaded surroundings choices rom machine) :
    machine.Sound 64 32 ∧ ∃ names, machine =
      { Machine.fresh names choices.debug surroundings.noise rom with outbox := #[] } := by
  obtain ⟨text, start, count, left, -, built, ran, rfl⟩ := loaded
  cases parsed : Keymap.parse text with
  | error error =>
    rw [Machine.assemble_of_duties, parsed] at built
    exact nomatch built
  | ok names =>
    obtain ⟨_, _, _, built', ran', -, sound, fresh⟩ :=
      Machine.exists_loaded parsed choices.debug surroundings.noise rom
    cases built.symm.trans built'
    cases ran.symm.trans ran'
    refine ⟨sound.withOutbox #[], names, ?_⟩
    rw [Machine.takeSignals, fresh]

/-- The clock of the session, and the console that it is going to drive. -/
structure Begun (clocked : Clocked Float (Console Framebuffer)) : Prop where
  loaded : Loaded surroundings choices rom clocked.system.machine
  paced : ∃ speed, choices.clockSpeed.resolve (Clock.usualSpeed : Int) = some speed ∧
    Clock.create (some speed) = .ok clocked.clock
  batches : clocked.system.batches =
    if suite.windowed then surroundings.events.map (·.map WindowEvent.toInput) else []
  timepiece : clocked.system.timepiece = surroundings.timepiece

/-- **What a session can come to** once its plug-ins are up, with the failure that it ends
with, if any. -/
inductive Ending : Option Failure → Prop where
  /-- The keymap has no text. -/
  | emptyKeymap (empty : choices.keymap = .empty) : Ending (some .emptyText)
  /-- The keymap cannot be read. -/
  | badKeymap {text error} (named : choices.keymap.resolve Keymap.usual = some text)
      (bad : Keymap.parse text = .error error) : Ending (some (.assembly (.keymap error)))
  /-- The clock speed has no value. -/
  | emptySpeed {machine} (loaded : Loaded surroundings choices rom machine)
      (empty : choices.clockSpeed = .empty) : Ending (some .emptyNumber)
  /-- There is no clock of that speed. -/
  | badSpeed {machine speed error} (loaded : Loaded surroundings choices rom machine)
      (named : choices.clockSpeed.resolve (Clock.usualSpeed : Int) = some speed)
      (bad : (Clock.create (some speed) : Except Clock.SpeedError (Clock Float)) = .error error) :
      Ending (some (.speed error))
  /-- A step halts the machine, or the timepiece gives no time. -/
  | interrupted {clocked interruption left}
      (begun : Begun surroundings choices suite rom clocked)
      (ran : Console.run clocked = .error interruption left)
      (natural : interruption.Natural) : Ending (some (.interrupted interruption))
  /-- The user quits. -/
  | quit {clocked left} (begun : Begun surroundings choices suite rom clocked)
      (ran : Console.run clocked = .ok () left)
      (wish : ∃ batch ∈ clocked.system.batches, InputEvent.quit ∈ batch) : Ending none

end Endings

/-! ## Setting up -/

/-- The session after more signals. -/
def sending (more : Array Signal) (session : Session) : Session :=
  { session with signals := session.signals ++ more }

theorem sending_empty (session : Session) : session.sending #[] = session := by
  rw [sending, Array.append_empty]

section Stages

variable {ε α β : Type} {next : α → Stage β} {value : α}

/-- What is there stops nothing. -/
theorem need_some_bind {failure : Failure} : need failure (some value) >>= next = next value := rfl

/-- What succeeds stops nothing. -/
theorem expect_ok_bind {failure : ε → Failure} :
    expect failure (.ok value) >>= next = next value := rfl

end Stages

variable (surroundings : Surroundings) (choices : Choices) (rom : List UInt8) (session : Session)

/-- What comes of setting up: the session is at an end, or the clock and its machine are
ready. -/
inductive SetUp : EStateM.Result Failure Session (Clock Float × Machine Framebuffer) → Prop where
  | failed {failure more} (inUse : ∀ signal ∈ more, signal.InUse)
      (ending : Ending surroundings choices session.suite rom (some failure)) :
      SetUp (.error failure (session.sending more))
  | ready {clock machine more} (inUse : ∀ signal ∈ more, signal.InUse)
      (settled : machine.outbox = #[]) (sound : machine.Sound 64 32)
      (begun : Begun surroundings choices session.suite rom
        ⟨clock, ⟨machine, session.batches surroundings, session.timepiece⟩⟩) :
      SetUp (.ok (clock, machine) (session.sending more))

variable {surroundings choices rom session} in
/-- Nothing has been signalled yet. -/
theorem SetUp.atOnce {failure : Failure}
    (ending : Ending surroundings choices session.suite rom (some failure)) :
    SetUp surroundings choices rom session (.error failure session) := by
  have none : ∀ signal ∈ (#[] : Array Signal), signal.InUse := nofun
  have ended := SetUp.failed none ending
  rwa [sending_empty] at ended

/-- **The clock and its machine are ready**, or the session is at an end. -/
theorem setUp_ends (told : session.timepiece = surroundings.timepiece) :
    SetUp surroundings choices rom session
    (setUp surroundings choices.toSettings choices.keymap choices.debug rom Framebuffer.usual.1
      session) := by
  rw [setUp]
  cases named : choices.keymap.resolve Keymap.usual with
  | none => exact .atOnce (.emptyKeymap (Setting.resolve_eq_none named))
  | some text =>
    rw [need_some_bind]
    cases parsed : Keymap.parse text with
    | error error =>
      rw [Machine.assemble_of_duties, parsed]
      exact .atOnce (.badKeymap named parsed)
    | ok names =>
      obtain ⟨start, count, left, built, loaded, inUse, sound, -⟩ :=
        Machine.exists_loaded parsed choices.debug surroundings.noise rom
      have loads : load rom start session =
          .ok left.takeSignals.2 (session.sending left.outbox) := by
        rw [load, loaded]
        rfl
      have machine : Loaded surroundings choices rom left.takeSignals.2 :=
        ⟨text, start, count, left, named, built, loaded, rfl⟩
      rw [built, expect_ok_bind, bind_of_ok loads]
      change SetUp _ _ _ _ ((need .emptyNumber
        (choices.clockSpeed.resolve (Clock.usualSpeed : Int)) >>= _) _)
      cases paced : choices.clockSpeed.resolve (Clock.usualSpeed : Int) with
      | none => exact .failed inUse (.emptySpeed machine (Setting.resolve_eq_none paced))
      | some speed =>
        rw [need_some_bind]
        cases made : (Clock.create (some speed) : Except Clock.SpeedError (Clock Float)) with
        | error error => exact .failed inUse (.badSpeed machine paced made)
        | ok clock =>
          exact .ready inUse rfl (sound.withOutbox #[])
            ⟨machine, ⟨speed, paced, made⟩, rfl, told⟩

/-! ## Running -/

/-- What comes of all that is done between bringing the plug-ins up and shutting them
down: one of the endings, and signals of plug-ins that are up. -/
structure Emulated (result : EStateM.Result Failure Session Unit) : Prop where
  ending : Ending surroundings choices session.suite rom (failure? result)
  inUse : ∃ more, (left result).signals = session.signals ++ more ∧
    ∀ signal ∈ more, signal.InUse

section Collecting

variable {surroundings session} {clock : Clock Float} {machine : Machine Framebuffer}
variable {clocked : Clocked Float (Console Framebuffer)}

theorem runClock_of_ok
    (ran : Console.run ⟨clock, ⟨machine, session.batches surroundings, session.timepiece⟩⟩ =
      .ok () clocked) :
    runClock surroundings clock machine session = .ok () (session.collect clocked.system) := by
  rw [runClock, ran]

theorem runClock_of_error {interruption : Interruption}
    (ran : Console.run ⟨clock, ⟨machine, session.batches surroundings, session.timepiece⟩⟩ =
      .error interruption clocked) :
    runClock surroundings clock machine session =
      .error (.interrupted interruption) (session.collect clocked.system) := by
  rw [runClock, ran]

theorem inUse_collect {console : Console Framebuffer} {more : Array Signal}
    (sent : ∀ signal ∈ more, signal.InUse) (inUse : console.machine.Using) :
    ∃ all, ((session.sending more).collect console).signals = session.signals ++ all ∧
      ∀ signal ∈ all, signal.InUse := by
  refine ⟨more ++ console.machine.outbox, Array.append_assoc, fun signal mem => ?_⟩
  rcases Array.mem_append.1 mem with mem | mem
  · exact sent signal mem
  · exact inUse signal mem

end Collecting

/-- **There is no other ending.** -/
theorem emulate_ends (told : session.timepiece = surroundings.timepiece) :
    Emulated surroundings choices rom session
    (emulate surroundings choices.toSettings choices.keymap choices.debug rom
      Framebuffer.usual.1 session) := by
  have ready := setUp_ends surroundings choices rom session told
  rw [emulate]
  cases made : setUp surroundings choices.toSettings choices.keymap choices.debug rom
      Framebuffer.usual.1 session with
  | error failure after =>
    rw [made] at ready
    rw [bind_of_error made]
    cases ready with
    | failed inUse ending => exact ⟨ending, _, rfl, inUse⟩
  | ok pair after =>
    rw [made] at ready
    rw [bind_of_ok made]
    cases ready with
    | @ready clock machine more inUse settled sound begun =>
      have unused : machine.Using := by
        simp [Machine.Using, settled]
      let start : Clocked Float (Console Framebuffer) :=
        ⟨clock, ⟨machine, session.batches surroundings, session.timepiece⟩⟩
      have used := Console.keeps_run_using start unused
      change Emulated surroundings choices rom session
        (runClock surroundings clock machine (session.sending more))
      cases ran : Console.run start with
      | ok _ clocked =>
        have runs : runClock surroundings clock machine (session.sending more) =
          .ok () ((session.sending more).collect clocked.system) := runClock_of_ok ran
        rw [ran] at used
        rw [runs]
        exact ⟨.quit begun ran (Console.quit_of_run ran), inUse_collect inUse used⟩
      | error interruption clocked =>
        have runs : runClock surroundings clock machine (session.sending more) =
          .error (.interrupted interruption) ((session.sending more).collect clocked.system) :=
          runClock_of_error ran
        rw [ran] at used
        rw [runs]
        exact ⟨.interrupted begun ran (Console.natural_of_run sound ran), inUse_collect inUse used⟩

end Session
end Chip8
