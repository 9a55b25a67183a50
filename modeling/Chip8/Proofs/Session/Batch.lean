import Chip8.Proofs.Machine.KeyWait
import Chip8.Proofs.Session.Console
import Chip8.Proofs.Time.Account
import Chip8.Proofs.Time.Quit
/-!
# Batches of key events

A window hands over its events batch by batch. All keys of a batch are delivered in order,
also those behind a wish to quit (`direct_deliverAll`), so that a wait may still be ended by
a key of the last batch (`Sound.wait_ended`). A poll whose batch holds a wish to quit then
leaves off: nothing is run, nothing is shown, and everything is due when it was
(`batch_of_window`).
-/

namespace Chip8

/-! ## The keys of a batch -/

namespace WindowEvent

/-- What an event asks of the machine: a key goes down or up. Letting go of the key that
quits is not for the machine; pressing it is. -/
def request? : WindowEvent → Option Request
  | keyDown name => some (.keyDown (some (.text name)))
  | keyUp name => if name = quitKey then none else some (.keyUp (some (.text name)))
  | closed | other => none

/-- The wishes to quit. -/
theorem isQuit_toInput_iff (event : WindowEvent) :
    event.toInput.isQuit = true ↔ event = closed ∨ event = keyUp quitKey := by
  cases event with
  | closed => exact ⟨fun _ => .inl rfl, fun _ => rfl⟩
  | keyDown name | other => exact ⟨nofun, nofun⟩
  | keyUp name =>
    rw [toInput]
    split
    · rename_i same
      exact ⟨fun _ => .inr (same ▸ rfl), fun _ => rfl⟩
    · rename_i other
      refine ⟨nofun, ?_⟩
      rintro (impossible | same)
      · exact nomatch impossible
      · exact absurd (keyUp.inj same) other

theorem any_isQuit_iff (events : List WindowEvent) :
    (events.map toInput).any InputEvent.isQuit = true ↔
      closed ∈ events ∨ keyUp quitKey ∈ events := by
  simp only [List.any_map, List.any_eq_true, Function.comp, isQuit_toInput_iff]
  constructor
  · rintro ⟨event, mem, rfl | rfl⟩
    · exact .inl mem
    · exact .inr mem
  · rintro (mem | mem)
    · exact ⟨_, mem, .inl rfl⟩
    · exact ⟨_, mem, .inr rfl⟩

/-- The requests of a batch are its presses, and its releases but for the key that quits. -/
theorem key_of_mem {events : List WindowEvent} {request : Request}
    (mem : request ∈ events.filterMap request?) :
    (∃ name, keyDown name ∈ events ∧ request = .keyDown (some (.text name))) ∨
      ∃ name, keyUp name ∈ events ∧ name ≠ quitKey ∧ request = .keyUp (some (.text name)) := by
  obtain ⟨event, came, asks⟩ := List.mem_filterMap.1 mem
  cases event with
  | closed | other => exact nomatch asks
  | keyDown name => exact .inl ⟨name, came, (Option.some.inj asks).symm⟩
  | keyUp name =>
    by_cases quits : name = quitKey
    · rw [request?, if_pos quits] at asks
      exact nomatch asks
    · rw [request?, if_neg quits] at asks
      exact .inr ⟨name, came, quits, (Option.some.inj asks).symm⟩

/-- Keys do not make the machine run, nor start it again. -/
theorem idle_of_mem {events : List WindowEvent} {request : Request}
    (mem : request ∈ events.filterMap request?) (machine : Machine Framebuffer) :
    machine.Idle request := by
  rcases key_of_mem mem with ⟨name, -, rfl⟩ | ⟨name, -, -, rfl⟩
  · exact ⟨nofun, trivial⟩
  · exact ⟨nofun, trivial⟩

end WindowEvent

namespace Machine

open Operation

variable {δ α β : Type}

theorem direct_bind (operation : Operation (Machine δ) α) (next : α → Operation (Machine δ) β) :
    direct (operation >>= next) = direct operation >>= fun result => direct (next result) := by
  funext machine
  cases run : operation machine with
  | ok result after =>
    have ran : direct operation machine = .ok result after := by rw [direct, run]
    rw [bind_of_ok ran, direct, bind_of_ok run]
    rfl
  | error fault after =>
    have failed : direct operation machine = .error (.refused fault) after := by rw [direct, run]
    rw [bind_of_error failed, direct, bind_of_error run]

/-- An event is delivered by the request that it makes, if it makes one. -/
theorem direct_deliver (event : WindowEvent) :
    (direct event.toInput.deliver : Running Framebuffer Unit) =
      event.request?.toList.forM serve := by
  have alone : ∀ request, [request].forM serve = serve request := fun request => bind_pure _
  have pressing : ∀ code, (direct (InputEvent.down code).deliver : Running Framebuffer Unit) =
      [Request.keyDown code].forM serve := fun code => by
    rw [InputEvent.deliver, direct_bind, alone]
    rfl
  have letting_go : ∀ code, (direct (InputEvent.up code).deliver : Running Framebuffer Unit) =
      [Request.keyUp code].forM serve := fun code => by
    rw [InputEvent.deliver, direct_bind, alone]
    rfl
  cases event with
  | closed | other => rfl
  | keyDown name => exact pressing _
  | keyUp name =>
    rw [WindowEvent.toInput, WindowEvent.request?]
    split
    · rfl
    · exact letting_go _

/-- **A batch is delivered whole**: all its keys, in order, whatever wishes to quit there are
among them and wherever. -/
theorem direct_deliverAll (events : List WindowEvent) :
    (direct (InputEvent.deliverAll (events.map WindowEvent.toInput)) : Running Framebuffer Bool) =
      (events.filterMap WindowEvent.request?).forM serve >>= fun _ =>
        pure ((events.map WindowEvent.toInput).any InputEvent.isQuit) := by
  induction events with
  | nil => rfl
  | cons event events ih =>
    have first : (event :: events).filterMap WindowEvent.request? =
        event.request?.toList ++ events.filterMap WindowEvent.request? := by
      rw [List.filterMap_cons]
      cases event.request? <;> rfl
    -- the wish to quit is told only after the rest of the batch, and passes over its keys
    rw [List.map_cons, InputEvent.deliverAll, direct_bind, direct_deliver]
    simp only [direct_bind, ih, first, List.any_cons, List.forM_eq_forM, List.forM_append,
      bind_assoc, pure_bind]
    rfl

variable {width height : Nat} {machine : Machine Framebuffer} {requests : List Request}

/-- Requests other than steps are all served by a sound machine. -/
theorem Sound.forM_serve (sound : machine.Sound width height)
    (others : ∀ request ∈ requests, request ≠ .step) :
    requests.forM serve machine = .ok () (machine.afterAll requests) := by
  induction requests generalizing machine with
  | nil => rfl
  | cons request requests ih =>
    obtain ⟨other, others⟩ := List.forall_mem_cons.1 others
    obtain ⟨outbox, served⟩ := serve_of_ne_step sound other
    have rest := ih (sound.after request) others
    rw [after_of_ok served] at rest
    refine (bind_of_ok served).trans (rest.trans ?_)
    rw [Machine.afterAll, Machine.afterAll, List.foldl_cons, after_of_ok served]

/-- A sound machine takes every batch. -/
theorem Sound.direct_deliverAll (sound : machine.Sound width height) (events : List WindowEvent) :
    direct (InputEvent.deliverAll (events.map WindowEvent.toInput)) machine =
      .ok ((events.map WindowEvent.toInput).any InputEvent.isQuit)
        (machine.afterAll (events.filterMap WindowEvent.request?)) := by
  have served : (events.filterMap WindowEvent.request?).forM serve machine = _ :=
    sound.forM_serve fun request mem => (WindowEvent.idle_of_mem mem machine).1
  rw [Machine.direct_deliverAll, bind_of_ok served]
  rfl

end Machine

/-! ## A poll of the console -/

namespace Console

open Operation Clocked

variable {τ : Type}

theorem direct_of_ok {α : Type} {operation : Operation (Machine Framebuffer) α} {result : α}
    {console : Console Framebuffer} {after : Machine Framebuffer}
    (run : Machine.direct operation console.machine = .ok result after) :
    direct operation console = .ok result { console with machine := after } := by
  simp only [direct, onMachine, run]

/-- A report touches nothing but the signals. -/
theorem report_eq (fps ops : Int) (console : Console Framebuffer) :
    ∃ outbox, direct (Machine.reportPerformance fps ops) console =
      .ok () { console with machine := { console.machine with outbox := outbox } } := by
  obtain ⟨outbox, painted⟩ := Machine.paint_eq (Framebuffer.report fps ops) console.machine
  exact ⟨outbox, direct_of_ok (Machine.direct_of_ok painted)⟩

variable {width height : Nat} {machine : Machine Framebuffer}

/-- The batch that comes next is delivered to a sound machine. -/
theorem pollInputs_of_sound (sound : machine.Sound width height) (events : List WindowEvent)
    (rest : List (List InputEvent)) (timepiece : Timepiece) :
    ∃ outbox, pollInputs ⟨machine, events.map WindowEvent.toInput :: rest, timepiece⟩ =
      .ok ((events.map WindowEvent.toInput).any InputEvent.isQuit)
        ⟨({ machine with outbox := outbox } : Machine Framebuffer).afterAll
          (events.filterMap WindowEvent.request?), rest, timepiece⟩ := by
  let asked : Machine Framebuffer := { machine with outbox := machine.outbox.push .polled }
  have delivered := (sound.withOutbox (machine.outbox.push .polled)).direct_deliverAll events
  have asks : direct (Machine.emit .polled)
      ⟨machine, events.map WindowEvent.toInput :: rest, timepiece⟩ =
        .ok () ⟨asked, events.map WindowEvent.toInput :: rest, timepiece⟩ := rfl
  have takes : nextBatch ⟨asked, events.map WindowEvent.toInput :: rest, timepiece⟩ =
      .ok (events.map WindowEvent.toInput) ⟨asked, rest, timepiece⟩ := rfl
  refine ⟨machine.outbox.push .polled, ?_⟩
  rw [pollInputs, bind_of_ok asks, bind_of_ok takes]
  exact @direct_of_ok _ _ _ ⟨asked, rest, timepiece⟩ _ delivered

/-- **What a poll leaves in which the user quits**, if the keys make these requests. -/
structure Stopped [TimeScale τ] (requests : List Request) (now : τ) (schedule : Schedule τ)
    (before after : Clocked τ (Logged (Console Framebuffer))) : Prop where
  /-- The machine has taken the keys, and nothing else but that it has sent signals. -/
  machine : ∃ outbox, after.system.system.machine =
    ({ before.system.system.machine with outbox := outbox } : Machine Framebuffer).afterAll requests
  batches : after.system.system.batches = before.system.system.batches.tail
  timepiece : after.system.system.timepiece = before.system.system.timepiece
  speed : after.clock.speed = before.clock.speed
  /-- Steps, ticks and the display are due when they were. -/
  times : after.clock.schedule = some { schedule with
    report := if schedule.report ≤ now then now + TimeScale.period 1 else schedule.report }
  /-- There was a report, if it was due, and the key events were asked for; nothing was
  run and nothing was shown. -/
  calls : after.system.calls = .inputs (some true) ::
    ((if schedule.report ≤ now then [.report before.clock.frames before.clock.ops (some ())]
      else []) ++ before.system.calls)

section Stopping

variable [TimeScale τ] {clock : Clock τ} {schedule : Schedule τ} {now : τ}

/-- A report that is due comes before the key events. -/
theorem reportIfDue_timed (reading : EStateM Interruption (Console Framebuffer) τ)
    (started : clock.schedule = some schedule) (now : τ) (console : Console Framebuffer)
    (calls : List Call) :
    ∃ outbox, reportIfDue (timed reading).logged now ⟨clock, ⟨console, calls⟩⟩ =
      .ok () ⟨clock.afterReport now,
        ⟨{ console with machine := { console.machine with outbox := outbox } },
          (if schedule.report ≤ now then [.report clock.frames clock.ops (some ())] else [])
            ++ calls⟩⟩ := by
  obtain ⟨outbox, reported⟩ := report_eq clock.frames clock.ops console
  have recorded : (timed reading).logged.report clock.frames clock.ops ⟨console, calls⟩ =
      .ok () ⟨{ console with machine := { console.machine with outbox := outbox } },
        .report clock.frames clock.ops (some ()) :: calls⟩ := Logged.record_of_ok reported
  have told := reportIfDue_of_ok now recorded
  have due := isDue_iff started Schedule.report now
  by_cases late : schedule.report ≤ now
  · rw [if_pos (due.2 late)] at told
    rw [if_pos late]
    exact ⟨outbox, told⟩
  · rw [if_neg (mt due.1 late)] at told
    rw [if_neg late]
    exact ⟨console.machine.outbox, told⟩

/-- The report comes first if it is due, then the key events, and then nothing. -/
theorem stopped_of_quits (sound : machine.Sound width height) {events : List WindowEvent}
    (quits : (events.map WindowEvent.toInput).any InputEvent.isQuit = true)
    (reading : EStateM Interruption (Console Framebuffer) τ)
    (started : clock.schedule = some schedule) (due : schedule.display ≤ now)
    (rest : List (List InputEvent)) (timepiece : Timepiece) (calls : List Call) :
    let before : Clocked τ (Logged (Console Framebuffer)) :=
      ⟨clock, ⟨⟨machine, events.map WindowEvent.toInput :: rest, timepiece⟩, calls⟩⟩
    ∃ after, poll (timed reading).logged now before = .ok false after ∧
      Stopped (events.filterMap WindowEvent.request?) now schedule before after := by
  intro before
  obtain ⟨sent, told⟩ := reportIfDue_timed reading started now before.system.system calls
  obtain ⟨outbox, asked⟩ := pollInputs_of_sound (sound.withOutbox sent) events rest timepiece
  rw [quits] at asked
  have scheduled := schedule_afterReport started now
  have due' : (clock.afterReport now).isDue Schedule.display now = true :=
    (isDue_iff scheduled Schedule.display now).2 due
  have run := poll_of_quits started told due' (Logged.record_of_ok asked)
  have speed : (clock.afterReport now).speed = clock.speed := by
    rw [Clock.afterReport]
    split <;> rfl
  exact ⟨_, run, ⟨outbox, rfl⟩, rfl, rfl, speed, scheduled, rfl⟩

/-- A wait is ended by the first key of the keymap in a batch that goes down. -/
theorem wait_ended_of_batch (sound : machine.Sound width height) {register key : Fin 16}
    (latch : machine.keypad.latch = some (register.val : Int)) {earlier : List WindowEvent}
    {name : String} (later : List WindowEvent)
    (first : ∀ other, .keyDown other ∈ earlier →
      machine.keypad.logical? (some (.text other)) = none)
    (known : machine.keypad.logical? (some (.text name)) = some key) :
    Machine.WaitEnded register key machine
      (machine.afterAll ((earlier ++ .keyDown name :: later).filterMap WindowEvent.request?)) := by
  have unheard : ∀ request ∈ earlier.filterMap WindowEvent.request?,
      machine.Unheard request := by
    intro request mem
    rcases WindowEvent.key_of_mem mem with ⟨other, came, rfl⟩ | ⟨other, -, -, rfl⟩
    · exact first other came
    · exact trivial
  rw [List.filterMap_append]
  exact sound.wait_ended latch unheard known fun request mem => WindowEvent.idle_of_mem mem

/-- **A batch of window events is delivered whole, and a wish to quit stops the clock.**
Every press is handed on, and every release but that of the key that quits, in order and
wherever the wish to quit is; the other events are not. The batch asks to quit if the window
is closed or that key let go of. If it does, a poll of a started clock that asks for it has
handed on these keys, and they have ended a wait with the first that is of the keymap; but
nothing is run, counted down or shown, and steps, ticks and display are due when they
were. -/
theorem batch_of_window (sound : machine.Sound width height) (events : List WindowEvent) :
    let requests := events.filterMap WindowEvent.request?
    let batch := events.map WindowEvent.toInput
    let quits := batch.any InputEvent.isQuit
    Machine.direct (InputEvent.deliverAll batch) =
      (requests.forM Machine.serve >>= fun _ => pure quits) ∧
    Machine.direct (InputEvent.deliverAll batch) machine = .ok quits (machine.afterAll requests) ∧
    (quits = true ↔ .closed ∈ events ∨ .keyUp WindowEvent.quitKey ∈ events) ∧
    (quits = true → ∀ (reading : EStateM Interruption (Console Framebuffer) τ)
      (clock : Clock τ) (schedule : Schedule τ) (now : τ),
      clock.schedule = some schedule → schedule.display ≤ now →
      ∀ (rest : List (List InputEvent)) (timepiece : Timepiece) (calls : List Call),
        let before : Clocked τ (Logged (Console Framebuffer)) :=
          ⟨clock, ⟨⟨machine, batch :: rest, timepiece⟩, calls⟩⟩
        ∃ after, poll (timed reading).logged now before = .ok false after ∧
          poll (timed reading) now before.erased = .ok false after.erased ∧
          Stopped requests now schedule before after ∧
          ∀ (register key : Fin 16) (earlier later : List WindowEvent) (name : String),
            machine.keypad.latch = some (register.val : Int) →
            events = earlier ++ .keyDown name :: later →
            (∀ other, .keyDown other ∈ earlier →
              machine.keypad.logical? (some (.text other)) = none) →
            machine.keypad.logical? (some (.text name)) = some key →
            Machine.WaitEnded register key machine after.system.system.machine) := by
  intro requests batch quits
  refine ⟨Machine.direct_deliverAll events, sound.direct_deliverAll events,
    WindowEvent.any_isQuit_iff events, ?_⟩
  intro wish reading clock schedule now started due rest timepiece calls before
  obtain ⟨after, run, stopped⟩ :=
    stopped_of_quits sound wish reading started due rest timepiece calls
  refine ⟨after, run, poll_of_logged run, stopped, ?_⟩
  rintro register key earlier later name latch rfl first known
  -- the signals sent before are of no account to the wait
  obtain ⟨outbox, left⟩ := stopped.machine
  have ended := wait_ended_of_batch (sound.withOutbox outbox) latch later first known
  rw [left]
  exact ⟨ended.free, ended.filled, ended.others⟩

/-- A program waits for a key; the window is closed, and then the key for zero goes down. The
poll stops, and the program has got its key. -/
theorem batch_of_window_closed :
    ∃ machine after, Machine.Reachable 64 32 machine ∧
      machine.keypad.latch = some ((0 : Fin 16).val : Int) ∧
      let before : Clocked ℚ (Console Framebuffer) :=
        ⟨⟨some 500, some ⟨0, 0, 0, 1⟩, 0, 0⟩,
          ⟨machine, [[.quit, .down (some (.text "x"))]], .start 0 0 0⟩⟩
      poll (timed (pure 0)) 0 before = .ok false after ∧
        after.clock.schedule = before.clock.schedule ∧
        Machine.WaitEnded 0 0 machine after.system.machine := by
  obtain ⟨_, asking, asks⟩ :=
    Machine.reachable_first [0xF0, 0x0A] (.ldVxK 0) (by decide) (by decide) rfl
  obtain ⟨_, -, waits⟩ := asking.granted rfl (show ¬ (0xFFF : Int) ≤ 0x200 by decide)
    (by rw [asks]; rfl)
  rw [asks] at waits
  have known : Machine.usualKeys.find? (Text.lowercase "x") = some 0 := by decide
  obtain ⟨-, -, asked, stops⟩ :=
    @batch_of_window ℚ _ _ _ _ waits.sound [.closed, .keyDown "x"]
  obtain ⟨after, -, run, stopped, ended⟩ := stops (asked.2 (.inl (by decide))) (pure 0)
    ⟨some 500, some ⟨0, 0, 0, 1⟩, 0, 0⟩ ⟨0, 0, 0, 1⟩ 0 rfl (le_refl _) [] (.start 0 0 0) []
  refine ⟨_, after.erased, waits, rfl, run, ?_, ended 0 0 [.closed] [] "x" rfl rfl ?_ known⟩
  · exact stopped.times
  · intro other mem
    exact nomatch List.mem_singleton.1 mem

end Stopping

end Console
end Chip8
