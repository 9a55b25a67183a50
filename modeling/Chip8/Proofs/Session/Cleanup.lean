import Chip8.Proofs.Machine.Run
import Chip8.Proofs.Session.Emulation
/-!
# Plug-ins are shut down

A session that does not get as far as having read its program is `Unprepared`: it has
written to the journal and done nothing else. One that is `Prepared` brings its three
plug-ins up, and whichever of the endings it comes to, shuts them down in the end: sound,
key events, renderer, each of them once and with nothing behind (`cleans_up`). What the
session failed with until then is what it fails with.
-/

namespace Chip8

/-- Devices that have only seen entries for the journal have nothing to do. -/
theorem Devices.followAll_of_noted [HostMemory] (suite : Suite) (scale : Setting Int)
    (devices : Devices) {signals : List Signal}
    (noted : ∀ signal ∈ signals, ∃ entry, signal = .noted entry) :
    followAll suite scale devices signals = (devices, #[]) := by
  induction signals with
  | nil => rfl
  | cons signal signals ih =>
    obtain ⟨entry, rfl⟩ := noted signal List.mem_cons_self
    exact ih fun other mem => noted other (List.mem_cons_of_mem _ mem)

namespace Session

open Operation

/-! ## Preparation -/

section Preparation

variable (surroundings : Surroundings) (choices : Choices)

/-- **Why a session does not get as far as its plug-ins**, with the failure that it ends
with. -/
inductive Unprepared : Failure → Prop where
  /-- There is no such threshold. -/
  | level {error} (bad : Threshold.choose choices.logLevel choices.debug = .error error) :
      Unprepared (.startup error)
  /-- There are no such plug-ins. -/
  | plugins {threshold error}
      (level : Threshold.choose choices.logLevel choices.debug = .ok threshold)
      (bad : Suite.choose choices.renderer choices.muted surroundings.hasWindows =
        .error error) : Unprepared (.startup error)
  /-- No file is named. -/
  | unnamed {threshold chosen}
      (level : Threshold.choose choices.logLevel choices.debug = .ok threshold)
      (plugins : Suite.choose choices.renderer choices.muted surroundings.hasWindows =
        .ok chosen)
      (bad : choices.filename.toOption = none) : Unprepared .noFilename
  /-- The file cannot be read. -/
  | unread {threshold chosen name error}
      (level : Threshold.choose choices.logLevel choices.debug = .ok threshold)
      (plugins : Suite.choose choices.renderer choices.muted surroundings.hasWindows =
        .ok chosen)
      (named : choices.filename.toOption = some name)
      (bad : surroundings.read name = .error error) : Unprepared (.unreadable error)

/-- **The plug-ins are chosen and the program is read.** -/
structure Prepared (suite : Suite) (rom : List UInt8) : Prop where
  level : ∃ threshold, Threshold.choose choices.logLevel choices.debug = .ok threshold
  plugins : ∃ notes, Suite.choose choices.renderer choices.muted surroundings.hasWindows =
    .ok (suite, notes)
  program : ∃ name, choices.filename.toOption = some name ∧ surroundings.read name = .ok rom

end Preparation

variable {surroundings : Surroundings} {choices : Choices} {failure : Failure} {suite : Suite}
variable {rom : List UInt8} {session : Session}

/-- A session is prepared, or it is not. -/
theorem unprepared_or_prepared (surroundings : Surroundings) (choices : Choices) :
    (∃ failure, Unprepared surroundings choices failure) ∨
      ∃ suite rom, Prepared surroundings choices suite rom := by
  cases level : Threshold.choose choices.logLevel choices.debug with
  | error error => exact .inl ⟨_, .level level⟩
  | ok threshold =>
    cases plugins : Suite.choose choices.renderer choices.muted surroundings.hasWindows with
    | error error => exact .inl ⟨_, .plugins level plugins⟩
    | ok chosen =>
      cases named : choices.filename.toOption with
      | none => exact .inl ⟨_, .unnamed level plugins named⟩
      | some name =>
        cases program : surroundings.read name with
        | error error => exact .inl ⟨_, .unread level plugins named program⟩
        | ok rom =>
          exact .inr ⟨chosen.1, rom, ⟨threshold, level⟩, ⟨chosen.2, plugins⟩,
            ⟨name, named, program⟩⟩

/-! ## What preparation does -/

/-- Signals sent one after another. -/
theorem forM_emit {α : Type} (signal : α → Signal) (items : List α) (session : Session) :
    items.forM (fun item => emit (signal item)) session =
      .ok ⟨⟩ (session.sending (items.map signal).toArray) := by
  induction items generalizing session with
  | nil => exact congrArg (EStateM.Result.ok PUnit.unit) (sending_empty session).symm
  | cons item items ih =>
    refine (bind_of_ok rfl).trans ((ih _).trans ?_)
    rw [sending, sending]
    simp

/-- The plug-ins once chosen, what is left is to read the program. -/
theorem prepare_of_plugins {threshold : Nat} {notes : List Entry}
    (level : Threshold.choose choices.logLevel choices.debug = .ok threshold)
    (plugins : Suite.choose choices.renderer choices.muted surroundings.hasWindows =
      .ok (suite, notes)) (session : Session) :
    prepare surroundings choices.toSettings session =
      (need .noFilename choices.filename.toOption >>= fun filename =>
        expect .unreadable (surroundings.read filename) >>= fun rom =>
          emit (.noted (readingNote filename rom)) >>= fun _ => pure rom : Stage (List UInt8))
        ({ session with threshold := threshold, suite := suite }.sending
          ((introduction :: notes).map Signal.noted).toArray) := by
  simp only [prepare, Choices.toSettings, require, need_some_bind, level, expect_ok_bind, plugins]
  refine (bind_of_ok rfl).trans ((bind_of_ok rfl).trans ((bind_of_ok rfl).trans ?_))
  refine (bind_of_ok (forM_emit .noted notes _)).trans ?_
  simp [sending]

/-- A session that is not prepared fails. -/
theorem prepare_of_unprepared (why : Unprepared surroundings choices failure)
    (session : Session) :
    ∃ left, prepare surroundings choices.toSettings session = .error failure left := by
  cases why with
  | level bad =>
    simp only [prepare, Choices.toSettings, require, need_some_bind, bad]
    exact ⟨_, rfl⟩
  | plugins level bad =>
    simp only [prepare, Choices.toSettings, require, need_some_bind, level, expect_ok_bind, bad]
    exact ⟨_, rfl⟩
  | unnamed level plugins bad =>
    rw [prepare_of_plugins level plugins, bad]
    exact ⟨_, rfl⟩
  | unread level plugins named bad =>
    rw [prepare_of_plugins level plugins, named, need_some_bind, bad]
    exact ⟨_, rfl⟩

/-- One that is prepared has its plug-ins and its program. -/
theorem prepare_of_prepared (prepared : Prepared surroundings choices suite rom)
    (session : Session) :
    ∃ left, prepare surroundings choices.toSettings session = .ok rom left ∧
      left.suite = suite := by
  obtain ⟨⟨threshold, level⟩, ⟨notes, plugins⟩, ⟨name, named, program⟩⟩ := prepared
  rw [prepare_of_plugins level plugins, named, need_some_bind, program, expect_ok_bind]
  exact ⟨_, rfl, rfl⟩

/-- **Only the journal has been written to**, and the time has not been read. -/
structure Untouched (timepiece : Timepiece) (session : Session) : Prop where
  noted : ∀ signal ∈ session.signals, ∃ entry, signal = .noted entry
  timepiece : session.timepiece = timepiece

section Untouched

variable {timepiece : Timepiece}

theorem keeps_need {α : Type} {P : Session → Prop} (failure : Failure) (value : Option α) :
    Keeps P (need failure value) := by
  cases value <;> exact fun _ holds => holds

theorem keeps_expect {ε α : Type} {P : Session → Prop} (failure : ε → Failure)
    (value : Except ε α) : Keeps P (expect failure value) := by
  cases value <;> exact fun _ holds => holds

theorem keeps_note (entry : Entry) : Keeps (Untouched timepiece) (emit (.noted entry)) := by
  refine Keeps.modify fun session untouched => ⟨fun signal mem => ?_, untouched.timepiece⟩
  rcases Array.mem_push.1 mem with mem | rfl
  · exact untouched.noted signal mem
  · exact ⟨entry, rfl⟩

theorem keeps_prepare (surroundings : Surroundings) (settings : Settings) :
    Keeps (Untouched timepiece) (prepare surroundings settings) := by
  refine Keeps.bind (keeps_need _ _) fun level => Keeps.bind (keeps_need _ _) fun debug => ?_
  refine Keeps.bind (keeps_expect _ _) fun threshold => ?_
  refine Keeps.bind (Keeps.modify fun _ untouched => ⟨untouched.noted, untouched.timepiece⟩)
    fun _ => Keeps.bind (keeps_note _) fun _ => ?_
  refine Keeps.bind (keeps_need _ _) fun renderer => Keeps.bind (keeps_need _ _) fun muted => ?_
  refine Keeps.bind (keeps_expect _ _) fun chosen => ?_
  refine Keeps.bind (Keeps.modify fun _ untouched => ⟨untouched.noted, untouched.timepiece⟩)
    fun _ => Keeps.bind (Keeps.forM keeps_note) fun _ => ?_
  refine Keeps.bind (keeps_need _ _) fun filename => Keeps.bind (keeps_need _ _) fun name => ?_
  exact Keeps.bind (keeps_expect _ _) fun rom => Keeps.bind (keeps_note _) fun _ => Keeps.pure rom

/-- Nothing has been asked of the host. -/
theorem Untouched.idle [HostMemory] (untouched : session.Untouched timepiece) :
    session.devices.2 = #[] := by
  have idle := Devices.followAll_of_noted session.suite session.scale
    (Devices.initial session.scale) fun signal mem =>
      untouched.noted signal (Array.mem_toList_iff.1 mem)
  rw [devices, idle]

end Untouched

/-! ## Bringing up -/

/-- What is signalled while the plug-ins are brought up. -/
def bringing : List Signal :=
  .opened .renderer :: Framebuffer.usual.2.map Signal.paint ++ [.opened .inputs, .opened .audio]

/-- With a width there is a window. -/
theorem exists_windowed {scale : Setting Int} (wide : scale ≠ .empty) :
    ∃ renderer, (Renderer.windowed scale).1 = some renderer := by
  cases scale with
  | empty => exact absurd rfl wide
  | unset | value width => exact ⟨_, rfl⟩

/-- **The plug-ins come up**, if a window gets a width. -/
theorem bringUp_eq (wide : session.suite.windowed = true → choices.scale ≠ .empty) :
    bringUp choices.toSettings session = .ok Framebuffer.usual.1
      ({ session with scale := choices.scale }.sending bringing.toArray) := by
  have sent : { session with
      scale := choices.scale
      signals := session.signals.push (.opened .renderer) ++
        (Framebuffer.usual.2.map Signal.paint).toArray ++ #[.opened .inputs, .opened .audio] } =
      { session with scale := choices.scale }.sending bringing.toArray := by
    simp [sending, bringing]
  rw [bringUp, ← sent]
  refine (bind_of_ok rfl).trans ((bind_of_ok rfl).trans ((bind_of_ok rfl).trans ?_))
  refine (bind_of_ok rfl).trans ?_
  split
  · rename_i windowed
    obtain ⟨renderer, up⟩ := exists_windowed (wide windowed)
    rw [up, need_some_bind]
    exact bind_of_ok (forM_emit .paint _ _)
  · exact bind_of_ok (forM_emit .paint _ _)

/-! ## Shutting down -/

/-- What is done eventually changes neither the result nor the failure. -/
theorem failure?_eventually {α : Type} (body : Stage α) (after : Session → Session)
    (session : Session) : failure? (eventually body after session) = failure? (body session) := by
  rw [eventually]
  cases body session <;> rfl

theorem left_eventually {α : Type} (body : Stage α) (after : Session → Session)
    (session : Session) : left (eventually body after session) = after (left (body session)) := by
  rw [eventually]
  cases body session <;> rfl

/-- **The plug-ins have been cleaned up.** -/
structure CleanedUp (signals : List Signal) : Prop where
  opened : ∀ plugin, signals.count (.opened plugin) = 1
  closed : ∀ plugin, signals.count (.closed plugin) = 1
  last : ∃ before, signals = before ++ [.closed .audio, .closed .inputs, .closed .renderer]

theorem count_of_inUse {signals : List Signal} (inUse : ∀ signal ∈ signals, signal.InUse)
    (plugin : Plugin) :
    signals.count (.opened plugin) = 0 ∧ signals.count (.closed plugin) = 0 :=
  ⟨List.count_eq_zero.2 fun mem => inUse _ mem, List.count_eq_zero.2 fun mem => inUse _ mem⟩

/-- After nothing but entries for the journal, plug-ins that came up and were in use are
cleaned up by being shut down. -/
theorem cleanedUp_shutdown {noted used : Array Signal}
    (first : ∀ signal ∈ noted, ∃ entry, signal = .noted entry)
    (inUse : ∀ signal ∈ used, signal.InUse)
    (signals : session.signals = noted ++ bringing.toArray ++ used) :
    CleanedUp session.shutdown.signals.toList := by
  have whole : session.shutdown.signals.toList = noted.toList ++ bringing ++ used.toList ++
      [.closed .audio, .closed .inputs, .closed .renderer] := by
    rw [shutdown, signals]
    simp
  have before : ∀ signal ∈ noted.toList, signal.InUse := by
    intro signal mem
    obtain ⟨entry, rfl⟩ := first signal (Array.mem_toList_iff.1 mem)
    exact trivial
  have none := count_of_inUse before
  have none' := count_of_inUse fun signal mem => inUse signal (Array.mem_toList_iff.1 mem)
  rw [whole]
  refine ⟨fun plugin => ?_, fun plugin => ?_, _, rfl⟩
  · rw [List.count_append, List.count_append, List.count_append, (none plugin).1,
      (none' plugin).1]
    cases plugin <;> rfl
  · rw [List.count_append, List.count_append, List.count_append, (none plugin).2,
      (none' plugin).2]
    cases plugin <;> rfl

/-! ## Sessions -/

theorem result_of_unprepared (why : Unprepared surroundings choices failure) :
    ∃ left, result surroundings choices.toSettings = .error failure left ∧
      left.Untouched surroundings.timepiece := by
  obtain ⟨left, failed⟩ := prepare_of_unprepared why (.initial surroundings.timepiece)
  have untouched := keeps_prepare surroundings choices.toSettings
    (.initial surroundings.timepiece) ⟨nofun, rfl⟩
  rw [failed] at untouched
  exact ⟨left, bind_of_error failed, untouched⟩

theorem result_of_prepared (prepared : Prepared surroundings choices suite rom)
    (wide : suite.windowed = true → choices.scale ≠ .empty) :
    Ending surroundings choices suite rom (failure? (result surroundings choices.toSettings)) ∧
      CleanedUp (left (result surroundings choices.toSettings)).signals.toList := by
  obtain ⟨ready, prepares, chosen⟩ :=
    prepare_of_prepared prepared (.initial surroundings.timepiece)
  have untouched := keeps_prepare surroundings choices.toSettings
    (.initial surroundings.timepiece) ⟨nofun, rfl⟩
  rw [prepares] at untouched
  obtain ⟨noted, told⟩ := untouched
  let up := { ready with scale := choices.scale }.sending bringing.toArray
  have runs : result surroundings choices.toSettings =
      eventually (emulate surroundings choices.toSettings choices.keymap choices.debug rom
        Framebuffer.usual.1) shutdown up := by
    rw [result, run, bind_of_ok prepares, bind_of_ok (bringUp_eq (chosen ▸ wide))]
    rfl
  obtain ⟨ending, used, signals, inUse⟩ := emulate_ends surroundings choices rom up told
  rw [show up.suite = suite from chosen] at ending
  rw [runs, failure?_eventually, left_eventually]
  exact ⟨ending, cleanedUp_shutdown noted inUse signals⟩

/-- **Plug-ins are shut down on every way out.** A session none of whose settings is missing
is prepared or it is not, whatever surrounds it and whatever times its timepiece tells. If it
is not, it fails for that reason: it has written to the journal only, no plug-in has been
brought up, and nothing has been asked of the host. If it is, and a window gets a width, then
it comes to one of the endings, with the failure that belongs to it. Whichever it is, each
plug-in has been brought up once and shut down once, and the last signals of all are those
that shut down the sound, the key events and the renderer. -/
theorem cleans_up [HostMemory] (surroundings : Surroundings) (choices : Choices) :
    ((∃ failure, Unprepared surroundings choices failure) ∨
      ∃ suite rom, Prepared surroundings choices suite rom) ∧
    (∀ failure, Unprepared surroundings choices failure →
      ∃ left, result surroundings choices.toSettings = .error failure left ∧
        (∀ signal ∈ left.signals, ∃ entry, signal = .noted entry) ∧ left.devices.2 = #[]) ∧
    ∀ suite rom, Prepared surroundings choices suite rom →
      (suite.windowed = true → choices.scale ≠ .empty) →
      Ending surroundings choices suite rom (failure? (result surroundings choices.toSettings)) ∧
        CleanedUp (left (result surroundings choices.toSettings)).signals.toList := by
  refine ⟨unprepared_or_prepared surroundings choices, fun failure why => ?_, ?_⟩
  · obtain ⟨left, failed, untouched⟩ := result_of_unprepared why
    exact ⟨left, failed, untouched.noted, untouched.idle⟩
  · intro suite rom prepared wide
    exact result_of_prepared prepared wide

/-- A machine whose program is a return, and no more, is going to halt on it. -/
theorem Loaded.doomed {machine : Machine Framebuffer}
    (loaded : Loaded surroundings choices [0x00, 0xEE] machine) :
    machine.Doomed 64 32 .stackUnderflow := by
  obtain ⟨sound, names, fresh⟩ := loaded.eq_fresh
  have upcoming : machine.upcoming = .ret :=
    @Machine.upcoming_booted machine [0x00, 0xEE] (by decide) 0 (by decide) (fresh ▸ rfl)
      (fresh ▸ rfl) _ rfl
  refine ⟨sound, ?_, ?_, ?_⟩
  · rw [fresh]
    rfl
  · rw [fresh]
    exact show ¬ (0xFFF : Int) ≤ 0x200 by decide
  · rw [upcoming, fresh]
    rfl

/-- So it is of a session without a window and with an uncapped clock, whose timepiece jumps
by five seconds after its first reading. Its program begins with a return: it is polled,
halts, and cleans up. Where there is no program it fails for that, and nothing has been asked
of the host. -/
theorem cleans_up_of_return :
    let choices : Choices :=
      ⟨.value "program", .value 0, .value "null", .unset, false, .unset, .unset, false⟩
    let surrounded (program : Except ReadError (List UInt8)) : Surroundings :=
      ⟨fun _ => program, false, [], fun _ => 0,
        .following (fun readings _ => .ok (if readings = 0 then 0 else 5)) 2⟩
    (∃ report left, result (surrounded (.ok [0x00, 0xEE])) choices.toSettings =
        .error (.interrupted (.crashed (.halted .stackUnderflow report))) left ∧
      CleanedUp left.signals.toList) ∧
    ∃ left, result (surrounded (.error .notFound)) choices.toSettings =
      .error (.unreadable .notFound) left ∧ left.devices.2 = #[] := by
  intro choices surrounded
  have prepared : Prepared (surrounded (.ok [0x00, 0xEE])) choices .headless [0x00, 0xEE] :=
    ⟨⟨_, rfl⟩, ⟨_, rfl⟩, ⟨_, rfl, rfl⟩⟩
  have unread : Unprepared (surrounded (.error .notFound)) choices (.unreadable .notFound) :=
    .unread rfl rfl rfl rfl
  constructor
  · obtain ⟨-, -, cleans⟩ := cleans_up (surrounded (.ok [0x00, 0xEE])) choices
    obtain ⟨ending, cleaned⟩ := cleans _ _ prepared nofun
    generalize result (surrounded (.ok [0x00, 0xEE])) choices.toSettings = result
      at ending cleaned ⊢
    cases result with
    | ok value left =>
      cases ending with
      | quit begun ran wish =>
        obtain ⟨batch, mem, -⟩ := wish
        rw [begun.batches] at mem
        exact nomatch mem
    | error failure left =>
      cases ending with
      | emptyKeymap empty => exact nomatch empty
      | badKeymap named bad =>
        cases named
        exact nomatch Machine.parse_usual.symm.trans bad
      | emptySpeed loaded empty => exact nomatch empty
      | badSpeed loaded named bad =>
        cases named
        exact nomatch bad
      | interrupted begun ran natural =>
        obtain ⟨speed, ⟨⟩, made⟩ := begun.paced
        injection made with uncapped
        have read := congrArg Timepiece.read begun.timepiece
        obtain ⟨report, _, halts⟩ := Console.run_of_ends
          ⟨begun.loaded.doomed, begun.batches⟩ (uncapped ▸ rfl) read rfl
        cases ran.symm.trans halts
        exact ⟨report, left, rfl, cleaned⟩
  · obtain ⟨-, fails, -⟩ := cleans_up (surrounded (.error .notFound)) choices
    obtain ⟨left, failed, -, idle⟩ := fails _ unread
    exact ⟨left, failed, idle⟩

end Session
end Chip8
