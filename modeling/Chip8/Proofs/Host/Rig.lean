import Chip8.Machine.Assembly
import Chip8.Proofs.Host.Mirror
import Chip8.Proofs.Machine.Twins
/-!
# Plug-ins are unseen

A machine is plugged into a screen, whose renderer follows every toggle and every clear
as it is made and may refuse it, and into a speaker, which the machine asks whether the
tone sounds. Both thus have a say in what the machine does, and neither uses it: whatever
the renderer and the speaker, and whether or not the machine is traced, requests are
answered in the same way and leave the same contents (`Rig.plugins_unseen`), which are
those of a machine by itself.
-/

namespace Chip8

/-! ## Machines plugged into a host -/

namespace Screen

/-- An operation of a screen as its machine sees it. -/
def answers {α : Type} (operation : Operation Screen (Shown α)) :
    Operation Screen (α × List RendererCall) := do
  let shown ← operation
  return (shown.result, shown.calls)

/-- A machine can draw on a screen. What the renderer refuses, the screen refuses. -/
instance [HostMemory] : Display Screen where
  toggle x y := answers (toggle x y)
  clear := do
    let (_, calls) ← answers clear
    return calls
  render screen := { screen with framebuffer := screen.framebuffer.render }
  refresh := do
    let (_, calls) ← answers refresh
    return calls
  report fps ops := do
    let (_, calls) ← answers (report fps ops)
    return calls

end Screen

/-- The speaker after it has followed what is asked of it in some signals. -/
def Speaker.followAll (speaker : Speaker) (signals : List Signal) : Speaker :=
  (signals.filterMap Signal.tone?).foldl
    (fun speaker request => (speaker.receive request).1) speaker

/-- What a machine is plugged into, and whether it is traced. -/
structure Plugins where
  renderer : Renderer
  audible : Bool
  traced : Bool

/-- A machine plugged into a screen and a speaker. -/
structure Rig where
  machine : Machine Screen
  speaker : Speaker

/-- Why there is no rig. -/
inductive RigError where
  | screen (error : ScreenError)
  | assembly (error : AssemblyError)
  deriving DecidableEq, Repr

namespace Rig

/-- The speaker follows what the machine has sent. -/
def settle (machine : Machine Screen) (speaker : Speaker) : Rig :=
  ⟨{ machine with outbox := #[] }, speaker.followAll machine.outbox.toList⟩

/-- Everything that a machine asks of its sockets is provided. -/
def provided (socket : Socket) : Plug := some socket.duties

/-- A rig of the usual size over plug-ins, with the text of its keymap. -/
def assemble [HostMemory] (plugins : Plugins) (keymap : String) (noise : Nat → UInt8) :
    Except RigError Rig := do
  let (screen, _) ← (Screen.create (some plugins.renderer) Framebuffer.usualWidth
    Framebuffer.usualHeight).mapError .screen
  let machine ← (Machine.assemble provided keymap screen plugins.traced noise).mapError .assembly
  return settle machine ⟨plugins.audible, false⟩

/-- The machine, told by the speaker whether the tone sounds. -/
def informed (rig : Rig) : Machine Screen :=
  { rig.machine with timers := { rig.machine.timers with tone := rig.speaker.playing } }

/-- What a rig replies to a request, and the rig that is left. -/
def serve [HostMemory] (rig : Rig) (request : Request) : Except Crash Reply × Rig :=
  match Machine.answer request rig.informed with
  | .ok reply machine => (.ok reply, settle machine rig.speaker)
  | .error crash machine => (.error crash, settle machine rig.speaker)

/-- What a rig holds, with neither the host around it nor what it has sent. -/
def contents (rig : Rig) : Machine Framebuffer where
  memory := rig.machine.memory
  registers := rig.machine.registers
  timers := { rig.machine.timers with tone := rig.speaker.playing }
  keypad := rig.machine.keypad
  display := rig.machine.display.framebuffer
  opcode := rig.machine.opcode
  fetchedFrom := rig.machine.fetchedFrom
  traced := false
  noise := rig.machine.noise
  drawn := rig.machine.drawn
  outbox := #[]

/-- What is seen of a run of requests: of each its reply or its crash, and the contents
that it leaves. -/
def account [HostMemory] (rig : Rig) :
    List Request → List (Except Crash Reply × Machine Framebuffer)
  | [] => []
  | request :: requests =>
    ((rig.serve request).1, (rig.serve request).2.contents) ::
      (rig.serve request).2.account requests

/-- All that is seen of a rig: what it holds at first, and a run of requests. -/
def history [HostMemory] (requests : List Request) (rig : Rig) :
    Machine Framebuffer × List (Except Crash Reply × Machine Framebuffer) :=
  (rig.contents, rig.account requests)

end Rig

namespace Machine

/-- What a machine by itself holds. -/
def contents (machine : Machine Framebuffer) : Machine Framebuffer :=
  { machine with traced := false, outbox := #[] }

/-- What is seen of a run of requests of a machine by itself. -/
def account (machine : Machine Framebuffer) :
    List Request → List (Except Crash Reply × Machine Framebuffer)
  | [] => []
  | request :: requests =>
    (machine.response request, (machine.after request).contents) ::
      (machine.after request).account requests

/-- All that is seen of a machine by itself. -/
def history (requests : List Request) (machine : Machine Framebuffer) :
    Machine Framebuffer × List (Except Crash Reply × Machine Framebuffer) :=
  (machine.contents, machine.account requests)

end Machine

/-! ## Renderers without a window -/

namespace Operation

/-- A loop whose rounds all leave the state as it is leaves it as it is. -/
theorem forM_of_still {ε σ γ : Type} {items : List γ} {body : γ → EStateM ε σ PUnit} {state : σ}
    (still : ∀ item, body item state = .ok ⟨⟩ state) : items.forM body state = .ok ⟨⟩ state := by
  induction items with
  | nil => rfl
  | cons item items ih => exact (bind_of_ok (still item)).trans ih

end Operation

namespace Renderer

open Operation

variable {renderer : Renderer}

theorem setPixel_of_headless (headless : renderer.window = none) (x y colour : Int) :
    setPixel x y colour renderer = .ok () renderer := by
  obtain ⟨title, refreshes, width, height, scale, window⟩ := renderer
  subst headless
  rfl

theorem fill_of_headless (headless : renderer.window = none) (width height : Int) :
    fill width height renderer = .ok () renderer :=
  forM_of_still fun y => forM_of_still fun x => setPixel_of_headless headless x y 0

/-- A renderer without a window follows every call, and stays without one. -/
theorem receive_of_headless [HostMemory] (headless : renderer.window = none) (call : RendererCall) :
    ∃ hostCalls after, receive call renderer = .ok hostCalls after ∧ after.window = none := by
  cases call with
  | setResolution width height =>
    obtain ⟨title, refreshes, oldWidth, oldHeight, scale, window⟩ := renderer
    subst headless
    exact ⟨[], setSize width height ⟨title, refreshes, oldWidth, oldHeight, scale, none⟩, rfl, rfl⟩
  | setPixel x y colour =>
    exact ⟨[], renderer, bind_of_ok (setPixel_of_headless headless x y colour), headless⟩
  | blank width height =>
    exact ⟨[], renderer, bind_of_ok (fill_of_headless headless width height), headless⟩
  | refresh changed =>
    cases changed with
    | true => exact ⟨renderer.show?, _, rfl, headless⟩
    | false => exact ⟨[], renderer, rfl, headless⟩
  | setTitle title => exact ⟨_, { renderer with title := title }, rfl, headless⟩

theorem receiveAll_of_headless [HostMemory] (headless : renderer.window = none)
    (calls : List RendererCall) :
    ∃ hostCalls after, receiveAll calls renderer = .ok hostCalls after ∧ after.window = none := by
  induction calls generalizing renderer with
  | nil => exact ⟨[], renderer, rfl, headless⟩
  | cons call rest ih =>
    obtain ⟨first, middle, received, still⟩ := receive_of_headless headless call
    obtain ⟨more, after, followed, bare⟩ := ih still
    exact ⟨first ++ more, after, (bind_of_ok received).trans (bind_of_ok followed), bare⟩

end Renderer

/-! ## What a screen shows -/

namespace Screen

open Operation

variable {screen left : Screen} {renderer : Renderer} {α : Type}

/-- **The screen shows the framebuffer**, and its renderer can follow whatever is drawn:
it has no window, or a picture that mirrors the display. -/
structure Shows (framebuffer : Framebuffer) (screen : Screen) : Prop where
  same : screen.framebuffer = framebuffer
  able : screen.renderer.window = none ∨
    Mirrors Framebuffer.usualWidth Framebuffer.usualHeight screen

/-- What a screen performs is what its framebuffer does. -/
theorem of_perform [HostMemory] {operation : Operation Framebuffer (α × List RendererCall)}
    {shown : Shown α} (run : perform operation screen = .ok shown left) :
    operation screen.framebuffer = .ok (shown.result, shown.calls) left.framebuffer := by
  obtain ⟨framebuffer, renderer⟩ := screen
  unfold perform at run
  dsimp only at run
  split at run
  · exact nomatch run
  · rename_i done
    split at run
    · injection run with seen after
      rw [← seen, ← after]
      exact done
    · exact nomatch run

/-- **An operation that the framebuffer and its mirror both know** has the same result from
a framebuffer by itself and from a screen that shows it. -/
theorem agree_answers [HostMemory] {operation : Operation Framebuffer (α × List RendererCall)}
    (mirrored : ∀ screen, Mirrors Framebuffer.usualWidth Framebuffer.usualHeight screen →
      ∃ shown left, perform operation screen = .ok shown left ∧
        Mirrors Framebuffer.usualWidth Framebuffer.usualHeight left) :
    Agree Shows operation (answers (perform operation)) := by
  rintro _ screen ⟨rfl, bare | mirrors⟩
  · obtain ⟨framebuffer, renderer⟩ := screen
    cases run : operation framebuffer with
    | ok pair after =>
      obtain ⟨result, calls⟩ := pair
      obtain ⟨hostCalls, painted, followed, still⟩ := Renderer.receiveAll_of_headless bare calls
      rw [answers, bind_of_ok (perform_of_ok run followed)]
      exact .ok (result, calls) ⟨rfl, .inl still⟩
    | error fault after =>
      rw [answers, bind_of_error (perform_of_error run)]
      exact .error fault ⟨rfl, .inl bare⟩
  · obtain ⟨shown, left, run, again⟩ := mirrored screen mirrors
    rw [of_perform run, answers, bind_of_ok run]
    exact .ok (shown.result, shown.calls) ⟨rfl, .inr again⟩

/-- So has one of which a machine sees the calls only. -/
theorem agree_calls [HostMemory] {plain : Operation Framebuffer (List RendererCall)}
    {operation : Operation Framebuffer (Unit × List RendererCall)}
    (same : ∀ framebuffer, plain framebuffer =
      (operation >>= fun (_, calls) => pure calls) framebuffer)
    (mirrored : ∀ screen, Mirrors Framebuffer.usualWidth Framebuffer.usualHeight screen →
      ∃ shown left, perform operation screen = .ok shown left ∧
        Mirrors Framebuffer.usualWidth Framebuffer.usualHeight left) :
    Agree Shows plain (answers (perform operation) >>= fun (_, calls) => pure calls) := by
  rw [show plain = operation >>= fun (_, calls) => pure calls from funext same]
  exact Agree.bind (agree_answers mirrored) fun _ => Agree.pure _

/-- A wish for a repaint is shown too. -/
theorem Shows.render {framebuffer : Framebuffer} (shows : Shows framebuffer screen) :
    Shows framebuffer.render { screen with framebuffer := screen.framebuffer.render } := by
  obtain ⟨shown, renderer⟩ := screen
  obtain ⟨rfl, bare | mirrors⟩ := shows
  · exact ⟨rfl, .inl bare⟩
  · exact ⟨rfl, .inr (mirrors.with true renderer.title renderer.refreshes)⟩

theorem agree_wipe [HostMemory] : Agree Shows Framebuffer.wipe
    (answers (perform do return ((), ← Framebuffer.wipe)) >>= fun (_, calls) => pure calls) := by
  refine agree_calls (fun framebuffer => ?_) fun _ mirrors => mirrors.wipe
  simp only [bind_assoc, pure_bind, bind_pure]

theorem agree_clear [HostMemory] : Agree Shows Framebuffer.clear (Display.clear (δ := Screen)) := by
  have whole : (Display.clear : Operation Screen (List RendererCall)) =
      ((answers (perform do return ((), ← Framebuffer.wipe)) >>= fun (_, calls) => pure calls) >>=
        fun calls => modify (fun screen : Screen =>
          { screen with framebuffer := screen.framebuffer.render }) >>= fun _ => pure calls) := by
    change (answers (performThenRender Framebuffer.wipe) >>= fun (_, calls) => pure calls) = _
    simp only [answers, performThenRender, bind_assoc, pure_bind]
  rw [whole]
  exact Agree.bind agree_wipe fun calls =>
    Agree.bind (Agree.modify fun _ _ shows => shows.render) fun _ => Agree.pure calls

theorem agree_refresh [HostMemory] :
    Agree Shows (Display.refresh (δ := Framebuffer)) (Display.refresh (δ := Screen)) := by
  have mirrored : ∀ screen, Mirrors Framebuffer.usualWidth Framebuffer.usualHeight screen →
      ∃ shown left, update Framebuffer.refresh screen = .ok shown left ∧
        Mirrors Framebuffer.usualWidth Framebuffer.usualHeight left :=
    fun _ mirrors => mirrors.refresh
  exact agree_calls (fun _ => rfl) mirrored

/-- A machine cannot tell a screen from the framebuffer that it shows. -/
theorem draws_shows [HostMemory] : (Machine.twins Shows).Draws where
  toggle x y := agree_answers fun _ mirrors => mirrors.toggle x y
  clear := agree_clear
  render := Shows.render

/-! ## New screens -/

/-- The framebuffer of a new screen is a new framebuffer. -/
theorem of_create [HostMemory] {width height : Int} {calls : List RendererCall}
    (made : create (some renderer) width height = .ok (screen, calls)) :
    Framebuffer.create width height = .ok (screen.framebuffer, calls) := by
  unfold create at made
  dsimp only at made
  split at made
  · exact nomatch made
  · rename_i fresh
    split at made
    · injection made with both
      injection both with screen_eq calls_eq
      rw [← screen_eq, ← calls_eq]
      exact fresh
    · exact nomatch made

/-- There is a screen of the usual size over any renderer, and it shows a framebuffer with
all pixels out. -/
theorem exists_shows [HostMemory] (renderer : Renderer) :
    ∃ screen calls, create (some renderer) Framebuffer.usualWidth Framebuffer.usualHeight =
        .ok (screen, calls) ∧
      Shows (Framebuffer.blank Framebuffer.usualWidth Framebuffer.usualHeight) screen := by
  rcases Bool.eq_false_or_eq_true renderer.window.isSome with windowed | bare
  · have mirrored : ∃ screen calls,
        create (some renderer) Framebuffer.usualWidth Framebuffer.usualHeight =
          .ok (screen, calls) ∧
        Mirrors Framebuffer.usualWidth Framebuffer.usualHeight screen :=
      mirrors_of_create windowed (by decide) (by decide) (Extent.le_room (by decide))
    obtain ⟨screen, calls, made, mirrors⟩ := mirrored
    have fresh := of_create made
    rw [Framebuffer.create_usual] at fresh
    injection fresh with both
    injection both with framebuffer
    exact ⟨screen, calls, made, framebuffer.symm, .inr mirrors⟩
  · have headless : renderer.window = none := by
      rw [Option.isSome_eq_false_iff, Option.isNone_iff_eq_none] at bare
      exact bare
    obtain ⟨hostCalls, after, followed, still⟩ :=
      Renderer.receiveAll_of_headless headless Framebuffer.usual.2
    refine ⟨⟨Framebuffer.usual.1, after⟩, Framebuffer.usual.2, ?_, rfl, .inl still⟩
    rw [create, Framebuffer.create_usual]
    dsimp only
    rw [followed]

end Screen

/-! ## What a speaker has heard -/

namespace Speaker

theorem followAll_append (speaker : Speaker) (signals more : List Signal) :
    speaker.followAll (signals ++ more) = (speaker.followAll signals).followAll more := by
  rw [followAll, List.filterMap_append, List.foldl_append]
  rfl

/-- Requests that turn the tone turn the speaker with it. -/
theorem playing_of_turned {before after : Bool} {requests : List ToneRequest}
    (turned : Timers.Turned before after requests) {speaker : Speaker}
    (playing : speaker.playing = before) :
    (speaker.followAll (requests.map Signal.tone)).playing = after := by
  cases turned with
  | kept same => exact playing.trans same.symm
  | asked request turned =>
    rw [turned]
    cases request <;> rfl

end Speaker

namespace Machine

/-- The speaker that has followed all signals plays if the tone sounds. -/
def Heard (speaker : Speaker) (timers : Timers) (outbox : Array Signal) : Prop :=
  (speaker.followAll outbox.toList).playing = timers.tone

theorem lasts_heard (speaker : Speaker) : Lasts (Heard speaker) Silent Timed where
  sending silent heard := by
    unfold Heard at heard ⊢
    rw [Array.toList_push, Speaker.followAll_append]
    rcases silent with ⟨call, rfl⟩ | ⟨entry, rfl⟩ <;> exact heard
  setting timed heard := by
    unfold Heard at heard ⊢
    rw [Array.toList_appendList, Speaker.followAll_append]
    exact Speaker.playing_of_turned (turned_of_timed timed _) heard

end Machine

/-! ## Rigs and machines by themselves -/

namespace Rig

open Machine Operation

variable {plain : Machine Framebuffer} {rig : Rig}

/-- **The rig holds what the machine by itself holds**, and its speaker plays if the tone
of that machine sounds. -/
structure Holds (plain : Machine Framebuffer) (rig : Rig) : Prop where
  kin : Kin (twins Screen.Shows) plain rig.machine
  tone : rig.speaker.playing = plain.timers.tone
  settled : rig.machine.outbox = #[]

theorem Holds.contents_eq (holds : Holds plain rig) : rig.contents = plain.contents := by
  obtain ⟨⟨memory, registers, timers, keypad, fetchedFrom, noise, drawn, ⟨display, -⟩, opcode,
    -, -⟩, tone, -⟩ := holds
  have same : plain.opcode = rig.machine.opcode := opcode
  unfold contents Machine.contents
  rw [memory, registers, timers, keypad, fetchedFrom, noise, drawn, display, ← same, tone]

/-- What the speaker says is what the timers hold. -/
theorem Holds.informed (holds : Holds plain rig) :
    Kin (twins Screen.Shows) plain rig.informed := by
  have told : rig.informed.timers = plain.timers := by
    unfold Rig.informed
    dsimp only
    rw [holds.kin.timers, holds.tone]
  exact { holds.kin with timers := told }

/-- A machine that holds what the machine by itself holds, and a speaker that has heard it,
make a rig that does. -/
theorem holds_settle {machine : Machine Screen} {speaker : Speaker}
    (kin : Kin (twins Screen.Shows) plain machine)
    (heard : Heard speaker machine.timers machine.outbox) :
    Holds plain (settle machine speaker) where
  kin := { kin with outbox := trivial }
  tone := heard.trans (congrArg Timers.tone kin.timers)
  settled := rfl

/-- **A rig answers as the machine by itself does**, and goes on holding what it holds. -/
theorem Holds.serve [HostMemory] (holds : Holds plain rig) (request : Request) :
    (rig.serve request).1 = plain.response request ∧
      Holds (plain.after request) (rig.serve request).2 := by
  have related := agree_answer Screen.draws_shows Screen.agree_refresh request plain rig.informed
    holds.informed
  have start : Tells (Heard rig.speaker) rig.informed := by
    unfold Tells Heard Rig.informed
    rw [holds.settled]
    rfl
  have heard := (lasts_heard rig.speaker).answer request rig.informed start
  rw [← outcome_answer, ← left_answer, Rig.serve]
  generalize answer request plain = alone at related ⊢
  generalize answer request rig.informed = plugged at related heard ⊢
  cases related with
  | ok reply kin => exact ⟨rfl, holds_settle kin heard⟩
  | error crash kin => exact ⟨rfl, holds_settle kin heard⟩

theorem Holds.account_eq [HostMemory] (holds : Holds plain rig) (requests : List Request) :
    rig.account requests = plain.account requests := by
  induction requests generalizing plain rig with
  | nil => rfl
  | cons request requests ih =>
    obtain ⟨reply, after⟩ := holds.serve request
    rw [account, Machine.account, reply, after.contents_eq, ih after]

/-- Over sockets that provide everything only the keymap can be refused. -/
theorem assemble_provided {δ : Type} [Display δ] (keymap : String) (display : δ) (traced : Bool)
    (noise : Nat → UInt8) :
    Machine.assemble provided keymap display traced noise =
      ((Keymap.parse keymap).mapError .keymap >>= fun names =>
        (switchOn names display traced noise).mapError .fault) :=
  Machine.assemble_of_duties keymap display traced noise

/-- Over a screen that could be made only the machine can be refused. -/
theorem assemble_of_made [HostMemory] {plugins : Plugins} {screen : Screen}
    {calls : List RendererCall} (made : Screen.create (some plugins.renderer) Framebuffer.usualWidth
      Framebuffer.usualHeight = .ok (screen, calls)) (keymap : String) (noise : Nat → UInt8) :
    assemble plugins keymap noise =
      ((Machine.assemble provided keymap screen plugins.traced noise).mapError .assembly).map
        fun machine => settle machine ⟨plugins.audible, false⟩ := by
  rw [assemble, made]
  change ((Machine.assemble provided keymap screen plugins.traced noise).mapError _ >>= _) = _
  cases Machine.assemble provided keymap screen plugins.traced noise <;> rfl

/-- Machines that are switched on over a framebuffer and over a screen that shows it hold
the same. -/
theorem switchOn_screen [HostMemory] (names : Keymap) (noise : Nat → UInt8) (traced : Bool)
    {screen : Screen}
    (shows : Screen.Shows (.blank Framebuffer.usualWidth Framebuffer.usualHeight) screen)
    (audible : Bool) :
    ∃ plain machine,
      switchOn names (.blank Framebuffer.usualWidth Framebuffer.usualHeight) false noise =
        .ok plain ∧
      switchOn names screen traced noise = .ok machine ∧
      Holds plain (settle machine ⟨audible, false⟩) := by
  have kin : Kin (twins Screen.Shows)
      (parts names (.blank Framebuffer.usualWidth Framebuffer.usualHeight) false noise)
      (parts names screen traced noise) :=
    ⟨rfl, rfl, rfl, rfl, rfl, rfl, rfl, shows, rfl, trivial, trivial⟩
  have related := agree_reset Screen.draws_shows _ _ kin
  have heard := (lasts_heard ⟨audible, false⟩).reset (parts names screen traced noise) rfl
  have sound : Machine.Sound 64 32
      (parts names (.blank Framebuffer.usualWidth Framebuffer.usualHeight) false noise) :=
    sound_parts (by decide) (by decide) names false noise
  obtain ⟨outbox, emptied⟩ := reset_eq sound
  unfold switchOn
  rw [emptied] at related ⊢
  generalize Machine.reset (parts names screen traced noise) = plugged at related heard ⊢
  cases related with
  | ok _ kin => exact ⟨_, _, rfl, rfl, holds_settle kin heard⟩

/-- A machine by itself, of the usual size and not traced. -/
def alone (keymap : String) (noise : Nat → UInt8) : Except AssemblyError (Machine Framebuffer) :=
  Machine.assemble provided keymap (.blank Framebuffer.usualWidth Framebuffer.usualHeight) false
    noise

/-- From a keymap that can be read, both are put together, and hold the same. -/
theorem assemble_of_parsed [HostMemory] {keymap : String} {names : Keymap}
    (parsed : Keymap.parse keymap = .ok names) (plugins : Plugins) (noise : Nat → UInt8) :
    ∃ plain rig, alone keymap noise = .ok plain ∧ assemble plugins keymap noise = .ok rig ∧
      Holds plain rig := by
  obtain ⟨screen, calls, made, shows⟩ := Screen.exists_shows plugins.renderer
  obtain ⟨plain, machine, on, plugged, holds⟩ :=
    switchOn_screen names noise plugins.traced shows plugins.audible
  refine ⟨plain, settle machine ⟨plugins.audible, false⟩, ?_, ?_, holds⟩
  · rw [alone, assemble_provided, parsed]
    exact congrArg (Except.mapError AssemblyError.fault) on
  · have built : Machine.assemble provided keymap screen plugins.traced noise = .ok machine := by
      rw [assemble_provided, parsed]
      exact congrArg (Except.mapError AssemblyError.fault) plugged
    rw [assemble_of_made made, built]
    rfl

/-- From one that cannot, neither is. -/
theorem assemble_of_unread [HostMemory] {keymap : String} {error : KeymapError}
    (unread : Keymap.parse keymap = .error error) (plugins : Plugins) (noise : Nat → UInt8) :
    alone keymap noise = .error (.keymap error) ∧
      assemble plugins keymap noise = .error (.assembly (.keymap error)) := by
  obtain ⟨screen, calls, made, -⟩ := Screen.exists_shows plugins.renderer
  constructor
  · rw [alone, assemble_provided, unread]
    rfl
  · rw [assemble_of_made made, assemble_provided, unread]
    rfl

/-- **A rig is seen as the machine by itself is**, from the start on. -/
theorem history_eq [HostMemory] (plugins : Plugins) (keymap : String) (noise : Nat → UInt8)
    (requests : List Request) :
    (assemble plugins keymap noise).map (history requests) =
      ((alone keymap noise).mapError .assembly).map (Machine.history requests) := by
  cases parsed : Keymap.parse keymap with
  | error error =>
    obtain ⟨none, neither⟩ := assemble_of_unread parsed plugins noise
    rw [none, neither]
    rfl
  | ok names =>
    obtain ⟨plain, rig, on, plugged, holds⟩ := assemble_of_parsed parsed plugins noise
    have same : rig.history requests = plain.history requests := by
      rw [history, Machine.history, holds.contents_eq, holds.account_eq]
    rw [on, plugged]
    exact congrArg Except.ok same

/-- **Plug-ins are unseen.** Rigs that differ in their renderers, in whether they can be
heard and in whether they are traced are put together from the same keymaps and hold the
same from the start on. To any requests they give the same replies and crash for the same
causes in the same words, and after each of them they hold the same again: all of it is as
of a machine by itself. From every keymap that can be read there is a rig. -/
theorem plugins_unseen [HostMemory] (keymap : String) (noise : Nat → UInt8)
    (requests : List Request) (first second : Plugins) :
    (assemble first keymap noise).map (history requests) =
      (assemble second keymap noise).map (history requests) ∧
    (assemble first keymap noise).map (history requests) =
      ((alone keymap noise).mapError .assembly).map (Machine.history requests) ∧
    ∀ names, Keymap.parse keymap = .ok names → ∃ rig, assemble first keymap noise = .ok rig := by
  have plain := history_eq first keymap noise requests
  refine ⟨plain.trans (history_eq second keymap noise requests).symm, plain, ?_⟩
  intro names parsed
  obtain ⟨-, rig, -, plugged, -⟩ := assemble_of_parsed parsed first noise
  exact ⟨rig, plugged⟩

/-- A sprite drawn with a window, a tone and a trace is seen as it is without any. -/
theorem plugins_unseen_of_sprite :
    letI := HostMemory.usual
    ∃ bare full,
      assemble ⟨.headless none, false, false⟩ Keymap.usual (fun _ => 0) = .ok bare ∧
      assemble ⟨⟨"", 1, 0, 0, 512, some (Window.ofWidth 512)⟩, true, true⟩ Keymap.usual
        (fun _ => 0) = .ok full ∧
      bare.history [.load [0xD0, 0x05], .step, .refresh] =
        full.history [.load [0xD0, 0x05], .step, .refresh] := by
  let _ := HostMemory.usual
  let first : Plugins := ⟨.headless none, false, false⟩
  let second : Plugins := ⟨⟨"", 1, 0, 0, 512, some (Window.ofWidth 512)⟩, true, true⟩
  have read := parse_usual
  obtain ⟨same, -, built⟩ :=
    plugins_unseen Keymap.usual (fun _ => 0) [.load [0xD0, 0x05], .step, .refresh] first second
  obtain ⟨-, -, built'⟩ :=
    plugins_unseen Keymap.usual (fun _ => 0) [.load [0xD0, 0x05], .step, .refresh] second first
  obtain ⟨bare, on⟩ := built usualKeys read
  obtain ⟨full, on'⟩ := built' usualKeys read
  rw [on, on'] at same
  injection same with same
  exact ⟨bare, full, on, on', same⟩

end Rig
end Chip8
