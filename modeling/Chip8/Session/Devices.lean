import Chip8.Host.Renderer
import Chip8.Host.Speaker
import Chip8.Session.Startup
import Chip8.Signal
/-!
# Devices

The renderer and the speaker of a session, which follow its signals. What
the host is asked to do is found by letting the devices follow all signals
in order. Before a plug-in is opened its device is the one that does
nothing; a plug-in is shut down as it is closed.
-/

namespace Chip8

/-- The devices of a session. -/
structure Devices where
  renderer : Renderer
  speaker : Speaker
  deriving DecidableEq, Repr

namespace Devices

/-- The devices before any plug-in is opened. -/
def initial (scale : Setting Int) : Devices := ⟨.headless scale.toOption, .mute⟩

/-- Opens a plug-in. A window without a width is not brought up. -/
def openPlugin (suite : Suite) (scale : Setting Int) (devices : Devices) :
    Plugin → Devices × List HostCall
  | .renderer =>
    if suite.windowed then
      let (renderer, calls) := Renderer.windowed scale
      ({ devices with renderer := renderer.getD devices.renderer }, calls)
    else ({ devices with renderer := .headless scale.toOption }, [])
  | .inputs => (devices, [])
  | .audio =>
    if suite.audible then
      let (speaker, calls) := Speaker.usual
      ({ devices with speaker := speaker }, calls)
    else ({ devices with speaker := .mute }, [])

/-- Closes a plug-in. -/
def closePlugin (devices : Devices) : Plugin → Devices × List HostCall
  | .renderer => (devices, devices.renderer.shutdown)
  | .inputs => (devices, [])
  | .audio =>
    let (speaker, calls) := devices.speaker.shutdown
    ({ devices with speaker := speaker }, calls)

/-- The devices follow a signal. -/
def receive [HostMemory] (suite : Suite) (scale : Setting Int) (devices : Devices) :
    Signal → Devices × List HostCall
  | .noted _ | .polled => (devices, [])
  | .tone request =>
    let (speaker, calls) := devices.speaker.receive request
    ({ devices with speaker := speaker }, calls)
  | .paint call =>
    let (renderer, calls) := devices.renderer.follow call
    ({ devices with renderer := renderer }, calls)
  | .opened plugin => openPlugin suite scale devices plugin
  | .closed plugin => closePlugin devices plugin

/-- The devices follow signals in order; what the host is asked to do
collects. -/
def followAll [HostMemory] (suite : Suite) (scale : Setting Int) (devices : Devices)
    (signals : List Signal) : Devices × Array HostCall :=
  signals.foldl (fun (devices, calls) signal =>
    let (devices, more) := receive suite scale devices signal
    (devices, calls ++ more)) (devices, #[])

end Devices
end Chip8
