import Chip8.Proofs.Host.Speaker
import Chip8.Proofs.Machine.Loading
import Chip8.Proofs.Machine.Signals
import Chip8.Proofs.Timers.Countdown
/-!
# The buzzer

The sound timer and the tone are kept apart and are changed apart, but a machine
in use has the tone sound exactly while its sound timer is above zero
(`Timers.Agrees`). Its requests are those that turn the tone on and off
(`Timers.Turned`), and a speaker that follows them stays in tune, so that what is
heard agrees with the sound timer too (`Reachable.buzzer`).
-/

namespace Chip8
namespace Machine

open Timers Devices

variable {suite : Suite} {scale : Setting Int} {devices : Devices}

/-- Requests that turn the tone have the speaker turn with it. -/
theorem inTune_of_turned [HostMemory] {before after : Bool} {requests : List ToneRequest}
    (turned : Turned before after requests) {signals : List Signal}
    (inTune : InTune suite scale devices before signals) :
    InTune suite scale devices after (signals ++ requests.map Signal.tone) := by
  cases turned with
  | kept same =>
    rw [same, List.map_nil, List.append_nil]
    exact inTune
  | asked request turned =>
    rw [turned]
    exact inTune.asked request

/-- **The buzzer follows the sound timer.** The tone sounds while the timer is above
zero, and the devices that have followed all signals are in tune with it. -/
def Buzzes [HostMemory] (suite : Suite) (scale : Setting Int) (devices : Devices) (timers : Timers)
    (outbox : Array Signal) : Prop :=
  timers.Agrees ∧ InTune suite scale devices timers.tone outbox.toList

/-- Every way to set the timers asks for what the tone has become. -/
theorem turned_of_timed {change : Timers → Timers × List ToneRequest} (timed : Timed change)
    (timers : Timers) : Turned timers.tone (change timers).1.tone (change timers).2 := by
  rcases timed with ⟨value, rfl⟩ | ⟨value, rfl⟩ | rfl | rfl
  · exact .kept rfl
  · exact turned_setSound value timers
  · exact turned_tick timers
  · exact turned_reset timers

/-- Every way to set the timers keeps the tone in agreement, and asks for what the tone
has become. -/
theorem agrees_of_timed {change : Timers → Timers × List ToneRequest} (timed : Timed change)
    {timers : Timers} (agrees : timers.Agrees) :
    (change timers).1.Agrees ∧
      Turned timers.tone (change timers).1.tone (change timers).2 := by
  refine ⟨?_, turned_of_timed timed timers⟩
  rcases timed with ⟨value, rfl⟩ | ⟨value, rfl⟩ | rfl | rfl
  · exact agrees.setDelay value
  · exact agrees_setSound value timers
  · exact agrees_tick agrees
  · exact agrees_reset timers

theorem lasts_buzzes [HostMemory] : Lasts (Buzzes suite scale devices) Silent Timed where
  sending silent := by
    rintro ⟨agrees, inTune⟩
    refine ⟨agrees, ?_⟩
    rw [Array.toList_push]
    rcases silent with ⟨call, rfl⟩ | ⟨entry, rfl⟩
    · exact inTune.paint call
    · exact inTune.noted entry
  setting timed := by
    rintro ⟨agrees, inTune⟩
    obtain ⟨agreed, turned⟩ := agrees_of_timed timed agrees
    refine ⟨agreed, ?_⟩
    rw [Array.toList_appendList]
    exact inTune_of_turned turned inTune

/-- **The buzzer of a machine in use.** Its tone sounds exactly while its sound timer
is above zero. Devices that begin with a quiet speaker and have followed all that the
machine has sent have the speaker play exactly then; if it is audible, they have had
the host play and stop in turn, and it plays exactly then; if it is mute, they have
had it do neither. -/
theorem Reachable.buzzer [HostMemory] {width height : Nat} {machine : Machine Framebuffer}
    (reachable : Reachable width height machine) :
    (machine.timers.tone = true ↔ 0 < machine.timers.sound) ∧
    ∀ (suite : Suite) (scale : Setting Int) (devices : Devices),
      devices.speaker.playing = false →
      let followed := devices.followAll suite scale machine.outbox.toList
      (followed.1.speaker.playing = true ↔ 0 < machine.timers.sound) ∧
      ∃ count, (count % 2 = 1 ↔ 0 < machine.timers.sound) ∧
        followed.2.toList.filter HostCall.sounds =
          if devices.speaker.audible then HostCall.turns count else [] := by
  have buzzes : ∀ (suite : Suite) (scale : Setting Int) (devices : Devices),
      devices.speaker.playing = false →
      Buzzes suite scale devices machine.timers machine.outbox :=
    fun suite scale devices quiet =>
      reachable.tells lasts_buzzes ⟨⟨nofun, nofun⟩, inTune_nil quiet⟩
  have agrees : machine.timers.tone = true ↔ 0 < machine.timers.sound :=
    (buzzes .headless .unset ⟨.headless none, .mute⟩ rfl).1
  refine ⟨agrees, fun suite scale devices quiet => ?_⟩
  obtain ⟨-, speaker, count, odd, calls⟩ := buzzes suite scale devices quiet
  refine ⟨?_, count, ?_, calls⟩
  · rw [speaker]
    exact agrees
  · rw [odd, ← agrees]
    cases machine.timers.tone <;> decide

/-- A program that loads the sound timer with one has its tone sound, and the host
play. -/
theorem buzzer_of_load :
    letI := HostMemory.usual
    ∃ machine, Reachable 64 32 machine ∧ machine.timers.sound = 1 ∧ machine.timers.tone = true ∧
      ∃ count, count % 2 = 1 ∧
        (Devices.followAll (.window false) .unset ⟨.headless none, Speaker.usual.1⟩
          machine.outbox.toList).2.toList.filter HostCall.sounds = HostCall.turns count := by
  let _ := HostMemory.usual
  obtain ⟨start, runs⟩ := exists_runs [0x60, 0x01, 0xF0, 0x18]
  obtain ⟨machine, -, runs, one⟩ := runs.loads (by decide) (by decide) 0 1 (by decide)
  have loads := runs.upcoming_eq (by decide) (by decide) (i := .ldStVx 0) (by decide)
  obtain ⟨_, -, sounding⟩ := runs.reachable.granted runs.ready
    (runs.not_atTop (by decide) (by decide)) (by rw [loads]; rfl)
  obtain ⟨-, follows⟩ := sounding.buzzer
  have timers : (machine.poised.executed machine.upcoming).timers =
      (machine.timers.setSound 1).1 := by
    rw [loads]
    exact congrArg (fun value : UInt8 => (machine.timers.setSound value.toNat).1) one.value
  have sound : (machine.poised.executed machine.upcoming).timers.sound = 1 := by
    rw [timers]
    rfl
  obtain ⟨-, count, odd, calls⟩ := follows (.window false) .unset
    ⟨.headless none, Speaker.usual.1⟩ rfl
  refine ⟨_, sounding, sound, ?_, count, odd.2 ?_, calls⟩
  · exact congrArg Timers.tone timers
  · exact sound ▸ (by decide)

end Machine
end Chip8
