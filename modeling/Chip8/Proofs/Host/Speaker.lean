import Chip8.Proofs.Operation
import Chip8.Session.Devices
/-!
# The speaker among the devices

Of all the signals that the devices of a session follow, only requests for a tone
or for silence reach the speaker, and of all the calls that the devices make of
the host, only those of the speaker play or stop the wave. A speaker that begins
quiet has the host play and stop in turn, whatever it is asked: `InTune` says so
of signals that have been followed, and each signal that may come next keeps it.
-/

namespace Chip8

/-! ## Playing and stopping -/

namespace HostCall

/-- The call plays the wave or stops it. -/
def sounds : HostCall → Bool
  | play _ | stop => true
  | _ => false

/-- So many calls in turn: the first plays the wave without end, the next stops it,
and so on. -/
def turns (count : Nat) : List HostCall :=
  (List.range count).map fun k => if k % 2 = 0 then play (-1) else stop

theorem turns_succ (count : Nat) :
    turns (count + 1) = turns count ++ [if count % 2 = 0 then play (-1) else stop] := by
  rw [turns, List.range_succ, List.map_append]
  rfl

end HostCall

/-- A speaker that is asked for what it does already does nothing, and one that is
asked for the other has the host play or stop, if it is audible. -/
theorem Speaker.receive_eq (audible tone : Bool) (request : ToneRequest) :
    (⟨audible, tone⟩ : Speaker).receive request =
      (⟨audible, request == .start⟩,
        if audible && (request == .start) != tone then
          [if tone then .stop else .play (-1)] else []) := by
  cases request <;> cases audible <;> cases tone <;> rfl

/-! ## The renderer makes no sound -/

namespace Renderer

open Operation

/-- None of the calls plays the wave or stops it. -/
def Quiet (calls : List HostCall) : Prop := ∀ call ∈ calls, call.sounds = false

theorem quiet_show? (renderer : Renderer) : Quiet renderer.show? := by
  intro call mem
  unfold show? at mem
  split at mem
  · exact absurd mem List.not_mem_nil
  · split at mem
    · exact absurd mem List.not_mem_nil
    · simp only [List.mem_cons, List.not_mem_nil, or_false] at mem
      rcases mem with rfl | rfl | rfl | rfl <;> rfl

theorem quiet_refresh (changed : Bool) : Gives Quiet (refresh changed) := by
  intro renderer calls after run
  unfold refresh at run
  split at run
  · injection run with same
    exact same ▸ quiet_show? renderer
  · injection run with same
    exact same ▸ nofun

theorem quiet_receive [HostMemory] (call : RendererCall) : Gives Quiet (receive call) := by
  cases call with
  | setResolution width height =>
    refine Gives.bind fun renderer => ?_
    split
    · exact Gives.bind fun picture => Gives.bind fun _ => Gives.bind fun _ =>
        Gives.bind fun _ => quiet_refresh true
    · exact Gives.bind fun _ => Gives.pure nofun
  | setPixel x y colour => exact Gives.bind fun _ => Gives.pure nofun
  | blank width height => exact Gives.bind fun _ => Gives.pure nofun
  | refresh changed => exact quiet_refresh changed
  | setTitle title =>
    intro renderer calls after run
    injection run with same
    rw [← same]
    intro call mem
    split at mem
    · rw [List.mem_singleton.1 mem]
      rfl
    · exact absurd mem List.not_mem_nil

theorem quiet_follow [HostMemory] (renderer : Renderer) (call : RendererCall) :
    Quiet (renderer.follow call).2 := by
  unfold follow
  cases run : receive call renderer with
  | ok calls after => exact quiet_receive call renderer calls after run
  | error fault after => exact nofun

end Renderer

/-! ## Following signals -/

namespace Devices

variable {suite : Suite} {scale : Setting Int} {devices : Devices} {tone : Bool}
variable {signals : List Signal}

theorem followAll_concat [HostMemory] (suite : Suite) (scale : Setting Int) (devices : Devices)
    (signals : List Signal) (signal : Signal) :
    devices.followAll suite scale (signals ++ [signal]) =
      let before := devices.followAll suite scale signals
      let after := before.1.receive suite scale signal
      (after.1, before.2 ++ after.2) := by
  rw [followAll, List.foldl_append]
  rfl

/-- **The speaker is in tune with the signals.** It began quiet, and has followed
them: it plays if the tone sounds, and has had the host play and stop in turn. One
that is mute has had the host do nothing. -/
structure InTune [HostMemory] (suite : Suite) (scale : Setting Int) (devices : Devices)
    (tone : Bool) (signals : List Signal) : Prop where
  speaker : (devices.followAll suite scale signals).1.speaker = ⟨devices.speaker.audible, tone⟩
  calls : ∃ count, count % 2 = tone.toNat ∧
    (devices.followAll suite scale signals).2.toList.filter HostCall.sounds =
      if devices.speaker.audible then HostCall.turns count else []

theorem inTune_nil [HostMemory] (quiet : devices.speaker.playing = false) :
    InTune suite scale devices false [] where
  speaker := by
    rw [← quiet]
    rfl
  calls := ⟨0, rfl, by split <;> rfl⟩

/-- What makes no sound keeps the speaker in tune. -/
theorem InTune.concat_of_quiet [HostMemory] (inTune : InTune suite scale devices tone signals)
    {signal : Signal}
    (kept : ∀ before : Devices, (before.receive suite scale signal).1.speaker = before.speaker ∧
      Renderer.Quiet (before.receive suite scale signal).2) :
    InTune suite scale devices tone (signals ++ [signal]) := by
  obtain ⟨same, quiet⟩ := kept (devices.followAll suite scale signals).1
  obtain ⟨count, odd, calls⟩ := inTune.calls
  have none : ((devices.followAll suite scale signals).1.receive suite scale signal).2.filter
      HostCall.sounds = [] := by
    rw [List.filter_eq_nil_iff]
    intro call mem
    rw [quiet call mem]
    exact Bool.false_ne_true
  refine ⟨?_, count, odd, ?_⟩
  · rw [followAll_concat]
    exact same.trans inTune.speaker
  · rw [followAll_concat, Array.toList_appendList, List.filter_append, calls, none,
      List.append_nil]

theorem InTune.noted [HostMemory] (inTune : InTune suite scale devices tone signals)
    (entry : Entry) :
    InTune suite scale devices tone (signals ++ [.noted entry]) :=
  inTune.concat_of_quiet fun _ => ⟨rfl, nofun⟩

theorem InTune.paint [HostMemory] (inTune : InTune suite scale devices tone signals)
    (call : RendererCall) :
    InTune suite scale devices tone (signals ++ [.paint call]) :=
  inTune.concat_of_quiet fun before => ⟨rfl, Renderer.quiet_follow before.renderer call⟩

/-- A request for a tone or for silence keeps the speaker in tune: it has the host
play or stop where that is a change, and nothing where it is none. -/
theorem InTune.asked [HostMemory] (inTune : InTune suite scale devices tone signals)
    (request : ToneRequest) :
    InTune suite scale devices (request == .start) (signals ++ [.tone request]) := by
  obtain ⟨count, odd, calls⟩ := inTune.calls
  have received := Speaker.receive_eq devices.speaker.audible tone request
  rw [← inTune.speaker] at received
  refine ⟨?_, ?_⟩
  · rw [followAll_concat]
    exact congrArg Prod.fst received
  · have more : (devices.followAll suite scale (signals ++ [.tone request])).2.toList.filter
        HostCall.sounds =
        (if devices.speaker.audible then HostCall.turns count else []) ++
          (if devices.speaker.audible && (request == .start) != tone then
            [if tone then .stop else .play (-1)] else []).filter HostCall.sounds := by
      rw [followAll_concat, Array.toList_appendList, List.filter_append, calls]
      exact congrArg (_ ++ List.filter _ ·) (congrArg Prod.snd received)
    rw [more]
    by_cases same : (request == .start) = tone
    · refine ⟨count, by rw [same]; exact odd, ?_⟩
      simp [same]
    · have turned : (request == .start) = !tone := Bool.eq_not.2 same
      have last : (if count % 2 = 0 then HostCall.play (-1) else .stop) =
          if tone then .stop else .play (-1) := by
        rw [odd]
        cases tone <;> rfl
      refine ⟨count + 1, ?_, ?_⟩
      · rw [turned, Nat.add_mod, odd]
        cases tone <;> rfl
      · rw [HostCall.turns_succ, last, turned]
        cases devices.speaker.audible <;> cases tone <;> rfl

end Devices
end Chip8
