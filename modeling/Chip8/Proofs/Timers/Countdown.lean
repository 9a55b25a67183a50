import Chip8.Timers
/-!
# The countdown

Both timers lose one on every tick until they are empty. The sound timer and the tone are
kept apart and are changed apart, but from a state in which the tone sounds exactly while
the sound timer is above zero (`Agrees`) every operation leaves such a state, and asks for
what the tone has become (`Turned`). Of all ticks of a countdown only the one that empties
the sound timer asks for silence (`counts_down`).
-/

namespace Chip8
namespace Timers

variable {timers : Timers}

/-- **The tone sounds while the sound timer is above zero**, and not otherwise. -/
def Agrees (timers : Timers) : Prop := timers.tone = true ↔ 0 < timers.sound

/-- The requests that turn one tone into another: none where it stays, or one that
says what it is now. -/
inductive Turned (before after : Bool) : List ToneRequest → Prop where
  | kept (same : after = before) : Turned before after []
  | asked (request : ToneRequest) (turned : after = (request == .start)) :
      Turned before after [request]

theorem Agrees.setDelay (agrees : timers.Agrees) (value : Int) :
    (timers.setDelay value).Agrees := agrees

theorem agrees_setSound (value : Int) (timers : Timers) : (timers.setSound value).1.Agrees := by
  unfold setSound
  split
  · rename_i above
    exact ⟨fun _ => above, fun _ => rfl⟩
  · rename_i empty
    exact ⟨nofun, fun above => absurd above empty⟩

theorem turned_setSound (value : Int) (timers : Timers) :
    Turned timers.tone (timers.setSound value).1.tone (timers.setSound value).2 := by
  unfold setSound
  split
  · exact .asked .start rfl
  · exact .asked .stop rfl

theorem agrees_reset (timers : Timers) : timers.reset.1.Agrees := by
  unfold reset Agrees
  split
  · simp [stopTone]
  · rename_i off
    simp [off]

theorem turned_reset (timers : Timers) :
    Turned timers.tone timers.reset.1.tone timers.reset.2 := by
  unfold reset
  split
  · exact .asked .stop rfl
  · exact .kept rfl

theorem agrees_tick (agrees : timers.Agrees) : timers.tick.1.Agrees := by
  unfold Agrees at agrees
  unfold tick
  dsimp only
  by_cases above : timers.sound > 0
  · rw [if_pos above, if_pos above]
    split
    · rename_i emptied
      exact ⟨nofun, fun more => absurd emptied (Ne.symm (UInt8.ne_of_lt more))⟩
    · rename_i left
      exact ⟨fun _ => UInt8.pos_iff_ne_zero.2 left, fun _ => agrees.2 above⟩
  · -- a tone that sounds with an empty timer is not met
    have off : ¬ timers.tone = true := fun on => above (agrees.1 on)
    rw [if_neg above, if_neg above, if_neg off]
    exact ⟨fun on => absurd on off, nofun⟩

theorem turned_tick (timers : Timers) :
    Turned timers.tone timers.tick.1.tone timers.tick.2 := by
  unfold tick
  dsimp only
  split
  · split
    · exact .asked .stop rfl
    · exact .kept rfl
  · split
    · exact .asked .stop rfl
    · exact .kept rfl

/-! ## One tick -/

/-- The timers counted down by one, with the tone as it was. -/
def counted (timers : Timers) : Timers :=
  { timers with
    delay := if timers.delay > 0 then timers.delay - 1 else 0
    sound := if timers.sound > 0 then timers.sound - 1 else 0 }

theorem tick_eq (timers : Timers) :
    timers.tick =
      if timers.sound > 0 then
        if timers.counted.sound = 0 then timers.counted.stopTone else (timers.counted, [])
      else if timers.tone then timers.counted.stopTone
      else (timers.counted, []) := rfl

theorem toNat_pred (value : UInt8) :
    (if value > 0 then value - 1 else 0).toNat = value.toNat - 1 := by
  split
  · rename_i above
    have one : (1 : UInt8) ≤ value := UInt8.le_iff_toNat_le.2 (UInt8.lt_iff_toNat_lt.1 above)
    exact UInt8.toNat_sub_of_le value 1 one
  · rename_i empty
    have none : value.toNat ≤ 0 := Nat.not_lt.1 fun above => empty (UInt8.lt_iff_toNat_lt.2 above)
    rw [Nat.le_zero.1 none]
    rfl

theorem delay_tick (timers : Timers) : timers.tick.1.delay.toNat = timers.delay.toNat - 1 := by
  rw [tick_eq]
  split <;> split <;> exact toNat_pred timers.delay

theorem sound_tick (timers : Timers) : timers.tick.1.sound.toNat = timers.sound.toNat - 1 := by
  rw [tick_eq]
  split <;> split <;> exact toNat_pred timers.sound

/-- A tick asks for silence if it empties the sound timer, or finds it empty and the tone
sounding all the same, and asks for nothing else. -/
theorem requests_tick (timers : Timers) :
    timers.tick.2 =
      if timers.sound.toNat = 1 ∨ (timers.sound.toNat = 0 ∧ timers.tone = true) then [.stop]
      else [] := by
  have left : timers.counted.sound.toNat = timers.sound.toNat - 1 := toNat_pred timers.sound
  rw [tick_eq]
  by_cases above : timers.sound > 0
  · have pos : 0 < timers.sound.toNat := UInt8.lt_iff_toNat_lt.1 above
    rw [if_pos above]
    by_cases last : timers.sound.toNat = 1
    · have emptied : timers.counted.sound = 0 := UInt8.toNat_inj.1 (by rw [left, last]; rfl)
      rw [if_pos emptied, if_pos (Or.inl last)]
      rfl
    · have more : timers.counted.sound ≠ 0 := by
        intro emptied
        rw [emptied] at left
        change 0 = _ at left
        omega
      have neither : ¬ (timers.sound.toNat = 1 ∨
          (timers.sound.toNat = 0 ∧ timers.tone = true)) := by omega
      rw [if_neg more, if_neg neither]
  · have none : timers.sound.toNat = 0 :=
      Nat.le_zero.1 (Nat.not_lt.1 fun pos => above (UInt8.lt_iff_toNat_lt.2 pos))
    rw [if_neg above, none]
    cases timers.tone with
    | false => rfl
    | true => rfl

/-- After a tick that leaves the sound timer empty the tone is off, even if it sounded with
an empty timer before. -/
theorem tone_tick_of_empty (empty : timers.tick.1.sound = 0) : timers.tick.1.tone = false := by
  revert empty
  rw [tick_eq]
  split
  · split
    · exact fun _ => rfl
    · rename_i more
      exact fun empty => absurd empty more
  · split
    · exact fun _ => rfl
    · rename_i off
      exact fun _ => Bool.eq_false_iff.2 off

/-! ## Many ticks -/

/-- The timers after so many ticks. -/
def afterTicks (timers : Timers) : Nat → Timers
  | 0 => timers
  | count + 1 => (timers.afterTicks count).tick.1

/-- The requests made by so many ticks, in order. -/
def requestsOfTicks (timers : Timers) : Nat → List ToneRequest
  | 0 => []
  | count + 1 => timers.requestsOfTicks count ++ (timers.afterTicks count).tick.2

theorem delay_afterTicks (timers : Timers) (count : Nat) :
    (timers.afterTicks count).delay.toNat = timers.delay.toNat - count := by
  induction count with
  | zero => rfl
  | succ count ih =>
    rw [afterTicks, delay_tick, ih]
    omega

theorem sound_afterTicks (timers : Timers) (count : Nat) :
    (timers.afterTicks count).sound.toNat = timers.sound.toNat - count := by
  induction count with
  | zero => rfl
  | succ count ih =>
    rw [afterTicks, sound_tick, ih]
    omega

theorem agrees_afterTicks (agrees : timers.Agrees) (count : Nat) :
    (timers.afterTicks count).Agrees := by
  induction count with
  | zero => exact agrees
  | succ count ih => exact agrees_tick ih

/-- **Silence is asked for once**, on the tick that empties the sound timer. -/
theorem requests_afterTicks (agrees : timers.Agrees) (count : Nat) :
    (timers.afterTicks count).tick.2 =
      if count + 1 = timers.sound.toNat then [.stop] else [] := by
  have still := agrees_afterTicks agrees count
  have left := sound_afterTicks timers count
  -- on a countdown the tone does not sound with an empty timer
  have quiet : ¬ ((timers.afterTicks count).sound.toNat = 0 ∧
      (timers.afterTicks count).tone = true) := by
    rintro ⟨empty, sounding⟩
    have above := UInt8.lt_iff_toNat_lt.1 (still.1 sounding)
    rw [empty] at above
    exact Nat.lt_irrefl _ above
  rw [requests_tick]
  by_cases last : count + 1 = timers.sound.toNat
  · rw [if_pos last, if_pos (.inl (by omega))]
  · rw [if_neg last, if_neg]
    rintro (emptied | stray)
    · omega
    · exact quiet stray

theorem requestsOfTicks_eq (agrees : timers.Agrees) (count : Nat) :
    timers.requestsOfTicks count =
      if 0 < timers.sound.toNat ∧ timers.sound.toNat ≤ count then [.stop] else [] := by
  induction count with
  | zero => rw [requestsOfTicks, if_neg (by omega)]
  | succ count ih =>
    rw [requestsOfTicks, ih, requests_afterTicks agrees]
    by_cases before : 0 < timers.sound.toNat ∧ timers.sound.toNat ≤ count
    · rw [if_pos before, if_neg (by omega), if_pos (by omega), List.append_nil]
    · by_cases last : count + 1 = timers.sound.toNat
      · rw [if_neg before, if_pos last, if_pos (by omega), List.nil_append]
      · rw [if_neg before, if_neg last, if_neg (by omega), List.nil_append]

/-- **The timers count down, and silence is asked for once.** From a state in which the tone
sounds exactly while the sound timer is above zero, both timers have lost one a tick after
any number of ticks, down to zero, and the tone still sounds exactly while the sound timer
is above zero. Silence has been asked for once if the sound timer has been emptied, and not
otherwise, on the tick with the number that the timer held. From any state, one with a tone
that sounds with an empty timer included, a tick makes one request at most, for silence,
and the tone is off after it if the sound timer is empty. -/
theorem counts_down (timers : Timers) :
    (timers.Agrees → ∀ count,
      (timers.afterTicks count).delay.toNat = timers.delay.toNat - count ∧
      (timers.afterTicks count).sound.toNat = timers.sound.toNat - count ∧
      (timers.afterTicks count).Agrees ∧
      timers.requestsOfTicks count =
        (if 0 < timers.sound.toNat ∧ timers.sound.toNat ≤ count then [.stop] else []) ∧
      (timers.afterTicks count).tick.2 =
        if count + 1 = timers.sound.toNat then [.stop] else []) ∧
    (timers.tick.1.sound = 0 → timers.tick.1.tone = false) ∧
    (timers.tick.2 = [] ∨ timers.tick.2 = [.stop]) := by
  refine ⟨fun agrees count => ?_, tone_tick_of_empty, ?_⟩
  · exact ⟨delay_afterTicks timers count, sound_afterTicks timers count,
      agrees_afterTicks agrees count, requestsOfTicks_eq agrees count,
      requests_afterTicks agrees count⟩
  · rw [requests_tick]
    split
    · exact .inr rfl
    · exact .inl rfl

/-- A tone of two ticks is silenced by the second of three, and by no other; one that sounds
with an empty timer is silenced by the first. -/
theorem counts_down_of_two :
    (⟨5, 2, true⟩ : Timers).Agrees ∧
      (⟨5, 2, true⟩ : Timers).requestsOfTicks 3 = [.stop] ∧
      ((⟨5, 2, true⟩ : Timers).afterTicks 1).tick.2 = [.stop] ∧
      ((⟨5, 2, true⟩ : Timers).afterTicks 3).delay.toNat = 2 ∧
      (⟨0, 0, true⟩ : Timers).tick.1.tone = false := by
  have agrees : (⟨5, 2, true⟩ : Timers).Agrees := ⟨fun _ => by decide, fun _ => rfl⟩
  obtain ⟨delay, -, -, asked, -⟩ := (counts_down ⟨5, 2, true⟩).1 agrees 3
  obtain ⟨-, -, -, -, second⟩ := (counts_down ⟨5, 2, true⟩).1 agrees 1
  exact ⟨agrees, asked, second, delay, (counts_down ⟨0, 0, true⟩).2.1 rfl⟩

end Timers
end Chip8
