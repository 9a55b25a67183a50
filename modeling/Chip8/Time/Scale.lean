import Chip8.Time.Double
/-!
# Time scales

What the clock needs of the numbers that it takes for times: to add and
subtract, to compare, and to know the period of a schedule that runs so many
times a second. Doubles are the scale of a running emulator; any ordered
field would do.
-/

namespace Chip8

/-- Numbers that serve as times in seconds. -/
class TimeScale (τ : Type) extends Add τ, Sub τ, LE τ, LT τ where
  le_decidable : DecidableLE τ
  lt_decidable : DecidableLT τ
  /-- The period of a schedule of so many runs a second. -/
  period (rate : Nat) : τ
  /-- The rate has a period on this scale. -/
  admits (rate : Nat) : Bool
  /-- A time with three decimal places. -/
  toThousandths (time : τ) : String

namespace TimeScale

instance {τ : Type} [TimeScale τ] : DecidableLE τ := le_decidable

instance {τ : Type} [TimeScale τ] : DecidableLT τ := lt_decidable

/-- The earlier of two times, the first if they are the same. -/
def earlier {τ : Type} [TimeScale τ] (a b : τ) : τ := if b < a then b else a

instance : TimeScale Float where
  le_decidable := inferInstance
  lt_decidable := inferInstance
  period := fun rate => 1.0 / Double.nearest rate 1
  admits := fun rate => Double.holds rate 1
  toThousandths := Double.toThousandths

end TimeScale
end Chip8
