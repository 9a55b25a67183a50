/-!
# Doubles as exact numbers

Times are kept as double-precision numbers. This module goes between them
and exact integers: the double nearest to a quotient, a half going to the
even neighbour, and the text of a double with three decimal places, rounded
the same way from its exact value. Both round an exact quotient, and are off
by half a unit at most (`roundDiv_bounds`).
-/

namespace Chip8
namespace Double

/-- The quotient rounded to the nearest integer, a half to the even one. -/
def roundDiv (num den : Nat) : Nat :=
  let q := num / den
  let r := num % den
  if 2 * r < den then q
  else if 2 * r > den then q + 1
  else if q % 2 = 0 then q else q + 1

/-- **Rounding is to the nearest.** The rounded quotient is within half a unit of
the quotient. -/
theorem roundDiv_bounds (num : Nat) {den : Nat} (h : 0 < den) :
    2 * num ≤ 2 * (den * roundDiv num den) + den ∧
      2 * (den * roundDiv num den) ≤ 2 * num + den := by
  have parts := Nat.div_add_mod num den
  have small := Nat.mod_lt num h
  have more : den * (num / den + 1) = den * (num / den) + den := Nat.mul_succ den (num / den)
  unfold roundDiv
  dsimp only
  split
  · omega
  · split
    · omega
    · split <;> omega

/-- The binary exponent of the last place of the double nearest to a positive
quotient, which has 53 places unless it is very small. -/
def lastPlace (num den : Nat) : Int :=
  let estimate : Int := num.log2 - den.log2
  let below :=
    if estimate ≥ 0 then num < den <<< estimate.toNat
    else num <<< (-estimate).toNat < den
  max (estimate - (if below then 53 else 52)) (-1074)

/-- The word of infinity. -/
def infinityBits : Nat := 0x7FF0000000000000

/-- The word of the double nearest to a quotient. A mantissa that rounds up
to the next power of two carries into the exponent. -/
def nearestBits (num den : Nat) : Nat :=
  if num = 0 then 0
  else
    let place := lastPlace num den
    let mantissa :=
      if place ≥ 0 then roundDiv num (den <<< place.toNat)
      else roundDiv (num <<< (-place).toNat) den
    let word :=
      if mantissa < 1 <<< 52 then mantissa
      else ((place + 1075).toNat <<< 52) + (mantissa - (1 <<< 52))
    min word infinityBits

/-- The double nearest to a quotient, infinity if it is too large. -/
def nearest (num den : Nat) : Float :=
  Float.ofBits (UInt64.ofNat (nearestBits num den))

/-- The double nearest to a quotient is finite. -/
def holds (num den : Nat) : Bool :=
  nearestBits num den < infinityBits

/-- The finite double nearest to a quotient. -/
def ofRatio? (num : Int) (den : Nat) : Option Float :=
  if holds num.natAbs den then
    some (if num < 0 then -(nearest num.natAbs den) else nearest num.natAbs den)
  else none

/-- A double as sign, mantissa and binary exponent of its last place. -/
def parts (x : Float) : Bool × Nat × Int :=
  let word := x.toBits.toNat
  let exponent := (word >>> 52) % 2048
  let fraction := word % (1 <<< 52)
  (word >>> 63 = 1,
    if exponent = 0 then fraction else fraction + (1 <<< 52),
    (if exponent = 0 then 1 else exponent : Nat) - 1075)

/-- A count of thousandths, with the point. -/
def thousandths (n : Nat) : String :=
  let decimals := toString (n % 1000)
  toString (n / 1000) ++ "." ++ String.ofList (List.replicate (3 - decimals.length) '0') ++ decimals

/-- A finite double, or an infinite one, with three decimal places. -/
def toThousandths (x : Float) : String :=
  let (negative, mantissa, place) := parts x
  let count :=
    if place ≥ 0 then (mantissa * 1000) <<< place.toNat
    else roundDiv (mantissa * 1000) (1 <<< (-place).toNat)
  (if negative then "-" else "") ++ (if x.isInf then "inf" else thousandths count)

/-- A count of microseconds as a time in seconds, unless that is too large. -/
def ofMicroseconds? (us : Int) : Option Float := ofRatio? us 1000000

end Double
end Chip8
