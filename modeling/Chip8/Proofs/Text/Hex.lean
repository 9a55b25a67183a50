import Mathlib.Algebra.Group.Nat.Defs
import Chip8.Text.Hex
/-!
# Hexadecimal text reads back

The number that a run of hexadecimal digits stands for is its `value`. A number shown
in hexadecimal has itself for value, however many zeros stand before it
(`value_padded`), so that no two numbers look the same in fields of one width. A number
that fits its field fills it exactly (`length_padded`), so that the texts of two fields
side by side can be told apart. So can one that does not fit, and one with a sign, if what
comes next is no digit (`padded_append_inj`).
-/

namespace Chip8
namespace Hex

/-- The number that hexadecimal digits stand for, the highest first. What is no digit
counts as zero. -/
def value (digits : List Char) : Nat :=
  digits.foldl (fun number c => 16 * number + (digitValue? c).getD 0) 0

theorem value_concat (digits : List Char) (c : Char) :
    value (digits ++ [c]) = 16 * value digits + (digitValue? c).getD 0 := by
  rw [value, List.foldl_append]
  rfl

theorem digitValue?_digitChar {n : Nat} (small : n < 16) :
    digitValue? n.digitChar = some n := by
  have each : ∀ k < 16, digitValue? (Nat.digitChar k) = some k := by decide
  exact each n small

/-- The digits of a number have the number for value. -/
theorem value_toDigits (n : Nat) : value (Nat.toDigits 16 n) = n := by
  induction n using Nat.strongRecOn with
  | _ n ih =>
    rw [Nat.toDigits_eq_if (by decide)]
    split
    · rename_i small
      rw [← List.nil_append [n.digitChar], value_concat, digitValue?_digitChar small]
      exact Nat.zero_add n
    · rename_i large
      have shorter := ih (n / 16) (by omega)
      rw [value_concat, shorter, digitValue?_digitChar (Nat.mod_lt n (by decide))]
      exact Nat.div_add_mod n 16

/-- Zeros in front do not count. -/
theorem value_zeros (count : Nat) (digits : List Char) :
    value (List.replicate count '0' ++ digits) = value digits := by
  have none : value (List.replicate count '0') = 0 := by
    induction count with
    | zero => rfl
    | succ count ih =>
      rw [List.replicate_succ', value_concat, ih]
      rfl
  rw [value, List.foldl_append]
  exact congrArg (fun start => digits.foldl _ start) none

theorem toList_padded (width n : Nat) :
    (padded width n).toList =
      List.replicate (width - (Nat.toDigits 16 n).length) '0' ++ Nat.toDigits 16 n := by
  have positive : ¬ (n : Int) < 0 := by omega
  simp only [padded, if_neg positive, String.toList_ofList, List.nil_append, List.length_nil,
    Nat.sub_zero, Int.natAbs_natCast]

/-- **A number shown in hexadecimal reads back**, whatever the width. -/
theorem value_padded (width n : Nat) : value (padded width n).toList = n := by
  rw [toList_padded, value_zeros, value_toDigits]

/-- A number that fits its field fills it. -/
theorem length_padded {width n : Nat} (some : 0 < width) (fits : n < 16 ^ width) :
    (padded width n).toList.length = width := by
  have digits := (Nat.length_toDigits_le_iff (by decide) some).2 fits
  rw [toList_padded, List.length_append, List.length_replicate]
  omega

/-! ## Signs, and where a number ends -/

/-- The number that a sign and digits stand for. -/
def number : List Char → Int
  | '-' :: digits => -(value digits : Int)
  | digits => value digits

/-- The character can be part of a number: it is a digit or the sign. -/
def isPart (c : Char) : Bool := c == '-' || (digitValue? c).isSome

/-- A text with which a number has ended: it is empty or begins with no part of one. -/
def Ended (text : List Char) : Prop := ∀ c ∈ text.head?, isPart c = false

theorem isSome_of_mem_toDigits {n : Nat} {c : Char} (mem : c ∈ Nat.toDigits 16 n) :
    (digitValue? c).isSome = true := by
  induction n using Nat.strongRecOn with
  | _ n ih =>
    rw [Nat.toDigits_eq_if (by decide)] at mem
    split at mem
    · rename_i small
      rw [List.mem_singleton.1 mem, digitValue?_digitChar small]
      rfl
    · rcases List.mem_append.1 mem with high | low
      · exact ih (n / 16) (by omega) high
      · rw [List.mem_singleton.1 low, digitValue?_digitChar (Nat.mod_lt n (by decide))]
        rfl

/-- A number is shown by its sign, zeros and its digits. -/
theorem exists_toList_padded (width : Nat) (n : Int) :
    ∃ zeros, (padded width n).toList =
      (if n < 0 then ['-'] else []) ++
        (List.replicate zeros '0' ++ Nat.toDigits 16 n.natAbs) := by
  simp only [padded, String.toList_ofList, List.append_assoc]
  exact ⟨_, rfl⟩

theorem isSome_of_mem_shown {zeros n : Nat} {c : Char}
    (mem : c ∈ List.replicate zeros '0' ++ Nat.toDigits 16 n) :
    (digitValue? c).isSome = true := by
  rcases List.mem_append.1 mem with zero | digit
  · rw [List.eq_of_mem_replicate zero]
    rfl
  · exact isSome_of_mem_toDigits digit

theorem isPart_of_mem_padded {width : Nat} {n : Int} {c : Char}
    (mem : c ∈ (padded width n).toList) : isPart c = true := by
  obtain ⟨zeros, shown⟩ := exists_toList_padded width n
  rw [shown] at mem
  rcases List.mem_append.1 mem with sign | digit
  · split at sign
    · rw [List.mem_singleton.1 sign]
      rfl
    · cases sign
  · rw [isPart, isSome_of_mem_shown digit, Bool.or_true]

theorem number_of_unsigned {text : List Char} (unsigned : '-' ∉ text) :
    number text = value text := by
  unfold number
  split
  · exact absurd List.mem_cons_self unsigned
  · rfl

/-- **A number of either sign reads back**, whatever the width. -/
theorem number_padded (width : Nat) (n : Int) : number (padded width n).toList = n := by
  obtain ⟨zeros, shown⟩ := exists_toList_padded width n
  rw [shown]
  by_cases negative : n < 0
  · rw [if_pos negative]
    change -(value (List.replicate zeros '0' ++ Nat.toDigits 16 n.natAbs) : Int) = n
    rw [value_zeros, value_toDigits]
    omega
  · rw [if_neg negative, List.nil_append, number_of_unsigned, value_zeros, value_toDigits]
    · omega
    · intro sign
      exact absurd (isSome_of_mem_shown sign) (by decide)

theorem padded_inj {width : Nat} {n m : Int}
    (same : (padded width n).toList = (padded width m).toList) : n = m := by
  rw [← number_padded width n, same, number_padded]

/-- What comes before the end of a number is the number. -/
theorem takeWhile_padded {width : Nat} {n : Int} {rest : List Char} (ended : Ended rest) :
    ((padded width n).toList ++ rest).takeWhile isPart = (padded width n).toList := by
  have none : rest.takeWhile isPart = [] := by
    cases rest with
    | nil => rfl
    | cons c rest => exact List.takeWhile_cons_of_neg (Bool.not_eq_true _ ▸ ended c rfl)
  rw [List.takeWhile_append_of_pos fun c mem => isPart_of_mem_padded mem, none, List.append_nil]

/-- **Numbers can be told apart by their texts**, and what comes behind them, too, where the
numbers have ended there. -/
theorem padded_append_inj {width : Nat} {n m : Int} {rest other : List Char}
    (ended : Ended rest) (ended' : Ended other)
    (same : (padded width n).toList ++ rest = (padded width m).toList ++ other) :
    n = m ∧ rest = other := by
  have shown : (padded width n).toList = (padded width m).toList := by
    rw [← takeWhile_padded ended, same, takeWhile_padded ended']
  rw [shown] at same
  exact ⟨padded_inj shown, List.append_cancel_left same⟩

end Hex
end Chip8
