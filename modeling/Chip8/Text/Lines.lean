import Chip8.Text.Range
/-!
# Lines

How a text is cut into lines. Besides the line feed, the other vertical
controls, three of the information separators and the two Unicode separators
end a line. A carriage return and the line feed behind it end one line
together. A text without any of them is one line (`lines_eq_singleton`).
-/

namespace Chip8
namespace Text

/-- The characters that end a line. -/
def lineEnds : List Range := [(0xA, 0xD), (0x1C, 0x1E), (0x85, 0x85), (0x2028, 0x2029)]

/-- The character ends a line. -/
def endsLine (c : Char) : Bool := inRanges lineEnds c

/-- The lines of a text, without what ends them. What stands behind the last
end is a line of its own unless it is empty. -/
def lines : List Char → List (List Char)
  | [] => []
  | '\r' :: '\n' :: rest => [] :: lines rest
  | c :: rest =>
    if endsLine c then [] :: lines rest
    else
      match lines rest with
      | [] => [[c]]
      | line :: others => (c :: line) :: others

/-- A text that ends no line is one line. -/
theorem lines_eq_singleton {text : List Char} (nonempty : text ≠ [])
    (plain : ∀ c ∈ text, endsLine c = false) : lines text = [text] := by
  fun_induction lines text with
  | case1 => exact absurd rfl nonempty
  | case2 rest ih => exact absurd (plain '\r' (by simp)) (by decide)
  | case3 c rest _ ends ih => simp [plain c (by simp)] at ends
  | case4 c rest _ _ none ih =>
    cases rest with
    | nil => rfl
    | cons d more =>
      have := ih (by simp) fun e h => plain e (List.mem_cons_of_mem _ h)
      simp [none] at this
  | case5 c rest _ _ line others found ih =>
    cases rest with
    | nil => simp [lines] at found
    | cons d more =>
      have := ih (by simp) fun e h => plain e (List.mem_cons_of_mem _ h)
      simp_all

end Text
end Chip8
