import Chip8.Numbering
import Chip8.Text.Blank
import Chip8.Text.Lowercase
import Chip8.Text.Hex
/-!
# Keymaps

A keymap names the physical key for each of the sixteen logical keys, 0 to F
in order. It is written as one text with commas between the names; blanks
around a name and the case of its letters do not count. Sixteen names are
needed, none of them empty and no two alike.

A key is looked up by a code, the text of which is compared in lower case
but with its blanks.
-/

namespace Chip8

/-- Why a text is not a keymap. -/
inductive KeymapError where
  /-- There are not sixteen names. -/
  | wrongCount
  /-- The name of a logical key is empty. -/
  | emptyName (key : Nat)
  /-- Two logical keys have one name. -/
  | duplicate
  deriving DecidableEq, Repr

/-- The wording of a keymap error. -/
def KeymapError.message : KeymapError → String
  | wrongCount =>
    "Incorrect number of keys defined -- 16 required.  Use commas to split key names"
  | emptyName key => "Empty key name defined for key 0x" ++ Hex.padded 1 key
  | duplicate => "Duplicate keys defined"

/-- The names of the physical keys for the logical keys 0 to F. -/
structure Keymap where
  names : Vector String 16
  deriving DecidableEq, Repr

namespace Keymap

/-- The parts of a text between its commas. -/
def pieces : List Char → List (List Char)
  | [] => [[]]
  | c :: rest =>
    match pieces rest with
    | [] => [[c]]
    | piece :: others => if c = ',' then [] :: piece :: others else (c :: piece) :: others

/-- A key name in the form in which names are compared. -/
def normalise (name : List Char) : String :=
  Text.lowercase (Text.strip (String.ofList name))

/-- The first thing wrong with the names that follow those in `seen`. -/
def firstFlaw? (seen : List String) : List String → Option KeymapError
  | [] => none
  | name :: rest =>
    if name = "" then some (.emptyName seen.length)
    else if name ∈ seen then some .duplicate
    else firstFlaw? (seen ++ [name]) rest

/-- Reads a keymap. The count of the names is looked at first, then the names
in order. -/
def parse (text : String) : Except KeymapError Keymap :=
  let names := (pieces text.toList).map normalise
  if count : names.length = 16 then
    match firstFlaw? [] names with
    | some error => .error error
    | none => .ok ⟨⟨names.toArray, by simpa using count⟩⟩
  else .error .wrongCount

/-- The usual keymap: the hexadecimal keypad laid over the left of a keyboard
whose first letters are `qwerty`. -/
def usual : String := "x,1,2,3,q,w,e,a,s,d,z,c,4,r,f,v"

/-- The logical key with a given name. -/
def find? (keymap : Keymap) (name : String) : Option (Fin 16) :=
  (List.finRange 16).find? fun key => keymap.names.get key == name

end Keymap

/-- What identifies a physical key in an event. -/
inductive KeyCode where
  | text (name : String)
  | number (value : Int)
  | flag (value : Bool)
  deriving DecidableEq, Repr

namespace KeyCode

/-- The code as text. -/
def toText : KeyCode → String
  | text name => name
  | number value => toString value
  | flag true => "True"
  | flag false => "False"

/-- The logical key that a code stands for. -/
def logical? (keymap : Keymap) (code : KeyCode) : Option (Fin 16) :=
  keymap.find? (Text.lowercase code.toText)

end KeyCode
end Chip8
