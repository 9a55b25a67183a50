import Chip8.Text.Lines
/-!
# Journal entries

What the machine and its surroundings report while they run: a level and a
text. A journal is read at a threshold, which leaves out the entries below
it; level names are looked up without regard to case.
-/

namespace Chip8

/-- How important an entry is. -/
inductive Level where
  | debug
  | info
  | warning
  | error
  | critical
  deriving DecidableEq, Repr

namespace Level

/-- The rank of a level, by which thresholds compare. -/
def rank : Level → Nat
  | debug => 10
  | info => 20
  | warning => 30
  | error => 40
  | critical => 50

/-- The name under which a level is printed. -/
def name : Level → String
  | debug => "DEBUG"
  | info => "INFO"
  | warning => "WARNING"
  | error => "ERROR"
  | critical => "CRITICAL"

/-- All levels, lowest first. -/
def all : List Level := [debug, info, warning, error, critical]

end Level

/-- One entry of the journal. -/
structure Entry where
  level : Level
  text : String
  deriving DecidableEq, Repr

namespace Entry

/-- The printed form of an entry: the level in brackets, then the text. -/
def form (entry : Entry) : String :=
  "[" ++ entry.level.name ++ "]:  " ++ entry.text

/-- The lines that an entry takes when it is printed, with a line feed behind
it. -/
def lines (entry : Entry) : List String :=
  (Text.lines (entry.form ++ "\n").toList).map String.ofList

/-- The entry is let through at a threshold. -/
def passes (threshold : Nat) (entry : Entry) : Bool :=
  threshold ≤ entry.level.rank

/-- The entries of a journal that are let through at a threshold. -/
def admitted (threshold : Nat) (entries : List Entry) : List Entry :=
  entries.filter (passes threshold)

/-- The lines of a journal, read at a threshold. -/
def printed (threshold : Nat) (entries : List Entry) : List String :=
  (admitted threshold entries).flatMap lines

end Entry

namespace Threshold

/-- The threshold that lets everything through. -/
def unset : Nat := 0

/-- Upper case as far as level names need it: the small letters, and the two
other characters whose capitals are Latin letters found in a level name, the
dotless ı and the long ſ. -/
def capital (c : Char) : Char :=
  if c = 'ı' then 'I'
  else if c = 'ſ' then 'S'
  else c.toUpper

/-- The threshold that a name stands for. Besides the level names these are
`WARN`, `FATAL` and `NOTSET`. -/
def ofName? (name : String) : Option Nat :=
  match String.ofList (name.toList.map capital) with
  | "NOTSET" => some unset
  | "DEBUG" => some Level.debug.rank
  | "INFO" => some Level.info.rank
  | "WARN" | "WARNING" => some Level.warning.rank
  | "ERROR" => some Level.error.rank
  | "FATAL" | "CRITICAL" => some Level.critical.rank
  | _ => none

end Threshold
end Chip8
