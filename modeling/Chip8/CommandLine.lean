import Chip8.Keymap
import Chip8.Setting
import Chip8.Text.Integer
import Chip8.Text.Quoted
/-!
# The command line

The command line names the program to run and may give options. A long
option may be shortened as long as it stays unambiguous; its value follows
it or is attached with an equals sign. Short options that take no value can
be joined, and the value of one that takes a value can be attached to it.
After `--` everything is a value; attached to an option, it leaves the option
without a value. A lone `-`, a negative number and anything with a space in it
count as values too, unless they begin like an option.

`CommandLine.parse` first decides for each argument what it is, and then
goes through them in order. The first fault found is the one reported,
except that unrecognised arguments, and then a missing file name, are found
out only at the end.
-/

namespace Chip8

/-- What a run of the emulator can be told. -/
structure Options where
  filename : String
  clockSpeed : Setting Int
  renderer : Setting String
  scale : Setting Int
  mute : Setting Int
  keymap : Setting String
  logLevel : Setting String
  debug : Bool
  deriving DecidableEq, Repr

namespace CommandLine

/-- The options that a command line can give. -/
inductive Flag where
  | help
  | clockSpeed
  | renderer
  | scale
  | mute
  | keymap
  | logLevel
  | debug
  deriving DecidableEq, Repr

namespace Flag

/-- All options, in the order in which they are listed. -/
def all : List Flag := [help, clockSpeed, renderer, scale, mute, keymap, logLevel, debug]

/-- The letter of the short form. -/
def short : Flag → Char
  | help => 'h'
  | clockSpeed => 'c'
  | renderer => 'r'
  | scale => 's'
  | mute => 'm'
  | keymap => 'k'
  | logLevel => 'l'
  | debug => 'd'

/-- The long form. -/
def long : Flag → String
  | help => "--help"
  | clockSpeed => "--clock_speed"
  | renderer => "--renderer"
  | scale => "--scale"
  | mute => "--mute"
  | keymap => "--keymap"
  | logLevel => "--log_level"
  | debug => "--debug"

/-- The option takes a value. -/
def takesValue : Flag → Bool
  | help | debug => false
  | clockSpeed | renderer | scale | mute | keymap | logLevel => true

/-- Both forms, as errors name an option. -/
def forms (flag : Flag) : String :=
  "-" ++ String.singleton flag.short ++ "/" ++ flag.long

/-- The option with a short form. -/
def ofShort? (letter : Char) : Option Flag :=
  all.find? fun flag => flag.short = letter

end Flag

/-- What is wrong with a command line. -/
inductive UsageError where
  /-- A shortened option could be any of several. -/
  | ambiguous (argument : String) (candidates : List Flag)
  /-- An option lacks its value. -/
  | expectedValue (flag : Flag)
  /-- An option that takes no value was given one. -/
  | ignoredValue (flag : Flag) (value : String)
  /-- The value of an option is not an integer. -/
  | invalidInteger (flag : Flag) (value : String)
  /-- The value of an option, in the form shown, is none of those allowed. -/
  | invalidChoice (flag : Flag) (shown : String) (choices : List String)
  /-- The file name is missing. -/
  | missingFilename
  /-- There are arguments left over. -/
  | unrecognised (arguments : List String)
  deriving DecidableEq, Repr

/-- The wording of a usage error. -/
def UsageError.message : UsageError → String
  | ambiguous argument candidates => "ambiguous option: " ++ argument ++ " could match "
    ++ ", ".intercalate (candidates.map Flag.long)
  | expectedValue flag => "argument " ++ flag.forms ++ ": expected one argument"
  | ignoredValue flag value =>
    "argument " ++ flag.forms ++ ": ignored explicit argument " ++ Text.quoted value
  | invalidInteger flag value =>
    "argument " ++ flag.forms ++ ": invalid int value: " ++ Text.quoted value
  | invalidChoice flag shown choices => "argument " ++ flag.forms ++ ": invalid choice: " ++ shown
    ++ " (choose from " ++ ", ".intercalate choices ++ ")"
  | missingFilename => "the following arguments are required: filename"
  | unrecognised arguments => "unrecognized arguments: " ++ " ".intercalate arguments

/-- Why a command line does not lead to a run. -/
inductive Exit where
  /-- Help was asked for. -/
  | help
  /-- The command line is wrong. -/
  | usage (error : UsageError)
  deriving DecidableEq, Repr

/-- What separates the options from arguments that are all values. -/
def separator : String := "--"

/-! ## What each argument is -/

/-- An argument of the command line. -/
inductive Token where
  /-- A file name or the value of an option. -/
  | value (text : String)
  /-- The first `--`. -/
  | separator
  /-- An option in its short or long form, with the value attached to it. -/
  | option (flag : Flag) (isShort : Bool) (attached : Option String)
  /-- It looks like an option but is none. -/
  | unknown (text : String)
  deriving DecidableEq, Repr

/-- The text begins like another. -/
def beginsWith (start text : List Char) : Bool := text.take start.length == start

/-- Splits at the first equals sign, if there is one. -/
def splitEquals (text : List Char) : List Char × Option (List Char) :=
  match text.dropWhile (· != '=') with
  | [] => (text, none)
  | _ :: rest => (text.takeWhile (· != '='), some rest)

/-- The text is a negative number: a minus sign and digits, among them at
most one point, which is not last. A line end after it is let pass. -/
def isNegativeNumber (text : List Char) : Bool :=
  let isDigit := fun c => (Text.decimalValue? c).isSome
  match text with
  | '-' :: rest =>
    let body := if rest.getLast? = some '\n' then rest.dropLast else rest
    match body.dropWhile isDigit with
    | [] => !body.isEmpty
    | '.' :: places => !places.isEmpty && places.all isDigit
    | _ => false
  | _ => false

/-- An argument that is no known option: a value if it is a negative number
or has a space in it. -/
def classifyOther (text : List Char) : Token :=
  if isNegativeNumber text || text.contains ' ' then .value (String.ofList text)
  else .unknown (String.ofList text)

/-- An argument that begins with two dashes. -/
def classifyLong (text : List Char) : Except UsageError Token :=
  let (name, attached) := splitEquals text
  let token := fun flag => Token.option flag false (attached.map String.ofList)
  match Flag.all.find? fun flag => flag.long.toList == name with
  | some flag => .ok (token flag)
  | none =>
    match Flag.all.filter fun flag => beginsWith name flag.long.toList with
    | [] => .ok (classifyOther text)
    | [flag] => .ok (token flag)
    | candidates => .error (.ambiguous (String.ofList text) candidates)

/-- An argument that begins with one dash and a letter. A value may be
attached with or without an equals sign. -/
def classifyShort (letter : Char) (rest : List Char) : Token :=
  match Flag.ofShort? letter with
  | none => classifyOther ('-' :: letter :: rest)
  | some flag =>
    match rest with
    | [] => .option flag true none
    | '=' :: value => .option flag true (some (String.ofList value))
    | value => .option flag true (some (String.ofList value))

/-- What an argument is, ahead of any separator. -/
def classify (argument : String) : Except UsageError Token :=
  match argument.toList with
  | '-' :: '-' :: name => classifyLong ('-' :: '-' :: name)
  | '-' :: letter :: rest => .ok (classifyShort letter rest)
  | _ => .ok (.value argument)

/-- What the arguments are. Those after a separator are values. -/
def tokens : List String → Except UsageError (List Token)
  | [] => .ok []
  | argument :: rest =>
    if argument = separator then .ok (.separator :: rest.map .value)
    else do
      let token ← classify argument
      return token :: (← tokens rest)

/-! ## Going through the arguments -/

/-- What has been read so far. -/
structure Progress where
  filename : Option String
  options : Options
  leftover : List String
  deriving DecidableEq, Repr

namespace Progress

/-- Nothing has been read. Only the keymap has a value that it is given by
default. -/
def initial : Progress :=
  ⟨none, ⟨"", .unset, .unset, .unset, .unset, .value Keymap.usual, .unset, false⟩, []⟩

/-- Leaves an argument over. -/
def leave (argument : String) (progress : Progress) : Progress :=
  { progress with leftover := progress.leftover ++ [argument] }

end Progress

/-- The renderers that can be chosen. -/
def rendererChoices : List String := ["pygame", "null"]

/-- The journal levels that can be chosen. -/
def levelChoices : List String := ["debug", "info", "warning", "error"]

/-- The settings of the sound that can be chosen. -/
def muteChoices : List Int := [0, 1]

/-- The integer given for an option. -/
def integerFor (flag : Flag) (value : String) : Except Exit Int :=
  match Text.integer? value with
  | some n => .ok n
  | none => .error (.usage (.invalidInteger flag value))

/-- The value given for an option, if it is one of those allowed. -/
def choiceFor (flag : Flag) (choices : List String) (value : String) : Except Exit String :=
  if value ∈ choices then .ok value
  else .error (.usage (.invalidChoice flag (Text.quoted value) (choices.map Text.quoted)))

/-- The setting of the sound given for an option, if it is one of those
allowed. -/
def muteFor (flag : Flag) (value : String) : Except Exit Int := do
  let n ← integerFor flag value
  if n ∈ muteChoices then return n
  else throw (.usage (.invalidChoice flag (toString n) (muteChoices.map toString)))

/-- The setting that the text given for an option makes. A separator is no
text. -/
def settingFor {α : Type} (read : String → Except Exit α) (text : String) :
    Except Exit (Setting α) :=
  if text = separator then .ok .empty else return .value (← read text)

/-- Puts the value of an option in place. -/
def assign (options : Options) (flag : Flag) (value : String) : Except Exit Options :=
  match flag with
  | .help => .error .help
  | .debug => .ok { options with debug := true }
  | .clockSpeed => do
    return { options with clockSpeed := ← settingFor (integerFor flag) value }
  | .scale => do
    return { options with scale := ← settingFor (integerFor flag) value }
  | .mute => do
    return { options with mute := ← settingFor (muteFor flag) value }
  | .renderer => do
    return { options with renderer := ← settingFor (choiceFor flag rendererChoices) value }
  | .logLevel => do
    return { options with logLevel := ← settingFor (choiceFor flag levelChoices) value }
  | .keymap => do
    return { options with keymap := ← settingFor pure value }

/-- The options given by one argument: those that take no value, and then
perhaps one that does. -/
structure Group where
  plain : List Flag
  valued : Option (Flag × Option String)
  deriving DecidableEq, Repr

/-- The options that are joined in one short argument, `flag` having been
read and `letters` being the text attached to it. -/
def joined (flag : Flag) : List Char → Except Exit Group
  | [] => .ok ⟨[flag], none⟩
  | letter :: rest =>
    match Flag.ofShort? letter with
    | none => .error (.usage (.ignoredValue flag (String.ofList (letter :: rest))))
    | some next =>
      if next.takesValue then
        .ok ⟨[flag], some (next, if rest.isEmpty then none else some (String.ofList rest))⟩
      else do
        let group ← joined next rest
        return { group with plain := flag :: group.plain }

/-- The options given by one argument. -/
def groupOf (flag : Flag) (isShort : Bool) (attached : Option String) : Except Exit Group :=
  if flag.takesValue then .ok ⟨[], some (flag, attached)⟩
  else
    match attached with
    | none => .ok ⟨[flag], none⟩
    | some text =>
      if isShort && text ≠ "" then joined flag text.toList
      else .error (.usage (.ignoredValue flag text))

/-- Puts the options of a group in place: those that take no value, and then
the one that does. -/
def Progress.take (progress : Progress) (plain : List Flag) (valued : Option (Flag × String)) :
    Except Exit Progress := do
  let options ← plain.foldlM (fun options flag => assign options flag "") progress.options
  match valued with
  | none => return { progress with options := options }
  | some (flag, value) => return { progress with options := ← assign options flag value }

/-- Goes through the arguments. The first value is the file name, and a
separator next to it belongs to it. -/
def consume (progress : Progress) : List Token → Except Exit Progress
  | [] => .ok progress
  | .value text :: rest =>
    match progress.filename with
    | some _ => consume (progress.leave text) rest
    | none =>
      match rest with
      | .separator :: rest => consume { progress with filename := some text } rest
      | rest => consume { progress with filename := some text } rest
  | .separator :: rest =>
    match progress.filename, rest with
    | none, .value text :: rest => consume { progress with filename := some text } rest
    | _, rest => consume (progress.leave separator) rest
  | .unknown text :: rest => consume (progress.leave text) rest
  | .option flag isShort attached :: rest => do
    let group ← groupOf flag isShort attached
    match group.valued, rest with
    | none, rest => consume (← progress.take group.plain none) rest
    | some (flag, some value), rest =>
      consume (← progress.take group.plain (some (flag, value))) rest
    | some (flag, none), .value value :: rest =>
      consume (← progress.take group.plain (some (flag, value))) rest
    | some (flag, none), _ => throw (.usage (.expectedValue flag))

/-- Reads a command line. -/
def parse (arguments : List String) : Except Exit Options := do
  match tokens arguments with
  | .error error => throw (.usage error)
  | .ok tokens =>
    let progress ← consume .initial tokens
    match progress.filename, progress.leftover with
    | none, _ => throw (.usage .missingFilename)
    | some filename, [] => return { progress.options with filename := filename }
    | some _, leftover => throw (.usage (.unrecognised leftover))

/-! ## Help -/

/-- The name of the program. -/
def programName : String := "monochip.py"

/-- How the program is called, a line each. -/
def usageLines : List String := [
  "usage: " ++ programName ++ " [-h] [-c CLOCK_SPEED] [-r \x7bpygame,null\x7d] [-s SCALE]",
  "                   [-m \x7b0,1\x7d] [-k KEYMAP] [-l \x7bdebug,info,warning,error\x7d] [-d]",
  "                   filename"]

/-- The help text, a line each. -/
def helpLines : List String := usageLines ++ [
  "",
  "positional arguments:",
  "  filename              ROM to execute (normally ending in .ch8 or .c8)",
  "",
  "options:",
  "  -h, --help            show this help message and exit",
  "  -c CLOCK_SPEED, --clock_speed CLOCK_SPEED",
  "                        set the CPU speed in instructions/second (default 500,",
  "                        0 = uncapped)",
  "  -r \x7bpygame,null\x7d, --renderer \x7bpygame,null\x7d",
  "                        set the rendering, input, and audio systems (pygame by",
  "                        default if available, otherwise null)",
  "  -s SCALE, --scale SCALE",
  "                        set the window width in PyGame mode (default 512)",
  "  -m \x7b0,1\x7d, --mute \x7b0,1\x7d",
  "                        mute the emulated audio. 0 = unmuted (default), 1 =",
  "                        muted",
  "  -k KEYMAP, --keymap KEYMAP",
  "                        redefine the 16 key names for keys 0-F, separated by",
  "                        commas (default " ++ Keymap.usual ++ ")",
  "  -l \x7bdebug,info,warning,error\x7d, --log_level \x7bdebug,info,warning,error\x7d",
  "                        set the logging level (default info)",
  "  -d, --debug           enable live debug output of every instruction. Slows",
  "                        CPU execution"]

/-- The help text. -/
def help : String := String.join (helpLines.map (· ++ "\n"))

end CommandLine
end Chip8
