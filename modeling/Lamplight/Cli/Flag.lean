import Lamplight.Decimal.Unsigned
import Lamplight.Files.Path

/-!
# Options of the command line

The options, the commands that have them, and the values that they were given.
-/

namespace Lamplight.Cli

/-- What the program can be told to do. -/
inductive Subcommand
  | eval
  | simulate
  | checkRules
  | initConfig
  deriving Repr, DecidableEq

namespace Subcommand

/-- The word for a command. -/
def name : Subcommand → String
  | .eval => "eval"
  | .simulate => "simulate"
  | .checkRules => "check-rules"
  | .initConfig => "init-config"

/-- What a command does, in words. -/
def about : Subcommand → String
  | .eval => "Evaluate one sensor sample"
  | .simulate => "Run the street light simulator"
  | .checkRules => "List rules and report malformed conditions"
  | .initConfig => "Write the default configuration file"

/-- Every command. -/
def all : List Subcommand := [.eval, .simulate, .checkRules, .initConfig]

/-- The command of a word. -/
def ofName? (name : String) : Option Subcommand := all.find? (·.name == name)

end Subcommand

/-- An option. -/
inductive Flag
  | config
  | verbose
  | quiet
  | help
  | version
  | time
  | light
  | weather
  | rules
  | json
  | hours
  | seed
  | tickMs
  | output
  deriving Repr, DecidableEq

namespace Flag

/-- The long name of an option, which goes behind two dashes. -/
def long : Flag → String
  | .config => "config"
  | .verbose => "verbose"
  | .quiet => "quiet"
  | .help => "help"
  | .version => "version"
  | .time => "time"
  | .light => "light"
  | .weather => "weather"
  | .rules => "rules"
  | .json => "json"
  | .hours => "hours"
  | .seed => "seed"
  | .tickMs => "tick-ms"
  | .output => "output"

/-- The letter of an option, which goes behind one dash. -/
def letter? : Flag → Option Char
  | .config => some 'c'
  | .verbose => some 'v'
  | .quiet => some 'q'
  | .help => some 'h'
  | .version => some 'V'
  | .output => some 'o'
  | _ => none

/-- What stands for the value of an option in a help text; a switch has no value. -/
def valueName? : Flag → Option String
  | .verbose | .quiet | .help | .version | .json => none
  | .config | .rules | .output => some "FILE"
  | .time => some "TIME"
  | .light => some "LIGHT"
  | .weather => some "WEATHER"
  | .hours => some "HOURS"
  | .seed => some "SEED"
  | .tickMs => some "MS"

/-- Whether an option goes with a value. -/
def takesValue (flag : Flag) : Bool := flag.valueName?.isSome

/-- Whether the value of an option may look like a negative number. -/
def takesNegative : Flag → Bool
  | .time | .light => true
  | _ => false

/-- What an option is for, in words. -/
def about : Flag → String
  | .config => "Configuration file (skips the default search locations)"
  | .verbose => "More log output (repeatable)"
  | .quiet => "Less log output (repeatable)"
  | .help => "Print help"
  | .version => "Print version"
  | .time => "Hour of day"
  | .light => "Ambient light level"
  | .weather => "Weather category"
  | .rules => "Rule file (TOML or JSON)"
  | .json => "Print the result as JSON"
  | .hours => "Simulated hours"
  | .seed => "Random seed for reproducible runs"
  | .tickMs => "Delay between ticks in milliseconds"
  | .output => "Output path (defaults to stdout)"

/-- What an option is sorted by: its letter, or its long name if it has none. -/
def key (flag : Flag) : String :=
  match flag.letter? with
  | some letter => letter.toString
  | none => flag.long

/-- Two lists of options place by place; of the two options in one place, the one with the lesser
key goes first. -/
def interleave : List Flag → List Flag → List Flag
  | [], flags | flags, [] => flags
  | flag :: flags, other :: others =>
    (if flag.key < other.key then [flag, other] else [other, flag]) ++ interleave flags others

/-- The options that every command has, help apart. -/
def shared : List Flag := [.config, .verbose, .quiet]

/-- The options of its own that a command has. -/
def own : Subcommand → List Flag
  | .eval => [.time, .light, .weather, .rules, .json]
  | .simulate => [.hours, .seed, .tickMs, .rules]
  | .checkRules => [.rules]
  | .initConfig => [.output]

/-- The options before the command, or those of a command, in the order of the help text. -/
def available : Option Subcommand → List Flag
  | none => shared ++ [.help, .version]
  | some command => interleave shared (own command) ++ [.help]

end Flag

/-- What is wrong with a command line. -/
inductive UsageFault
  | unknownOption (text : String)
  | unexpectedWord (text : String)
  | missingCommand
  | missingOption (flag : Flag)
  | missingValue (flag : Flag)
  | unwantedValue (flag : Flag)
  | invalidValue (flag : Flag) (text : String)
  | repeated (flag : Flag)
  deriving Repr, DecidableEq

/-- What is wrong with a command line, in words. -/
def UsageFault.message : UsageFault → String
  | .unknownOption text => s!"unexpected argument '{text}' found"
  | .unexpectedWord text => s!"unrecognized word '{text}'"
  | .missingCommand => "a command is required"
  | .missingOption flag => s!"the option --{flag.long} is required"
  | .missingValue flag => s!"the option --{flag.long} needs a value"
  | .unwantedValue flag => s!"the option --{flag.long} has no value"
  | .invalidValue flag text => s!"invalid value '{text}' for --{flag.long}"
  | .repeated flag => s!"the option --{flag.long} cannot be used multiple times"

/-- What help can be wanted about. -/
inductive HelpTopic
  | program
  | command (command : Subcommand)
  /-- The word that asks for help. -/
  | help
  deriving Repr, DecidableEq

/-- What an option for help is about, before the command or behind it. -/
def HelpTopic.ofLevel : Option Subcommand → HelpTopic
  | none => .program
  | some subcommand => .command subcommand

/-- Why a command line does not lead to a command. -/
inductive Halt
  | usage (fault : UsageFault)
  /-- Help is wanted. -/
  | help (topic : HelpTopic)
  /-- The version is wanted. -/
  | version
  deriving Repr, DecidableEq

/-- The options given before the command, or those given to it. -/
structure Given where
  config : Option Path
  verbose : Nat
  quiet : Nat
  time : Option Float
  light : Option Float
  weather : Option String
  rules : Option Path
  json : Bool
  hours : Option UInt32
  seed : Option UInt64
  tickMs : Option UInt64
  output : Option Path

namespace Given

/-- No options. -/
def nothing : Given :=
  ⟨none, 0, 0, none, none, none, none, false, none, none, none, none⟩

/-- The path that a text is. -/
def path? (text : String) : Option Path := if text = "" then none else some ⟨text⟩

/-- The number that a text spells. -/
def number? (text : String) : Option Float := Decimal.readNumber? text.toList

/-- The count that a text spells; a zero may have a minus. -/
def count? (text : String) : Option UInt32 :=
  let (negative, digits) := Decimal.takeSign text.toList
  match Decimal.readDigits? digits with
  | some value =>
    if value < UInt32.size ∧ (value = 0 ∨ !negative) then some (UInt32.ofNat value) else none
  | none => none

/-- Read the value of an option that was not given before. -/
def once {α : Type} (flag : Flag) (known : Option α) (read? : String → Option α)
    (text : String) : Except Halt (Option α) :=
  if known.isSome then .error (.usage (.repeated flag))
  else
    match read? text with
    | none => .error (.usage (.invalidValue flag text))
    | some value => .ok (some value)

/-- Take note of an option with a value. -/
def note (given : Given) (flag : Flag) (text : String) : Except Halt Given :=
  match flag with
  | .config => do return { given with config := ← once flag given.config path? text }
  | .time => do return { given with time := ← once flag given.time number? text }
  | .light => do return { given with light := ← once flag given.light number? text }
  | .weather => do return { given with weather := ← once flag given.weather some text }
  | .rules => do return { given with rules := ← once flag given.rules path? text }
  | .hours => do return { given with hours := ← once flag given.hours count? text }
  | .seed => do return { given with seed := ← once flag given.seed Decimal.readWord64? text }
  | .tickMs => do
    return { given with tickMs := ← once flag given.tickMs Decimal.readWord64? text }
  | .output => do return { given with output := ← once flag given.output path? text }
  | _ => .error (.usage (.unwantedValue flag))

/-- How often a repeatable switch counts at most. -/
def countLimit : Nat := 255

/-- Take note of a switch. -/
def noteSwitch (given : Given) (level : Option Subcommand) (flag : Flag) : Except Halt Given :=
  match flag with
  | .verbose => .ok { given with verbose := min countLimit (given.verbose + 1) }
  | .quiet => .ok { given with quiet := min countLimit (given.quiet + 1) }
  | .json =>
    if given.json then .error (.usage (.repeated flag)) else .ok { given with json := true }
  | .help => .error (.help (.ofLevel level))
  | .version => .error .version
  | _ => .error (.usage (.missingValue flag))

end Given

end Lamplight.Cli
