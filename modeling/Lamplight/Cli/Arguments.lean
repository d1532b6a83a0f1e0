import Lamplight.Cli.Flag
import Lamplight.Sample

/-!
# From arguments to commands

`Invocation.read` makes sense of the arguments of the program.  They are taken from left to
right, and the first thing that is wrong, or asks for help, decides; but a value that is an
argument of its own is looked at only when the next option of its level has been seen, or all of
its level.
-/

namespace Lamplight.Cli

/-- The shapes of an argument. -/
inductive Argument
  /-- Two dashes alone; no option follows. -/
  | escape
  /-- A long option, with or without a value behind an equals sign. -/
  | long (name : String) (value : Option String)
  /-- One or more letters behind a dash. -/
  | short (letters : List Char)
  | word (text : String)
  deriving Repr, DecidableEq

namespace Argument

/-- The shape of an argument. -/
def ofText (text : String) : Argument :=
  match text.toList with
  | ['-', '-'] => .escape
  | '-' :: '-' :: chars =>
    let value :=
      match chars.dropWhile (· ≠ '=') with
      | [] => none
      | _ :: value => some (String.ofList value)
    .long (String.ofList (chars.takeWhile (· ≠ '='))) value
  | '-' :: letter :: letters => .short (letter :: letters)
  | _ => .word text

/-- Whether letters behind a dash are a number: digits with at most one point in front of at
most one `e` or `E`, neither of them first and the letter not last. -/
def isNumeral (letters : List Char) : Bool :=
  let mantissa := letters.takeWhile fun letter => letter ≠ 'e' && letter ≠ 'E'
  let power := letters.drop mantissa.length
  let whole := mantissa.takeWhile (· ≠ '.')
  let fraction := mantissa.drop whole.length
  let startsWell := !letters.isEmpty && (letters.head?.map Char.isDigit).getD false
  let isPower :=
    match power with
    | [] => true
    | _ :: digits => !digits.isEmpty && digits.all Char.isDigit
  startsWell && whole.all Char.isDigit && (fraction.drop 1).all Char.isDigit && isPower

/-- Whether an argument can be the value of the option before it. -/
def isValueOf (flag : Flag) (text : String) : Bool :=
  match ofText text with
  | .word _ => true
  | .short letters => flag.takesNegative && isNumeral letters
  | _ => false

end Argument

/-- The options noted at one level.  Where the value of the last one is an argument of its own,
the two wait: the value is looked at when another option comes, or when the level ends. -/
structure Notes where
  given : Given
  waiting : Option (Flag × String)

namespace Notes

/-- No options. -/
def nothing : Notes := ⟨.nothing, none⟩

/-- Notes with nothing that waits. -/
def settled (given : Given) : Notes := ⟨given, none⟩

/-- Look at the value that waits. -/
def settle (notes : Notes) : Except Halt Given :=
  match notes.waiting with
  | none => .ok notes.given
  | some (flag, text) => notes.given.note flag text

end Notes

/-- The options of one level: none yet, or those of a command. -/
structure Level where
  topic : Option Subcommand

namespace Level

/-- The option of a long name. -/
def ofLong? (level : Level) (name : String) : Option Flag :=
  (Flag.available level.topic).find? (·.long == name)

/-- The option of a letter. -/
def ofLetter? (level : Level) (letter : Char) : Option Flag :=
  (Flag.available level.topic).find? (·.letter? == some letter)

/-- Take note of letters behind a dash.  The first option with a value ends them; its value may
follow at once, with or without an equals sign. -/
def readLetters (level : Level) :
    List Char → Given → Except Halt (Given × Option (Flag × Option String))
  | [], given => .ok (given, none)
  | letter :: letters, given =>
    match level.ofLetter? letter with
    | none => .error (.usage (.unknownOption (String.ofList ['-', letter])))
    | some flag =>
      if flag.takesValue then
        let value :=
          match letters with
          | [] => none
          | '=' :: value => some (String.ofList value)
          | value => some (String.ofList value)
        .ok (given, some (flag, value))
      else
        match given.noteSwitch level.topic flag with
        | .error halt => .error halt
        | .ok given => level.readLetters letters given

/-- Take note of an option whose value is the next argument, if that can be one. -/
def noteNext (flag : Flag) (text : String) (given : Given) : Except Halt Notes :=
  if Argument.isValueOf flag text then .ok ⟨given, some (flag, text)⟩
  else .error (.usage (.missingValue flag))

/-- Take note of all options up to the first argument that is none, and say what is left. -/
def readOptions (level : Level) : List String → Notes → Except Halt (Notes × List String)
  | [], notes => .ok (notes, [])
  | argument :: rest, notes =>
    match Argument.ofText argument with
    | .escape => .ok (notes, argument :: rest)
    | .word _ => .ok (notes, argument :: rest)
    | .long name value =>
      match level.ofLong? name with
      | none => .error (.usage (.unknownOption argument))
      | some flag => do
        let given ← notes.settle
        if flag.takesValue then
          match value, rest with
          | some text, rest => level.readOptions rest (.settled (← given.note flag text))
          | none, [] => .error (.usage (.missingValue flag))
          | none, text :: rest => level.readOptions rest (← noteNext flag text given)
        else if value.isSome then .error (.usage (.unwantedValue flag))
        else level.readOptions rest (.settled (← given.noteSwitch level.topic flag))
    | .short letters => do
      match ← level.readLetters letters (← notes.settle), rest with
      | (given, none), rest => level.readOptions rest (.settled given)
      | (given, some (flag, some text)), rest =>
        level.readOptions rest (.settled (← given.note flag text))
      | (_, some (flag, none)), [] => .error (.usage (.missingValue flag))
      | (given, some (flag, none)), text :: rest =>
        level.readOptions rest (← noteNext flag text given)
termination_by arguments => arguments.length

end Level

/-- What the program is told to do. -/
inductive Command
  | eval (sample : Sample) (rules : Option Path) (json : Bool)
  | simulate (hours : Option UInt32) (seed tickMs : Option UInt64) (rules : Option Path)
  | checkRules (rules : Option Path)
  | initConfig (output : Option Path)
  deriving Repr, DecidableEq

/-- A command with the options that every command has. -/
structure Invocation where
  /-- The configuration file, if one was named. -/
  config : Option Path
  verbose : Nat
  quiet : Nat
  command : Command
  deriving Repr, DecidableEq

/-- An option that a command cannot do without. -/
def requireOption {α : Type} (flag : Flag) (value : Option α) : Except Halt α :=
  match value with
  | none => .error (.usage (.missingOption flag))
  | some value => .ok value

/-- The command of a word with its options. -/
def Command.ofGiven (given : Given) : Subcommand → Except Halt Command
  | .eval => do
    let time ← requireOption .time given.time
    let light ← requireOption .light given.light
    let weather ← requireOption .weather given.weather
    return .eval ⟨time, light, weather⟩ given.rules given.json
  | .simulate => .ok (.simulate given.hours given.seed given.tickMs given.rules)
  | .checkRules => .ok (.checkRules given.rules)
  | .initConfig => .ok (.initConfig given.output)

namespace Invocation

/-- A switch that counts: what is given to the command goes before what stands in front. -/
def countOf (outer inner : Nat) : Nat := if 0 < inner then inner else outer

/-- The invocation of a command, given what stands in front of it and the arguments behind.  The
level in front ends behind the command: a value that waits there is looked at last, and help about
the command goes before it. -/
def ofSubcommand (outer : Notes) (subcommand : Subcommand) (arguments : List String) :
    Except Halt Invocation := do
  match ← (Level.mk (some subcommand)).readOptions arguments .nothing with
  | (inner, rest) =>
    let inner ← inner.settle
    if rest ≠ [] ∧ rest ≠ ["--"] then
      throw (.usage (.unexpectedWord (rest.headD "")))
    let command ← Command.ofGiven inner subcommand
    let outer ← outer.settle
    return {
      config := inner.config.or outer.config
      verbose := countOf outer.verbose inner.verbose
      quiet := countOf outer.quiet inner.quiet
      command
    }

/-- What help is wanted, by the words behind the word for help. -/
def helpTopic : List String → Halt
  | [] => .help .program
  | ["help"] => .help .help
  | [name] =>
    match Subcommand.ofName? name with
    | some subcommand => .help (.command subcommand)
    | none => .usage (.unexpectedWord name)
  | name :: _ => .usage (.unexpectedWord name)

/-- What the arguments of the program tell it to do. -/
def read (arguments : List String) : Except Halt Invocation := do
  match ← (Level.mk none).readOptions arguments .nothing with
  | (_, []) => throw (.usage .missingCommand)
  | (outer, word :: rest) =>
    if word = "help" then throw (helpTopic rest)
    else
      match Subcommand.ofName? word with
      | some subcommand => ofSubcommand outer subcommand rest
      | none => throw (.usage (.unexpectedWord word))

end Invocation

end Lamplight.Cli
