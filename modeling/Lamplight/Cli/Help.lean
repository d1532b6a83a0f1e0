import Lamplight.Cli.Flag

/-!
# Help texts
-/

namespace Lamplight.Cli

/-- The name of the program. -/
def programName : String := "fuzzylight"

/-- The line that tells the version. -/
def versionLine : String := programName ++ " 0.1.0"

/-- How an option is written. -/
def Flag.form (flag : Flag) : String :=
  let letter :=
    match flag.letter? with
    | some letter => String.ofList ['-', letter, ',', ' ']
    | none => "    "
  let value :=
    match flag, flag.valueName? with
    | .verbose, _ | .quiet, _ => "..."
    | _, some name => " <" ++ name ++ ">"
    | _, none => ""
  letter ++ "--" ++ flag.long ++ value

/-- Two columns of text; the second one starts two blanks behind the widest entry of the
first. -/
def columns (rows : List (String × String)) : List String :=
  let width := rows.foldl (fun width row => max width row.1.length) 0
  rows.map fun (left, right) =>
    "  " ++ left ++ String.ofList (List.replicate (width + 2 - left.length) ' ') ++ right

/-- The options without which a command cannot be given. -/
def Subcommand.requiredFlags : Subcommand → List Flag
  | .eval => [.time, .light, .weather]
  | _ => []

/-- The line that shows how a command is given. -/
def usageLine : Option Subcommand → String
  | none => "Usage: " ++ programName ++ " [OPTIONS] <COMMAND>"
  | some topic =>
    let required := topic.requiredFlags.map fun flag =>
      " --" ++ flag.long ++ " <" ++ flag.valueName?.getD "" ++ ">"
    "Usage: " ++ programName ++ " " ++ topic.name ++ " [OPTIONS]" ++ String.join required

/-- What the word for help does, in words. -/
def helpAbout : String := "Print this message or the help of the given subcommand(s)"

/-- The table of the commands. -/
def commandTable : List String :=
  "Commands:" ::
    columns (Subcommand.all.map (fun command => (command.name, command.about)) ++
      [("help", helpAbout)])

/-- The table of the options before the command, or of those of a command. -/
def optionTable (level : Option Subcommand) : List String :=
  "Options:" :: columns ((Flag.available level).map fun flag => (flag.form, flag.about))

/-- The lines of a help text. -/
def helpLines : HelpTopic → List String
  | .program =>
    ["Fuzzy inference engine for street lighting", "", usageLine none, ""] ++ commandTable ++
      "" :: optionTable none
  | .command command =>
    [command.about, "", usageLine (some command), ""] ++ optionTable (some command)
  | .help =>
    [helpAbout, "", "Usage: " ++ programName ++ " help [COMMAND]...", "", "Arguments:"] ++
      columns [("[COMMAND]...", "Print help for the subcommand(s)")]

/-- The help text about a topic. -/
def helpText (topic : HelpTopic) : String := "\n".intercalate (helpLines topic)

end Lamplight.Cli
