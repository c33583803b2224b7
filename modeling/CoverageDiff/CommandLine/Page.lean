import CoverageDiff.CommandLine.Request
import CoverageDiff.Report.Payload

/-!
# CoverageDiff.CommandLine.Page

Texts that the program shows or writes: results, help and completion scripts.

Results are the program's own.  Help and scripts come from the framework of the
command line, whose wording is not modelled: the texts here are stand-ins with
the same commands, options and purpose.
-/

namespace CoverageDiff.CommandLine

/-- The name of the program. -/
def programName : String := "covdiff"

/-- A text to be shown or written. -/
inductive Page where
  | result (text : String)
  /-- Help for a command, or for the whole program. -/
  | help (command : Option CommandName)
  /-- A completion script. -/
  | script (shell : Shell)
  deriving DecidableEq

/-! ## Help -/

/-- What a command does. -/
def CommandName.summary : CommandName → String
  | diff => "Compare two coverage reports; exit 1 when they are not equivalent."
  | status => "Print the derived status of every line as 'LINE<TAB>STATUS'."
  | completion => "Generate shell completion scripts."

/-- The words that a command needs. -/
def CommandName.operands : CommandName → String
  | diff => "BASELINE CURRENT"
  | status => "REPORT"
  | completion => "bash|zsh|fish"

/-- An option as help shows it. -/
def OptionSpec.usage : OptionSpec → String
  | flag name (some letter) => "-" ++ String.singleton letter ++ ", " ++ name
  | flag name none => name
  | valued name => name ++ " VALUE"

/-- Lines that list options. -/
def optionLines (specs : List OptionSpec) : List String :=
  "" :: "Options:" :: specs.map fun s => "  " ++ s.usage

/-- The help for the whole program. -/
def programHelp : List String :=
  ["Usage: " ++ programName ++ " [OPTIONS] COMMAND [ARGS]...", "",
    "Check that two coverage reports of the same run describe equivalent coverage."]
    ++ optionLines globalOptions
    ++ "" :: "Commands:" :: CommandName.all.map fun c => "  " ++ c.text ++ "  " ++ c.summary

/-- The help for a command. -/
def commandHelp (c : CommandName) : List String :=
  ["Usage: " ++ programName ++ " " ++ c.text ++ " [OPTIONS] " ++ c.operands, "", c.summary]
    ++ optionLines c.options

/-! ## Completion scripts -/

/-- The names of the options of a command. -/
def optionNames (c : CommandName) : List String :=
  c.options.map OptionSpec.name

/-- Words with blanks between them. -/
def spaced (words : List String) : String :=
  String.intercalate " " words

/-- The words that a command is completed with, as lines of a `case` statement. -/
def caseLines : List String :=
  CommandName.all.map fun c => "    " ++ c.text ++ ") choices=\"" ++ spaced (optionNames c) ++ "\" ;;"

/-- All commands with blanks between them. -/
def commandWords : String :=
  spaced (CommandName.all.map CommandName.text)

/-- The lines of a completion script. -/
def scriptLines : Shell → List String
  | .bash =>
    ["_covdiff_complete() \x7b", "  local choices=\"" ++ commandWords ++ "\"",
      "  case \"$\x7bCOMP_WORDS[1]\x7d\" in"] ++ caseLines
      ++ ["  esac", "  COMPREPLY=($(compgen -o default -W \"$choices\" -- \"$2\"))", "\x7d",
        "complete -F _covdiff_complete " ++ programName]
  | .zsh =>
    ["#compdef " ++ programName, "_covdiff_complete() \x7b",
      "  local choices=\"" ++ commandWords ++ "\"", "  case \"$words[2]\" in"] ++ caseLines
      ++ ["  esac", "  compadd -- $\x7b=choices\x7d", "  _files", "\x7d",
        "compdef _covdiff_complete " ++ programName]
  | .fish =>
    ("complete -c " ++ programName ++ " -n __fish_use_subcommand -a \"" ++ commandWords ++ "\"")
      :: CommandName.all.map fun c =>
        "complete -c " ++ programName ++ " -n \"__fish_seen_subcommand_from " ++ c.text ++ "\" -a \""
          ++ spaced (optionNames c) ++ "\""

/-! ## Texts -/

/-- Lines as one text. -/
def joinLines (lines : List String) : String :=
  String.intercalate "\n" lines

/-- The text of a page. -/
def Page.text : Page → String
  | result text => text
  | help none => joinLines programHelp
  | help (some c) => joinLines (commandHelp c)
  | script shell => joinLines (scriptLines shell)

/-- The page that shows the version. -/
def versionPage : Page :=
  .result (programName ++ " " ++ Payload.programVersion)

end CoverageDiff.CommandLine
