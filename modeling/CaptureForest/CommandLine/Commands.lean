import CaptureForest.CommandLine.Grammar
import CaptureForest.Choice
/-!
# The commands

The command line of the program: a file of declarations can be compiled, checked, or asked for its hooks.
-/

namespace CaptureForest

namespace CommandLine

def version : String := "0.1.0"

def fileOperand : Operand where
  name := "file"
  shown := ["file"]
  help := some "Declaration file (.json, .yaml or .yml)"

def formatOption : OptionRule where
  names := ["--format"]
  argument := "format"
  kind := .choice OutputFormat.words
  absent := .str OutputFormat.table.word
  help := "Output format (default: table)"

def defaultTypeOption : OptionRule where
  names := ["--default-type"]
  argument := "default_type"
  kind := .choice EntryType.words
  help := "Entry type for leaves that declare none (default: $DECLCAPTURE_DEFAULT_TYPE or entry)"

def patternOption : OptionRule where
  names := ["--pattern"]
  argument := "pattern"
  kind := .text
  absent := .str ""
  help := "Regular expression searched in each handler's entry key (default: all)"

def phaseOption : OptionRule where
  names := ["--phase"]
  argument := "phase"
  kind := .choices HookPhase.words
  help := "Only list handlers of this phase (repeatable, default: all phases)"

def versionOption : OptionRule where
  names := ["-v", "--version"]
  argument := "version"
  kind := .switch
  absent := .bool false
  help := "Show version information and exit"

def compileCommand : Command where
  name := "compile"
  summary := "Compile declarations into capture entries"
  description := "Compile a declaration file into the flat, ordered list of capture entries and the " ++
    "hook registrations it requests."
  options := [formatOption, defaultTypeOption]
  operand := fileOperand

def validateCommand : Command where
  name := "validate"
  summary := "Validate declarations"
  description := "Check every declaration and report all problems instead of stopping at the first one."
  options := [formatOption]
  operand := fileOperand

def hooksCommand : Command where
  name := "hooks"
  summary := "List hook handlers installed by declarations"
  description := "Compile a declaration file, install its hooks into a fresh registry and list the " ++
    "handlers matching a key pattern."
  options := [formatOption, patternOption, phaseOption]
  operand := fileOperand

/-- The program. -/
def program : Program where
  name := "declcapture"
  description := "Compile declarative capture template trees into capture entries."
  options := [versionOption]
  commands := [compileCommand, validateCommand, hooksCommand]

end CommandLine

end CaptureForest
