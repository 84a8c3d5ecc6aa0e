import QueryBench.CommandLine
import QueryBench.Console
import QueryBench.Text.Case

/-!
# Help

A command that is asked for help shows how it is used, in lines of limited width, and lists its
options.

Main definitions: `CommandLine.helpText`, `CommandLine.ask`.
-/
set_option autoImplicit false

namespace QueryBench.CommandLine

def lineWidth : Nat := 78

def descriptionColumn : Nat := 24

def Parameter.usage (p : Parameter) : Text :=
  "--" ++ p.name ++ " " ++ Text.upper p.name

/-- The parts in lines, separated by blanks; a line that would become too wide is ended before. The
current line has `line` in it, last first, and is `width` wide, and any other begins `indent` wide.
-/
def fill (indent : Nat) (line : List Text) (width : Nat) : List Text → List (List Text)
  | [] => [line.reverse]
  | part :: rest =>
    if lineWidth < width + 1 + part.length && !line.isEmpty then
      line.reverse :: fill indent [part] (indent + part.length) rest
    else fill indent (part :: line) (width + 1 + part.length) rest

def usage (program : Text) (parameters : List Parameter) : Text :=
  let start : Text := "usage: "
  let indent := start.length + program.length + 1
  let options : List Text := "[-h]" :: parameters.map fun p => "[" ++ p.usage ++ "]"
  let margin : Text := "\n" ++ Text.replicate indent ' '
  let lines := fill indent [program] (start.length + program.length) options
  start ++ Text.join margin (lines.map (Text.join " "))

def helpText (program : Text) (parameters : List Parameter) : Text :=
  let help : Text := "  -h, --help"
  let margin := Text.replicate (descriptionColumn - help.length) ' '
  let options : List Text := parameters.map fun p => "  " ++ p.usage
  Text.join "\n" (usage program parameters :: "" :: "options:" ::
    (help ++ margin ++ "show this help message and exit") :: options)

/-- The options of a program. One that is asked for help shows it and ends. -/
def ask (program : Text) (parameters : List Parameter) (words : List Text) :
    Traced (List (Text × Value)) :=
  match parse parameters words with
  | .ok given => return given
  | .error stop => do
    if stop = .help then say (helpText program parameters)
    throw stop.fault

end QueryBench.CommandLine
