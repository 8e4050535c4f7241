/-
What the command says about itself.
-/
import PoolRewards.Command.Options
import PoolRewards.Text.Terminal

namespace PoolRewards.Options

/-- The name and the version of the program. -/
def versionText : String := "smartnode-treegen 0.15.0"

/-- What the program does. -/
def aboutText : String := "Generates Smartnode rewards trees from a beacon node and an execution client"

/-- The name of an option's value, as it follows the option. -/
def Spec.placeholder (spec : Spec) : String := if spec.kind = .flag then "" else s!" <{spec.valueName}>"

/-- An option with the name of its value. -/
def Spec.usage (spec : Spec) : String := s!"--{spec.name}" ++ spec.placeholder

/-- How the command is used. -/
def usageText : String :=
  " ".intercalate (["Usage: treegen [OPTIONS]"] ++ (specs.filter (·.required)).map Spec.usage)

/-- What stands before each line of an explanation. -/
def margin : String := "          "

/-- An option's letter and name in bold letters, and below them its explanation. -/
def helpEntry (letter : Option Char) (name value explanation : String) : String :=
  let front := match letter with
    | some c => "  " ++ Terminal.bold s!"-{c}" ++ ", "
    | none => "      "
  front ++ Terminal.bold s!"--{name}" ++ value ++ "\n" ++ margin ++
    explanation.replace "\n" ("\n" ++ margin)

/-- The explanation of an option, with what the environment and the default say. -/
def Spec.explanation (spec : Spec) (environment : String → Option String) : String :=
  spec.help ++
    (if spec.fromEnvironment then
      " [env: " ++ spec.valueName ++ "=" ++ (environment spec.valueName).getD "" ++ "]" else "") ++
    match spec.default with
    | some text => s!" [default: {text}]"
    | none => ""

/-- The whole help, for a terminal. -/
def helpForTerminal (environment : String → Option String) : String :=
  let entries := specs.map fun spec =>
    helpEntry spec.letter spec.name spec.placeholder (spec.explanation environment)
  let all := entries ++
    [helpEntry (some 'h') "help" "" "Print help", helpEntry (some 'V') "version" "" "Print version"]
  "\n".intercalate ([aboutText, "", usageText, "", "Options:"] ++ all)

/-- The whole help.  What the environment says is printed as it stands, without any control
sequences in it. -/
def helpText (environment : String → Option String) : String :=
  Terminal.withoutControls (helpForTerminal environment)

end PoolRewards.Options
