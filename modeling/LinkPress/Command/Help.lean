import LinkPress.Command.Arguments

set_option autoImplicit false

/- What the command line says about itself. -/
namespace LinkPress.Command

def programName : String := "shortlink"

def versionText : String := programName ++ " 0.1.0\n"

def pad (width : Nat) (text : String) : String :=
  text ++ String.ofList (List.replicate (width - text.length) ' ')

def columns (heading : String) (rows : List (String × String)) : String :=
  let width := (rows.map fun row => row.1.length).foldl max 0
  "\n" ++ heading ++ ":\n" ++
    String.join (rows.map fun (name, meaning) => "  " ++ pad width name ++ "  " ++ meaning ++ "\n")

def helpRow : String × String := ("-h, --help", "Print help")
def jsonRow : String × String := ("    --json", "Emit JSON instead of text")

def actionRows : List (String × String) := [
  ("build", "Build the site, expanding shortcut links"),
  ("check", "Compile every page without writing output and report diagnostics"),
  ("resolve", "Resolve a single shortcut target such as \x60@github:kowainik(relude)\x60"),
  ("list", "List the available shortcut names"),
  ("help", "Print this message or the help of the given subcommand(s)")]

def meaningOf (action : String) : String :=
  ((actionRows.find? fun row => row.1 == action).map Prod.snd).getD ""

def actionHelp (action usage : String) (sections : List String) : String :=
  meaningOf action ++ "\n\nUsage: " ++ programName ++ " " ++ action ++ usage ++ "\n" ++
    String.join sections

def options (rows : List (String × String)) : String := columns "Options" (rows ++ [helpRow])

def programHelp (environment : Option String) : String :=
  "CLI for building markdown sites with shortcut links\n\nUsage: " ++ programName ++
    " [OPTIONS] <COMMAND>\n" ++ columns "Commands" actionRows ++
    columns "Options" [
      ("    --config <CONFIG>", "Path to configuration file [env: SHORTLINK_CONFIG=" ++
        environment.getD "" ++ "] [default: " ++ defaultConfig ++ "]"),
      ("-v, --verbose", "Enable verbose logging"), helpRow, ("-V, --version", "Print version")]

def helpText (environment : Option String) : Option String → String
  | some "build" => actionHelp "build" "" [options []]
  | some "check" => actionHelp "check" " [OPTIONS]" [options [jsonRow]]
  | some "list" => actionHelp "list" " [OPTIONS]" [options [jsonRow]]
  | some "resolve" =>
      actionHelp "resolve" " [OPTIONS] <TARGET>" [
        columns "Arguments" [("<TARGET>", "Link target, starting with '@'")],
        options [("    --text <TEXT>",
          "Link text, used when the target has no \x60(text)\x60 part")]]
  | some "help" =>
      actionHelp "help" " [COMMAND]..." [
        columns "Arguments" [("[COMMAND]...", "Print help for the subcommand(s)")]]
  | _ => programHelp environment

end LinkPress.Command
