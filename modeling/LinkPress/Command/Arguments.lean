set_option autoImplicit false

/- Reading the arguments of the command line. -/
namespace LinkPress.Command

inductive Action where
  | build
  | check (json : Bool)
  | resolve (target : String) (text : Option String)
  | list (json : Bool)
deriving DecidableEq, Repr

inductive Request where
  | run (config : Option String) (action : Action)
  | help (topic : Option String)
  | version
  | misuse
deriving DecidableEq, Repr

def splitValue (argument : String) : String × Option String :=
  let chars := argument.toList
  match chars.dropWhile (· != '=') with
  | [] => (argument, none)
  | _ :: value => (String.ofList (chars.takeWhile (· != '=')), some (String.ofList value))

def isOption (argument : String) : Bool :=
  match argument.toList with
  | '-' :: _ :: _ => true
  | _ => false

def optionValue? (attached : Option String) (rest : List String) : Option (String × List String) :=
  match attached, rest with
  | some value, rest => some (value, rest)
  | none, value :: rest => if isOption value then none else some (value, rest)
  | none, [] => none

def isHelp (argument : String) : Bool := argument == "--help" || argument == "-h"

def plainAction (config : Option String) (topic : String) (action : Action) : List String → Request
  | [] => .run config action
  | ["--"] => .run config action
  | argument :: _ => if isHelp argument then .help (some topic) else .misuse

def jsonAction (config : Option String) (topic : String) (action : Bool → Action) :
    List String → Request
  | "--json" :: rest =>
      match rest with
      | "--json" :: _ => .misuse
      | rest => plainAction config topic (action true) rest
  | rest => plainAction config topic (action false) rest

/-- The target and the text to resolve. `onlyTargets` holds behind the end of the options. -/
def resolveAction (config : Option String) (onlyTargets : Bool) (target text : Option String) :
    Nat → List String → Request
  | 0, _ => .misuse
  | _, [] =>
      match target with
      | some target => .run config (.resolve target text)
      | none => .misuse
  | fuel + 1, argument :: rest =>
      let asTarget := match target with
        | some _ => .misuse
        | none => resolveAction config onlyTargets (some argument) text fuel rest
      if onlyTargets || !isOption argument then asTarget
      else if argument = "--" then resolveAction config true target text fuel rest
      else if isHelp argument then .help (some "resolve")
      else
        match splitValue argument, text with
        | ("--text", value), none =>
            match optionValue? value rest with
            | some (value, rest) => resolveAction config false target (some value) fuel rest
            | none => .misuse
        | _, _ => .misuse

def actionNames : List String := ["build", "check", "resolve", "list", "help"]

def helpAction : List String → Request
  | [] => .help none
  | [topic] => if actionNames.contains topic then .help (some topic) else .misuse
  | _ => .misuse

def actionOf (config : Option String) (name : String) (rest : List String) : Request :=
  match name with
  | "build" => plainAction config name .build rest
  | "check" => jsonAction config name .check rest
  | "list" => jsonAction config name .list rest
  | "resolve" => resolveAction config false none none (rest.length + 1) rest
  | "help" => helpAction rest
  | _ => .misuse

def letters (verbose : Bool) : List Char → Except Request Bool
  | [] => .ok verbose
  | 'v' :: rest => if verbose then .error .misuse else letters true rest
  | 'h' :: _ => .error (.help none)
  | 'V' :: _ => .error .version
  | _ => .error .misuse

def requestFrom (config : Option String) (verbose : Bool) : Nat → List String → Request
  | 0, _ => .misuse
  | _, [] => .misuse
  | fuel + 1, argument :: rest =>
      if !isOption argument then actionOf config argument rest
      else
        match splitValue argument with
        | ("--config", value) =>
            match config, optionValue? value rest with
            | none, some (path, rest) =>
                if path = "" then .misuse else requestFrom (some path) verbose fuel rest
            | _, _ => .misuse
        | ("--verbose", none) => if verbose then .misuse else requestFrom config true fuel rest
        | ("--help", none) => .help none
        | ("--version", none) => .version
        | _ =>
            match argument.toList with
            | '-' :: '-' :: _ => .misuse
            | '-' :: word =>
                match letters verbose word with
                | .ok verbose => requestFrom config verbose fuel rest
                | .error request => request
            | _ => .misuse

def defaultConfig : String := "shortlink.yml"

def request (arguments : List String) (environment : Option String) : Request :=
  match requestFrom none false (arguments.length + 1) arguments with
  | .run none action => if environment = some "" then .misuse else .run environment action
  | request => request

end LinkPress.Command
