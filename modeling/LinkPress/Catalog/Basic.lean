import LinkPress.Shortcut.Table
import LinkPress.Text.Blank
import LinkPress.Url.Address

set_option autoImplicit false

/- How the entries of the built-in catalog treat their argument and their option. -/
namespace LinkPress.Catalog

open LinkPress.Shortcut LinkPress.Url

def missingArgument (name : String) : String :=
  "shortcut '" ++ name ++ "' needs a non-empty argument"

def unsupportedOption (name option : String) : String :=
  "shortcut '" ++ name ++ "' does not support option '" ++ option ++ "'"

/-- An entry without options: one that is written turns the answer into a warning. -/
def plain (name : String) (resolve : String → Resolution) : Resolver := fun option text =>
  match Text.argument? text with
  | none => .failure (missingArgument name)
  | some argument =>
      match option, resolve argument with
      | some option, .success url => .warning [unsupportedOption name option] url
      | _, answer => answer

/-- An entry with options: a blank one is the same as none. -/
def tagged (name : String) (resolve : Option String → String → Resolution) : Resolver :=
  fun option text =>
    match Text.argument? text with
    | none => .failure (missingArgument name)
    | some argument => resolve (option.bind Text.argument?) argument

def page (host : String) (base : List String) (segments : List (List Char)) : Resolution :=
  .success ((Address.under host base).extend segments).render

def search (host : String) (base : List String) (key : String) (text : String) : Resolution :=
  .success ((Address.under host base).withPair key.toList text.toList).render

def isDigits (text : List Char) : Bool := text.all Char.isDigit

def withoutAt (text : List Char) : List Char := text.dropWhile (· == '@')

end LinkPress.Catalog
