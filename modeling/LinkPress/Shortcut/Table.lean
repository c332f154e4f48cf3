set_option autoImplicit false

/- Shortcut names and what they answer. A table is searched from the front, so an earlier entry
   hides a later one of the same name. -/
namespace LinkPress.Shortcut

inductive Resolution where
  | success (url : String)
  /-- An address that is usable but not as it was asked for. -/
  | warning (messages : List String) (url : String)
  | failure (message : String)
deriving DecidableEq, Repr

namespace Resolution

/-- Warnings count as failures, and their address is dropped. -/
def strict : Resolution → Except (List String) String
  | .success url => .ok url
  | .warning messages _ => .error messages
  | .failure message => .error [message]

def isSuccess : Resolution → Bool
  | .success _ => true
  | _ => false

end Resolution

abbrev Resolver := Option String → String → Resolution

structure Entry where
  names : List String
  resolver : Resolver

structure Table where
  entries : List Entry

namespace Table

def empty : Table := ⟨[]⟩

def insert (table : Table) (entry : Entry) : Table := ⟨table.entries ++ [entry]⟩

def extend (table more : Table) : Table := ⟨table.entries ++ more.entries⟩

def get? (table : Table) (name : String) : Option Resolver :=
  (table.entries.find? fun entry => entry.names.contains name).map Entry.resolver

def unknownName (name : String) : String := "unknown shortcut name '" ++ name ++ "'"

def resolve (table : Table) (name : String) (option : Option String) (text : String) :
    Resolution :=
  match table.get? name with
  | some resolver => resolver option text
  | none => .failure (unknownName name)

def names (table : Table) : List (List String) := table.entries.map Entry.names
def size (table : Table) : Nat := table.entries.length

end Table
end LinkPress.Shortcut
