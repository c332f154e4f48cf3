import LinkPress.Catalog.Entries
import LinkPress.Document.Walk
import LinkPress.Target

set_option autoImplicit false

/- Expanding the shortcut links of a document. Every link is looked at, and all that went wrong is
   reported together. -/
namespace LinkPress.Document

open LinkPress.Shortcut

inductive LinkFault where
  | malformed (fault : Target.Fault)
  | noLabel
  | labelNotText
  /-- What the table answered: an unknown name, a failure or one message of a warning. -/
  | unresolved (message : String)
deriving DecidableEq, Repr

def LinkFault.message : LinkFault → String
  | .malformed fault => fault.message
  | .noLabel => "Empty shortcut link title arguments"
  | .labelNotText => "Shortcut title is not a single string element"
  | .unresolved message => message

def settle {α : Type} (faults : List LinkFault) (value : α) : Except (List String) α :=
  if faults.isEmpty then .ok value else .error (faults.map LinkFault.message)

inductive LinkOutcome where
  | unchanged
  | expanded (url : String)
  | failed (faults : List LinkFault)
deriving DecidableEq, Repr

def labelText : List Node → Except LinkFault String
  | [] => .error .noLabel
  | [node] =>
      match node.plainText? with
      | some text => .ok text
      | none => .error .labelNotText
  | _ => .error .labelNotText

def outcomeOf : Resolution → LinkOutcome
  | .success url => .expanded url
  | .warning messages _ => .failed (messages.map .unresolved)
  | .failure message => .failed [.unresolved message]

def expandLink (table : Table) (url : String) (label : List Node) : LinkOutcome :=
  match Target.parse url with
  | .ordinary => .unchanged
  | .malformed fault => .failed [.malformed fault]
  | .shortcut target =>
      match target.text.elim (labelText label) Except.ok with
      | .error fault => .failed [fault]
      | .ok text => outcomeOf (table.resolve target.name target.option text)

def expandVisit (table : Table) : LinkVisit (List LinkFault) := fun faults link label =>
  match expandLink table link.url label with
  | .unchanged => (link.url, faults)
  | .expanded url => (url, faults)
  | .failed more => (link.url, faults ++ more)

def expand (table : Table) (nodes : List Node) : Except (List String) (List Node) :=
  let (nodes, faults) := walkLinks (expandVisit table) [] nodes
  settle faults nodes

def expandAll (nodes : List Node) : Except (List String) (List Node) := expand Catalog.table nodes

end LinkPress.Document
