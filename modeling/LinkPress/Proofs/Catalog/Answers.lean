import LinkPress.Proofs.Catalog.Entries

set_option autoImplicit false

/- What the built-in catalog answers: a web address, or a message that says what is wrong, and never
   an empty warning. -/
namespace LinkPress.Catalog

open LinkPress.Shortcut LinkPress.Url

def Conclusive : Resolution → Prop
  | .success url => ∃ address : Address, url = address.render
  | .warning messages url => messages ≠ [] ∧ ∃ address : Address, url = address.render
  | .failure _ => True

theorem Serves.conclusive {service : Service} {text : List Char} {answer : Resolution}
    (serves : Serves service text answer) : Conclusive answer := by
  cases serves with
  | led address _ _ _ => exact ⟨address, rfl⟩
  | refused message => trivial

theorem entry_conclusive (entry : Entry) (member : entry ∈ entries) (option : Option String) (text : String) :
    Conclusive (entry.resolver option text) := by
  obtain ⟨service, known⟩ := entry_known entry member
  rcases known.replies option text with serves | ⟨message, url, warned, serves⟩
  · exact serves.conclusive
  · rw [warned]
    exact ⟨List.cons_ne_nil _ _, serves.conclusive⟩

theorem resolve_conclusive (name : String) (option : Option String) (text : String) :
    Conclusive (table.resolve name option text) := by
  rw [Table.resolve, Table.get?]
  cases found : table.entries.find? fun entry => entry.names.contains name with
  | none => trivial
  | some entry => exact entry_conclusive entry (List.mem_of_find?_eq_some found) option text

end LinkPress.Catalog
