import LinkPress.Files.Path

set_option autoImplicit false

/- Files and folders in memory. The entries of a folder stand in the order of their names. -/
namespace LinkPress.Files

inductive Entry where
  | file (name : String) (content : ByteArray)
  | folder (name : String) (entries : List Entry)

namespace Entry

def name : Entry → String
  | .file name _ => name
  | .folder name _ => name

def isFolder : Entry → Bool
  | .file _ _ => false
  | .folder _ _ => true

end Entry

def IsName (name : String) : Prop := name ≠ "" ∧ name ≠ "." ∧ name ≠ ".." ∧ '/' ∉ name.toList

instance (name : String) : Decidable (IsName name) := inferInstanceAs (Decidable (_ ∧ _))

-- The entries of every folder have proper names and are sorted by them.
mutual
def Entry.Ordered : Entry → Prop
  | .file name _ => IsName name
  | .folder name entries => IsName name ∧ Ordered entries

def Ordered : List Entry → Prop
  | [] => True
  | entry :: rest => entry.Ordered ∧ (∀ other ∈ rest, entry.name < other.name) ∧ Ordered rest
end

mutual
def Entry.decideOrdered : (entry : Entry) → Decidable entry.Ordered
  | .file name _ => inferInstanceAs (Decidable (IsName name))
  | .folder name entries =>
      have := decideOrdered entries
      inferInstanceAs (Decidable (IsName name ∧ Ordered entries))

def decideOrdered : (entries : List Entry) → Decidable (Ordered entries)
  | [] => inferInstanceAs (Decidable True)
  | entry :: rest =>
      have := entry.decideOrdered
      have := decideOrdered rest
      inferInstanceAs (Decidable (entry.Ordered ∧ (∀ other ∈ rest, entry.name < other.name) ∧ Ordered rest))
end

instance (entries : List Entry) : Decidable (Ordered entries) := decideOrdered entries

def child? (entries : List Entry) (name : String) : Option Entry :=
  entries.find? fun entry => entry.name == name

def put (entries : List Entry) (entry : Entry) : List Entry :=
  match entries with
  | [] => [entry]
  | first :: rest =>
      if first.name = entry.name then entry :: rest
      else if entry.name < first.name then entry :: first :: rest
      else first :: put rest entry

-- In these two, names lead from the outermost folder inwards.
def entryAt? (entries : List Entry) : List String → Option Entry
  | [] => some (.folder "" entries)
  | name :: rest =>
      match child? entries name, rest with
      | some entry, [] => some entry
      | some (.folder _ inner), rest => entryAt? inner rest
      | _, _ => none

def putAt (entries : List Entry) (entry : Entry) : List String → List Entry
  | [] => put entries entry
  | name :: rest =>
      match child? entries name with
      | some (.folder _ inner) => put entries (.folder name (putAt inner entry rest))
      | _ => entries

mutual
def Entry.files (folder : String) : Entry → List (String × ByteArray)
  | .file name content => [(folder ++ name, content)]
  | .folder name entries => filesOf (folder ++ name ++ "/") entries

def filesOf (folder : String) : List Entry → List (String × ByteArray)
  | [] => []
  | entry :: rest => entry.files folder ++ filesOf folder rest
end

theorem mem_put (entries : List Entry) (entry other : Entry) (member : other ∈ put entries entry) :
    other = entry ∨ other ∈ entries := by
  induction entries with
  | nil => exact .inl (List.mem_singleton.mp member)
  | cons first rest ih =>
      rw [put] at member
      by_cases same : first.name = entry.name
      · rw [if_pos same] at member
        exact (List.mem_cons.mp member).imp id (List.mem_cons_of_mem first)
      · rw [if_neg same] at member
        by_cases before : entry.name < first.name
        · rw [if_pos before] at member
          exact List.mem_cons.mp member
        · rw [if_neg before] at member
          rcases List.mem_cons.mp member with rfl | later
          · exact .inr List.mem_cons_self
          · exact (ih later).imp id (List.mem_cons_of_mem first)

theorem put_ordered (entries : List Entry) (entry : Entry) (ordered : Ordered entries) (sound : entry.Ordered) :
    Ordered (put entries entry) := by
  induction entries with
  | nil => exact ⟨sound, fun other member => absurd member List.not_mem_nil, trivial⟩
  | cons first rest ih =>
      obtain ⟨own, above, others⟩ := ordered
      rw [put]
      by_cases same : first.name = entry.name
      · rw [if_pos same]
        exact ⟨sound, fun other member => same ▸ above other member, others⟩
      · rw [if_neg same]
        by_cases before : entry.name < first.name
        · rw [if_pos before]
          refine ⟨sound, ?_, own, above, others⟩
          rw [List.forall_mem_cons]
          exact ⟨before, fun other member => String.lt_trans before (above other member)⟩
        · rw [if_neg before]
          refine ⟨own, ?_, ih others⟩
          intro other member
          rcases mem_put rest entry other member with rfl | known
          · exact Std.lt_of_le_of_ne (String.not_lt.mp before) same
          · exact above other known

theorem ordered_member (entries : List Entry) (ordered : Ordered entries) :
    ∀ entry ∈ entries, entry.Ordered := by
  induction entries with
  | nil => exact fun entry member => absurd member List.not_mem_nil
  | cons first rest ih =>
      rw [List.forall_mem_cons]
      exact ⟨ordered.1, ih ordered.2.2⟩

theorem child_some_iff (entries : List Entry) (ordered : Ordered entries) (name : String) (entry : Entry) :
    child? entries name = some entry ↔ entry ∈ entries ∧ entry.name = name := by
  constructor
  · intro found
    have named := List.find?_some found
    exact ⟨List.mem_of_find?_eq_some found, by simpa using named⟩
  · rintro ⟨member, rfl⟩
    induction entries with
    | nil => exact absurd member List.not_mem_nil
    | cons first rest ih =>
        rcases List.mem_cons.mp member with rfl | later
        · simp [child?]
        · have smaller := ordered.2.1 entry later
          have different : (first.name == entry.name) = false := by
            rw [beq_eq_false_iff_ne]
            intro same
            rw [same] at smaller
            exact String.lt_irrefl _ smaller
          rw [child?, List.find?_cons, different]
          exact ih ordered.2.2 later

theorem put_at_ordered (entries : List Entry) (entry : Entry) (folder : List String) (ordered : Ordered entries)
    (sound : entry.Ordered) : Ordered (putAt entries entry folder) := by
  induction folder generalizing entries with
  | nil => exact put_ordered entries entry ordered sound
  | cons name more ih =>
      rw [putAt]
      split
      · next own inner found =>
          obtain ⟨member, rfl⟩ := (child_some_iff entries ordered name _).mp found
          obtain ⟨named, within⟩ := ordered_member entries ordered _ member
          exact put_ordered entries _ ordered ⟨named, ih inner within⟩
      · exact ordered

end LinkPress.Files
