import LinkPress.Proofs.Files.Naming

set_option autoImplicit false

/- What stands at the places of a tree and where paths lead. An entry that is put somewhere changes
   what stands at its own place and nothing else. -/
namespace LinkPress.Files

-- What stands at a place. Names lead there from the outermost folder.
inductive Kind where
  | missing
  | folder
  | file (content : ByteArray)

def Entry.kind : Entry → Kind
  | .file _ content => .file content
  | .folder _ _ => .folder

def kindAt (entries : List Entry) (names : List String) : Kind := (entryAt? entries names).elim .missing Entry.kind

@[simp] theorem kind_at_nil (entries : List Entry) : kindAt entries [] = .folder := rfl

theorem kind_at_empty (names : List String) (some : names ≠ []) : kindAt [] names = .missing := by
  cases names with
  | nil => exact absurd rfl some
  | cons name more => rfl

theorem kind_at_cons (entries : List Entry) (name : String) (more : List String) :
    kindAt entries (name :: more) =
      match child? entries name with
      | none => .missing
      | some (.file _ content) => if more = [] then .file content else .missing
      | some (.folder _ inner) => kindAt inner more := by
  cases found : child? entries name with
  | none => simp [kindAt, entryAt?, found]
  | some child =>
      cases more with
      | nil => cases child <;> simp [kindAt, entryAt?, found, Entry.kind]
      | cons second rest =>
          have step := entryAt?.eq_def entries (name :: second :: rest)
          cases child <;> simp only [found] at step <;> simp [kindAt, step]

-- What stands anywhere stands in a folder.
theorem kind_at_around (entries : List Entry) (outer : List String) (name : String)
    (stands : kindAt entries (outer ++ [name]) ≠ .missing) : kindAt entries outer = .folder := by
  induction outer generalizing entries with
  | nil => rfl
  | cons first rest ih =>
      rw [List.cons_append, kind_at_cons] at stands
      rw [kind_at_cons]
      cases found : child? entries first with
      | none => simp [found] at stands
      | some child =>
          cases child with
          | file own content => simp [found] at stands
          | folder own inner =>
              simp only [found] at stands ⊢
              exact ih inner stands

theorem child_cons (first : Entry) (rest : List Entry) (name : String) :
    child? (first :: rest) name = if first.name = name then some first else child? rest name := by
  by_cases same : first.name = name
  · simp [child?, same]
  · simp [child?, same, beq_eq_false_iff_ne.mpr same]

theorem child_put (entries : List Entry) (entry : Entry) (name : String) :
    child? (put entries entry) name = if entry.name = name then some entry else child? entries name := by
  induction entries with
  | nil => rw [put, child_cons]
  | cons first rest ih =>
      rw [put]
      by_cases same : first.name = entry.name
      · rw [if_pos same, child_cons, child_cons, same]
        by_cases here : entry.name = name
        · rw [if_pos here, if_pos here]
        · rw [if_neg here, if_neg here, if_neg here]
      · rw [if_neg same]
        by_cases before : entry.name < first.name
        · rw [if_pos before, child_cons]
        · rw [if_neg before, child_cons, ih, child_cons]
          by_cases here : first.name = name
          · have other : entry.name ≠ name := fun equal => same (here.trans equal.symm)
            rw [if_pos here, if_neg other, if_pos here]
          · rw [if_neg here, if_neg here]

-- Nothing stands below the entry: it is a file or an empty folder.
def Entry.Flat : Entry → Prop
  | .file _ _ => True
  | .folder _ inner => inner = []

theorem put_kind (entries : List Entry) (entry : Entry) (flat : entry.Flat) (path : List String)
    (free : kindAt entries [entry.name] ≠ .folder) :
    kindAt (put entries entry) path = if path = [entry.name] then entry.kind else kindAt entries path := by
  cases path with
  | nil => simp
  | cons name more =>
      rw [kind_at_cons, child_put]
      by_cases here : entry.name = name
      · subst here
        rw [if_pos rfl]
        by_cases last : more = []
        · subst last
          cases entry <;> simp [Entry.kind, Entry.name]
        · have below : kindAt entries (entry.name :: more) = .missing := by
            rw [kind_at_cons] at free ⊢
            cases found : child? entries entry.name with
            | none => rfl
            | some child =>
                cases child with
                | file own content => simp [last]
                | folder own inner => simp [found] at free
          cases entry with
          | file own content => simp [last, below]
          | folder own inner => 
              obtain rfl : inner = [] := flat
              simp [last, below, kind_at_empty more last]
      · have other : name :: more ≠ [entry.name] := fun same => here (List.cons.inj same).1.symm
        rw [if_neg here, if_neg other, kind_at_cons]

-- At the end of the way to the folder the entry is put in. On the way one child after the other is
-- replaced by itself with the entry inside, so places off the way do not change.
theorem put_at_kind (entries : List Entry) (entry : Entry) (flat : entry.Flat) (folder path : List String)
    (stands : kindAt entries folder = .folder) (free : kindAt entries (folder ++ [entry.name]) ≠ .folder) :
    kindAt (putAt entries entry folder) path =
      if path = folder ++ [entry.name] then entry.kind else kindAt entries path := by
  induction folder generalizing entries path with
  | nil => exact put_kind entries entry flat path free
  | cons outer more ih =>
      rw [List.cons_append, kind_at_cons] at free
      rw [kind_at_cons] at stands
      cases found : child? entries outer with
      | none => simp [found] at stands
      | some child =>
          cases child with
          | file own content =>
              simp only [found] at stands
              split at stands <;> cases stands
          | folder own inner =>
              simp only [found] at stands free
              rw [putAt]
              simp only [found]
              cases path with
              | nil => simp
              | cons name rest =>
                  rw [kind_at_cons, child_put, Entry.name]
                  by_cases here : outer = name
                  · subst here
                    have deeper := ih inner rest stands free
                    rw [if_pos rfl]
                    simp [deeper, kind_at_cons, found]
                  · have other : name :: rest ≠ outer :: more ++ [entry.name] :=
                      fun same => here (List.cons.inj same).1.symm
                    rw [if_neg here, if_neg other, kind_at_cons]

def Kind.content? : Kind → Option ByteArray
  | .file content => some content
  | _ => none

namespace Tree

def kind (tree : Tree) (place : Place) : Kind := kindAt tree.entries place.reverse

def fileAt? (tree : Tree) (place : Place) : Option ByteArray := (tree.kind place).content?

def Leads (tree : Tree) (path : String) (place : Place) : Prop :=
  tree.follow (tree.startOf path.toList) (Path.steps path.toList) = .ok place

theorem kind_folder_iff (tree : Tree) (place : Place) :
    tree.kind place = .folder ↔ ∃ own inner, tree.at? place = some (.folder own inner) := by
  rw [kind, kindAt, at?]
  cases entryAt? tree.entries place.reverse with
  | none => simp
  | some entry => cases entry <;> simp [Entry.kind]

theorem kind_around (tree : Tree) (name : String) (outer : Place) (stands : tree.kind (name :: outer) ≠ .missing) :
    tree.kind outer = .folder := by
  rw [kind, List.reverse_cons] at stands
  exact kind_at_around tree.entries outer.reverse name stands

theorem kind_missing_iff (tree : Tree) (place : Place) : tree.kind place = .missing ↔ tree.at? place = none := by
  rw [kind, kindAt, at?]
  cases entryAt? tree.entries place.reverse with
  | none => simp
  | some entry => cases entry <;> simp [Entry.kind]

-- Where one step leads from a folder.
def stepFrom (place : Place) (step : List Char) : Except Fault Place :=
  if step = ['.'] then .ok place
  else if step = ['.', '.'] then .ok place.tail
  else (checkName step).map fun _ => String.ofList step :: place

theorem follow_cons (tree : Tree) (place : Place) (step : List Char) (rest : List (List Char)) :
    tree.follow place (step :: rest) =
      match tree.kind place with
      | .folder => stepFrom place step >>= fun next => tree.follow next rest
      | .file _ => .error .notFolder
      | .missing => .error .notFound := by
  rw [follow.eq_def, kind, kindAt, ← at?]
  dsimp only
  cases tree.at? place with
  | none => rfl
  | some entry =>
      cases entry with
      | file own content => rfl
      | folder own inner =>
          simp only [Option.elim_some, Entry.kind, stepFrom]
          by_cases stay : step = ['.']
          · rw [if_pos stay, if_pos stay]
            rfl
          · rw [if_neg stay, if_neg stay]
            by_cases up : step = ['.', '.']
            · rw [if_pos up, if_pos up]
              rfl
            · rw [if_neg up, if_neg up]
              cases checkName step <;> rfl

theorem follow_cons_iff (tree : Tree) (start place : Place) (step : List Char) (rest : List (List Char)) :
    tree.follow start (step :: rest) = .ok place ↔
      tree.kind start = .folder ∧ ∃ next, stepFrom start step = .ok next ∧ tree.follow next rest = .ok place := by
  rw [follow_cons]
  cases tree.kind start with
  | missing => simp
  | file content => simp
  | folder => cases stepFrom start step <;> simp [bind, Except.bind]

theorem follow_append_iff (tree : Tree) (steps more : List (List Char)) (start place : Place) :
    tree.follow start (steps ++ more) = .ok place ↔
      ∃ middle, tree.follow start steps = .ok middle ∧ tree.follow middle more = .ok place := by
  induction steps generalizing start with
  | nil => simp [follow]
  | cons step rest ih =>
      rw [List.cons_append, follow_cons_iff]
      simp only [follow_cons_iff, ih]
      constructor
      · rintro ⟨folder, next, stepped, middle, first, second⟩
        exact ⟨middle, ⟨folder, next, stepped, first⟩, second⟩
      · rintro ⟨middle, ⟨folder, next, stepped, first⟩, second⟩
        exact ⟨folder, next, stepped, middle, first, second⟩

theorem follow_append (tree : Tree) (start middle : Place) (steps more : List (List Char))
    (lead : tree.follow start steps = .ok middle) : tree.follow start (steps ++ more) = tree.follow middle more := by
  induction steps generalizing start with
  | nil =>
      obtain rfl : start = middle := Except.ok.inj lead
      rfl
  | cons step rest ih =>
      obtain ⟨folder, next, stepped, onward⟩ := (follow_cons_iff tree start middle step rest).mp lead
      rw [List.cons_append, follow_cons, folder, stepped]
      exact ih next onward

-- A path is followed through folders only, so it leads to the same place once there are more of them.
theorem follow_kept (before after : Tree) (kept : ∀ place, before.kind place = .folder → after.kind place = .folder)
    (steps : List (List Char)) (start place : Place) (lead : before.follow start steps = .ok place) :
    after.follow start steps = .ok place := by
  induction steps generalizing start with
  | nil => exact lead
  | cons step rest ih =>
      obtain ⟨folder, next, stepped, onward⟩ := (follow_cons_iff before start place step rest).mp lead
      exact (follow_cons_iff after start place step rest).mpr ⟨kept start folder, next, stepped, ih next onward⟩

def IsStep (step : List Char) : Prop := step ≠ ['.'] ∧ step ≠ ['.', '.']

theorem name_step (name : String) (named : IsName name) : IsStep name.toList :=
  ⟨fun same => named.2.1 (String.toList_inj.mp same), fun same => named.2.2.1 (String.toList_inj.mp same)⟩

theorem step_from_name (place : Place) (name : String) (named : IsName name) :
    stepFrom place name.toList = (checkName name.toList).map fun _ => name :: place := by
  have plain := name_step name named
  rw [stepFrom, if_neg plain.1, if_neg plain.2, String.ofList_toList]

theorem step_named (place : Place) (step : List Char) (next : Place) (plain : IsStep step)
    (stepped : stepFrom place step = .ok next) : next = String.ofList step :: place := by
  rw [stepFrom, if_neg plain.1, if_neg plain.2] at stepped
  cases fits : checkName step with
  | error fault => simp [fits, Except.map] at stepped
  | ok done =>
      rw [fits] at stepped
      exact (Except.ok.inj stepped).symm

theorem follow_named (tree : Tree) (steps : List (List Char)) (start place : Place)
    (plain : ∀ step ∈ steps, IsStep step) (lead : tree.follow start steps = .ok place) :
    place = (steps.map String.ofList).reverse ++ start := by
  induction steps generalizing start with
  | nil => exact (Except.ok.inj lead).symm
  | cons step rest ih =>
      obtain ⟨-, next, stepped, onward⟩ := (follow_cons_iff tree start place step rest).mp lead
      obtain rfl := step_named start step next (plain step List.mem_cons_self) stepped
      have others := fun other member => plain other (List.mem_cons_of_mem step member)
      rw [ih (String.ofList step :: start) others onward]
      simp

theorem name_some_iff (step : List Char) (name : Name) : name? step = some name ↔ String.ofList step = name.val := by
  rw [name?]
  split
  · next named => rw [Option.some.injEq, Subtype.ext_iff]
  · next unnamed => exact iff_of_false (Option.some_ne_none _).symm fun same => unnamed (same ▸ name.property)

theorem leads_once (tree : Tree) (path : String) (a b : Place) (first : tree.Leads path a)
    (second : tree.Leads path b) : a = b := Except.ok.inj (first.symm.trans second)

-- A path below another one is followed from where that one leads.
theorem leads_join_iff (tree : Tree) (base : String) (below : List String) (segments : Segments below) (place : Place) :
    tree.Leads (String.ofList (Path.join base.toList (pathOf below).toList)) place ↔
      ∃ start, tree.Leads base start ∧ tree.follow start (below.map String.toList) = .ok place := by
  have relative := path_of_relative below segments
  rw [Leads, String.toList_ofList, Path.start_join _ _ relative, Path.steps_join _ _ relative,
    steps_path_of below segments, follow_append_iff]
  rfl

end Tree
end LinkPress.Files
