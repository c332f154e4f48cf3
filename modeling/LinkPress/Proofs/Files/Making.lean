import LinkPress.Proofs.Files.Writing

set_option autoImplicit false

/- Where files and folders can be made. With folders on the way and no folder at its end a file is
   written, and with no file on the way the folders are made; only a name or a path that is too long, or
   that holds the character that ends one, is refused. -/
namespace LinkPress.Files

-- The system takes no such name or path, whatever stands in the tree.
def Fault.Unnameable (fault : Fault) : Prop := fault = .tooLong ∨ fault = .noPath

variable {α β : Type}

-- The result holds, unless it is withheld for a name or a path that cannot be.
inductive Barring (result : Except Fault α) (holds : α → Prop) : Prop where
  | ok (value : α) (same : result = .ok value) (held : holds value)
  | error (fault : Fault) (same : result = .error fault) (cause : fault.Unnameable)

theorem Barring.bind {result : Except Fault α} {next : α → Except Fault β} {holds : α → Prop} {later : β → Prop}
    (first : Barring result holds) (onward : ∀ value, holds value → Barring (next value) later) :
    Barring (result >>= next) later := by
  cases first with
  | error fault same cause => exact .error fault (by rw [same]; rfl) cause
  | ok value same held =>
      rw [same]
      exact onward value held

theorem Barring.weaken {result : Except Fault α} {holds later : α → Prop} (first : Barring result holds)
    (weaker : ∀ value, holds value → later value) : Barring result later := by
  cases first with
  | error fault same cause => exact .error fault same cause
  | ok value same held => exact .ok value same (weaker value held)

theorem Fault.Unnameable.found {fault : Fault} (cause : fault.Unnameable) :
    (.error fault : Except Fault α) ≠ .error .notFound := by
  rcases cause with rfl | rfl <;> exact nofun

theorem Barring.found {result : Except Fault α} {holds : α → Prop} (first : Barring result holds) :
    result ≠ .error .notFound := by
  cases first with
  | ok value same held => rw [same]; exact nofun
  | error fault same cause => rw [same]; exact cause.found

namespace Tree

theorem check_name_barring (name : List Char) : Barring (checkName name) fun _ => True := by
  rw [checkName]
  split
  · exact .error .tooLong rfl (.inl rfl)
  · exact .ok () rfl trivial

theorem check_path_barring (path : List Char) : Barring (checkPath path) fun _ => True := by
  rw [checkPath]
  split
  · exact .error .noPath rfl (.inr rfl)
  · split
    · exact .error .tooLong rfl (.inl rfl)
    · exact .ok () rfl trivial

theorem kind_outer (tree : Tree) (inner start : List String) (stands : tree.kind (inner ++ start) = .folder) :
    tree.kind start = .folder := by
  induction inner with
  | nil => exact stands
  | cons name more ih => exact ih (tree.kind_around name (more ++ start) (by rw [List.cons_append] at stands; simp [stands]))

theorem outer_folder (tree : Tree) (start outer more : List String) (some : more ≠ [])
    (stands : tree.kind ((outer ++ more).reverse ++ start) ≠ .missing) : tree.kind (outer.reverse ++ start) = .folder := by
  obtain ⟨front, last, rfl⟩ := (List.eq_nil_or_concat more).resolve_left some
  have around : tree.kind ((outer ++ front).reverse ++ start) = .folder := by
    refine tree.kind_around last _ ?_
    simpa using stands
  rw [List.reverse_append, List.append_assoc] at around
  exact tree.kind_outer front.reverse _ around

theorem step_barring (place : Place) (name : String) (named : IsName name) :
    Barring (stepFrom place name.toList) (· = name :: place) := by
  rw [step_from_name place name named]
  cases check_name_barring name.toList with
  | error fault same cause => exact .error fault (by rw [same]; rfl) cause
  | ok done same held => exact .ok _ (by rw [same]; rfl) rfl

theorem follow_folders (tree : Tree) (below start : List String) (named : ∀ name ∈ below, IsName name)
    (stands : tree.kind (below.reverse ++ start) = .folder) :
    Barring (tree.follow start (below.map String.toList)) (· = below.reverse ++ start) := by
  induction below generalizing start with
  | nil => exact .ok _ rfl rfl
  | cons name more ih =>
      rw [List.reverse_cons, List.append_assoc, List.singleton_append] at stands ⊢
      have folder : tree.kind start = .folder := by
        have inner := tree.kind_outer more.reverse (name :: start) stands
        exact tree.kind_around name start (by simp [inner])
      rw [List.map_cons, follow_cons, folder]
      refine (step_barring start name (named name List.mem_cons_self)).bind ?_
      rintro next rfl
      exact ih (name :: start) (fun other member => named other (List.mem_cons_of_mem name member)) stands

-- No file stands on the way from the place to the names below it, nor at its end.
def Clear (tree : Tree) (below start : List String) : Prop :=
  ∀ outer, outer <+: below → ∀ content, tree.kind (outer.reverse ++ start) ≠ .file content

theorem follow_clear (tree : Tree) (below start : List String) (named : ∀ name ∈ below, IsName name)
    (clear : tree.Clear below start) :
    tree.follow start (below.map String.toList) = .error .notFound ∨
      Barring (tree.follow start (below.map String.toList)) (· = below.reverse ++ start) := by
  induction below generalizing start with
  | nil => exact .inr (.ok _ rfl rfl)
  | cons name more ih =>
      rw [List.map_cons, follow_cons, List.reverse_cons, List.append_assoc, List.singleton_append]
      cases stands : tree.kind start with
      | missing => exact .inl rfl
      | file content => exact absurd stands (clear [] List.nil_prefix content)
      | folder =>
          cases step_barring start name (named name List.mem_cons_self) with
          | error fault same cause => exact .inr (.error fault (by rw [same]; rfl) cause)
          | ok place same held =>
              subst held
              rw [same]
              refine ih (name :: start) (fun other member => named other (List.mem_cons_of_mem name member)) ?_
              intro outer inside content
              have longer := clear (name :: outer) ((List.cons_prefix_cons).mpr ⟨rfl, inside⟩) content
              simpa using longer

-- A path goes through a place and on to the names.
structure Through (tree : Tree) (path : List Char) (start below : List String) : Prop where
  named : ∀ name ∈ below, IsName name
  lead : ∃ outer, Path.steps path = outer ++ below.map String.toList ∧
    tree.follow (tree.startOf path) outer = .ok start

theorem Through.follow {tree : Tree} {path : List Char} {start below : List String}
    (through : tree.Through path start below) :
    tree.follow (tree.startOf path) (Path.steps path) = tree.follow start (below.map String.toList) := by
  obtain ⟨outer, split, lead⟩ := through.lead
  rw [split, tree.follow_append _ _ _ _ lead]

section Named

variable (tree : Tree) (path : String) (start outer : List String) (name : String)
variable (through : tree.Through path.toList start (outer ++ [name]))
include through

theorem Through.front : ∀ other ∈ outer, IsName other := fun other member =>
  through.named other (List.mem_append_left _ member)

theorem Through.last : (Path.steps path.toList).getLast? = some name.toList := by
  obtain ⟨front, split, -⟩ := through.lead
  simp [split]

theorem Through.around : tree.follow (tree.startOf path.toList) (Path.steps path.toList).dropLast =
    tree.follow start (outer.map String.toList) := by
  obtain ⟨front, split, lead⟩ := through.lead
  rw [split, List.map_append, List.map_singleton, ← List.append_assoc, List.dropLast_concat,
    tree.follow_append _ _ _ _ lead]

theorem around_folder (stands : tree.kind (outer.reverse ++ start) = .folder) :
    Barring (tree.around path.toList) fun found =>
      found.1 = outer.reverse ++ start ∧ ∃ own : Name, found.2 = some own ∧ own.val = name := by
  have named := through.named name (by simp)
  have own : name? name.toList = some ⟨name, named⟩ := (name_some_iff _ _).mpr String.ofList_toList
  have followed := tree.follow_folders outer start through.front stands
  obtain ⟨entry, inner, found⟩ := (tree.kind_folder_iff _).mp stands
  rw [Tree.around]
  refine (check_path_barring path.toList).bind fun _ _ => ?_
  dsimp only
  rw [through.around]
  refine followed.bind ?_
  rintro place rfl
  simp only [found, through.last, own]
  exact (check_name_barring name.toList).bind fun _ _ => .ok _ rfl ⟨rfl, ⟨name, named⟩, rfl, rfl⟩

-- Where folders are missing on the way, nothing is found at its end.
theorem around_missing (clear : tree.Clear outer start) (missing : tree.kind (outer.reverse ++ start) = .missing) :
    ∃ fault, tree.around path.toList = .error fault ∧ (fault = .notFound ∨ fault.Unnameable) := by
  have followed := tree.follow_clear outer start through.front clear
  have absent := (tree.kind_missing_iff _).mp missing
  rw [Tree.around]
  cases check_path_barring path.toList with
  | error fault same cause => exact ⟨fault, by rw [same]; rfl, .inr cause⟩
  | ok done same held =>
      rw [same]
      dsimp only [bind, Except.bind]
      rw [through.around]
      rcases followed with gone | followed
      · exact ⟨.notFound, by rw [gone], .inl rfl⟩
      cases followed with
      | error fault same cause => exact ⟨fault, by rw [same], .inr cause⟩
      | ok place same held =>
          subst held
          refine ⟨.notFound, ?_, .inl rfl⟩
          simp only [same, absent]
          rfl

-- A file is put in the place of nothing or of another file.
theorem write_barring (content : ByteArray) (stands : tree.kind (outer.reverse ++ start) = .folder)
    (free : tree.kind (name :: (outer.reverse ++ start)) ≠ .folder) (closed : path.toList.getLast? ≠ some '/') :
    Barring (tree.write path content) fun after => tree.Leads path (name :: (outer.reverse ++ start)) ∧
      ∃ named : IsName name, after = tree.put (outer.reverse ++ start) (.file name content) named := by
  rw [write]
  cases tree.around_folder path start outer name through stands with
  | error fault same cause => exact .error fault (by rw [same]; rfl) cause
  | ok found same held =>
      obtain ⟨place, last⟩ := found
      obtain ⟨rfl, ⟨_, named⟩, rfl, rfl⟩ := held
      rw [same]
      dsimp only [bind, Except.bind]
      split
      · next own inner taken => exact absurd ((tree.kind_folder_iff _).mpr ⟨own, inner, taken⟩) free
      · rw [if_neg closed]
        exact .ok _ rfl ⟨(tree.around_named path _ _ same).1, named, rfl⟩

theorem make_folder_barring (stands : tree.kind (outer.reverse ++ start) = .folder)
    (absent : tree.kind (name :: (outer.reverse ++ start)) = .missing) :
    Barring (tree.makeFolder path) fun after =>
      ∃ sound : (Entry.folder name []).Ordered, after = tree.put (outer.reverse ++ start) (.folder name []) sound := by
  rw [makeFolder]
  refine (tree.around_folder path start outer name through stands).bind ?_
  rintro ⟨place, last⟩ ⟨rfl, ⟨_, named⟩, rfl, rfl⟩
  dsimp only
  rw [(tree.kind_missing_iff _).mp absent]
  exact .ok _ rfl ⟨⟨named, trivial⟩, rfl⟩

theorem make_folder_missing (clear : tree.Clear outer start)
    (missing : tree.kind (outer.reverse ++ start) = .missing) :
    ∃ fault, tree.makeFolder path = .error fault ∧ (fault = .notFound ∨ fault.Unnameable) := by
  obtain ⟨fault, around, cause⟩ := tree.around_missing path start outer name through clear missing
  exact ⟨fault, by rw [makeFolder, around]; rfl, cause⟩

end Named

section Standing

variable (tree : Tree) (path : String)

theorem is_folder_standing (names : List String) (lead : tree.Leads path names) (stands : tree.kind names = .folder)
    (some : path.toList ≠ []) (fits : checkPath path.toList = .ok ()) : tree.isFolder path = true := by
  obtain ⟨own, inner, found⟩ := (tree.kind_folder_iff names).mp stands
  have filled : path.toList.isEmpty = false := by simpa using some
  rw [Leads] at lead
  have standing : tree.find? path = .ok (.folder own inner) := by
    rw [find?]
    simp only [fits, filled, lead, found, bind, Except.bind, pure, Except.pure, Entry.isFolder, Bool.false_eq_true,
      if_false, Bool.not_true, Bool.false_and]
  rw [isFolder, standing]
  rfl

theorem through_is_folder (start below : List String) (through : tree.Through path.toList start below)
    (isFolder : tree.isFolder path = true) : tree.kind (below.reverse ++ start) = .folder := by
  rw [Tree.isFolder] at isFolder
  cases found : tree.find? path with
  | error fault => simp [found] at isFolder
  | ok entry =>
      simp only [found] at isFolder
      obtain ⟨place, lead, standing⟩ := tree.find_ok path entry found
      rw [through.follow] at lead
      have plain : ∀ step ∈ below.map String.toList, IsStep step :=
        List.forall_mem_map.mpr fun name member => name_step name (through.named name member)
      have reached := tree.follow_named _ start place plain lead
      have back : (below.map String.toList).map String.ofList = below := by simp
      rw [back] at reached
      subst reached
      cases entry with
      | file own content => cases isFolder
      | folder own inner => exact (tree.kind_folder_iff _).mpr ⟨own, inner, standing⟩

theorem around_standing (place : Place) (lead : tree.Leads path place) (stands : tree.kind place = .folder) :
    Barring (tree.around path.toList) fun found => ∀ name, found.2 = some name → place = name.val :: found.1 := by
  rw [Leads] at lead
  rw [around]
  refine (check_path_barring path.toList).bind fun _ _ => ?_
  dsimp only
  cases last : (Path.steps path.toList).getLast? with
  | none =>
      rw [List.getLast?_eq_none_iff] at last
      rw [last] at lead
      obtain ⟨own, inner, found⟩ := (tree.kind_folder_iff place).mp stands
      rw [last, List.dropLast_nil, lead]
      simp only [bind, Except.bind, found]
      exact .ok _ rfl fun _ named => absurd named (Option.some_ne_none _).symm
  | some step =>
      rw [← List.dropLast_append_getLast? step last, follow_append_iff] at lead
      obtain ⟨outer, first, onward⟩ := lead
      obtain ⟨folder, next, stepped, ended⟩ := (tree.follow_cons_iff outer place step []).mp onward
      obtain rfl : next = place := Except.ok.inj ended
      obtain ⟨own, inner, found⟩ := (tree.kind_folder_iff outer).mp folder
      rw [first]
      simp only [bind, Except.bind, found]
      refine (check_name_barring step).bind fun _ _ => .ok _ rfl ?_
      intro name given
      have same := (name_some_iff step name).mp given
      have step : step = name.val.toList := by rw [← same, String.toList_ofList]
      rw [step] at stepped
      have reached := step_named outer _ next (name_step name.val name.property) stepped
      rwa [String.ofList_toList] at reached

-- Nothing is made where a folder stands already.
theorem make_folder_standing (place : Place) (lead : tree.Leads path place) (stands : tree.kind place = .folder) :
    ∃ fault, tree.makeFolder path = .error fault ∧ (fault = .exists ∨ fault.Unnameable) := by
  obtain ⟨own, inner, found⟩ := (tree.kind_folder_iff place).mp stands
  rw [makeFolder]
  cases tree.around_standing path place lead stands with
  | error fault same cause => exact ⟨fault, by rw [same]; rfl, .inr cause⟩
  | ok pair same held =>
      obtain ⟨outer, name⟩ := pair
      rw [same]
      refine ⟨.exists, ?_, .inl rfl⟩
      cases name with
      | none => rfl
      | some name =>
          rw [held name rfl] at found
          simp only [bind, Except.bind, found]
          rfl

theorem make_folder_checked (fault : Fault) (made : tree.makeFolder path = .error fault)
    (nameable : ¬ fault.Unnameable) : checkPath path.toList = .ok () := by
  cases check_path_barring path.toList with
  | ok done same held => exact same
  | error other same cause =>
      have refused : tree.makeFolder path = .error other := by
        rw [makeFolder, around, same]
        rfl
      obtain rfl := Except.error.inj (refused.symm.trans made)
      exact absurd cause nameable

end Standing

end Tree
end LinkPress.Files
