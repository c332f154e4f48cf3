import LinkPress.Proofs.Files.Places

set_option autoImplicit false

/- What writing does to a tree. A file that is written changes the content at one place, and a folder
   that is made changes the content of none. -/
namespace LinkPress.Files

namespace Tree

theorem around_ok (tree : Tree) (path : List Char) (place : Place) (name : Option Name)
    (found : tree.around path = .ok (place, name)) :
    tree.follow (tree.startOf path) (Path.steps path).dropLast = .ok place ∧ tree.kind place = .folder ∧
      ∀ own, name = some own → ∃ step, (Path.steps path).getLast? = some step ∧ checkName step = .ok () ∧
        own.val = String.ofList step := by
  rw [around, bind_ok_iff] at found
  obtain ⟨-, -, found⟩ := found
  obtain ⟨outer, lead, found⟩ := (bind_ok_iff _ _ _).mp found
  -- What is done behind the folder depends on the last step, so that is split first.
  cases last : (Path.steps path).getLast? with
  | none =>
      simp only [last] at found
      split at found
      · cases found
      · cases found
      · next own inner standing =>
          obtain ⟨rfl, rfl⟩ := Prod.mk.inj (Except.ok.inj found)
          exact ⟨lead, (tree.kind_folder_iff outer).mpr ⟨own, inner, standing⟩, nofun⟩
  | some step =>
      simp only [last] at found
      split at found
      · cases found
      · cases found
      · next own inner standing =>
          obtain ⟨_, fits, found⟩ := (bind_ok_iff _ _ _).mp found
          obtain ⟨rfl, rfl⟩ := Prod.mk.inj (Except.ok.inj found)
          refine ⟨lead, (tree.kind_folder_iff outer).mpr ⟨own, inner, standing⟩, ?_⟩
          intro given named
          exact ⟨step, rfl, fits, ((name_some_iff step given).mp named).symm⟩

-- What is needed to put an entry somewhere: a folder, and a name for the entry.
theorem around_named (tree : Tree) (path : String) (place : Place) (name : Name)
    (found : tree.around path.toList = .ok (place, some name)) :
    tree.Leads path (name.val :: place) ∧ tree.kind place = .folder := by
  obtain ⟨lead, folder, named⟩ := tree.around_ok path.toList place (some name) found
  obtain ⟨step, last, fits, own⟩ := named name rfl
  have whole := List.dropLast_append_getLast? step last
  have stepped : stepFrom place step = .ok (name.val :: place) := by
    have step : step = name.val.toList := by rw [own, String.toList_ofList]
    rw [step] at fits ⊢
    rw [step_from_name place name.val name.property, fits]
    rfl
  refine ⟨?_, folder⟩
  rw [Leads, ← whole, follow_append_iff]
  exact ⟨place, lead, (follow_cons_iff tree place _ step []).mpr ⟨folder, _, stepped, rfl⟩⟩

-- Files change only where something is written, and folders stay.
structure Extends (before after : Tree) (written : Place → ByteArray → Prop) : Prop where
  folders : ∀ place, before.kind place = .folder → after.kind place = .folder
  files : ∀ place, after.fileAt? place = before.fileAt? place ∨
    ∃ content, after.fileAt? place = some content ∧ written place content
  working : after.working = before.working

variable {before middle after : Tree} {written later : Place → ByteArray → Prop}

theorem Extends.same (tree : Tree) (written : Place → ByteArray → Prop) : tree.Extends tree written :=
  ⟨fun _ folder => folder, fun _ => .inl rfl, rfl⟩

theorem Extends.weaken (frame : before.Extends after written)
    (weaker : ∀ place content, written place content → later place content) : before.Extends after later := by
  refine ⟨frame.folders, ?_, frame.working⟩
  intro place
  rcases frame.files place with same | ⟨content, stands, wrote⟩
  · exact .inl same
  · exact .inr ⟨content, stands, weaker place content wrote⟩

theorem Extends.trans (first : before.Extends middle written) (second : middle.Extends after written) :
    before.Extends after written := by
  refine ⟨fun place folder => second.folders place (first.folders place folder), ?_,
    second.working.trans first.working⟩
  intro place
  rcases second.files place with same | wrote
  · rw [same]
    exact first.files place
  · exact .inr wrote

theorem Extends.leads (frame : before.Extends after written) (path : String) (place : Place)
    (lead : before.Leads path place) : after.Leads path place := by
  rw [Leads, startOf, frame.working]
  exact follow_kept before after frame.folders _ _ _ lead

theorem kind_put (tree : Tree) (entry : Entry) (sound : entry.Ordered) (outer : Place) (flat : entry.Flat)
    (stands : tree.kind outer = .folder) (free : tree.kind (entry.name :: outer) ≠ .folder) (place : Place) :
    (tree.put outer entry sound).kind place =
      if place = entry.name :: outer then entry.kind else tree.kind place := by
  rw [kind, List.reverse_cons] at free
  have placed := put_at_kind tree.entries entry flat outer.reverse place.reverse stands free
  simp only [← List.reverse_cons, List.reverse_inj] at placed
  exact placed

theorem put_extends (tree : Tree) (entry : Entry) (sound : entry.Ordered) (outer : Place) (flat : entry.Flat)
    (stands : tree.kind outer = .folder) (free : tree.kind (entry.name :: outer) ≠ .folder)
    (fresh : entry.kind = .folder → tree.kind (entry.name :: outer) = .missing) :
    tree.Extends (tree.put outer entry sound) fun place content =>
      place = entry.name :: outer ∧ entry.kind = .file content := by
  have placed := tree.kind_put entry sound outer flat stands free
  refine ⟨?_, ?_, rfl⟩
  · intro place folder
    rw [placed]
    by_cases here : place = entry.name :: outer
    · exact absurd (here ▸ folder) free
    · rw [if_neg here]
      exact folder
  · intro place
    simp only [fileAt?, placed]
    by_cases here : place = entry.name :: outer
    · rw [if_pos here, here]
      cases entry with
      | file own content => exact .inr ⟨content, rfl, rfl, rfl⟩
      | folder own inner =>
          rw [fresh rfl]
          exact .inl rfl
    · rw [if_neg here]
      exact .inl rfl

-- A file is written where the path leads.
theorem write_ok (tree after : Tree) (path : String) (content : ByteArray) (wrote : tree.write path content = .ok after) :
    ∃ (outer : Place) (name : Name), tree.Leads path (name.val :: outer) ∧ tree.kind outer = .folder ∧
      tree.kind (name.val :: outer) ≠ .folder ∧ after = tree.put outer (.file name.val content) name.property := by
  rw [write, bind_ok_iff] at wrote
  obtain ⟨⟨outer, name⟩, around, wrote⟩ := wrote
  cases name with
  | none => cases wrote
  | some name =>
      obtain ⟨lead, folder⟩ := tree.around_named path outer name around
      dsimp only at wrote
      split at wrote
      · cases wrote
      · next free =>
          split at wrote
          · cases wrote
          · refine ⟨outer, name, lead, folder, ?_, (Except.ok.inj wrote).symm⟩
            rw [Ne, kind_folder_iff]
            rintro ⟨own, inner, standing⟩
            exact free own inner standing

theorem write_extends (tree after : Tree) (path : String) (content : ByteArray)
    (wrote : tree.write path content = .ok after) :
    tree.Extends after (fun place written => tree.Leads path place ∧ written = content) ∧
      ∀ place, after.Leads path place → after.fileAt? place = some content := by
  obtain ⟨outer, name, lead, folder, free, rfl⟩ := tree.write_ok after path content wrote
  have frame := tree.put_extends (.file name.val content) name.property outer trivial folder free (by simp [Entry.kind])
  refine ⟨frame.weaken ?_, ?_⟩
  · rintro place written ⟨rfl, same⟩
    exact ⟨lead, (Kind.file.inj same).symm⟩
  · intro place leads
    obtain rfl := leads_once _ path _ _ (frame.leads path _ lead) leads
    have placed := tree.kind_put (.file name.val content) name.property outer trivial folder free (name.val :: outer)
    rw [Entry.name, if_pos rfl] at placed
    rw [fileAt?, placed]
    rfl

theorem make_folder_ok (tree after : Tree) (path : String) (made : tree.makeFolder path = .ok after) :
    ∃ (outer : Place) (name : Name), tree.kind outer = .folder ∧ tree.kind (name.val :: outer) = .missing ∧
      after = tree.put outer (.folder name.val []) ⟨name.property, trivial⟩ := by
  rw [makeFolder, bind_ok_iff] at made
  obtain ⟨⟨outer, name⟩, around, made⟩ := made
  cases name with
  | none => cases made
  | some name =>
      dsimp only at made
      split at made
      · cases made
      · next fresh =>
          have missing : tree.kind (name.val :: outer) = .missing := by
            rw [kind_missing_iff]
            simpa using fresh
          exact ⟨outer, name, (tree.around_named path outer name around).2, missing, (Except.ok.inj made).symm⟩

theorem make_folder_extends (tree after : Tree) (path : String) (made : tree.makeFolder path = .ok after) :
    tree.Extends after fun _ _ => False := by
  obtain ⟨outer, name, folder, missing, rfl⟩ := tree.make_folder_ok after path made
  have frame := tree.put_extends (.folder name.val []) ⟨name.property, trivial⟩ outer rfl folder
    (by simp [Entry.name, missing]) fun _ => missing
  refine frame.weaken ?_
  rintro place content ⟨-, filed⟩
  cases filed

theorem make_folders_extends (fuel : Nat) (tree after : Tree) (path : List Char)
    (made : makeFoldersFrom fuel tree path = .ok after) : tree.Extends after fun _ _ => False := by
  induction fuel generalizing tree after path with
  | zero =>
      cases made
      exact .same tree _
  | succ fuel ih =>
      rw [makeFoldersFrom] at made
      split at made
      · cases made
        exact .same tree _
      · dsimp only at made
        split at made
        · next direct =>
            cases made
            exact tree.make_folder_extends _ _ direct
        · obtain ⟨inner, outer, made⟩ := (bind_ok_iff _ _ _).mp made
          have first := ih tree inner _ outer
          split at made
          · next last =>
              cases made
              exact first.trans (inner.make_folder_extends _ _ last)
          · split at made
            · cases made
              exact first
            · cases made
        · split at made
          · cases made
            exact .same tree _
          · cases made

end Tree

instance lawfulBytes : LawfulBEq ByteArray where
  rfl {a} := beq_self_eq_true a.data
  eq_of_beq {a b} same := by
    cases a with
    | mk first =>
        cases b with
        | mk second =>
            have data : (first == second) = true := same
            have equal : first = second := eq_of_beq data
            rw [equal]

namespace Tree

theorem file_at_iff (tree : Tree) (place : Place) (content : ByteArray) :
    tree.fileAt? place = some content ↔ ∃ own, entryAt? tree.entries place.reverse = some (.file own content) := by
  rw [fileAt?, kind, kindAt]
  cases entryAt? tree.entries place.reverse with
  | none => simp [Kind.content?]
  | some entry => cases entry <;> simp [Entry.kind, Kind.content?]

theorem mem_files_iff (tree : Tree) (path : String) (content : ByteArray) :
    (path, content) ∈ tree.files ↔ ∃ place, tree.fileAt? place = some content ∧ path = pathOf place.reverse := by
  rw [files, Files.mem_files_iff tree.entries tree.ordered]
  constructor
  · rintro ⟨names, own, lead, same⟩
    refine ⟨names.reverse, ?_, by rw [List.reverse_reverse]; exact same⟩
    rw [file_at_iff, List.reverse_reverse]
    exact ⟨own, lead⟩
  · rintro ⟨place, stands, same⟩
    obtain ⟨own, lead⟩ := (tree.file_at_iff place content).mp stands
    exact ⟨place.reverse, own, lead, same⟩

theorem file_at_named (tree : Tree) (place : Place) (content : ByteArray) (stands : tree.fileAt? place = some content) :
    place ≠ [] ∧ ∀ name ∈ place, IsName name := by
  obtain ⟨own, lead⟩ := (tree.file_at_iff place content).mp stands
  have member := (mem_contents_iff tree.entries tree.ordered place.reverse content).mpr ⟨own, lead⟩
  have some := contents_nonempty tree.entries _ _ member
  have named := contents_named tree.entries tree.ordered _ member
  exact ⟨fun empty => some (by rw [empty]; rfl), fun name inPlace => named name (List.mem_reverse.mpr inPlace)⟩

-- Files with one path have one place, in whatever trees they are.
theorem file_place_inj (first second : Tree) (a b : Place) (contentA contentB : ByteArray)
    (standsA : first.fileAt? a = some contentA) (standsB : second.fileAt? b = some contentB)
    (same : pathOf a.reverse = pathOf b.reverse) : a = b := by
  obtain ⟨someA, namedA⟩ := first.file_at_named a contentA standsA
  obtain ⟨someB, namedB⟩ := second.file_at_named b contentB standsB
  have equal := path_of_inj a.reverse b.reverse (by simpa using someA) (by simpa using someB)
    (fun name member => (namedA name (List.mem_reverse.mp member)).2.2.2)
    (fun name member => (namedB name (List.mem_reverse.mp member)).2.2.2) same
  exact List.reverse_inj.mp equal

-- The changed files are those that stand at a place where they did not stand before.
theorem mem_changes_iff (before after : Tree) (path : String) (content : ByteArray) :
    (path, content) ∈ before.changes after ↔
      ∃ place, path = pathOf place.reverse ∧ after.fileAt? place = some content ∧
        before.fileAt? place ≠ some content := by
  rw [changes, List.mem_filter, Bool.not_eq_true', ← Bool.not_eq_true, List.contains_iff_mem,
    after.mem_files_iff, before.mem_files_iff]
  constructor
  · rintro ⟨⟨place, stands, same⟩, new⟩
    exact ⟨place, same, stands, fun stood => new ⟨place, stood, same⟩⟩
  · rintro ⟨place, rfl, stands, new⟩
    refine ⟨⟨place, stands, rfl⟩, ?_⟩
    rintro ⟨other, stood, same⟩
    have equal := file_place_inj after before place other content content stands stood same
    exact new (equal ▸ stood)

end Tree
end LinkPress.Files
