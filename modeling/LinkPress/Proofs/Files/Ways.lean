import LinkPress.Proofs.Files.Making

set_option autoImplicit false

/- The folders on the way to a file, made from the innermost one that stands. Whatever the path of the
   folder they are in looks like, the path around a name leads to the folders in front of it. -/
namespace LinkPress.Files

namespace Path

theorem join_onto (base path : List Char) (relative : isAbsolute path = false) :
    join base path = join base [] ++ path := by
  rw [join, join, relative, isAbsolute, List.head?_nil, Bool.false_or]
  by_cases empty : base.isEmpty = true
  · rw [if_pos empty]
    simp [empty]
  · by_cases slash : base.getLast? = some '/' <;> simp [empty, slash]

theorem join_path_of (base : List Char) (folders : List String) (name : String)
    (segments : Segments (folders ++ [name])) :
    join base (pathOf (folders ++ [name])).toList = join base [] ++ frontOf folders ++ name.toList := by
  rw [join_onto base _ (path_of_relative _ segments), path_of_last, List.append_assoc]

theorem join_front (base : List Char) : IsFront (join base []) := by
  rw [join, isAbsolute, List.head?_nil]
  by_cases empty : base.isEmpty = true
  · exact .inl (by simp [empty])
  · by_cases slash : base.getLast? = some '/'
    · exact .inr (by simp [empty, slash])
    · exact .inr (by simp [empty, slash])

theorem front_append (front names : List Char) (outer : IsFront front) (inner : IsFront names) :
    IsFront (front ++ names) := by
  rcases inner with rfl | last
  · rw [List.append_nil]
    exact outer
  · exact .inr (by simp [last])

theorem trim_slash (path : List Char) (some : path ≠ []) : trim (path ++ ['/']) = trim path := by
  obtain ⟨c, rest, back⟩ := List.exists_cons_of_ne_nil (List.reverse_eq_nil_iff.not.mpr some)
  rw [trim, trim, List.reverse_append, back]
  rfl

theorem parent_named (front name : List Char) (before : IsFront front) (segment : IsSegment name)
    (proper : name ≠ ['.']) : parent? (front ++ name) = some (trim front) := by
  have filled : (front ++ name).isEmpty = false := by simp [segment.1]
  have below : front ++ name ≠ ['/'] := by
    intro same
    rcases List.append_eq_singleton_iff.mp same with ⟨-, slash⟩ | ⟨-, none⟩
    · exact segment.2 (slash ▸ List.mem_cons_self)
    · exact segment.1 none
  rw [parent?, trim_named front name segment proper, last_segment_named front name before segment,
    filled, beq_eq_false_iff_ne.mpr below, List.length_append, Nat.add_sub_cancel, List.take_left']
  · rfl
  · rfl

theorem start_append (tree : Tree) (path more : List Char) (some : path ≠ []) :
    tree.startOf (path ++ more) = tree.startOf path := by
  obtain ⟨c, rest, rfl⟩ := List.exists_cons_of_ne_nil some
  rfl

end Path

namespace Tree

-- What is cut off from the end of a path are slashes and steps that stay in place.
theorem trim_followed (tree : Tree) (path : List Char) (names : List String)
    (lead : tree.follow (tree.startOf path) (Path.steps path) = .ok names) :
    tree.follow (tree.startOf (Path.trim path)) (Path.steps (Path.trim path)) = .ok names := by
  rw [Path.trim]
  generalize back : path.reverse = reversed
  obtain rfl : path = reversed.reverse := by rw [← back, List.reverse_reverse]
  clear back
  induction reversed using Path.trimBack.induct with
  | case1 => exact lead
  | case2 => exact lead
  | case3 rest below ih =>
      have filled : rest.reverse ≠ [] := by simpa using below
      have none : Path.steps (rest.reverse ++ ['/']) = Path.steps rest.reverse := by
        rw [Path.steps, Text.parts_at, Path.steps]
        exact List.append_nil _
      rw [List.reverse_cons, Path.start_append tree _ _ filled, none] at lead
      rw [Path.trimBack.eq_3 rest below]
      exact ih lead
  | case4 rest none =>
      obtain rfl := List.isEmpty_iff.mp none
      exact lead
  | case5 rest below ih =>
      have filled : rest.reverse ≠ [] := by simpa using below
      have moved : ('.' :: '/' :: rest).reverse = rest.reverse ++ '/' :: ['.'] := by simp
      rw [moved, Path.start_append tree _ _ filled, Path.steps, Text.parts_at, follow_append_iff] at lead
      obtain ⟨middle, first, last⟩ := lead
      rw [Path.trimBack.eq_4 rest, if_neg below]
      obtain ⟨-, next, stepped, ended⟩ := (tree.follow_cons_iff middle names ['.'] []).mp last
      obtain rfl : next = middle := (Except.ok.inj stepped).symm
      exact ih (first.trans ended)
  | case6 back notEmpty slash below moving =>
      rw [Path.trimBack.eq_5 back notEmpty slash below moving]
      exact lead

-- What is done for one folder: it is made unless it stands already.
def makeOne (tree : Tree) (path : String) : Except Fault Tree :=
  match tree.makeFolder path with
  | .ok after => .ok after
  | .error fault => if tree.isFolder path then .ok tree else .error fault

section One

variable (fuel : Nat) (tree : Tree) (path : String) (some : path.toList ≠ [])
include some

theorem make_folders_outer (outerless : tree.makeFolder path = .error .notFound) :
    makeFoldersFrom (fuel + 1) tree path.toList =
      makeFoldersFrom fuel tree ((Path.parent? path.toList).getD []) >>= fun inner => inner.makeOne path := by
  rw [makeFoldersFrom, if_neg (by simpa using some), String.ofList_toList]
  dsimp only
  rw [outerless]
  rfl

theorem make_folders_direct (outer : tree.makeFolder path ≠ .error .notFound) :
    makeFoldersFrom (fuel + 1) tree path.toList = tree.makeOne path := by
  rw [makeFoldersFrom, if_neg (by simpa using some), String.ofList_toList, makeOne]
  dsimp only
  cases made : tree.makeFolder path with
  | ok after => rfl
  | error fault =>
      rw [made] at outer
      cases fault with
      | notFound => exact absurd rfl outer
      | _ => rfl

end One

section Standing

variable (tree : Tree) (path : String) (start names : List String) (through : tree.Through path.toList start names)
variable (stands : tree.kind (names.reverse ++ start) = .folder)
include through stands

theorem make_folder_taken : ∃ fault, tree.makeFolder path = .error fault ∧
    (fault = .exists ∧ tree.Leads path (names.reverse ++ start) ∨ fault.Unnameable) := by
  have taken (lead : tree.Leads path (names.reverse ++ start)) : ∃ fault, tree.makeFolder path = .error fault ∧
      (fault = .exists ∧ tree.Leads path (names.reverse ++ start) ∨ fault.Unnameable) := by
    obtain ⟨fault, made, cause⟩ := tree.make_folder_standing path _ lead stands
    exact ⟨fault, made, cause.imp (fun same => ⟨same, lead⟩) id⟩
  rcases List.eq_nil_or_concat names with rfl | ⟨outer, name, rfl⟩
  · exact taken through.follow
  · rw [List.concat_eq_append] at *
    rw [List.reverse_append, List.reverse_singleton, List.singleton_append, List.cons_append] at *
    have folder := tree.kind_around name (outer.reverse ++ start) (by simp [stands])
    cases tree.around_folder path start outer name through folder with
    | error fault same cause => exact ⟨fault, by rw [makeFolder, same]; rfl, .inr cause⟩
    | ok found same held =>
        obtain ⟨place, last⟩ := found
        obtain ⟨rfl, own, rfl, rfl⟩ := held
        exact taken (tree.around_named path _ own same).1

theorem make_one_standing (some : path.toList ≠ []) : Barring (tree.makeOne path) (· = tree) := by
  obtain ⟨fault, made, cause⟩ := make_folder_taken tree path start names through stands
  rw [makeOne, made]
  dsimp only
  rcases cause with ⟨rfl, lead⟩ | unnameable
  · have fits := tree.make_folder_checked path .exists made (by simp [Fault.Unnameable])
    rw [if_pos (tree.is_folder_standing path _ lead stands some fits)]
    exact .ok tree rfl rfl
  · split
    · exact .ok tree rfl rfl
    · exact .error fault rfl unnameable

end Standing

theorem make_one_refused (tree : Tree) (path : String) (start names : List String)
    (through : tree.Through path.toList start names) (free : tree.kind (names.reverse ++ start) ≠ .folder)
    (fault : Fault) (refused : tree.makeFolder path = .error fault) : tree.makeOne path = .error fault := by
  rw [makeOne, refused]
  exact if_neg fun isFolder => free (tree.through_is_folder path start names through isFolder)

theorem make_one_missing (tree : Tree) (path : String) (start outer : List String) (name : String)
    (through : tree.Through path.toList start (outer ++ [name])) (stands : tree.kind (outer.reverse ++ start) = .folder)
    (absent : tree.kind (name :: (outer.reverse ++ start)) = .missing) :
    Barring (tree.makeOne path) fun after =>
      ∃ sound : (Entry.folder name []).Ordered, after = tree.put (outer.reverse ++ start) (.folder name []) sound := by
  cases tree.make_folder_barring path start outer name through stands absent with
  | ok after same held => exact .ok after (by rw [makeOne, same]) held
  | error fault same cause =>
      have free : tree.kind ((outer ++ [name]).reverse ++ start) ≠ .folder := by simp [absent]
      exact .error fault (make_one_refused tree path start _ through free fault same) cause

theorem front_long (folders : List String) : folders.length ≤ (frontOf folders).length := by
  induction folders with
  | nil => exact Nat.le_refl 0
  | cons name rest ih =>
      rw [frontOf, List.flatMap_cons, ← frontOf]
      simp only [List.length_append, List.length_cons, List.length_nil]
      omega

-- The path of the folder that names lead to, below another folder.
def way (base : List Char) (names : List String) : List Char := Path.trim (Path.join base [] ++ frontOf names)

section Way

variable (base : List Char)

theorem parent_way (names : List String) (name : String) (segments : Segments (names ++ [name])) (proper : name ≠ ".") :
    Path.parent? (Path.join base (pathOf (names ++ [name])).toList) = some (way base names) := by
  have segment : Path.IsSegment name.toList := segments.plain name (by simp)
  rw [Path.join_path_of base names name segments]
  refine Path.parent_named _ _ ?_ segment fun same => proper (String.toList_inj.mp same)
  exact Path.front_append _ _ (Path.join_front base) (front_of_front names)

theorem segments_named (names : List String) (some : names ≠ []) (named : ∀ name ∈ names, IsName name) :
    Segments names := by
  refine ⟨some, ?_⟩
  intro name member
  have own := named name member
  exact ⟨by simpa using own.1, own.2.2.2⟩

theorem way_last (names : List String) (name : String) (named : ∀ other ∈ names ++ [name], IsName other) :
    way base (names ++ [name]) = Path.join base (pathOf (names ++ [name])).toList := by
  have segments := segments_named (names ++ [name]) (by simp) named
  have own := named name (by simp)
  have behind : Path.join base [] ++ frontOf (names ++ [name]) =
      Path.join base (pathOf (names ++ [name])).toList ++ ['/'] := by
    rw [Path.join_path_of base names name segments]
    simp [frontOf]
  rw [way, behind, Path.join_path_of base names name segments, Path.trim_slash]
  · exact Path.trim_named _ _ (segments.plain name (by simp)) fun same => own.2.1 (String.toList_inj.mp same)
  · simp [own.1]

theorem way_long (names : List String) (named : ∀ name ∈ names, IsName name) :
    names.length ≤ (way base names).length := by
  rcases List.eq_nil_or_concat names with rfl | ⟨outer, name, rfl⟩
  · exact Nat.zero_le _
  · rw [List.concat_eq_append] at named ⊢
    have segments := segments_named (outer ++ [name]) (by simp) named
    have front := front_long outer
    have filled : 0 < name.toList.length := List.length_pos_iff.mpr (segments.plain name (by simp)).1
    rw [way_last base outer name named, Path.join_path_of base outer name segments]
    simp only [List.length_append, List.length_cons, List.length_nil]
    omega

variable (tree : Tree) (start : List String)

theorem through_way (lead : tree.Leads (String.ofList base) start) (names : List String)
    (named : ∀ name ∈ names, IsName name) : tree.Through (way base names) start names := by
  rw [Leads, String.toList_ofList] at lead
  refine ⟨named, ?_⟩
  rcases List.eq_nil_or_concat names with rfl | ⟨outer, name, rfl⟩
  · have same := tree.trim_followed (Path.join base []) start (by
      rw [Path.start_join base [] rfl, Path.steps_join base [] rfl]
      simpa [Path.steps, Text.parts, Text.split] using lead)
    exact ⟨Path.steps (way base []), by simp, by rwa [way, frontOf, List.flatMap_nil, List.append_nil]⟩
  · rw [List.concat_eq_append] at named ⊢
    have segments := segments_named (outer ++ [name]) (by simp) named
    have relative := path_of_relative _ segments
    refine ⟨Path.steps base, ?_, ?_⟩
    · rw [way_last base outer name named, Path.steps_join base _ relative, steps_path_of _ segments]
    · rw [way_last base outer name named, Path.start_join base _ relative]
      exact lead

-- What making the folders on the way to the names leaves.
structure Made (before after : Tree) (start names : List String) : Prop where
  stands : after.kind (names.reverse ++ start) = .folder
  others : ∀ place, after.kind place = before.kind place ∨
    before.kind place = .missing ∧ ∃ outer, outer <+: names ∧ place = outer.reverse ++ start

theorem Made.kept {before after : Tree} {start names : List String} (made : before.Made after start names)
    (place : List String) (stands : before.kind place ≠ .missing) : after.kind place = before.kind place :=
  (made.others place).elim id fun fresh => absurd fresh.1 stands

theorem made_already (names : List String) (stands : tree.kind (names.reverse ++ start) = .folder) :
    tree.Made tree start names := ⟨stands, fun _ => .inl rfl⟩

section Missing

variable (outer : List String) (name : String) (absent : tree.kind (name :: (outer.reverse ++ start)) = .missing)
include absent

theorem made_put (sound : (Entry.folder name []).Ordered) (stands : tree.kind (outer.reverse ++ start) = .folder) :
    tree.Made (tree.put (outer.reverse ++ start) (.folder name []) sound) start (outer ++ [name]) := by
  have placed := tree.kind_put (.folder name []) sound (outer.reverse ++ start) rfl stands (by simp [Entry.name, absent])
  refine ⟨?_, ?_⟩
  · rw [placed, if_pos (by simp [Entry.name])]
    rfl
  · intro place
    rw [placed]
    by_cases here : place = name :: (outer.reverse ++ start)
    · exact .inr ⟨here ▸ absent, outer ++ [name], List.prefix_refl _, by simp [here]⟩
    · rw [Entry.name, if_neg here]
      exact .inl rfl

variable (inner : Tree) (around : tree.Made inner start outer)
include around

theorem made_absent : inner.kind (name :: (outer.reverse ++ start)) = .missing := by
  rcases around.others (name :: (outer.reverse ++ start)) with same | ⟨-, other, inside, place⟩
  · exact same.trans absent
  · have short := inside.length_le
    have long := congrArg List.length place
    simp only [List.length_cons, List.length_append, List.length_reverse] at long
    omega

theorem made_last (sound : (Entry.folder name []).Ordered) :
    tree.Made (inner.put (outer.reverse ++ start) (.folder name []) sound) start (outer ++ [name]) := by
  have still := made_absent tree start outer name absent inner around
  have last := made_put inner start outer name still sound around.stands
  refine ⟨last.stands, ?_⟩
  intro place
  rcases last.others place with same | ⟨fresh, other, inside, rfl⟩
  · rw [same]
    refine (around.others place).imp id ?_
    rintro ⟨gone, other, inside, rfl⟩
    exact ⟨gone, other, inside.trans (List.prefix_append outer [name]), rfl⟩
  · refine .inr ⟨?_, other, inside, rfl⟩
    by_contra stands
    exact stands ((around.kept _ stands).symm.trans fresh)

-- With the folders around made, what is left is the last one.
theorem make_last (named : ∀ other ∈ outer ++ [name], IsName other) (lead : inner.Leads (String.ofList base) start) :
    Barring (inner.makeOne (String.ofList (way base (outer ++ [name])))) (tree.Made · start (outer ++ [name])) := by
  have through := through_way base inner start lead (outer ++ [name]) named
  rw [← String.toList_ofList (l := way base (outer ++ [name]))] at through
  have still := made_absent tree start outer name absent inner around
  refine (inner.make_one_missing _ start outer name through around.stands still).weaken ?_
  rintro after ⟨sound, rfl⟩
  exact made_last tree start outer name absent inner around sound

omit around in
-- The folders around are made first where they are missing too.
theorem make_way_missing (fuel : Nat) (named : ∀ other ∈ outer ++ [name], IsName other)
    (lead : tree.Leads (String.ofList base) start) (clear : tree.Clear outer start)
    (outside : Barring (makeFoldersFrom fuel tree (way base outer)) (tree.Made · start outer)) :
    Barring (makeFoldersFrom (fuel + 1) tree (way base (outer ++ [name]))) (tree.Made · start (outer ++ [name])) := by
  have through := through_way base tree start lead (outer ++ [name]) named
  have long := way_long base (outer ++ [name]) named
  have path : (String.ofList (way base (outer ++ [name]))).toList = way base (outer ++ [name]) := String.toList_ofList
  rw [← path] at through long ⊢
  have some : (String.ofList (way base (outer ++ [name]))).toList ≠ [] := by
    intro none
    simp [none] at long
  cases around : tree.kind (outer.reverse ++ start) with
  | file content => exact absurd around (clear outer (List.prefix_refl outer) content)
  | folder =>
      rw [make_folders_direct fuel tree _ some (tree.make_folder_barring _ start outer name through around absent).found]
      exact make_last base tree start outer name absent tree (made_already tree start outer around) named lead
  | missing =>
      obtain ⟨fault, refused, cause⟩ := tree.make_folder_missing _ start outer name through clear around
      rcases cause with rfl | unnameable
      · have segments := segments_named (outer ++ [name]) (by simp) named
        have parent := parent_way base outer name segments (named name (by simp)).2.1
        rw [← way_last base outer name named, ← path] at parent
        rw [make_folders_outer fuel tree _ some refused, parent, Option.getD_some]
        cases outside with
        | error fault same cause => exact .error fault (by rw [same]; rfl) cause
        | ok inner same made =>
            have kept := (make_folders_extends fuel tree inner _ same).leads _ start lead
            rw [same]
            dsimp only [bind, Except.bind]
            exact make_last base tree start outer name absent inner made named kept
      · rw [make_folders_direct fuel tree _ some (by rw [refused]; exact unnameable.found)]
        exact .error fault (tree.make_one_refused _ start _ through (by simp [absent]) fault refused) unnameable

end Missing

theorem make_way_standing (fuel : Nat) (names : List String) (lead : tree.Leads (String.ofList base) start)
    (named : ∀ name ∈ names, IsName name) (stands : tree.kind (names.reverse ++ start) = .folder) :
    Barring (makeFoldersFrom (fuel + 1) tree (way base names)) (tree.Made · start names) := by
  have through := through_way base tree start lead names named
  have already := made_already tree start names stands
  by_cases none : way base names = []
  · rw [none]
    exact .ok tree rfl already
  · rw [← String.toList_ofList (l := way base names)] at through none ⊢
    obtain ⟨fault, refused, cause⟩ := make_folder_taken tree _ start names through stands
    have found : tree.makeFolder (String.ofList (way base names)) ≠ .error .notFound := by
      rw [refused]
      rcases cause with ⟨rfl, -⟩ | unnameable
      · exact nofun
      · exact unnameable.found
    rw [make_folders_direct fuel tree _ none found]
    exact (make_one_standing tree _ start names through stands none).weaken fun after same => same ▸ already

theorem make_way (fuel : Nat) (names : List String) (enough : names.length ≤ fuel)
    (lead : tree.Leads (String.ofList base) start) (stands : tree.kind start = .folder)
    (named : ∀ name ∈ names, IsName name) (clear : tree.Clear names start) :
    Barring (makeFoldersFrom fuel tree (way base names)) (tree.Made · start names) := by
  induction fuel generalizing names with
  | zero =>
      obtain rfl := List.length_eq_zero_iff.mp (Nat.le_zero.mp enough)
      exact .ok tree rfl (made_already tree start [] stands)
  | succ fuel ih =>
      cases last : tree.kind (names.reverse ++ start) with
      | file content => exact absurd last (clear names (List.prefix_refl names) content)
      | folder => exact make_way_standing base tree start fuel names lead named last
      | missing =>
          rcases List.eq_nil_or_concat names with rfl | ⟨outer, name, rfl⟩
          · cases stands.symm.trans last
          · rw [List.concat_eq_append] at *
            have shorter : tree.Clear outer start := fun other inside =>
              clear other (inside.trans (List.prefix_append outer [name]))
            have outerNamed : ∀ other ∈ outer, IsName other := fun other member =>
              named other (List.mem_append_left _ member)
            have outside := ih outer (by simpa using enough) outerNamed shorter
            exact make_way_missing base tree start outer name (by simpa using last) fuel named lead shorter outside

end Way

end Tree
end LinkPress.Files
