import LinkPress.Files.Path
import LinkPress.Proofs.Files.Listing

set_option autoImplicit false

/- Paths that end in a name, and their extensions. Another extension changes the end of the name and
   nothing in front of it. -/
namespace LinkPress.Files

namespace Path

-- What can stand in front of a name: nothing, or folders with a slash behind each.
def IsFront (front : List Char) : Prop := front = [] ∨ front.getLast? = some '/'

def IsSegment (name : List Char) : Prop := name ≠ [] ∧ '/' ∉ name

theorem trim_back_kept (c : Char) (rest : List Char) (unbroken : c ≠ '/')
    (unmoving : c = '.' → rest.head? ≠ some '/') : trimBack (c :: rest) = c :: rest := by
  rw [trimBack.eq_def]
  split
  · next none => cases none
  · next slash => exact absurd (List.cons.inj slash).1 unbroken
  · next slash => exact absurd (List.cons.inj slash).1 unbroken
  · next more moving =>
      obtain ⟨rfl, rfl⟩ := List.cons.inj moving
      exact absurd rfl (unmoving rfl)
  · rfl

section Ending

variable (front name : List Char) (before : IsFront front) (segment : IsSegment name)
include before segment

theorem last_segment_named : lastSegment (front ++ name) = name := by
  have plain : ∀ c ∈ name.reverse, (c != '/') = true := by
    intro c member
    rw [bne_iff_ne]
    rintro rfl
    exact segment.2 (List.mem_reverse.mp member)
  have stop : front.reverse.takeWhile (· != '/') = [] := by
    rcases before with rfl | last
    · rfl
    · rw [← List.head?_reverse] at last
      obtain ⟨more, split⟩ := List.head?_eq_some_iff.mp last
      rw [split]
      rfl
  rw [lastSegment, List.reverse_append, List.takeWhile_append_of_pos plain, stop, List.append_nil, List.reverse_reverse]

omit before in
theorem trim_named (proper : name ≠ ['.']) : trim (front ++ name) = front ++ name := by
  rw [trim, List.reverse_append]
  cases back : name.reverse with
  | nil => exact absurd (List.reverse_eq_nil_iff.mp back) segment.1
  | cons c more =>
      have inName : ∀ other ∈ c :: more, other ∈ name := fun other member => List.mem_reverse.mp (back ▸ member)
      have unbroken : c ≠ '/' := by
        rintro rfl
        exact segment.2 (inName _ List.mem_cons_self)
      have kept : trimBack (c :: (more ++ front.reverse)) = c :: (more ++ front.reverse) := by
        apply trim_back_kept c _ unbroken
        rintro rfl
        cases more with
        | nil => exact absurd (List.reverse_eq_iff.mp back) proper
        | cons second others =>
            intro slash
            obtain rfl := Option.some.inj slash
            exact segment.2 (inName _ (List.mem_cons_of_mem _ List.mem_cons_self))
      rw [List.cons_append, kept, ← List.cons_append, ← back, ← List.reverse_append, List.reverse_reverse]

theorem file_name_named (proper : name ≠ ['.']) :
    fileName? (front ++ name) = if name = ['.', '.'] then none else some name := by
  rw [fileName?, trim_named front name segment proper, last_segment_named front name before segment]
  by_cases up : name = ['.', '.']
  · simp [up]
  · simp [up, proper, segment.1]

-- A name that leads up has no extension, and it gets none.
theorem set_extension_named (extension : List Char) (proper : name ≠ ['.']) :
    setExtension extension (front ++ name) =
      if name = ['.', '.'] then front ++ name else front ++ (splitName name).1 ++ '.' :: extension := by
  rw [setExtension, file_name_named front name before segment proper]
  by_cases up : name = ['.', '.']
  · rw [if_pos up, if_pos up]
  · rw [if_neg up, if_neg up]
    dsimp only
    rw [trim_named front name segment proper, List.length_append, Nat.add_sub_cancel, List.take_left']
    rfl

end Ending

theorem split_name_dot (stem extension : List Char) (some : stem ≠ []) (plain : '.' ∉ extension) :
    splitName (stem ++ '.' :: extension) = (stem, .some extension) := by
  have marks : ∀ c ∈ extension.reverse, (c != '.') = true := by
    intro c member
    rw [bne_iff_ne]
    rintro rfl
    exact plain (List.mem_reverse.mp member)
  have back : (stem ++ '.' :: extension).reverse = extension.reverse ++ '.' :: stem.reverse := by simp
  have kept : stem.reverse.isEmpty = false := by simpa using some
  rw [splitName, back, List.dropWhile_append_of_pos marks, List.takeWhile_append_of_pos marks]
  simp [kept]

theorem split_name_some (name extension : List Char) (split : (splitName name).2 = some extension) :
    ∃ stem, stem ≠ [] ∧ name = stem ++ '.' :: extension := by
  rw [splitName] at split
  have cut := List.takeWhile_append_dropWhile (p := (· != '.')) (l := name.reverse)
  cases rest : name.reverse.dropWhile (· != '.') with
  | nil => simp [rest] at split
  | cons c front =>
      have dot : c = '.' := by
        have head := List.head?_dropWhile_not (· != '.') name.reverse
        rw [rest] at head
        simpa using head
      subst dot
      simp only [rest] at split
      by_cases empty : front.isEmpty = true
      · simp [empty] at split
      · rw [if_neg empty] at split
        refine ⟨front.reverse, by simpa using empty, ?_⟩
        rw [rest] at cut
        have whole := congrArg List.reverse cut
        rw [← Option.some.inj split]
        simpa using whole.symm

section Extension

variable (front : List Char) (before : IsFront front) (old : List Char) (some : old ≠ []) (plain : '.' ∉ old)
include before some plain

theorem extension_iff (name : List Char) (segment : IsSegment name) (proper : name ≠ ['.']) :
    extension? (front ++ name) = .some old ↔ ∃ stem, stem ≠ [] ∧ name = stem ++ '.' :: old := by
  rw [extension?, file_name_named front name before segment proper]
  by_cases up : name = ['.', '.']
  · rw [if_pos up]
    constructor
    · intro found
      cases found
    · rintro ⟨stem, filled, same⟩
      have length := congrArg List.length (up.symm.trans same)
      have stemLength := List.length_pos_iff.mpr filled
      have oldLength := List.length_pos_iff.mpr some
      simp only [List.length_append, List.length_cons, List.length_nil] at length
      omega
  · rw [if_neg up, Option.bind_some]
    constructor
    · exact split_name_some name old
    · rintro ⟨stem, filled, rfl⟩
      rw [split_name_dot stem old filled plain]

theorem with_extension_named (new stem : List Char) (filled : stem ≠ []) (unbroken : '/' ∉ stem ++ '.' :: old) :
    withExtension new (front ++ (stem ++ '.' :: old)) =
      if stem = ['.'] then front ++ ['.', '.'] else front ++ stem ++ '.' :: new := by
  have segment : IsSegment (stem ++ '.' :: old) := ⟨by simp, unbroken⟩
  have proper : stem ++ '.' :: old ≠ ['.'] := by
    intro same
    have length := congrArg List.length same
    have stemLength := List.length_pos_iff.mpr filled
    simp only [List.length_append, List.length_cons, List.length_nil] at length
    omega
  have found := (extension_iff front before old some plain _ segment proper).mpr ⟨stem, filled, rfl⟩
  have cut : (front ++ (stem ++ '.' :: old)).take ((front ++ (stem ++ '.' :: old)).length - old.length) =
      front ++ (stem ++ ['.']) := by
    have split : front ++ (stem ++ '.' :: old) = front ++ (stem ++ ['.']) ++ old := by simp
    rw [split, List.length_append, Nat.add_sub_cancel, List.take_left']
    rfl
  have dotted : IsSegment (stem ++ ['.']) := by
    refine ⟨by simp, ?_⟩
    intro slash
    rw [List.mem_append, not_or] at unbroken
    rcases List.mem_append.mp slash with inStem | inDot
    · exact unbroken.1 inStem
    · simp at inDot
  have undotted : stem ++ ['.'] ≠ ['.'] := by simpa using filled
  rw [withExtension, found]
  dsimp only
  rw [cut, set_extension_named front _ before dotted new undotted,
    split_name_dot stem [] filled List.not_mem_nil]
  by_cases up : stem = ['.']
  · rw [if_pos up, if_pos (by rw [up]; rfl), up]
    rfl
  · have stays : stem ++ ['.'] ≠ ['.', '.'] := by
      intro same
      have split : stem ++ ['.'] = ['.'] ++ ['.'] := same
      exact up (List.append_cancel_right split)
    rw [if_neg up, if_neg stays]

end Extension

end Path

theorem path_of_inj (a b : List String) (someA : a ≠ []) (someB : b ≠ []) (plainA : ∀ name ∈ a, '/' ∉ name.toList)
    (plainB : ∀ name ∈ b, '/' ∉ name.toList) (same : pathOf a = pathOf b) : a = b := by
  have splitA := Text.split_join '/' (a.map String.toList) (by simpa using someA) (List.forall_mem_map.mpr plainA)
  have splitB := Text.split_join '/' (b.map String.toList) (by simpa using someB) (List.forall_mem_map.mpr plainB)
  rw [pathOf, pathOf, String.ofList_inj] at same
  rw [same, splitB] at splitA
  exact (List.map_inj_right fun _ _ => String.toList_inj.mp).mp splitA.symm

def frontOf (folders : List String) : List Char := folders.flatMap fun name => name.toList ++ ['/']

theorem front_of_front (folders : List String) : Path.IsFront (frontOf folders) := by
  rcases List.eq_nil_or_concat folders with rfl | ⟨outer, name, rfl⟩
  · exact .inl rfl
  · apply Or.inr
    simp [frontOf]

theorem path_of_last (folders : List String) (name : String) :
    (pathOf (folders ++ [name])).toList = frontOf folders ++ name.toList := by
  induction folders with
  | nil => simp [pathOf, Text.join, frontOf]
  | cons first rest ih =>
      have some : rest ++ [name] ≠ [] := by simp
      rw [List.cons_append, path_of_cons first _ some, String.toList_append, String.toList_append, ih]
      simp [frontOf]

-- The steps of a path that starts where another path leads.
structure Segments (names : List String) : Prop where
  some : names ≠ []
  plain : ∀ name ∈ names, name.toList ≠ [] ∧ '/' ∉ name.toList

theorem steps_path_of (names : List String) (segments : Segments names) :
    Path.steps (pathOf names).toList = names.map String.toList := by
  rw [Path.steps, pathOf, String.toList_ofList]
  exact Text.parts_join '/' _ (List.forall_mem_map.mpr segments.plain)

theorem path_of_relative (names : List String) (segments : Segments names) :
    Path.isAbsolute (pathOf names).toList = false := by
  cases names with
  | nil => exact absurd rfl segments.some
  | cons first rest =>
      obtain ⟨filled, unbroken⟩ := segments.plain first List.mem_cons_self
      obtain ⟨c, more, split⟩ := List.exists_cons_of_ne_nil filled
      have start : (pathOf (first :: rest)).toList.head? = some c := by
        cases rest with
        | nil => simp [pathOf, Text.join, split]
        | cons second others => simp [pathOf, Text.join, split]
      rw [Path.isAbsolute, start, beq_eq_false_iff_ne]
      intro slash
      rw [Option.some.inj slash] at split
      exact unbroken (split ▸ List.mem_cons_self)

namespace Path

section Join

variable (base path : List Char) (relative : isAbsolute path = false)
include relative

theorem start_join (tree : Tree) : tree.startOf (join base path) = tree.startOf base := by
  rw [join, relative, Bool.false_or]
  cases base with
  | nil =>
      rw [List.isEmpty_nil, if_pos rfl, Tree.startOf, relative]
      rfl
  | cons c rest =>
      simp only [List.isEmpty_cons, Bool.false_eq_true, if_false]
      split <;> rfl

theorem steps_join : steps (join base path) = steps base ++ steps path := by
  rw [join, relative, Bool.false_or]
  by_cases empty : base.isEmpty = true
  · rw [if_pos empty, List.isEmpty_iff.mp empty]
    rfl
  · rw [if_neg empty]
    by_cases slash : base.getLast? = some '/'
    · rw [if_pos slash]
      obtain ⟨outer, rfl⟩ := List.getLast?_eq_some_iff.mp slash
      rw [List.append_assoc, List.singleton_append, steps, Text.parts_at, steps, Text.parts_at, steps]
      simp [Text.parts, Text.split]
    · rw [if_neg slash, steps, Text.parts_at]
      rfl

end Join

end Path

end LinkPress.Files
