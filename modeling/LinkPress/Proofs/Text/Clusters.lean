import LinkPress.Text.Alphanumeric
import LinkPress.Text.Blank
import LinkPress.Text.Cluster
import Mathlib.Data.List.Chain

set_option autoImplicit false

/- What holds a cluster together. Each character but the first goes on from the one in front of it,
   and a blank or an ASCII character goes on from hardly any: from a sign that attaches to what is
   behind it, and within the line end of two characters. -/
namespace LinkPress.Text

-- The second character can go on in a cluster from the first one.
def GoesOn (front back : Char) : Prop :=
  ∃ state : ClusterState, state.last = clusterClass front ∧ state.continues back = true

theorem clusters_from_going (state : ClusterState) (cluster text : List Char)
    (last : ∀ c ∈ cluster.head?, state.last = clusterClass c) (going : cluster.reverse.IsChain GoesOn) :
    ∀ piece ∈ clustersFrom state cluster text, piece.IsChain GoesOn := by
  induction text generalizing state cluster with
  | nil => simpa [clustersFrom] using going
  | cons c rest ih =>
      rw [clustersFrom]
      by_cases more : state.continues c = true
      · rw [if_pos more]
        refine ih (state.next c) (c :: cluster) (by simp [ClusterState.next]) ?_
        rw [List.reverse_cons, List.isChain_append, List.getLast?_reverse]
        refine ⟨going, .singleton c, ?_⟩
        intro front isFront back isBack
        obtain rfl : c = back := by simpa using isBack
        exact ⟨state, last front isFront, more⟩
      · rw [if_neg more, List.forall_mem_cons]
        exact ⟨going, ih (ClusterState.ofChar c) [c] (by simp [ClusterState.ofChar]) (.singleton c)⟩

theorem clusters_going (text : List Char) : ∀ piece ∈ clusters text, piece.IsChain GoesOn := by
  cases text with
  | nil => simp [clusters]
  | cons c rest => exact clusters_from_going (ClusterState.ofChar c) [c] rest (by simp [ClusterState.ofChar]) (.singleton c)

theorem going_front (cluster : List Char) (going : cluster.IsChain GoesOn) (c : Char) (member : c ∈ cluster) :
    cluster.head? = some c ∨ ∃ front, [front, c] <:+: cluster ∧ GoesOn front c := by
  obtain ⟨before, behind, rfl⟩ := List.append_of_mem member
  rcases List.eq_nil_or_concat before with rfl | ⟨more, front, rfl⟩
  · exact .inl rfl
  · rw [List.concat_eq_append, List.append_assoc, List.singleton_append] at going ⊢
    have pair : [front, c] <:+: more ++ front :: c :: behind := ⟨more, behind, by simp⟩
    have joined : [front, c].IsChain GoesOn := going.infix pair
    exact .inr ⟨front, pair, List.isChain_pair.mp joined⟩

def blankCodes : List Nat := [0x85, 0xA0, 0x1680, 0x2000, 0x2001, 0x2002, 0x2003, 0x2004, 0x2005, 0x2006,
  0x2007, 0x2008, 0x2009, 0x200A, 0x2028, 0x2029, 0x202F, 0x205F, 0x3000]

theorem blank_code (c : Char) (blank : isBlank c = true) : c.toNat < 128 ∨ c.toNat ∈ blankCodes := by
  simp only [isBlank, Bool.or_eq_true, Bool.and_eq_true, decide_eq_true_eq, beq_iff_eq] at blank
  simp only [blankCodes, List.mem_cons, List.not_mem_nil, or_false]
  omega

-- Characters of which all else is known here.
def isPlain (c : Char) : Bool := c.toNat < 128 || isBlank c

theorem plain_code (property : Char → Prop) (holds : ∀ n ∈ List.range 128 ++ blankCodes, property (Char.ofNat n))
    (c : Char) (plain : isPlain c = true) : property c := by
  have known : c.toNat ∈ List.range 128 ++ blankCodes := by
    rw [List.mem_append, List.mem_range]
    simp only [isPlain, Bool.or_eq_true, decide_eq_true_eq] at plain
    rcases plain with ascii | blank
    · exact .inl ascii
    · exact blank_code c blank
  have own := holds c.toNat known
  rwa [Char.ofNat_toNat] at own

theorem plain_class (c : Char) (plain : isPlain c = true) :
    (clusterClass c = .return ∨ clusterClass c = .newline ∨ clusterClass c = .control ∨ clusterClass c = .other) ∧
      isConsonant c = false ∧ isPicture c = false := by
  refine plain_code (fun c => (clusterClass c = .return ∨ clusterClass c = .newline ∨ clusterClass c = .control ∨
    clusterClass c = .other) ∧ isConsonant c = false ∧ isPicture c = false) ?_ c plain
  decide +kernel

theorem plain_alphanumeric (c : Char) (plain : isPlain c = true) (counts : isAlphanumeric c = true) :
    isBlank c = false ∧ c.isAlphanum = true := by
  refine plain_code (fun c => isAlphanumeric c = true → isBlank c = false ∧ c.isAlphanum = true) ?_ c plain counts
  decide +kernel

theorem plain_goes_on (front back : Char) (plain : isPlain back = true) (going : GoesOn front back) :
    (clusterClass front = .prepend ∧ clusterClass back = .other) ∨
      (clusterClass front = .return ∧ clusterClass back = .newline) := by
  obtain ⟨state, last, going⟩ := going
  obtain ⟨classes, consonant, picture⟩ := plain_class back plain
  rw [← last]
  rw [ClusterState.continues] at going
  rcases classes with known | known | known | known
  all_goals
    rw [known] at going ⊢
    cases front : state.last
    all_goals simp [front, consonant, picture, ClusterState.isBreakAlways] at going ⊢

theorem ite_no_return {condition : Prop} [Decidable condition] {a b : ClusterClass} (left : a ≠ .return)
    (right : b ≠ .return) : (if condition then a else b) ≠ .return := by
  split
  · exact left
  · exact right

theorem return_code (c : Char) (returns : clusterClass c = .return) : c = '\r' := by
  by_contra other
  have code : ¬ (c.toNat == 13) = true := fun same => other (Char.toNat_inj.mp (beq_iff_eq.mp same))
  revert returns
  rw [clusterClass, if_neg code]
  -- No branch behind the first one is this class.
  repeat' refine ite_no_return ?_ ?_
  all_goals nofun

-- What follows a letter or a digit in its cluster follows no line end there.
theorem going_prepended (cluster : List Char) (going : cluster.IsChain GoesOn) (c : Char) (member : c ∈ cluster)
    (plain : isPlain c = true) (counts : ∃ head ∈ cluster.head?, isAlphanumeric head = true) :
    isAlphanumeric c = true ∨ ∃ front, [front, c] <:+: cluster ∧ clusterClass front = .prepend := by
  obtain ⟨head, first, counts⟩ := counts
  have headed (other : Char) (same : cluster.head? = some other) : isAlphanumeric other = true := by
    obtain rfl := Option.some.inj (first.symm.trans same)
    exact counts
  rcases going_front cluster going c member with same | ⟨front, pair, joined⟩
  · exact .inl (headed c same)
  · rcases plain_goes_on front c plain joined with ⟨prepended, -⟩ | ⟨returns, -⟩
    · exact .inr ⟨front, pair, prepended⟩
    · obtain rfl := return_code front returns
      rcases going_front cluster going '\r' (pair.subset List.mem_cons_self) with same | ⟨before, -, joined⟩
      · exact absurd (headed '\r' same) (by decide)
      · exact absurd (plain_goes_on before '\r' (by decide) joined) (by simp [show clusterClass '\r' = .return from rfl])

end LinkPress.Text
