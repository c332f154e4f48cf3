import LinkPress.Proofs.Document.HeadingIds
import LinkPress.Proofs.Text.Clusters
import LinkPress.Text.Punctuation
import Mathlib.Data.List.DropRight

set_option autoImplicit false

/- What generated ids look like. Their hyphens stand alone and between other characters. They hold no
   blank and, of ASCII, letters, digits and hyphens only, unless the heading has a letter that takes
   another character behind it into its cluster. -/
namespace LinkPress.Document

open LinkPress.Text (clusters lowercase isAlphanumeric isPlain)

def NotBothHyphens (front back : Char) : Prop := ¬ (front = '-' ∧ back = '-')

structure Hyphened (id : List Char) : Prop where
  start : id.head? ≠ some '-'
  finish : id.getLast? ≠ some '-'
  single : id.IsChain NotBothHyphens

-- Blanks, and the ASCII characters that an id or a fragment would have to escape.
def isMisfit (c : Char) : Bool := Text.isBlank c || (c.toNat < 128 && !c.isAlphanum && c != '-')

structure Usable (id : List Char) : Prop where
  hyphened : Hyphened id
  fit : ∀ c ∈ id, isMisfit c = false

theorem misfit_plain (c : Char) (misfit : isMisfit c = true) : isPlain c = true := by
  simp only [isMisfit, Bool.or_eq_true, Bool.and_eq_true, decide_eq_true_eq] at misfit
  rcases misfit with blank | ⟨⟨ascii, -⟩, -⟩
  · simp [isPlain, blank]
  · simp [isPlain, ascii]

theorem misfit_silent (c : Char) (misfit : isMisfit c = true) : isAlphanumeric c = false := by
  by_contra counts
  have known := Text.plain_alphanumeric c (misfit_plain c misfit) (by simpa using counts)
  simp [isMisfit, known.1, known.2] at misfit

theorem misfit_no_hyphen (c : Char) (misfit : isMisfit c = true) : c ≠ '-' := by
  rintro rfl
  revert misfit
  decide

theorem squeeze_head (text : List Char) : (squeeze text).head? = text.head? := by
  induction text with
  | nil => rfl
  | cons c rest ih =>
      rw [squeeze]
      by_cases run : (c = '-' && rest.head? = some '-') = true
      · rw [if_pos run, ih]
        simp only [Bool.and_eq_true, decide_eq_true_eq] at run
        rw [run.1, run.2, List.head?_cons]
      · rw [if_neg run, List.head?_cons, List.head?_cons]

theorem mem_squeeze (c : Char) (text : List Char) : c ∈ squeeze text ↔ c ∈ text := by
  induction text with
  | nil => rfl
  | cons d rest ih =>
      rw [squeeze]
      by_cases run : (d = '-' && rest.head? = some '-') = true
      · simp only [Bool.and_eq_true, decide_eq_true_eq] at run
        have again : '-' ∈ rest := List.mem_of_mem_head? run.2
        rw [if_pos (by simp [run.1, run.2]), ih, List.mem_cons, run.1]
        exact ⟨.inr, fun either => either.elim (fun same => same ▸ again) id⟩
      · rw [if_neg run, List.mem_cons, List.mem_cons, ih]

theorem squeeze_single (text : List Char) : (squeeze text).IsChain NotBothHyphens := by
  induction text with
  | nil => exact .nil
  | cons c rest ih =>
      rw [squeeze]
      by_cases run : (c = '-' && rest.head? = some '-') = true
      · rwa [if_pos run]
      · rw [if_neg run, List.isChain_cons, squeeze_head]
        refine ⟨?_, ih⟩
        rintro next first ⟨rfl, rfl⟩
        exact run (by simp [Option.mem_def.mp first])

theorem drop_hyphens_head (text : List Char) : (text.dropWhile (· == '-')).head? ≠ some '-' := by
  have kept := List.head?_dropWhile_not (· == '-') text
  intro hyphen
  rw [hyphen] at kept
  simp at kept

theorem mem_drop_hyphens (c : Char) (other : c ≠ '-') (text : List Char) :
    c ∈ text.dropWhile (· == '-') ↔ c ∈ text := by
  induction text with
  | nil => rfl
  | cons d rest ih =>
      by_cases hyphen : d = '-'
      · simp [hyphen, ih, other]
      · simp [hyphen]

theorem trim_hyphens_front (text : List Char) : trimHyphens text <+: text.dropWhile (· == '-') :=
  List.rdropWhile_prefix (· == '-') (text.dropWhile (· == '-'))

theorem mem_trim_hyphens (c : Char) (other : c ≠ '-') (text : List Char) : c ∈ trimHyphens text ↔ c ∈ text := by
  rw [trimHyphens, List.mem_reverse, mem_drop_hyphens c other, List.mem_reverse, mem_drop_hyphens c other]

theorem trim_hyphens_hyphened (text : List Char) (single : text.IsChain NotBothHyphens) :
    Hyphened (trimHyphens text) where
  start := by
    obtain ⟨ending, whole⟩ := trim_hyphens_front text
    have head := drop_hyphens_head text
    rw [← whole] at head
    intro hyphen
    rw [List.head?_append, hyphen] at head
    exact head rfl
  finish := by
    rw [trimHyphens, List.getLast?_reverse]
    exact drop_hyphens_head _
  single := single.infix ((trim_hyphens_front text).isInfix.trans (List.dropWhile_suffix _).isInfix)

theorem slug_chars (text : String) :
    (slug text).toList = trimHyphens (squeeze ((clusters (lowercase text.toList)).flatMap slugPart)) := by
  rw [slug, String.toList_ofList]

theorem slug_hyphened (text : String) : Hyphened (slug text).toList := by
  rw [slug_chars]
  exact trim_hyphens_hyphened _ (squeeze_single _)

theorem mem_slug_part (cluster : List Char) (c : Char) (other : c ≠ '-') :
    c ∈ slugPart cluster ↔ c ∈ cluster ∧ ∃ head ∈ cluster.head?, isAlphanumeric head = true := by
  match cluster with
  | [] => simp [slugPart]
  | [d] =>
      by_cases separates : (d == ' ' || d == '_' || d == '\t' || d == '\n' || d == '-') = true
      · have silent : isAlphanumeric d = false := by
          simp only [Bool.or_eq_true, beq_iff_eq] at separates
          rcases separates with (((rfl | rfl) | rfl) | rfl) | rfl <;> rfl
        rw [slugPart, if_pos separates]
        simp [silent, other]
      · rw [slugPart, if_neg separates]
        by_cases counts : isAlphanumeric d = true <;> simp [counts]
  | d :: e :: rest =>
      rw [slugPart]
      · by_cases counts : isAlphanumeric d = true <;> simp [counts]
      · nofun

theorem mem_slug (text : String) (c : Char) (other : c ≠ '-') :
    c ∈ (slug text).toList ↔ ∃ cluster ∈ clusters (lowercase text.toList), c ∈ cluster ∧
      ∃ head ∈ cluster.head?, isAlphanumeric head = true := by
  rw [slug_chars, mem_trim_hyphens c other, mem_squeeze, List.mem_flatMap]
  simp only [mem_slug_part _ c other]

-- A cluster that the slug keeps holds a misfit, behind a sign that takes it in.
def CarriesMisfit (text : String) : Prop :=
  ∃ cluster ∈ clusters (lowercase text.toList), (∃ head ∈ cluster.head?, isAlphanumeric head = true) ∧
    ∃ front misfit, [front, misfit] <:+: cluster ∧ Text.clusterClass front = .prepend ∧ isMisfit misfit = true

theorem slug_fit_iff (text : String) : (∀ c ∈ (slug text).toList, isMisfit c = false) ↔ ¬ CarriesMisfit text := by
  constructor
  · rintro fit ⟨cluster, inText, counts, front, c, pair, -, misfit⟩
    have inside : c ∈ cluster := pair.subset (by simp)
    have inSlug := (mem_slug text c (misfit_no_hyphen c misfit)).mpr ⟨cluster, inText, inside, counts⟩
    simp [fit c inSlug] at misfit
  · intro free c inSlug
    by_contra misfit
    rw [Bool.not_eq_false] at misfit
    obtain ⟨cluster, inText, inside, counts⟩ := (mem_slug text c (misfit_no_hyphen c misfit)).mp inSlug
    have going := Text.clusters_going _ cluster inText
    rcases Text.going_prepended cluster going c inside (misfit_plain c misfit) counts with own | ⟨front, pair, prepended⟩
    · simp [misfit_silent c misfit] at own
    · exact free ⟨cluster, inText, counts, front, c, pair, prepended, misfit⟩

theorem digit_fit (c : Char) (digit : c.isDigit = true) : isMisfit c = false ∧ c ≠ '-' := by
  have plain : isPlain c = true := by
    simp only [Char.isDigit, Bool.and_eq_true, decide_eq_true_eq, ge_iff_le, UInt32.le_iff_toNat_le] at digit
    have ascii : c.toNat < 128 := Nat.lt_of_le_of_lt digit.2 (by decide)
    simp [isPlain, ascii]
  refine Text.plain_code (fun c => c.isDigit = true → isMisfit c = false ∧ c ≠ '-') ?_ c plain digit
  decide +kernel

theorem number_digits (n : Nat) : (toString n).toList ≠ [] ∧ ∀ c ∈ (toString n).toList, c.isDigit = true := by
  rw [Nat.toString_eq_repr, Nat.toList_repr]
  exact ⟨Nat.toDigits_ne_nil, fun c member => Nat.isDigit_of_mem_toDigits (by decide) (by decide) member⟩

theorem hyphened_join (front back : List Char) (hyphened : Hyphened front) (some : front ≠ []) (more : back ≠ [])
    (plain : ∀ c ∈ back, c ≠ '-') : Hyphened (front ++ '-' :: back) where
  start := by
    rw [List.head?_append_of_ne_nil _ some]
    exact hyphened.start
  finish := by
    obtain ⟨rest, last, rfl⟩ := (List.eq_nil_or_concat back).resolve_left more
    have own := plain last (by simp)
    simpa [List.getLast?_append, List.getLast?_cons] using own
  single := by
    rw [List.isChain_append, List.isChain_cons]
    refine ⟨hyphened.single, ⟨?_, ?_⟩, ?_⟩
    · rintro c first ⟨-, hyphen⟩
      exact plain c (List.mem_of_mem_head? first) hyphen
    · have pairs : back.Pairwise NotBothHyphens :=
        List.pairwise_of_forall_mem_list fun c inside _ _ hyphens => plain c inside hyphens.1
      exact pairs.isChain
    · rintro c last d - ⟨rfl, -⟩
      exact hyphened.finish last

theorem candidate_hyphened (base : String) (worded : base ≠ "") (hyphened : Hyphened base.toList) (n : Nat) :
    Hyphened (candidate base n).toList := by
  cases n with
  | zero => exact hyphened
  | succ n =>
      obtain ⟨digits, numeric⟩ := number_digits (n + 1)
      rw [candidate_chars]
      exact hyphened_join _ _ hyphened (by simpa using worded) digits fun c member => (digit_fit c (numeric c member)).2

theorem candidate_fit_iff (base : String) (n : Nat) :
    (∀ c ∈ (candidate base n).toList, isMisfit c = false) ↔ ∀ c ∈ base.toList, isMisfit c = false := by
  cases n with
  | zero => rfl
  | succ n =>
      have digits := (number_digits (n + 1)).2
      rw [candidate_chars]
      simp only [List.mem_append, List.mem_cons]
      constructor
      · exact fun fit c member => fit c (.inl member)
      · rintro fit c (inBase | rfl | digit)
        · exact fit c inBase
        · rfl
        · exact (digit_fit c (digits c digit)).1

theorem given_usable_iff (taken : List String) (heading : Heading) (text id : String) (missing : heading.id = none)
    (given : (identify taken heading text).1.id = some id) : Usable id.toList ↔ ¬ CarriesMisfit text := by
  rcases identify_cases taken ⟨heading, text⟩ with ⟨other, written, -⟩ | ⟨-, -, same⟩ | ⟨other, -, worded, rfl, same⟩
  · simp [missing] at written
  · simp [same, missing] at given
  · rw [same, Option.some.injEq] at given
    obtain ⟨n, -, chosen, -⟩ := free_id_first taken (slug text)
    rw [← given, chosen, ← slug_fit_iff, ← candidate_fit_iff (slug text) n]
    exact ⟨Usable.fit, fun fit => ⟨candidate_hyphened _ worded (slug_hyphened text) n, fit⟩⟩

theorem slug_usable_iff (text : String) :
    Hyphened (slug text).toList ∧ (Usable (slug text).toList ↔ ¬ CarriesMisfit text) ∧
      ∀ taken heading id, heading.id = none → (identify taken heading text).1.id = some id →
        (Usable id.toList ↔ ¬ CarriesMisfit text) := by
  refine ⟨slug_hyphened text, ?_, fun taken heading id => given_usable_iff taken heading text id⟩
  rw [← slug_fit_iff]
  exact ⟨Usable.fit, fun fit => ⟨slug_hyphened text, fit⟩⟩

-- The letter U+0D4E stands in front of the one that it is read behind, and so
-- takes the mark into its cluster.
theorem mark_behind_letter_kept :
    slug "\u0d4e#" = "\u0d4e#" ∧ Text.isAsciiPunctuation '#' = true ∧ ¬ Usable (slug "\u0d4e#").toList := by
  have kept : slug "\u0d4e#" = "\u0d4e#" := by decide +kernel
  refine ⟨kept, by decide, fun usable => ?_⟩
  have fit := usable.fit '#' (by simp [kept])
  revert fit
  decide

end LinkPress.Document
