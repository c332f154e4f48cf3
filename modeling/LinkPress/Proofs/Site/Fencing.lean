import LinkPress.Proofs.Site.FrontMatter
import LinkPress.Proofs.Text.Trimming

set_option autoImplicit false

/- Settings put in front of a page between two fences are read back, and the page behind them with not a
   character lost, whatever blanks and line ends the fences are written with and whoever reads the settings. -/
namespace LinkPress.Site.FrontMatter

open LinkPress.Text (Row LineEnd rows textOf isBlank trim rows_line rows_last rows_closed text_of_rows text_of_cons
  trim_nil_iff)

structure Fence where
  gaps : List Char
  blank : ∀ c ∈ gaps, c = ' ' ∨ c = '\t'

def Fence.chars (fence : Fence) : List Char := '-' :: '-' :: '-' :: fence.gaps

-- How the fences around the settings are written.
structure Fencing where
  opening : Fence
  behindOpening : LineEnd
  behindSettings : LineEnd
  closing : Fence

def Fencing.block (fencing : Fencing) (settings : List Char) : List Char :=
  fencing.opening.chars ++
    (fencing.behindOpening.chars ++ (settings ++ (fencing.behindSettings.chars ++ fencing.closing.chars)))

theorem fence_plain (fence : Fence) (c : Char) (member : c ∈ fence.chars) : c = '-' ∨ c = ' ' ∨ c = '\t' := by
  simp only [Fence.chars, List.mem_cons] at member
  rcases member with hyphen | hyphen | hyphen | gap
  · exact .inl hyphen
  · exact .inl hyphen
  · exact .inl hyphen
  · exact .inr (fence.blank c gap)

theorem fence_feedless (fence : Fence) : '\n' ∉ fence.chars := by
  intro member
  have plain := fence_plain fence _ member
  revert plain
  decide

theorem fence_returnless (fence : Fence) : '\r' ∉ fence.chars := by
  intro member
  have plain := fence_plain fence _ member
  revert plain
  decide

theorem is_fence_written (fence : Fence) (ending : List Char) : isFence ⟨fence.chars, ending⟩ = true := by
  rw [isFence, Fence.chars]
  apply List.all_eq_true.mpr
  intro c member
  rcases fence.blank c member with rfl | rfl <;> rfl

theorem at_fence_first (inner behind : List Row) (fence : Row) (unfenced : ∀ row ∈ inner, isFence row = false)
    (closes : isFence fence = true) : atFence? (inner ++ fence :: behind) = some (inner, behind) := by
  induction inner with
  | nil => rw [List.nil_append, at_fence_cons, if_pos closes]
  | cons row rest ih =>
      rw [List.forall_mem_cons] at unfenced
      rw [List.cons_append, at_fence_cons, unfenced.1, ih unfenced.2]
      rfl

theorem joined_last (front : List Row) (content ending : List Char) :
    joined (front ++ [⟨content, ending⟩]) = textOf front ++ content := by
  induction front with
  | nil => rfl
  | cons row rest ih =>
      rw [text_of_cons, List.append_assoc, ← ih]
      cases rest <;> rfl

-- The rows of settings with a line end behind them: they hold the settings, and behind the first of them
-- there is no fence if there is none behind the first row of the settings.
theorem settings_rows (settings : List Char) (ending : LineEnd)
    (unfenced : ∀ row ∈ (rows settings).tail, isFence row = false) (unreturned : settings.getLast? ≠ some '\r') :
    ∃ first inner, (∀ back, rows (settings ++ (ending.chars ++ back)) = first :: (inner ++ rows back)) ∧
      joined (first :: inner) = settings ∧ ∀ row ∈ inner, isFence row = false := by
  obtain ⟨front, content, closed, own⟩ := rows_closed settings ending unreturned
  have held : joined (front ++ [⟨content, ending.chars⟩]) = settings := by
    rw [joined_last, ← text_of_rows settings]
    rcases own with lone | ⟨rfl, ended⟩
    · rw [lone, textOf, textOf, List.flatMap_append, List.flatMap_singleton, Row.text, List.append_nil]
    · rw [ended, List.append_nil]
  cases front with
  | nil => exact ⟨⟨content, ending.chars⟩, [], closed, held, List.forall_mem_nil _⟩
  | cons first more =>
      refine ⟨first, more ++ [(⟨content, ending.chars⟩ : Row)], ?_, held, ?_⟩
      · intro back
        rw [closed, List.cons_append, List.append_assoc, List.singleton_append]
      · rw [List.forall_mem_append, List.forall_mem_singleton]
        rcases own with lone | ⟨rfl, ended⟩
        · rw [lone, List.cons_append, List.tail_cons, List.forall_mem_append, List.forall_mem_singleton] at unfenced
          exact unfenced
        · rw [ended, List.tail_cons] at unfenced
          exact ⟨unfenced, rfl⟩

-- The rows of a block are the fences around those of the settings, so the search for the closing fence stops
-- at the one that was written.
theorem split_block (fencing : Fencing) (settings behind ending : List Char) (more : List Row)
    (closing : rows (fencing.closing.chars ++ behind) = ⟨fencing.closing.chars, ending⟩ :: more)
    (unfenced : ∀ row ∈ (rows settings).tail, isFence row = false) (unreturned : settings.getLast? ≠ some '\r') :
    split? (fencing.block settings ++ behind) = some (settings, textOf more) := by
  obtain ⟨first, inner, held, same, plain⟩ := settings_rows settings fencing.behindSettings unfenced unreturned
  have cut : rows (fencing.block settings ++ behind) =
      ⟨fencing.opening.chars, fencing.behindOpening.chars⟩ ::
        first :: (inner ++ ⟨fencing.closing.chars, ending⟩ :: more) := by
    simp only [Fencing.block, List.append_assoc]
    rw [rows_line _ _ _ (fence_feedless _) (fence_returnless _), held, closing]
  rw [split_rows, cut]
  dsimp only
  rw [if_pos (is_fence_written _ _), at_fence_first inner more _ plain (is_fence_written _ _), Option.map_some, halves,
    same]

section Read

variable [Readers]

theorem of_chars_settings (settings : List Char) :
    ofChars settings = if settings.all isBlank then .ok default else Readers.settings .page decode? settings := by
  have blank : (trim settings).isEmpty = settings.all isBlank := by
    rw [Bool.eq_iff_iff, List.isEmpty_iff, List.all_eq_true]
    exact trim_nil_iff settings
  rw [ofChars, blank]

theorem read_split (text settings body : List Char) (cut : split? text = some (settings, body)) :
    read (String.ofList text) = (ofChars settings).map fun found => (found, String.ofList body) := by
  rw [read, String.toList_ofList, cut]

theorem settings_read_back (fencing : Fencing) (ending : LineEnd) (settings body : String)
    (unfenced : ∀ row ∈ (rows settings.toList).tail, isFence row = false)
    (unreturned : settings.toList.getLast? ≠ some '\r') :
    let found := if settings.toList.all isBlank then .ok default else Readers.settings .page decode? settings.toList
    read (String.ofList (fencing.block settings.toList ++ (ending.chars ++ body.toList))) =
        found.map (fun front => (front, body)) ∧
      read (String.ofList (fencing.block settings.toList)) = found.map fun front => (front, "") := by
  intro found
  have opened := fence_feedless fencing.closing
  have closed := fence_returnless fencing.closing
  constructor
  · have cut := split_block fencing settings.toList (ending.chars ++ body.toList) ending.chars (rows body.toList)
      (rows_line _ _ _ opened closed) unfenced unreturned
    rw [read_split _ _ _ cut, of_chars_settings, text_of_rows, String.ofList_toList]
  · have cut := split_block fencing settings.toList [] [] []
      (by rw [List.append_nil]; exact rows_last _ (List.cons_ne_nil _ _) opened closed) unfenced unreturned
    rw [List.append_nil] at cut
    rw [read_split _ _ _ cut, of_chars_settings]
    rfl

end Read

-- Settings that begin with a fence of their own, and a body that begins with one.
def mixedFencing : Fencing := ⟨⟨[' '], by simp⟩, .both, .feed, ⟨['\t'], by simp⟩⟩

theorem fenced_title_read_back :
    (∀ row ∈ (rows "---\ntitle: T".toList).tail, isFence row = false) ∧
      "---\ntitle: T".toList.getLast? ≠ some '\r' ∧
      read "--- \r\n---\ntitle: T\n---\t\r\n---\nBody" = .ok (⟨some "T", none, false, true⟩, "---\nBody") ∧
      read "--- \r\n---\ntitle: T\n---\t" = .ok (⟨some "T", none, false, true⟩, "") := by
  have unfenced : ∀ row ∈ (rows "---\ntitle: T".toList).tail, isFence row = false := by decide
  have unreturned : "---\ntitle: T".toList.getLast? ≠ some '\r' := by decide
  have decoded : Readers.settings .page decode? "---\ntitle: T".toList = .ok ⟨some "T", none, false, true⟩ := by cbv
  obtain ⟨whole, ended⟩ := settings_read_back mixedFencing .both "---\ntitle: T" "---\nBody" unfenced unreturned
  have filled : "---\ntitle: T".toList.all isBlank = false := by decide
  have block : String.ofList (mixedFencing.block "---\ntitle: T".toList) = "--- \r\n---\ntitle: T\n---\t" := by rfl
  have page : String.ofList (mixedFencing.block "---\ntitle: T".toList ++ (LineEnd.both.chars ++ "---\nBody".toList)) =
      "--- \r\n---\ntitle: T\n---\t\r\n---\nBody" := by rfl
  rw [page, filled, decoded] at whole
  rw [block, filled, decoded] at ended
  exact ⟨unfenced, unreturned, whole, ended⟩

end LinkPress.Site.FrontMatter
