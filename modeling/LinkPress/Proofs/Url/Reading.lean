import LinkPress.Url.Address
import Mathlib.Data.List.Basic
import Mathlib.Tactic.FinCases

set_option autoImplicit false

/- What an address says to those who read it: the host it leads to, the place there, and what it asks
   for. An address of plain characters says what it was made of and nothing else. -/
namespace LinkPress.Url

structure Parts where
  scheme : List Char
  user : Option (List Char)
  host : List Char
  port : Option (List Char)
  path : List Char
  query : Option (List Char)
  fragment : Option (List Char)
deriving DecidableEq, Repr

-- What stands in front of the first mark and, if there is one, what stands behind it.
def cutAt (mark : Char) : List Char → List Char × Option (List Char)
  | [] => ([], none)
  | c :: rest => if c = mark then ([], some rest) else ((c :: (cutAt mark rest).1), (cutAt mark rest).2)

-- Readers drop or reinterpret blanks, control characters and backslashes, so an
-- address with one of them has no reading here.
def isLegible (c : Char) : Bool := 0x20 < c.toNat && c.toNat < 0x7F && c != '\\'

-- Reads what stands behind the two slashes. The fragment is cut off first, then
-- the query; the last at sign ends what is said about the user.
def Parts.ofRest (scheme rest : List Char) : Parts :=
  let (rest, fragment) := cutAt '#' rest
  let (rest, query) := cutAt '?' rest
  let (authority, path) := cutAt '/' rest
  let (back, user) := cutAt '@' authority.reverse
  let (host, port) := cutAt ':' back.reverse
  ⟨scheme, user.map List.reverse, host, port, path.elim [] ('/' :: ·), query, fragment⟩

def Parts.read? (text : List Char) : Option Parts :=
  if text.all isLegible then
    match cutAt ':' text with
    | (scheme, some ('/' :: '/' :: rest)) => some (.ofRest scheme rest)
    | _ => none
  else none

theorem cut_found (mark : Char) (front back : List Char) (absent : mark ∉ front) :
    cutAt mark (front ++ mark :: back) = (front, some back) := by
  induction front with
  | nil => simp [cutAt]
  | cons c more ih =>
      rw [List.mem_cons, not_or] at absent
      rw [List.cons_append, cutAt, if_neg (Ne.symm absent.1), ih absent.2]

theorem cut_missing (mark : Char) (text : List Char) (absent : mark ∉ text) : cutAt mark text = (text, none) := by
  induction text with
  | nil => rfl
  | cons c more ih =>
      rw [List.mem_cons, not_or] at absent
      rw [cutAt, if_neg (Ne.symm absent.1), ih absent.2]

def isHostChar (c : Char) : Bool := c.isAlphanum || c == '-' || c == '.'
def isPathChar (c : Char) : Bool := keptInSegment c || c == '%'
def isValueChar (c : Char) : Bool := keptInForm c || c == '+' || c == '%'

def PlainPath (path : List (List Char)) : Prop := ∀ segment ∈ path, ∀ c ∈ segment, isPathChar c = true

-- An address made of plain characters. The query, if there is one, may hold keys
-- with their values.
structure Address.Plain (address : Address) : Prop where
  host : ∀ c ∈ address.host.toList, isHostChar c = true
  path : PlainPath address.path
  query : ∀ query ∈ address.query, ∀ c ∈ query, isValueChar c = true ∨ c = '='

theorem alphanum_range (c : Char) (alphanum : c.isAlphanum = true) : 48 ≤ c.toNat ∧ c.toNat ≤ 122 := by
  change (decide (c.val ≥ 'A'.val ∧ c.val ≤ 'Z'.val) || (decide (c.val ≥ 'a'.val) && decide (c.val ≤ 'z'.val)) ||
    (decide (c.val ≥ '0'.val) && decide (c.val ≤ '9'.val))) = true at alphanum
  simp only [Bool.or_eq_true, Bool.and_eq_true, decide_eq_true_eq, ge_iff_le, UInt32.le_iff_toNat_le] at alphanum
  have upper : 'A'.val.toNat = 65 ∧ 'Z'.val.toNat = 90 := ⟨rfl, rfl⟩
  have lower : 'a'.val.toNat = 97 ∧ 'z'.val.toNat = 122 := ⟨rfl, rfl⟩
  have digit : '0'.val.toNat = 48 ∧ '9'.val.toNat = 57 := ⟨rfl, rfl⟩
  simp only [Char.toNat]
  omega

theorem legible_of_range (c : Char) (low : 0x20 < c.toNat) (high : c.toNat < 0x7F) (mark : c ≠ '\\') :
    isLegible c = true := by
  simp [isLegible, low, high, mark]

theorem host_char_plain (c : Char) (plain : isHostChar c = true) :
    isLegible c = true ∧ c ≠ ':' ∧ c ≠ '/' ∧ c ≠ '?' ∧ c ≠ '#' ∧ c ≠ '@' := by
  have distinct (mark : Char) (other : isHostChar mark = false) : c ≠ mark := by
    rintro rfl
    simp [plain] at other
  refine ⟨?_, distinct _ rfl, distinct _ rfl, distinct _ rfl, distinct _ rfl, distinct _ rfl⟩
  have unmarked := distinct '\\' rfl
  simp only [isHostChar, Bool.or_eq_true, beq_iff_eq] at plain
  rcases plain with (alphanum | rfl) | rfl
  · have range := alphanum_range c alphanum
    exact legible_of_range c (by omega) (by omega) unmarked
  · rfl
  · rfl

theorem path_char_plain (c : Char) (plain : isPathChar c = true) :
    isLegible c = true ∧ c ≠ '/' ∧ c ≠ '?' ∧ c ≠ '#' := by
  have distinct (mark : Char) (other : isPathChar mark = false) : c ≠ mark := by
    rintro rfl
    simp [plain] at other
  refine ⟨?_, distinct _ (by decide), distinct _ (by decide), distinct _ (by decide)⟩
  have unmarked := distinct '\\' (by decide)
  simp only [isPathChar, keptInSegment, Bool.or_eq_true, Bool.and_eq_true, decide_eq_true_eq, beq_iff_eq] at plain
  rcases plain with ⟨⟨low, high⟩, -⟩ | rfl
  · exact legible_of_range c low high unmarked
  · rfl

theorem query_char_plain (c : Char) (plain : isValueChar c = true ∨ c = '=') : isLegible c = true ∧ c ≠ '#' := by
  have distinct (mark : Char) (other : isValueChar mark = false) (unequal : mark ≠ '=') : c ≠ mark := by
    rintro rfl
    rcases plain with plain | rfl
    · simp [plain] at other
    · exact unequal rfl
  refine ⟨?_, distinct _ (by decide) (by decide)⟩
  have unmarked := distinct '\\' (by decide) (by decide)
  rcases plain with plain | rfl
  · simp only [isValueChar, keptInForm, Bool.or_eq_true, beq_iff_eq] at plain
    rcases plain with ((alphanum | mark) | rfl) | rfl
    · have range := alphanum_range c alphanum
      exact legible_of_range c (by omega) (by omega) unmarked
    · simp only [List.contains_iff_mem] at mark
      fin_cases mark <;> rfl
    · rfl
    · rfl
  · rfl

namespace Address

variable (address : Address)

def pathText : List Char := '/' :: Text.join ['/'] address.path
def queryText : List Char := address.query.elim [] ('?' :: ·)
def rest : List Char := address.host.toList ++ pathText address ++ queryText address

theorem render_chars : address.render.toList = "https".toList ++ ':' :: '/' :: '/' :: rest address := by
  rw [render, rest, pathText, queryText]
  cases address.query <;> simp

variable {address}

theorem path_text_plain (plain : address.Plain) :
    ∀ c ∈ pathText address, isLegible c = true ∧ c ≠ '?' ∧ c ≠ '#' := by
  intro c member
  rcases List.mem_cons.mp member with rfl | member
  · decide
  rcases Text.mem_join '/' address.path c member with rfl | ⟨segment, inPath, inSegment⟩
  · decide
  · have known := path_char_plain c (plain.path segment inPath c inSegment)
    exact ⟨known.1, known.2.2⟩

theorem query_text_plain (plain : address.Plain) : ∀ c ∈ queryText address, isLegible c = true ∧ c ≠ '#' := by
  intro c member
  cases asked : address.query with
  | none => simp [queryText, asked] at member
  | some query =>
      simp only [queryText, asked, Option.elim_some, List.mem_cons] at member
      rcases member with rfl | member
      · decide
      · exact query_char_plain c (plain.query query asked c member)

theorem rest_plain (plain : address.Plain) : ∀ c ∈ rest address, isLegible c = true ∧ c ≠ '#' := by
  intro c member
  simp only [rest, List.mem_append] at member
  rcases member with (inHost | inPath) | inQuery
  · have known := host_char_plain c (plain.host c inHost)
    exact ⟨known.1, known.2.2.2.2.1⟩
  · have known := path_text_plain plain c inPath
    exact ⟨known.1, known.2.2⟩
  · exact query_text_plain plain c inQuery

variable (address)

def parts : Parts := ⟨"https".toList, none, address.host.toList, none, pathText address, address.query, none⟩

variable {address}

theorem parts_of_rest (plain : address.Plain) : Parts.ofRest "https".toList (rest address) = parts address := by
  have inHost (mark : Char) (other : ∀ c, isHostChar c = true → c ≠ mark) : mark ∉ address.host.toList :=
    fun member => other mark (plain.host mark member) rfl
  have fragment := cut_missing '#' (rest address) fun member => (rest_plain plain '#' member).2 rfl
  have query : cutAt '?' (rest address) = (address.host.toList ++ pathText address, address.query) := by
    have absent : '?' ∉ address.host.toList ++ pathText address := by
      rw [List.mem_append, not_or]
      exact ⟨inHost '?' fun c plain => (host_char_plain c plain).2.2.2.1,
        fun member => (path_text_plain plain '?' member).2.1 rfl⟩
    cases asked : address.query with
    | none => simpa [rest, queryText, asked] using cut_missing '?' _ absent
    | some query => simpa [rest, queryText, asked] using cut_found '?' _ query absent
  have path := cut_found '/' address.host.toList (Text.join ['/'] address.path)
    (inHost '/' fun c plain => (host_char_plain c plain).2.2.1)
  have user := cut_missing '@' address.host.toList.reverse fun member =>
    inHost '@' (fun c plain => (host_char_plain c plain).2.2.2.2.2) (List.mem_reverse.mp member)
  have port := cut_missing ':' address.host.toList (inHost ':' fun c plain => (host_char_plain c plain).2.1)
  rw [Parts.ofRest, fragment]
  dsimp only
  rw [query]
  dsimp only [pathText]
  rw [path]
  dsimp only
  rw [user]
  dsimp only
  rw [List.reverse_reverse, port]
  rfl

theorem read_render (plain : address.Plain) : Parts.read? address.render.toList = some (parts address) := by
  have legible : address.render.toList.all isLegible = true := by
    rw [render_chars, List.all_append]
    simpa [isLegible] using fun c member => (rest_plain plain c member).1
  have scheme := cut_found ':' "https".toList ('/' :: '/' :: rest address) (by decide)
  rw [Parts.read?, if_pos legible, render_chars, scheme]
  exact congrArg some (parts_of_rest plain)

end Address
end LinkPress.Url
