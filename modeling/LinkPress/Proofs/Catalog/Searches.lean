import LinkPress.Proofs.Catalog.Hosts
import LinkPress.Proofs.Url.Forms

set_option autoImplicit false

/- Entries that search. The address they answer asks for the text under the key of the entry, and a
   reader of the address finds the text as it was given, so different texts have different addresses. -/
namespace LinkPress.Catalog

open LinkPress.Shortcut LinkPress.Url

structure SearchPage where
  names : List String
  title : String
  host : String
  path : List String
  key : String
  -- The path of the pages that numbers have, if they are not searched for.
  numbers : Option (List String)

def searchPages : List SearchPage := [
  ⟨["google", "g"], "google", "www.google.com", ["search"], "q", none⟩,
  ⟨["duckduckgo", "ddg"], "duckduckgo", "duckduckgo.com", [""], "q", none⟩,
  ⟨["youtube", "yt"], "youtube", "www.youtube.com", ["results"], "search_query", none⟩,
  ⟨["stackoverflow", "so"], "stackoverflow", "stackoverflow.com", ["search"], "q", some ["q", ""]⟩]

namespace SearchPage

variable (search : SearchPage)

def start : Address := .under search.host search.path

def answer (query : String) : Resolution :=
  match search.numbers with
  | some path => if isDigits query.toList then page search.host path [query.toList]
      else Catalog.search search.host search.path search.key query
  | none => Catalog.search search.host search.path search.key query

def Searched (text : String) : Prop :=
  Text.trim text.toList ≠ [] ∧ (search.numbers ≠ none → isDigits (Text.trim text.toList) = false)

end SearchPage

theorem search_resolver (search : SearchPage) (member : search ∈ searchPages) (name : String)
    (known : name ∈ search.names) : table.get? name = some (plain search.title search.answer) := by
  fin_cases member <;> fin_cases known <;> simp [Table.get?, table, entries] <;> rfl

theorem search_plain (search : SearchPage) (member : search ∈ searchPages) :
    search.start.Plain ∧ ∀ path ∈ search.numbers, (Address.under search.host path).Plain := by
  have host : ∀ search ∈ searchPages, search.host.toList.all isHostChar = true := by decide
  have path : ∀ search ∈ searchPages,
    search.path.all (fun segment => segment.toList.all isPathChar) = true := by decide
  have numbers : ∀ search ∈ searchPages, ∀ path ∈ search.numbers,
    path.all (fun segment => segment.toList.all isPathChar) = true := by decide
  exact ⟨under_plain _ _ (host search member) (path search member), fun path given =>
    under_plain _ _ (host search member) (numbers search member path given)⟩

theorem render_pair (address : Address) (key value : List Char) (unasked : address.query = none) :
    (address.withPair key value).render =
      address.render ++ "?" ++ String.ofList (encodeForm key ++ '=' :: encodeForm value) := by
  simp [Address.render, Address.withPair, unasked, String.append_assoc]

section

variable (search : SearchPage) (member : search ∈ searchPages) (name : String) (known : name ∈ search.names)
include member known

theorem search_resolved (text : String) (searched : search.Searched text) :
    table.resolve name none text =
      .success (search.start.withPair search.key.toList (Text.trim text.toList)).render := by
  have answered : search.answer (Text.trimmed text) =
      Catalog.search search.host search.path search.key (Text.trimmed text) := by
    rw [SearchPage.answer]
    cases numbers : search.numbers with
    | none => rfl
    | some path =>
        have unnumbered := searched.2 (by simp [numbers])
        dsimp only
        rw [if_neg (by simp [Text.trimmed_chars, unnumbered])]
  rw [Table.resolve, search_resolver search member name known]
  dsimp only
  rw [plain, Text.argument_nonblank text searched.1]
  dsimp only
  rw [answered, Catalog.search, Text.trimmed_chars, SearchPage.start]

-- A blank text has no address, and the address of a number does not ask.
theorem unsearched_resolved (text : String) (unsearched : ¬ search.Searched text) (url : String)
    (answered : table.resolve name none text = .success url) :
    ∃ parts, Parts.read? url.toList = some parts ∧ parts.query = none := by
  rw [Table.resolve, search_resolver search member name known] at answered
  dsimp only at answered
  by_cases blank : Text.trim text.toList = []
  · rw [plain, Text.argument_blank text blank] at answered
    cases answered
  · rw [SearchPage.Searched, not_and, Classical.not_imp, Bool.not_eq_false] at unsearched
    obtain ⟨some, number⟩ := unsearched blank
    obtain ⟨path, numbers⟩ := Option.ne_none_iff_exists'.mp some
    rw [plain, Text.argument_nonblank text blank] at answered
    simp only [SearchPage.answer, numbers, Text.trimmed_chars, number, if_true, page,
      Resolution.success.injEq] at answered
    have kept := extend_kept (Address.under search.host path) [Text.trim text.toList]
    have plain := Address.extend_plain _ [Text.trim text.toList] ((search_plain search member).2 path numbers)
    exact ⟨_, answered ▸ Address.read_render plain, kept.2⟩

theorem searched_texts_read_back (text : String) (searched : search.Searched text) :
    ∃ url query parts, table.resolve name none text = .success url ∧
      url = search.start.render ++ "?" ++ String.ofList query ∧
      Parts.read? url.toList = some parts ∧ parts.query = some query ∧
      readForm? query = some [(search.key, Text.trimmed text)] ∧
      ∀ other, table.resolve name none other = .success url → Text.trimmed other = Text.trimmed text := by
  have start := (search_plain search member).1
  have read (value : List Char) := Address.read_render (Address.with_pair_plain start search.key.toList value)
  have form (text : String) := read_form_encoded search.key.toList (Text.trim text.toList)
  refine ⟨_, encodeForm search.key.toList ++ '=' :: encodeForm (Text.trim text.toList), _,
    search_resolved search member name known text searched, render_pair _ _ _ rfl, read _, ?_, ?_, ?_⟩
  · simp [Address.parts, Address.withPair]
  · rw [form, String.ofList_toList, Text.trimmed]
  · intro other answered
    by_cases otherSearched : search.Searched other
    · rw [search_resolved search member name known other otherSearched, Resolution.success.injEq] at answered
      have parts := read (Text.trim other.toList)
      rw [answered, read, Option.some.injEq] at parts
      have queries : some (encodeForm search.key.toList ++ ['='] ++ encodeForm (Text.trim text.toList)) =
          some (encodeForm search.key.toList ++ ['='] ++ encodeForm (Text.trim other.toList)) :=
        congrArg Parts.query parts
      have forms := form other
      simp only [List.append_assoc, List.singleton_append, Option.some.injEq] at queries
      rw [← queries, form] at forms
      simpa [Text.trimmed] using forms.symm
    · obtain ⟨parts, otherRead, unasked⟩ := unsearched_resolved search member name known other otherSearched _ answered
      rw [read, Option.some.injEq] at otherRead
      rw [← otherRead] at unasked
      cases unasked

end

def overflowSearch : SearchPage :=
  ⟨["stackoverflow", "so"], "stackoverflow", "stackoverflow.com", ["search"], "q", some ["q", ""]⟩

def oddText : String := " a+b & c=50%?#é\t\x01 "
def oddUrl : String := "https://stackoverflow.com/search?q=a%2Bb+%26+c%3D50%25%3F%23%C3%A9%09%01"

theorem odd_text_read_back :
    overflowSearch ∈ searchPages ∧ "so" ∈ overflowSearch.names ∧ overflowSearch.Searched oddText ∧
      table.resolve "so" none oddText = .success oddUrl ∧
      ∃ query parts, Parts.read? oddUrl.toList = some parts ∧ parts.query = some query ∧
        readForm? query = some [("q", "a+b & c=50%?#é\t\x01")] := by
  have member : overflowSearch ∈ searchPages := by simp [searchPages, overflowSearch]
  have known : "so" ∈ overflowSearch.names := by decide
  have searched : overflowSearch.Searched oddText := ⟨by decide, fun _ => by decide⟩
  have answered : table.resolve "so" none oddText = .success oddUrl := by rfl
  have trimmed : Text.trimmed oddText = "a+b & c=50%?#é\t\x01" := by decide
  obtain ⟨url, query, parts, resolved, -, read, asked, form, -⟩ :=
    searched_texts_read_back overflowSearch member "so" known oddText searched
  obtain rfl := Resolution.success.inj (answered.symm.trans resolved)
  exact ⟨member, known, searched, answered, query, parts, read, asked, trimmed ▸ form⟩

end LinkPress.Catalog
