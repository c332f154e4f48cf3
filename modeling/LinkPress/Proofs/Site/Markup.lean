import LinkPress.Markdown.Entity
import LinkPress.Site.Layout
import Mathlib.Data.List.Forall2

set_option autoImplicit false

/- Titles, descriptions and addresses are no markup in what is rendered: the characters that open a
   tag or end an attribute stand where the layout has them, and a reader of character references
   finds every value as it was given. -/
namespace LinkPress.Site

-- The characters that begin and end tags and the values of attributes.
def isMark (c : Char) : Bool := c == '<' || c == '>' || c == '"' || c == '\''

def marks (html : String) : List Char := html.toList.filter isMark

-- What a reader of HTML makes of a text without tags: references become the characters they stand
-- for. The number is that of characters to pass over, those of a reference that has been read.
def resolveFrom : Nat → List Char → List Char
  | _, [] => []
  | n + 1, _ :: rest => resolveFrom n rest
  | 0, c :: rest =>
      if c = '&' then
        match Markdown.entity? rest with
        | some (text, after) => text ++ resolveFrom (rest.length - after.length) rest
        | none => c :: resolveFrom 0 rest
      else c :: resolveFrom 0 rest

def unescape (text : String) : String := String.ofList (resolveFrom 0 text.toList)

-- A character is written as it is, or as a reference that is read back as that character.
theorem escape_char_cases (c : Char) :
    (escapeChar c = [c] ∧ c ≠ '&' ∧ isMark c = false) ∨
      ∃ reference, escapeChar c = '&' :: reference ∧ reference.filter isMark = [] ∧
        ∀ rest, Markdown.entity? (reference ++ rest) = some ([c], rest) := by
  unfold escapeChar
  split
  · exact .inr ⟨"#60;".toList, rfl, rfl, fun rest => rfl⟩
  · exact .inr ⟨"#62;".toList, rfl, rfl, fun rest => rfl⟩
  · exact .inr ⟨"#38;".toList, rfl, rfl, fun rest => rfl⟩
  · exact .inr ⟨"#34;".toList, rfl, rfl, fun rest => rfl⟩
  · exact .inr ⟨"#39;".toList, rfl, rfl, fun rest => rfl⟩
  · next less greater ampersand quote apostrophe =>
    refine .inl ⟨rfl, ampersand, ?_⟩
    simp only [isMark, Bool.or_eq_false_iff, beq_eq_false_iff_ne]
    exact ⟨⟨⟨less, greater⟩, quote⟩, apostrophe⟩

theorem resolve_passed (passed rest : List Char) : resolveFrom passed.length (passed ++ rest) = resolveFrom 0 rest := by
  induction passed with
  | nil => rfl
  | cons c passed ih => simpa [resolveFrom] using ih

theorem resolve_escaped (c : Char) (rest : List Char) :
    resolveFrom 0 (escapeChar c ++ rest) = c :: resolveFrom 0 rest := by
  rcases escape_char_cases c with ⟨same, plain, -⟩ | ⟨reference, written, -, read⟩
  · rw [same, List.singleton_append, resolveFrom, if_neg plain]
  · rw [written, List.cons_append, resolveFrom, if_pos rfl, read rest]
    simp [resolve_passed]

theorem unescape_escape (text : String) : unescape (escape text) = text := by
  have chars (s : List Char) : resolveFrom 0 (s.flatMap escapeChar) = s := by
    induction s with
    | nil => rfl
    | cons c rest ih => rw [List.flatMap_cons, resolve_escaped, ih]
  rw [unescape, escape, String.toList_ofList, chars, String.ofList_toList]

theorem escape_char_unmarked (c : Char) : (escapeChar c).filter isMark = [] := by
  rcases escape_char_cases c with ⟨same, -, plain⟩ | ⟨reference, written, plain, -⟩
  · rw [same, List.filter_singleton, plain]
    rfl
  · rw [written, List.filter_cons_of_neg (by decide), plain]

theorem marks_escape (text : String) : marks (escape text) = [] := by
  rw [marks, escape, String.toList_ofList, List.filter_flatMap, List.flatMap_eq_nil_iff]
  exact fun c _ => escape_char_unmarked c

theorem marks_append (first second : String) : marks (first ++ second) = marks first ++ marks second := by
  simp [marks]

-- A rendered text in its parts: HTML that is taken as it stands, and values that are escaped.
inductive Part where
  | html (text : String)
  | value (text : String)
deriving DecidableEq

def Part.rendered : Part → String
  | .html text => text
  | .value text => escape text

def render : List Part → String
  | [] => ""
  | part :: rest => part.rendered ++ render rest

def Part.markup : Part → List String
  | .html text => [text]
  | .value _ => []

def Part.values : Part → List String
  | .html _ => []
  | .value text => [text]

-- The text that stands for a value where it is rendered.
def Part.written (part : Part) : List String :=
  match part with
  | .html _ => []
  | .value _ => [part.rendered]

@[simp] theorem markup_html (text : String) : (Part.html text).markup = [text] := rfl
@[simp] theorem markup_value (text : String) : (Part.value text).markup = [] := rfl
@[simp] theorem values_html (text : String) : (Part.html text).values = [] := rfl
@[simp] theorem values_value (text : String) : (Part.value text).values = [text] := rfl

theorem render_append (parts more : List Part) : render (parts ++ more) = render parts ++ render more := by
  induction parts with
  | nil => simp [render]
  | cons part rest ih => simp [render, ih, String.append_assoc]

theorem render_last (part : Part) : render [part] = part.rendered := by
  simp [render]

theorem render_cons (part next : Part) (rest : List Part) :
    render (part :: next :: rest) = part.rendered ++ render (next :: rest) := rfl

theorem render_wrapped (left value right : String) :
    left ++ escape value ++ right = render [.html left, .value value, .html right] := by
  simp only [render_last, render_cons, Part.rendered, String.append_assoc]

def descriptionParts : Option String → List Part
  | some text => [.html "\n  <meta name=\"description\" content=\"", .value text, .html "\">"]
  | none => []

def Frame.parts (frame : Frame) (title content : List Part) : List Part :=
  [.html ("<!DOCTYPE html>\n<html lang=\"en\">\n<head>\n  <meta charset=\"utf-8\">\n" ++
    "  <meta name=\"viewport\" content=\"width=device-width, initial-scale=1\">\n" ++
    "  <title>")] ++ title ++ [.html "</title>"] ++ descriptionParts frame.description ++
    [.html "\n</head>\n<body>\n  <header><a href=\"", .value frame.base, .html "\">", .value frame.siteTitle,
      .html "</a></header>\n  <main>\n"] ++ content ++ [.html "\n  </main>\n</body>\n</html>"]

def pageParts (frame : Frame) (title content : String) : List Part :=
  frame.parts [.value title, .html " | ", .value frame.siteTitle]
    [.html "\n    <article>\n      <h1 class=\"page-title\">", .value title, .html "</h1>\n", .html content,
      .html "\n    </article>\n"]

def summaryParts : Option String → List Part
  | some text => [.html " <span class=\"summary\">", .value text, .html "</span>"]
  | none => []

def Listed.parts (item : Listed) : List Part :=
  [.html "\n      <li><a href=\"", .value item.address, .html "\">", .value item.title, .html "</a>"] ++
    summaryParts item.description ++ [.html "</li>"]

def listParts (frame : Frame) (items : List Listed) : List Part :=
  frame.parts [.value frame.siteTitle]
    ([.html "\n    <h1>", .value frame.siteTitle, .html "</h1>\n    <ul class=\"page-list\">"] ++
      items.flatMap Listed.parts ++ [.html "\n    </ul>\n"])

theorem description_parts (description : Option String) :
    descriptionTag description = render (descriptionParts description) := by
  cases description with
  | none => rfl
  | some text => exact render_wrapped _ text _

theorem frame_page_parts (frame : Frame) (title content : List Part) :
    frame.page (render title) (render content) = render (frame.parts title content) := by
  unfold Frame.page Frame.parts
  simp only [description_parts, render_append, render_last, render_cons, Part.rendered, String.append_assoc]

theorem page_html_parts (frame : Frame) (title content : String) :
    pageHtml frame title content = render (pageParts frame title content) := by
  unfold pageHtml pageParts
  rw [← frame_page_parts]
  simp only [render_last, render_cons, Part.rendered, String.append_assoc]

theorem listed_parts (item : Listed) : item.html = render item.parts := by
  have summarized : summary item.description = render (summaryParts item.description) := by
    cases item.description with
    | none => rfl
    | some text => exact render_wrapped _ text _
  unfold Listed.html Listed.parts
  simp only [summarized, render_append, render_last, render_cons, Part.rendered, String.append_assoc]

theorem listed_all_parts (items : List Listed) :
    String.join (items.map Listed.html) = render (items.flatMap Listed.parts) := by
  induction items with
  | nil => rfl
  | cons item rest ih => simp [String.join_cons, render_append, listed_parts, ih]

theorem list_html_parts (frame : Frame) (items : List Listed) :
    listHtml frame items = render (listParts frame items) := by
  unfold listHtml listParts
  rw [← frame_page_parts]
  simp only [listed_all_parts, render_append, render_last, render_cons, Part.rendered, String.append_assoc]

theorem marks_render (parts : List Part) :
    marks (render parts) = (parts.flatMap Part.markup).flatMap marks := by
  induction parts with
  | nil => rfl
  | cons part rest ih =>
      rw [render, marks_append, ih]
      cases part with
      | html text => rfl
      | value text => rw [Part.rendered, marks_escape]; rfl

theorem written_values (parts : List Part) :
    (parts.flatMap Part.written).map unescape = parts.flatMap Part.values := by
  induction parts with
  | nil => rfl
  | cons part rest ih =>
      cases part with
      | html text => exact ih
      | value text => exact List.cons_eq_cons.mpr ⟨unescape_escape text, ih⟩

-- What is rendered are these parts. The values among them add no mark, and read back they are these.
structure Shows (html : String) (parts : List Part) (values : List String) : Prop where
  rendered : html = render parts
  marked : marks html = (parts.flatMap Part.markup).flatMap marks
  read : (parts.flatMap Part.written).map unescape = values

theorem shows_parts (html : String) (parts : List Part) (values : List String) (rendered : html = render parts)
    (given : parts.flatMap Part.values = values) : Shows html parts values where
  rendered := rendered
  marked := by rw [rendered, marks_render]
  read := by rw [written_values, given]

def pageValues (frame : Frame) (title : String) : List String :=
  [title, frame.siteTitle] ++ frame.description.toList ++ [frame.base, frame.siteTitle, title]

def Listed.values (item : Listed) : List String := [item.address, item.title] ++ item.description.toList

def listValues (frame : Frame) (items : List Listed) : List String :=
  [frame.siteTitle] ++ frame.description.toList ++ [frame.base, frame.siteTitle, frame.siteTitle] ++
    items.flatMap Listed.values

theorem frame_values (frame : Frame) (title content : List Part) :
    (frame.parts title content).flatMap Part.values =
      title.flatMap Part.values ++ frame.description.toList ++ [frame.base, frame.siteTitle] ++
        content.flatMap Part.values := by
  have described : (descriptionParts frame.description).flatMap Part.values = frame.description.toList := by
    cases frame.description <;> rfl
  simp [Frame.parts, described]

theorem listed_values (item : Listed) : item.parts.flatMap Part.values = item.values := by
  obtain ⟨address, title, description⟩ := item
  cases description <;> rfl

theorem page_shows (frame : Frame) (title content : String) :
    Shows (pageHtml frame title content) (pageParts frame title content) (pageValues frame title) := by
  refine shows_parts _ _ _ (page_html_parts frame title content) ?_
  rw [pageParts, frame_values, pageValues]
  simp

theorem list_shows (frame : Frame) (items : List Listed) :
    Shows (listHtml frame items) (listParts frame items) (listValues frame items) := by
  refine shows_parts _ _ _ (list_html_parts frame items) ?_
  rw [listParts, frame_values, listValues]
  simp [List.flatMap_assoc, listed_values]

-- Two frames whose pages have the same tags.
def Frame.Alike (frame other : Frame) : Prop := frame.description.isSome = other.description.isSome

def Listed.Alike (item other : Listed) : Prop := item.description.isSome = other.description.isSome

-- What an optional text is wrapped in is there or not, whatever the text.
theorem optional_alike (parts : Option String → List Part)
    (blind : ∀ text other, (parts (some text)).flatMap Part.markup = (parts (some other)).flatMap Part.markup)
    (own other : Option String) (same : own.isSome = other.isSome) :
    (parts own).flatMap Part.markup = (parts other).flatMap Part.markup := by
  cases own with
  | none =>
      cases other with
      | none => rfl
      | some text => cases same
  | some text =>
      cases other with
      | none => cases same
      | some otherText => exact blind text otherText

theorem frame_alike (frame other : Frame) (alike : frame.Alike other) (title otherTitle content otherContent : List Part)
    (sameTitle : title.flatMap Part.markup = otherTitle.flatMap Part.markup)
    (sameContent : content.flatMap Part.markup = otherContent.flatMap Part.markup) :
    (frame.parts title content).flatMap Part.markup = (other.parts otherTitle otherContent).flatMap Part.markup := by
  have described := optional_alike descriptionParts (fun _ _ => rfl) _ _ alike
  simp [Frame.parts, described, sameTitle, sameContent]

theorem listed_alike (item other : Listed) (alike : item.Alike other) :
    item.parts.flatMap Part.markup = other.parts.flatMap Part.markup := by
  have summarized := optional_alike summaryParts (fun _ _ => rfl) _ _ alike
  simp [Listed.parts, summarized]

theorem items_alike (items others : List Listed) (alike : List.Forall₂ Listed.Alike items others) :
    (items.flatMap Listed.parts).flatMap Part.markup = (others.flatMap Listed.parts).flatMap Part.markup := by
  induction alike with
  | nil => rfl
  | cons same more ih =>
      rw [List.flatMap_cons, List.flatMap_cons, List.flatMap_append, List.flatMap_append, listed_alike _ _ same, ih]

-- The first two lines say where a value stands and that it is read back, the last two that the tags
-- of two pages can only differ by their content, or by a description that one of them lacks.
theorem values_hold_no_markup :
    (∀ frame title content, Shows (pageHtml frame title content) (pageParts frame title content) (pageValues frame title)) ∧
    (∀ frame items, Shows (listHtml frame items) (listParts frame items) (listValues frame items)) ∧
    (∀ frame other title otherTitle content, Frame.Alike frame other →
      marks (pageHtml frame title content) = marks (pageHtml other otherTitle content)) ∧
    ∀ frame other items others, Frame.Alike frame other → List.Forall₂ Listed.Alike items others →
      marks (listHtml frame items) = marks (listHtml other others) := by
  refine ⟨page_shows, list_shows, ?_, ?_⟩
  · intro frame other title otherTitle content alike
    rw [(page_shows frame title content).marked, (page_shows other otherTitle content).marked]
    exact congrArg (List.flatMap marks) (frame_alike frame other alike _ _ _ _ (by simp) (by simp))
  · intro frame other items others alike listed
    have content := items_alike items others listed
    rw [(list_shows frame items).marked, (list_shows other others).marked]
    exact congrArg (List.flatMap marks) (frame_alike frame other alike _ _ _ _ (by simp) (by simp [content]))

def plainFrame : Frame := ⟨"Notes", some "All notes", "/"⟩
def hostileFrame : Frame := ⟨"</title><script>", some "\"><img src='x'>", "'//a.example\">"⟩

theorem hostile_values_inert :
    Frame.Alike hostileFrame plainFrame ∧
      marks (pageHtml hostileFrame "<b>&lt;" "<p>x</p>") = marks (pageHtml plainFrame "Home" "<p>x</p>") ∧
      List.Forall₂ Listed.Alike [⟨"\" onclick='a()", "</a>", some "<b>"⟩] [⟨"/home.html", "Home", some "Start"⟩] ∧
      marks (listHtml hostileFrame [⟨"\" onclick='a()", "</a>", some "<b>"⟩]) =
        marks (listHtml plainFrame [⟨"/home.html", "Home", some "Start"⟩]) := by
  have alike : Frame.Alike hostileFrame plainFrame := rfl
  have listed : List.Forall₂ Listed.Alike [⟨"\" onclick='a()", "</a>", some "<b>"⟩] [⟨"/home.html", "Home", some "Start"⟩] :=
    .cons rfl .nil
  obtain ⟨-, -, pages, lists⟩ := values_hold_no_markup
  exact ⟨alike, pages _ _ _ _ _ alike, listed, lists _ _ _ _ alike listed⟩

end LinkPress.Site
