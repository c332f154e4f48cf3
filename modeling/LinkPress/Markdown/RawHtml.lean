import LinkPress.Markdown.Line

set_option autoImplicit false

/- Tags, comments and other HTML that is passed through, and the lines that open a block of it. -/
namespace LinkPress.Markdown

def isTagChar (c : Char) : Bool := c.isAlphanum || c == '-'
def isAttributeStart (c : Char) : Bool := c.isAlpha || c == '_' || c == ':'
def isAttributeChar (c : Char) : Bool := c.isAlphanum || c == '_' || c == '.' || c == ':' || c == '-'

def isBareChar (c : Char) : Bool := !("'\" =><\x60\n\r".toList.contains c)

/-- Blanks inside a tag. A line end is among them only where `wrap` allows it. -/
def tagGap (wrap : Bool) (text : List Char) : Option (List Char) :=
  if wrap then some (text.dropWhile isSpace)
  else
    let rest := text.dropWhile isGap
    match rest with
    | c :: _ => if isEndChar c then none else some rest
    | [] => some []

def quotedValue (wrap : Bool) (quote : Char) : List Char → Option (List Char)
  | [] => none
  | c :: rest =>
      if c = quote then some rest
      else if isEndChar c && !wrap then none
      else quotedValue wrap quote rest

def attributeValue (wrap : Bool) : List Char → Option (List Char)
  | [] => none
  | c :: rest =>
      if c = '"' || c = '\'' then quotedValue wrap c rest
      else if !isBareChar c then none
      else some ((c :: rest).dropWhile isBareChar)

def attribute? (wrap : Bool) : List Char → Option (List Char)
  | [] => none
  | c :: rest =>
      if !isAttributeStart c then none
      else
        let after := rest.dropWhile isAttributeChar
        match tagGap wrap after with
        | some ('=' :: value) => (tagGap wrap value).bind (attributeValue wrap)
        | some _ => some after
        | none => none

def attributes (wrap : Bool) : Nat → List Char → Option (List Char)
  | 0, _ => none
  | n + 1, text =>
      match tagGap wrap text with
      | none => none
      | some [] => none
      | some (c :: rest) =>
          if c = '/' || c = '>' then some (c :: rest)
          else if rest.length + 1 = text.length then none
          else (attribute? wrap (c :: rest)).bind (attributes wrap n)

def tag? (wrap : Bool) : List Char → Option (List Char)
  | [] => none
  | '/' :: text =>
      match text with
      | c :: rest =>
          if !c.isAlpha then none
          else
            match (rest.dropWhile isTagChar).dropWhile isGap with
            | '>' :: rest => some rest
            | _ => none
      | [] => none
  | c :: rest =>
      if !c.isAlpha then none
      else
        match attributes wrap (rest.length + 1) (rest.dropWhile isTagChar) with
        | some ('>' :: rest) => some rest
        | some ('/' :: '>' :: rest) => some rest
        | _ => none

def after? (mark : List Char) : List Char → Option (List Char)
  | [] => none
  | c :: rest =>
      if mark.isPrefixOf (c :: rest) then some ((c :: rest).drop mark.length) else after? mark rest

def declaration? : List Char → Option (List Char)
  | '-' :: '-' :: text =>
      match text.dropWhile (· == '-') with
      | '>' :: rest => some rest
      | [] => none
      | rest => after? ['-', '-', '>'] rest
  | '[' :: text =>
      if "CDATA[".toList.isPrefixOf text then after? [']', ']', '>'] (text.drop 6) else none
  | c :: rest => if c.isAlpha then after? ['>'] rest else none
  | [] => none

def inlineHtml? : List Char → Option (List Char)
  | '!' :: text => declaration? text
  | '?' :: text => after? ['?', '>'] text
  | text => tag? true text

def blockNames : List (List Char) :=
  ["address", "article", "aside", "base", "basefont", "blockquote", "body", "caption", "center",
    "col", "colgroup", "dd", "details", "dialog", "dir", "div", "dl", "dt", "fieldset",
    "figcaption", "figure", "footer", "form", "frame", "frameset", "h1", "h2", "h3", "h4", "h5",
    "h6", "head", "header", "hr", "html", "iframe", "legend", "li", "link", "main", "menu",
    "menuitem", "nav", "noframes", "ol", "optgroup", "option", "p", "param", "search", "section",
    "summary", "table", "tbody", "td", "tfoot", "th", "thead", "title", "tr", "track",
    "ul"].map String.toList

def verbatimNames : List (List Char) := ["pre", "style", "script", "textarea"].map String.toList

def lowerAscii (text : List Char) : List Char := text.map Char.toLower

def verbatimEnd? (text : List Char) : Option (List Char) :=
  (verbatimNames.find? fun name =>
    lowerAscii (text.take name.length) == name &&
      (match text.drop name.length with
       | [] => true
       | c :: _ => isSpace c || c == '>')).map fun name => "</".toList ++ name ++ ['>']

/-- What ends the block that a line opens, if the block runs to a mark of its own. The opening
    angle bracket has been read. -/
def htmlEnd? (text : List Char) : Option (List Char) :=
  match verbatimEnd? text with
  | some mark => some mark
  | none =>
      match text with
      | '!' :: '-' :: '-' :: _ => some "-->".toList
      | '?' :: _ => some "?>".toList
      | '!' :: c :: _ =>
          if "![CDATA[".toList.isPrefixOf text then some "]]>".toList
          else if c.isAlpha then some ">".toList
          else none
      | _ => none

def opensBlock (text : List Char) : Bool :=
  let text := match text with
    | '/' :: rest => rest
    | text => text
  blockNames.contains (lowerAscii (text.takeWhile Char.isAlphanum)) &&
    (match text.dropWhile Char.isAlphanum with
     | [] => true
     | '/' :: '>' :: _ => true
     | c :: _ => c == ' ' || c == '\t' || isEndChar c || c == '>')

def isTagLine (text : List Char) : Bool :=
  match tag? false text with
  | some rest => rest.all isGap
  | none => false

def containsMark (mark text : List Char) : Bool := mark.isEmpty || (after? mark text).isSome

end LinkPress.Markdown
