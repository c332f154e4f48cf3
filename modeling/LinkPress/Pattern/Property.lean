import LinkPress.Pattern.CharSet
import LinkPress.Text.ClusterClass
import LinkPress.Text.Composition
import LinkPress.Text.Property

set_option autoImplicit false

/- Properties of characters, by the names that patterns call them. -/
namespace LinkPress.Pattern

def propertyKey (name : List Char) : String :=
  let kept (name : List Char) : List Char := (name.map Char.toLower).filter fun c =>
    c.toNat < 128 && !(c == ' ' || c == '_' || c == '-')
  match name.map Char.toLower with
  | 'i' :: 's' :: rest =>
      -- Without its first two letters, "isc" would be the name of a category.
      if kept rest = ['c'] then "isc" else String.ofList (kept rest)
  | _ => String.ofList (kept name)

namespace CharSet

def written (line : String) : CharSet := .listed (Text.rangesOf [line])
def property (name : String) : CharSet := .listed (Text.property name)
def categories (names : List String) : CharSet :=
  unionAll (names.map fun name => .listed (Text.category name))

def everything : CharSet := .complement .nothing

/-- Without half characters, which no text holds. -/
def assigned : CharSet := unionAll (Text.categories.map fun entry => .listed entry.2)

def categoryNames : List (List String × List String) := [
  (["lu", "uppercaseletter"], ["Lu"]), (["ll", "lowercaseletter"], ["Ll"]),
  (["lt", "titlecaseletter"], ["Lt"]), (["lm", "modifierletter"], ["Lm"]),
  (["lo", "otherletter"], ["Lo"]), (["lc", "casedletter"], ["Lu", "Ll", "Lt"]),
  (["l", "letter"], ["Lu", "Ll", "Lt", "Lm", "Lo"]),
  (["mn", "nonspacingmark"], ["Mn"]), (["mc", "spacingmark"], ["Mc"]),
  (["me", "enclosingmark"], ["Me"]), (["m", "mark", "combiningmark"], ["Mn", "Mc", "Me"]),
  (["nd", "decimalnumber", "digit"], ["Nd"]), (["nl", "letternumber"], ["Nl"]),
  (["no", "othernumber"], ["No"]), (["n", "number"], ["Nd", "Nl", "No"]),
  (["pc", "connectorpunctuation"], ["Pc"]), (["pd", "dashpunctuation"], ["Pd"]),
  (["ps", "openpunctuation"], ["Ps"]), (["pe", "closepunctuation"], ["Pe"]),
  (["pi", "initialpunctuation"], ["Pi"]), (["pf", "finalpunctuation"], ["Pf"]),
  (["po", "otherpunctuation"], ["Po"]),
  (["p", "punctuation", "punct"], ["Pc", "Pd", "Ps", "Pe", "Pi", "Pf", "Po"]),
  (["sm", "mathsymbol"], ["Sm"]), (["sc", "currencysymbol"], ["Sc"]),
  (["sk", "modifiersymbol"], ["Sk"]), (["so", "othersymbol"], ["So"]),
  (["s", "symbol"], ["Sm", "Sc", "Sk", "So"]),
  (["zs", "spaceseparator"], ["Zs"]), (["zl", "lineseparator"], ["Zl"]),
  (["zp", "paragraphseparator"], ["Zp"]), (["z", "separator"], ["Zs", "Zl", "Zp"]),
  (["cc", "control", "cntrl"], ["Cc"]), (["cf", "format"], ["Cf"]),
  (["co", "privateuse"], ["Co"])]

def ofCategory? (key : String) : Option CharSet :=
  match key with
  | "any" => some everything
  | "assigned" => some assigned
  | "ascii" => some (.range 0 127)
  | "cn" | "unassigned" => some (.complement assigned)
  | "c" | "other" => some (.union (categories ["Cc", "Cf", "Co"]) (.complement assigned))
  | key => (categoryNames.find? fun entry => entry.1.contains key).map fun entry => categories entry.2

def isScriptKey (key name : String) : Bool := propertyKey name.toList == key

def ofScript? (key : String) : Option CharSet :=
  (Text.script? (isScriptKey key)).map fun entry => .listed entry.2

def ofExtensions? (key : String) : Option CharSet :=
  (Text.script? (isScriptKey key)).map fun (names, own) =>
    let shared (isUser : String → Bool) : CharSet :=
      unionAll ((Text.sharedRanges isUser).map .listed)
    .union (.difference (.listed own) (shared fun _ => true)) (shared names.contains)

def letters : CharSet := categories ["Lu", "Ll", "Lt", "Lm", "Lo"]
def lowercase : CharSet := .union (categories ["Ll"]) (property "Other_Lowercase")
def uppercase : CharSet := .union (categories ["Lu"]) (property "Other_Uppercase")
def alphabetic : CharSet := unionAll [letters, categories ["Nl"], property "Other_Alphabetic"]

def symbolsOfPatterns : CharSet :=
  .union (property "Pattern_Syntax") (property "Pattern_White_Space")

def nameStart : CharSet :=
  .difference (unionAll [letters, categories ["Nl"], property "Other_ID_Start"]) symbolsOfPatterns

def nameContinue : CharSet :=
  .difference
    (unionAll [nameStart, categories ["Mn", "Mc", "Nd", "Pc"], property "Other_ID_Continue"])
    symbolsOfPatterns

/-- Characters whose compatibility forms are not names where the characters are. -/
def unstableInNames : CharSet :=
  written "37a 309b-309c fc5e-fc63 fdfa-fdfb fe70 fe72 fe74 fe76 fe78 fe7a fe7c fe7e"

def unstableAtStarts : CharSet := .union unstableInNames (written "e33 eb3 ff9e-ff9f")

def lowers : CharSet :=
  .difference (.union uppercase (categories ["Lt"])) (property "uppercase without a lowercase")

def uppers : CharSet :=
  .union (.difference lowercase (property "lowercase without an uppercase")) (categories ["Lt"])

def titles : CharSet :=
  .difference (.union uppers (written "1c4 1c7 1ca 1f1"))
    (.union (categories ["Lt"]) (written "10d0-10fa 10fd-10ff"))

def folds : CharSet := .difference (.union lowers (property "folded")) (written "13a0-13f5")

def graphemeExtenders : CharSet :=
  .union (categories ["Me", "Mn"]) (property "Other_Grapheme_Extend")

def graphemeBases : CharSet :=
  .difference assigned (.union (categories ["Cc", "Cf", "Co", "Zl", "Zp"]) graphemeExtenders)

def prepended : CharSet := property "Prepended_Concatenation_Mark"

def ignorable : CharSet :=
  .union (property "Other_Default_Ignorable_Code_Point")
    (.difference (.union (categories ["Cf"]) (property "Variation_Selector"))
      (unionAll [.blank, written "fff9-fffb 13430-13440", prepended]))

def noncharacters : CharSet :=
  unionAll (.range 0xFDD0 0xFDEF ::
    (List.range 17).map fun plane => .range (plane * 0x10000 + 0xFFFE) (plane * 0x10000 + 0xFFFF))

def hexDigits : CharSet := ascii [('0', '9'), ('A', 'F'), ('a', 'f')]

def mathStarts : CharSet := property "ID_Compat_Math_Start"

def derived? (key : String) : Option CharSet :=
  match key with
  | "alphabetic" | "alpha" => some alphabetic
  | "asciihexdigit" | "ahex" => some hexDigits
  | "cased" => some (.listed Text.casedRanges)
  | "caseignorable" | "ci" => some (.listed Text.caseIgnorableRanges)
  | "changeswhencasefolded" | "cwcf" => some folds
  | "changeswhencasemapped" | "cwcm" => some (unionAll [lowers, uppers, titles])
  | "changeswhenlowercased" | "cwl" => some lowers
  | "changeswhentitlecased" | "cwt" => some titles
  | "changeswhenuppercased" | "cwu" => some uppers
  | "defaultignorablecodepoint" | "di" => some ignorable
  | "emojimodifier" | "emod" => some (written "1f3fb-1f3ff")
  | "extendedpictographic" | "extpict" => some (.listed Text.pictureRanges)
  | "graphemebase" | "grbase" => some graphemeBases
  | "graphemeextend" | "grext" => some graphemeExtenders
  | "graphemelink" | "grlink" => some (.listed ((Text.Composition.classes.lookup 9).getD []))
  | "hexdigit" | "hex" => some (.union hexDigits (written "ff10-ff19 ff21-ff26 ff41-ff46"))
  | "idcompatmathcontinue" => some (.union mathStarts (written "b2-b3 b9 2070 2074-207e 2080-208e"))
  | "idcontinue" | "idc" => some nameContinue
  | "idsbinaryoperator" | "idsb" => some (written "2ff0-2ff1 2ff4-2ffd 31ef")
  | "idstrinaryoperator" | "idst" => some (written "2ff2-2ff3")
  | "idsunaryoperator" | "idsu" => some (written "2ffe-2fff")
  | "idstart" | "ids" => some nameStart
  | "joincontrol" | "joinc" => some (written "200c-200d")
  | "lowercase" | "lower" => some lowercase
  | "math" => some (.union (categories ["Sm"]) (property "Other_Math"))
  | "noncharactercodepoint" | "nchar" => some noncharacters
  | "regionalindicator" | "ri" => some (written "1f1e6-1f1ff")
  | "uppercase" | "upper" => some uppercase
  | "whitespace" | "wspace" | "space" => some .blank
  | "xidcontinue" | "xidc" => some (.difference nameContinue unstableInNames)
  | "xidstart" | "xids" => some (.difference nameStart unstableAtStarts)
  | _ => none

def listedNames : List (String × String) := [
  ("Bidi_Control", "bidic"), ("Dash", "dash"), ("Deprecated", "dep"), ("Diacritic", "dia"),
  ("Emoji", "emoji"), ("Emoji_Component", "ecomp"), ("Emoji_Modifier_Base", "ebase"),
  ("Emoji_Presentation", "epres"), ("Extender", "ext"), ("Hyphen", "hyphen"),
  ("ID_Compat_Math_Start", "idcompatmathstart"), ("Ideographic", "ideo"),
  ("Logical_Order_Exception", "loe"), ("Modifier_Combining_Mark", "mcm"),
  ("Other_Alphabetic", "oalpha"), ("Other_Default_Ignorable_Code_Point", "odi"),
  ("Other_Grapheme_Extend", "ogrext"), ("Other_ID_Continue", "oidc"), ("Other_ID_Start", "oids"),
  ("Other_Lowercase", "olower"), ("Other_Math", "omath"), ("Other_Uppercase", "oupper"),
  ("Pattern_Syntax", "patsyn"), ("Pattern_White_Space", "patws"),
  ("Prepended_Concatenation_Mark", "pcm"), ("Quotation_Mark", "qmark"), ("Radical", "radical"),
  ("Sentence_Terminal", "sterm"), ("Soft_Dotted", "sd"), ("Terminal_Punctuation", "term"),
  ("Unified_Ideograph", "uideo"), ("Variation_Selector", "vs")]

def ofListed? (key : String) : Option CharSet :=
  (listedNames.find? fun (name, short) => propertyKey name.toList == key || short == key).map
    fun entry => property entry.1

def ofName? (key : String) : Option CharSet :=
  (((derived? key).or (ofListed? key)).or (ofCategory? key)).or (ofScript? key)

def ofValue? (name value : String) : Option CharSet :=
  match name with
  | "gc" | "generalcategory" => ofCategory? value
  | "sc" | "script" => ofScript? value
  | "scx" | "scriptextensions" => ofExtensions? value
  | _ => none

end CharSet
end LinkPress.Pattern
