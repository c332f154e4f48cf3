import LinkPress.Compiler
import LinkPress.Proofs.Catalog.Entries
import LinkPress.Proofs.Document.Strictness
import LinkPress.Proofs.Text.Trimming
import Mathlib

set_option autoImplicit false

/- What the entries of the catalog do with an option. Most have none: one that is written is complained
   of, and its link is never expanded. The others read it, unless it is blank. No entry minds the blanks
   around its text. -/
namespace LinkPress.Shortcut

theorem find_listed (entries : List Entry) (distinct : (entries.map Entry.names).flatten.Nodup) (entry : Entry)
    (member : entry ∈ entries) (name : String) (known : name ∈ entry.names) :
    entries.find? (fun entry => entry.names.contains name) = some entry := by
  induction entries with
  | nil => cases member
  | cons first rest ih =>
      rw [List.map_cons, List.flatten_cons, List.nodup_append] at distinct
      obtain ⟨-, others, apart⟩ := distinct
      rcases List.mem_cons.mp member with rfl | behind
      · rw [List.find?_cons, List.contains_iff_mem.mpr known]
      · have below : name ∈ (rest.map Entry.names).flatten :=
          List.mem_flatten.mpr ⟨entry.names, List.mem_map_of_mem behind, known⟩
        have passed : first.names.contains name = false :=
          Bool.eq_false_iff.mpr fun own => apart name (List.contains_iff_mem.mp own) name below rfl
        rw [List.find?_cons, passed]
        exact ih others behind

-- In a table that has each name once, a name stands for the entry that lists it.
theorem Table.get_listed (table : Table) (distinct : table.names.flatten.Nodup) (entry : Entry)
    (member : entry ∈ table.entries) (name : String) (known : name ∈ entry.names) :
    table.get? name = some entry.resolver := by
  rw [get?, find_listed table.entries distinct entry member name known, Option.map_some]

end LinkPress.Shortcut

namespace LinkPress.Catalog

open LinkPress.Document (Answers LinkSite Rejected expand expand_error_iff_rejected expands_iff links)
open LinkPress.Shortcut
open LinkPress.Text (Blank)

def Unwarned : Resolution → Prop
  | .warning _ _ => False
  | _ => True

-- An option changes no answer, but one with an address is complained of, once
-- and by the first name of the entry.
structure Declines (title : String) (resolver : Resolver) : Prop where
  unwarned : ∀ text, Unwarned (resolver none text)
  warned : ∀ text url, resolver none text = .success url → ∀ option,
    resolver (some option) text = .warning [unsupportedOption title option] url
  failed : ∀ text message, resolver none text = .failure message → ∀ option,
    resolver (some option) text = .failure message

-- A blank option is as good as none, but there is one that makes a difference.
structure Reads (resolver : Resolver) : Prop where
  blank : ∀ option, Blank option → ∀ text, resolver (some option) text = resolver none text
  told : ∃ option text url other, resolver (some option) text = .success url ∧
    resolver none text = .success other ∧ url ≠ other

def IgnoresBlanks (resolver : Resolver) : Prop :=
  ∀ option before text after, Blank before → Blank after →
    resolver option (before ++ text ++ after) = resolver option text

theorem plain_declines (title : String) (resolve : String → Resolution)
    (unwarned : ∀ argument, Unwarned (resolve argument)) : Declines title (plain title resolve) where
  unwarned text := by
    rw [plain]
    cases Text.argument? text with
    | none => trivial
    | some argument => exact unwarned argument
  warned text url found option := by
    rw [plain] at found ⊢
    cases argued : Text.argument? text with
    | none =>
        rw [argued] at found
        cases found
    | some argument =>
        rw [argued] at found
        have answer : resolve argument = .success url := found
        simp only [answer]
  failed text message found option := by
    rw [plain] at found ⊢
    cases argued : Text.argument? text with
    | none =>
        rw [argued] at found
        exact found
    | some argument =>
        rw [argued] at found
        have answer : resolve argument = .failure message := found
        simp only [answer]

theorem plain_ignores_blanks (title : String) (resolve : String → Resolution) :
    IgnoresBlanks (plain title resolve) := by
  intro option before text after front back
  rw [plain, Text.argument_around before text after front back, plain]

theorem tagged_ignores_blanks (title : String) (resolve : Option String → String → Resolution) :
    IgnoresBlanks (tagged title resolve) := by
  intro option before text after front back
  rw [tagged, Text.argument_around before text after front back, tagged]

theorem tagged_blank (title : String) (resolve : Option String → String → Resolution) (option : String)
    (blank : Blank option) (text : String) :
    tagged title resolve (some option) text = tagged title resolve none text := by
  rw [tagged, tagged, Option.bind_some, Text.blank_argument option blank, Option.bind_none]

theorem Serves.unwarned {service : Service} {text : List Char} {answer : Resolution}
    (serves : Serves service text answer) : Unwarned answer := by
  cases serves <;> trivial

section Known

variable {entry : Entry} {service : Service} (known : Known entry service)
include known

theorem Known.declines (unlisted : entry.names ∉ optioned) :
    ∃ title ∈ entry.names.head?, Declines title entry.resolver := by
  cases known with
  | plain title others site asking resolve _ serves =>
      dsimp only
      exact ⟨title, rfl, plain_declines title resolve fun argument => (serves argument).unwarned⟩
  | tagged title others site asking resolve listed => exact absurd listed unlisted

theorem Known.reads (listed : entry.names ∈ optioned) : Reads entry.resolver := by
  cases known with
  | plain title others site asking resolve unlisted => exact absurd listed unlisted
  | tagged title others site asking resolve _ differs =>
      dsimp only
      exact ⟨tagged_blank title resolve, differs⟩

theorem Known.ignores_blanks : IgnoresBlanks entry.resolver := by
  cases known with
  | plain title others site asking resolve =>
      dsimp only
      exact plain_ignores_blanks title resolve
  | tagged title others site asking resolve =>
      dsimp only
      exact tagged_ignores_blanks title resolve

end Known

theorem resolve_listed (entry : Entry) (member : entry ∈ table.entries) (name : String) (known : name ∈ entry.names) :
    table.resolve name = entry.resolver := by
  have distinct : table.names.flatten.Nodup := by decide
  funext option text
  rw [Table.resolve, table.get_listed distinct entry member name known]

theorem Declines.refused {title : String} {resolver : Resolver} (declines : Declines title resolver)
    (option text : String) : (∃ message url, resolver (some option) text = .warning [message] url) ∨
      ∃ message, resolver (some option) text = .failure message := by
  cases answer : resolver none text with
  | success url => exact .inl ⟨_, url, declines.warned text url answer option⟩
  | failure message => exact .inr ⟨message, declines.failed text message answer option⟩
  | warning messages url =>
      have clear := declines.unwarned text
      rw [answer] at clear
      cases clear

-- A link that has an option behind the name, if only an empty one.
def WritesOption (name : String) (site : LinkSite) : Prop :=
  ∃ option text, Target.parse site.link.url = .shortcut ⟨name, some option, text⟩

-- Neither a document nor a page with such a link comes out.
structure Bars (own : Table) (name : String) : Prop where
  documents : ∀ nodes, (∃ site ∈ links nodes, WritesOption name site) → ∃ messages, expand own nodes = .error messages
  pages : ∀ reader writer text, (∃ site ∈ links (Markdown.read reader text), WritesOption name site) →
    ∃ messages, Compiler.compile ⟨reader, writer, some own⟩ text = .error messages

section Declined

variable {title name : String} {own : Table} (declines : Declines title (own.resolve name))
include declines

theorem written_option_rejected (site : LinkSite) (writes : WritesOption name site) : Rejected own site := by
  obtain ⟨option, written, parsed⟩ := writes
  have refused (answer : Resolution) (answers : Answers own site answer) :
      (∃ message url, answer = .warning [message] url) ∨ ∃ message, answer = .failure message := by
    obtain ⟨target, text, parsed', -, rfl⟩ := answers
    obtain rfl := Target.Reading.shortcut.inj (parsed.symm.trans parsed')
    exact declines.refused option text
  refine ⟨?_, ?_, ?_⟩
  · simp [Target.introduced_iff, parsed]
  · intro url expands
    rcases refused _ ((expands_iff own site url).mp expands) with ⟨message, other, warned⟩ | ⟨message, failed⟩
    · cases warned
    · cases failed
  · rintro ⟨url, answers⟩
    rcases refused _ answers with ⟨message, other, warned⟩ | ⟨message, failed⟩
    · cases warned
    · cases failed

theorem declined_barred : Bars own name := by
  have documents (nodes : List Document.Node) (written : ∃ site ∈ links nodes, WritesOption name site) :
      ∃ messages, expand own nodes = .error messages := by
    obtain ⟨site, member, writes⟩ := written
    exact (expand_error_iff_rejected own nodes).mpr ⟨site, member, written_option_rejected declines site writes⟩
  refine ⟨documents, fun reader writer text written => ?_⟩
  obtain ⟨messages, failed⟩ := documents _ written
  exact ⟨messages, by simp only [Compiler.compile, failed, Except.map]⟩

end Declined

theorem options_declined_or_read (entry : Entry) (member : entry ∈ table.entries) (name : String)
    (known : name ∈ entry.names) :
    (entry.names ∉ optioned → (∃ title ∈ entry.names.head?, Declines title (table.resolve name)) ∧
      ∀ own : Table, own.get? name = table.get? name → Bars own name) ∧
    (entry.names ∈ optioned → Reads (table.resolve name)) ∧
    IgnoresBlanks (table.resolve name) := by
  have resolver := resolve_listed entry member name known
  obtain ⟨service, kept⟩ := entry_known entry member
  rw [resolver]
  refine ⟨fun unlisted => ?_, kept.reads, kept.ignores_blanks⟩
  obtain ⟨title, first, declines⟩ := kept.declines unlisted
  refine ⟨⟨title, first, declines⟩, fun own same => ?_⟩
  have agrees : own.resolve name = entry.resolver := by
    rw [← resolver]
    funext option text
    rw [Table.resolve, same, Table.resolve]
  exact declined_barred (agrees ▸ declines)

def overflowEntry : Entry := ⟨["stackoverflow", "so"], plain "stackoverflow" stackoverflow⟩
def stackageEntry : Entry := ⟨["stackage"], tagged "stackage" stackage⟩

-- An empty option is one, but a blank one is none.
theorem empty_option_declined_blank_option_read :
    (overflowEntry ∈ table.entries ∧ "so" ∈ overflowEntry.names ∧ overflowEntry.names ∉ optioned ∧
      table.resolve "so" none "\t42 " = .success "https://stackoverflow.com/q/42" ∧
      table.resolve "so" (some "") "\t42 " =
        .warning ["shortcut 'stackoverflow' does not support option ''"] "https://stackoverflow.com/q/42" ∧
      ∃ messages, Compiler.compile ⟨.default, .default, some table⟩ "[42](@so:)" = .error messages) ∧
    stackageEntry ∈ table.entries ∧ "stackage" ∈ stackageEntry.names ∧ stackageEntry.names ∈ optioned ∧
      Blank "\u00a0\t" ∧ Blank "" ∧ Blank " \n" ∧
      table.resolve "stackage" (some "\u00a0\t") "text \n" = table.resolve "stackage" none "text \n" ∧
      table.resolve "stackage" none "text \n" = table.resolve "stackage" none "text" := by
  constructor
  · have member : overflowEntry ∈ table.entries := by simp [table, entries, overflowEntry]
    have known : "so" ∈ overflowEntry.names := by decide
    have unlisted : overflowEntry.names ∉ optioned := by decide
    have found : table.resolve "so" none "\t42 " = .success "https://stackoverflow.com/q/42" := by rfl
    have read : Markdown.read .default "[42](@so:)" =
        [.element .paragraph (some .paragraph)
          [.element (.link ⟨.inline, "@so:", "", ""⟩) (some .link) [.leaf (.text "42")]]] := by cbv
    have written : ∃ site ∈ links (Markdown.read .default "[42](@so:)"), WritesOption "so" site := by
      rw [read]
      exact ⟨⟨⟨.inline, "@so:", "", ""⟩, [.leaf (.text "42")]⟩, .head _, "", none, by decide⟩
    obtain ⟨⟨title, first, declines⟩, barred⟩ :=
      (options_declined_or_read overflowEntry member "so" known).1 unlisted
    obtain rfl := Option.some.inj first
    have warned := declines.warned _ _ found ""
    exact ⟨member, known, unlisted, found, warned, (barred table rfl).pages .default .default _ written⟩
  · have member : stackageEntry ∈ table.entries := by simp [table, entries, stackageEntry]
    have known : "stackage" ∈ stackageEntry.names := by decide
    have listed : stackageEntry.names ∈ optioned := by decide
    have blank : Blank "\u00a0\t" := by decide
    have before : Blank "" := by decide
    have after : Blank " \n" := by decide
    obtain ⟨-, reads, ignores⟩ := options_declined_or_read stackageEntry member "stackage" known
    exact ⟨member, known, listed, blank, before, after, (reads listed).blank _ blank _,
      ignores none "" "text" " \n" before after⟩

end LinkPress.Catalog
