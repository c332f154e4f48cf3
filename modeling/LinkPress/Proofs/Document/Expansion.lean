import LinkPress.Document.Expansion
import LinkPress.Proofs.Document.Readdress
import LinkPress.Proofs.Target.Spelling

set_option autoImplicit false

/- Expansion is a readdressing of the document that is withheld as soon as one link has something to
   report. Its messages are those of the links, in the order of `links`, and nothing else. -/
namespace LinkPress.Document

open LinkPress.Shortcut
open LinkPress.Target (Introduced)

-- A label is read by its length and by the text of a single node.
theorem label_text_map (change : Node → Node) (kept : ∀ node, (change node).plainText? = node.plainText?)
    (label : List Node) : labelText (label.map change) = labelText label := by
  cases label with
  | nil => rfl
  | cons node rest =>
      cases rest with
      | nil => simp only [List.map_cons, List.map_nil, labelText, kept]
      | cons second more => rfl

theorem label_text_readdress (address : Addressing) (label : List Node) :
    labelText (readdress address label) = labelText label := by
  rw [readdress_map]
  exact label_text_map _ (plain_text_readdress address) label

def outcomeAt (table : Table) (site : LinkSite) : LinkOutcome :=
  expandLink table site.link.url site.label

theorem outcome_readdress (table : Table) (address : Addressing) (link : Link) (label : List Node) :
    outcomeAt table ⟨link, readdress address label⟩ = outcomeAt table ⟨link, label⟩ := by
  simp only [outcomeAt, expandLink, label_text_readdress]

def expandedUrl (table : Table) : Addressing := fun site =>
  match outcomeAt table site with
  | .expanded url => url
  | _ => site.link.url

def LinkOutcome.faults : LinkOutcome → List LinkFault
  | .failed faults => faults
  | _ => []

def faultsAt (table : Table) (site : LinkSite) : List LinkFault := (outcomeAt table site).faults

theorem expand_visit_noting (table : Table) :
    expandVisit table = noting (expandedUrl table) (faultsAt table) := by
  funext faults link label
  simp only [expandVisit, noting, expandedUrl, faultsAt, outcomeAt]
  cases expandLink table link.url label <;> simp [LinkOutcome.faults]

theorem expansion_stable (table : Table) : LabelStable (expandedUrl table) (faultsAt table) where
  address_same link label := by simp only [expandedUrl, outcome_readdress]
  note_same link label := by simp only [faultsAt, outcome_readdress]

theorem expand_settle (table : Table) (nodes : List Node) :
    expand table nodes =
      settle ((links nodes).flatMap (faultsAt table)) (readdress (expandedUrl table) nodes) := by
  rw [expand, walkLinks, expand_visit_noting, walk_noting _ _ (expansion_stable table)]
  rfl

theorem settle_error_iff {α : Type} (faults : List LinkFault) (value : α) (messages : List String) :
    settle faults value = .error messages ↔ messages = faults.map LinkFault.message ∧ messages ≠ [] := by
  cases faults with
  | nil => simp [settle]
  | cons fault more =>
      constructor
      · intro failed
        obtain rfl : (fault :: more).map LinkFault.message = messages := by simpa [settle] using failed
        exact ⟨rfl, by simp⟩
      · rintro ⟨rfl, -⟩
        rfl

theorem settle_ok_iff {α : Type} (faults : List LinkFault) (value result : α) :
    settle faults value = .ok result ↔ faults = [] ∧ result = value := by
  cases faults with
  | nil => simp [settle, eq_comm]
  | cons fault more => simp [settle]

theorem expand_ok_iff (table : Table) (nodes after : List Node) :
    expand table nodes = .ok after ↔
      (∀ site ∈ links nodes, faultsAt table site = []) ∧ after = readdress (expandedUrl table) nodes := by
  rw [expand_settle, settle_ok_iff, List.flatMap_eq_nil_iff]

-- The text a shortcut is resolved with: the one it writes, or else a label that
-- is a single run of text.
def ShownText (target : Target) (label : List Node) (text : String) : Prop :=
  target.text = some text ∨ target.text = none ∧ label = [.leaf (.text text)]

-- The table answers the shortcut of a link. A link without a shortcut has no
-- answer, nor has one whose target is malformed or whose label is no text.
def Answers (table : Table) (site : LinkSite) (answer : Resolution) : Prop :=
  ∃ target text, Target.parse site.link.url = .shortcut target ∧ ShownText target site.label text ∧
    table.resolve target.name target.option text = answer

theorem label_text_ok_iff (label : List Node) (text : String) :
    labelText label = .ok text ↔ label = [.leaf (.text text)] := by
  cases label with
  | nil => simp [labelText]
  | cons node rest =>
      cases rest with
      | cons second more => simp [labelText]
      | nil =>
          cases node with
          | element tag closing children => simp [labelText, Node.plainText?]
          | leaf event => cases event <;> simp [labelText, Node.plainText?]

theorem shown_text_iff (target : Target) (label : List Node) (text : String) :
    ShownText target label text ↔ target.text.elim (labelText label) Except.ok = .ok text := by
  cases written : target.text with
  | none => simp [ShownText, written, label_text_ok_iff]
  | some own => simp [ShownText, written]

theorem answers_unique (table : Table) (site : LinkSite) (a b : Resolution)
    (answersA : Answers table site a) (answersB : Answers table site b) : a = b := by
  obtain ⟨target, text, parsed, shown, resolved⟩ := answersA
  obtain ⟨target', text', parsed', shown', resolved'⟩ := answersB
  obtain rfl := Target.Reading.shortcut.inj (parsed.symm.trans parsed')
  rw [shown_text_iff] at shown shown'
  obtain rfl := Except.ok.inj (shown.symm.trans shown')
  exact resolved.symm.trans resolved'

theorem answers_introduced (table : Table) (site : LinkSite) (answer : Resolution)
    (answers : Answers table site answer) : Introduced site.link.url := by
  obtain ⟨target, text, parsed, -, -⟩ := answers
  simp [Target.introduced_iff, parsed]

-- All that can come of a link.
theorem outcome_cases (table : Table) (site : LinkSite) :
    (¬ Introduced site.link.url ∧ outcomeAt table site = .unchanged) ∨
      (Introduced site.link.url ∧ (∀ answer, ¬ Answers table site answer) ∧
        ∃ fault, outcomeAt table site = .failed [fault]) ∨
      ∃ answer, Answers table site answer ∧ outcomeAt table site = outcomeOf answer := by
  cases parsed : Target.parse site.link.url with
  | ordinary =>
      exact .inl ⟨(Target.parse_ordinary_iff _).mp parsed, by simp [outcomeAt, expandLink, parsed]⟩
  | malformed fault =>
      refine .inr (.inl ⟨?_, ?_, .malformed fault, by simp [outcomeAt, expandLink, parsed]⟩)
      · simp [Target.introduced_iff, parsed]
      · rintro answer ⟨target, text, parsed', -, -⟩
        rw [parsed] at parsed'
        cases parsed'
  | shortcut target =>
      cases shown : target.text.elim (labelText site.label) Except.ok with
      | error fault =>
          refine .inr (.inl ⟨?_, ?_, fault, by simp [outcomeAt, expandLink, parsed, shown]⟩)
          · simp [Target.introduced_iff, parsed]
          · rintro answer ⟨target', text, parsed', shown', -⟩
            obtain rfl := Target.Reading.shortcut.inj (parsed.symm.trans parsed')
            rw [shown_text_iff, shown] at shown'
            cases shown'
      | ok text =>
          refine .inr (.inr ⟨table.resolve target.name target.option text, ?_, ?_⟩)
          · exact ⟨target, text, parsed, (shown_text_iff _ _ _).mpr shown, rfl⟩
          · simp [outcomeAt, expandLink, parsed, shown]

theorem answered_outcome (table : Table) (site : LinkSite) (answer : Resolution)
    (answers : Answers table site answer) : outcomeAt table site = outcomeOf answer := by
  rcases outcome_cases table site with ⟨ordinary, -⟩ | ⟨-, unanswered, -⟩ | ⟨answer', answers', outcome⟩
  · exact absurd (answers_introduced table site answer answers) ordinary
  · exact absurd answers (unanswered answer)
  · rw [outcome, answers_unique table site _ _ answers answers']

theorem expanded_url_cases (table : Table) (site : LinkSite) :
    expandedUrl table site = site.link.url ∨
      Introduced site.link.url ∧ Answers table site (.success (expandedUrl table site)) := by
  rcases outcome_cases table site with ⟨-, outcome⟩ | ⟨-, -, fault, outcome⟩ | ⟨answer, answers, outcome⟩
  · exact .inl (by simp [expandedUrl, outcome])
  · exact .inl (by simp [expandedUrl, outcome])
  · have introduced := answers_introduced table site answer answers
    cases answer with
    | success url =>
        have expanded : expandedUrl table site = url := by simp [expandedUrl, outcome, outcomeOf]
        exact .inr ⟨introduced, by rwa [expanded]⟩
    | warning messages url => exact .inl (by simp [expandedUrl, outcome, outcomeOf])
    | failure message => exact .inl (by simp [expandedUrl, outcome, outcomeOf])

def answerMessages (table : Table) (target : Target) (text : String) : List String :=
  match table.get? target.name with
  | none => ["unknown shortcut name '" ++ target.name ++ "'"]
  | some resolver =>
      match resolver target.option text with
      | .success _ => []
      | .warning messages _ => messages
      | .failure message => [message]

-- What a link has to report, without the outcome it is given on the way.
def messagesAt (table : Table) (site : LinkSite) : List String :=
  if Introduced site.link.url then
    match Target.parse site.link.url with
    | .ordinary => []
    | .malformed fault => [fault.message]
    | .shortcut target =>
        match target.text, site.label with
        | some text, _ => answerMessages table target text
        | none, [.leaf (.text text)] => answerMessages table target text
        | none, [] => ["Empty shortcut link title arguments"]
        | none, _ => ["Shortcut title is not a single string element"]
  else []

theorem unresolved_messages (messages : List String) :
    (messages.map LinkFault.unresolved).map LinkFault.message = messages := by
  rw [List.map_map]
  exact List.map_id messages

theorem outcome_messages (table : Table) (target : Target) (text : String) :
    (outcomeOf (table.resolve target.name target.option text)).faults.map LinkFault.message =
      answerMessages table target text := by
  cases found : table.get? target.name with
  | none =>
      rw [Table.resolve, answerMessages, found]
      rfl
  | some resolver =>
      rw [Table.resolve, answerMessages, found]
      dsimp only
      cases resolver target.option text with
      | success url => rfl
      | warning messages url => exact unresolved_messages messages
      | failure message => rfl

theorem faults_messages (table : Table) (site : LinkSite) :
    (faultsAt table site).map LinkFault.message = messagesAt table site := by
  obtain ⟨link, label⟩ := site
  cases parsed : Target.parse link.url with
  | ordinary =>
      have plain := (Target.parse_ordinary_iff _).mp parsed
      simp [faultsAt, outcomeAt, expandLink, messagesAt, parsed, plain, LinkOutcome.faults]
  | malformed fault =>
      have introduced : Introduced link.url := by simp [Target.introduced_iff, parsed]
      simp [faultsAt, outcomeAt, expandLink, messagesAt, parsed, introduced, LinkOutcome.faults, LinkFault.message]
  | shortcut target =>
      have introduced : Introduced link.url := by simp [Target.introduced_iff, parsed]
      simp only [faultsAt, outcomeAt, expandLink, messagesAt, parsed, introduced, if_true]
      cases written : target.text with
      | some text => simpa using outcome_messages table target text
      | none =>
          simp only [Option.elim_none]
          cases label with
          | nil => rfl
          | cons node rest =>
              cases rest with
              | cons second more => simp [labelText, LinkOutcome.faults, LinkFault.message]
              | nil =>
                  cases node with
                  | element tag closing children => rfl
                  | leaf event =>
                      cases event with
                      | text text => simpa [labelText, Node.plainText?] using outcome_messages table target text
                      | _ => rfl

theorem expand_messages (table : Table) (nodes : List Node) :
    ((links nodes).flatMap (faultsAt table)).map LinkFault.message = (links nodes).flatMap (messagesAt table) := by
  rw [List.map_flatMap]
  simp only [faults_messages]

theorem expand_reports_all_messages (table : Table) (nodes : List Node) :
    (∀ messages, expand table nodes = .error messages ↔
      messages = (links nodes).flatMap (messagesAt table) ∧ messages ≠ []) ∧
    ((∃ after, expand table nodes = .ok after) ↔ (links nodes).flatMap (messagesAt table) = []) := by
  simp only [expand_settle, settle_error_iff, settle_ok_iff, ← expand_messages]
  simp

end LinkPress.Document
