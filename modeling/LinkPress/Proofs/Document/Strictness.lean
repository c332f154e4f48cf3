import LinkPress.Proofs.Document.Expansion

set_option autoImplicit false

/- Whether a successful expansion has expanded every shortcut link. It has, unless the table answers
   one of them with a warning that carries no message: such a link reports nothing and stays. -/
namespace LinkPress.Document

open LinkPress.Shortcut
open LinkPress.Target (Introduced)

-- Nothing is missing for this link to be expanded to the address.
def Expands (table : Table) (site : LinkSite) (url : String) : Prop :=
  ∃ answer, Answers table site answer ∧ answer.strict = .ok url

def Silent (table : Table) (site : LinkSite) : Prop :=
  ∃ url, Answers table site (.warning [] url)

-- A shortcut link that cannot be expanded and has a message to show for it.
def Rejected (table : Table) (site : LinkSite) : Prop :=
  Introduced site.link.url ∧ (∀ url, ¬ Expands table site url) ∧ ¬ Silent table site

def AllExpanded (table : Table) (before after : List Node) : Prop :=
  List.Forall₂ (fun old new => Introduced old.link.url → Expands table old new.link.url)
    (links before) (links after)

theorem strict_ok_iff (answer : Resolution) (url : String) :
    answer.strict = .ok url ↔ answer = .success url := by
  cases answer <;> simp [Resolution.strict]

theorem expands_iff (table : Table) (site : LinkSite) (url : String) :
    Expands table site url ↔ Answers table site (.success url) := by
  constructor
  · rintro ⟨answer, answers, strict⟩
    rwa [(strict_ok_iff answer url).mp strict] at answers
  · exact fun answers => ⟨.success url, answers, rfl⟩

theorem silent_not_expands (table : Table) (site : LinkSite) (url : String)
    (silent : Silent table site) : ¬ Expands table site url := by
  obtain ⟨partialUrl, answers⟩ := silent
  rw [expands_iff]
  intro success
  cases answers_unique table site _ _ answers success

theorem silent_introduced (table : Table) (site : LinkSite) (silent : Silent table site) :
    Introduced site.link.url := by
  obtain ⟨partialUrl, answers⟩ := silent
  exact answers_introduced table site _ answers

theorem expanded_url_of_expands (table : Table) (site : LinkSite) (url : String)
    (expands : Expands table site url) : expandedUrl table site = url := by
  have outcome := answered_outcome table site _ ((expands_iff table site url).mp expands)
  simp [expandedUrl, outcome, outcomeOf]

theorem expanded_url_of_silent (table : Table) (site : LinkSite) (silent : Silent table site) :
    expandedUrl table site = site.link.url := by
  obtain ⟨partialUrl, answers⟩ := silent
  simp [expandedUrl, answered_outcome table site _ answers, outcomeOf]

-- The pass looks at the messages, not at the answer: here the two part ways.
theorem faults_nil_iff (table : Table) (site : LinkSite) :
    faultsAt table site = [] ↔
      (Introduced site.link.url → (∃ url, Expands table site url) ∨ Silent table site) := by
  rcases outcome_cases table site with ⟨ordinary, outcome⟩ | ⟨introduced, unanswered, fault, outcome⟩ |
    ⟨answer, answers, outcome⟩
  · simp [faultsAt, outcome, LinkOutcome.faults, ordinary]
  · simp [faultsAt, outcome, LinkOutcome.faults, introduced, Expands, Silent, unanswered]
  · have introduced := answers_introduced table site answer answers
    have only : ∀ other, Answers table site other ↔ answer = other := fun other =>
      ⟨answers_unique table site answer other answers, fun same => same ▸ answers⟩
    simp only [introduced, true_implies, expands_iff, Silent, only, faultsAt, outcome]
    cases answer <;> simp [outcomeOf, LinkOutcome.faults]

theorem faults_nil_iff_not_rejected (table : Table) (site : LinkSite) :
    faultsAt table site = [] ↔ ¬ Rejected table site := by
  rw [faults_nil_iff, Rejected]
  grind

theorem expand_ok_iff_none_rejected (table : Table) (nodes after : List Node) :
    expand table nodes = .ok after ↔
      (∀ site ∈ links nodes, ¬ Rejected table site) ∧ after = readdress (expandedUrl table) nodes := by
  simp only [expand_ok_iff, faults_nil_iff_not_rejected]

theorem expand_error_iff_rejected (table : Table) (nodes : List Node) :
    (∃ messages, expand table nodes = .error messages) ↔ ∃ site ∈ links nodes, Rejected table site := by
  constructor
  · rintro ⟨messages, failed⟩
    by_contra passing
    have succeeded := (expand_ok_iff_none_rejected table nodes _).mpr
      ⟨fun site member rejected => passing ⟨site, member, rejected⟩, rfl⟩
    rw [failed] at succeeded
    cases succeeded
  · rintro ⟨site, member, rejected⟩
    cases result : expand table nodes with
    | error messages => exact ⟨messages, rfl⟩
    | ok after => exact absurd rejected (((expand_ok_iff_none_rejected _ _ _).mp result).1 site member)

theorem expanded_or_silent (table : Table) (nodes after : List Node) (done : expand table nodes = .ok after) :
    List.Forall₂ (fun before now => Introduced before.link.url →
        Expands table before now.link.url ∨ Silent table before ∧ now.link = before.link)
      (links nodes) (links after) := by
  obtain ⟨passing, rfl⟩ := (expand_ok_iff table nodes after).mp done
  rw [related_links_readdress]
  intro site member introduced
  rcases (faults_nil_iff table site).mp (passing site member) introduced with ⟨url, expands⟩ | silent
  · left
    simpa [LinkSite.readdress, expanded_url_of_expands table site url expands] using expands
  · right
    exact ⟨silent, by simp [LinkSite.readdress, expanded_url_of_silent table site silent]⟩

theorem all_expanded_iff (table : Table) (nodes after : List Node) (done : expand table nodes = .ok after) :
    AllExpanded table nodes after ↔ ∀ site ∈ links nodes, ¬ Silent table site := by
  have either := expanded_or_silent table nodes after done
  obtain ⟨-, rfl⟩ := (expand_ok_iff table nodes after).mp done
  rw [AllExpanded, related_links_readdress]
  rw [related_links_readdress] at either
  constructor
  · intro expanded site member silent
    exact silent_not_expands table site _ silent (expanded site member (silent_introduced table site silent))
  · intro loud site member introduced
    rcases either site member introduced with expands | ⟨silent, -⟩
    · exact expands
    · exact absurd silent (loud site member)

theorem expand_ok_means_expanded_iff (table : Table) (nodes : List Node) :
    ((∃ messages, expand table nodes = .error messages) ↔ ∃ site ∈ links nodes, Rejected table site) ∧
    (∀ after, expand table nodes = .ok after →
      List.Forall₂ (fun before now => Introduced before.link.url →
          Expands table before now.link.url ∨ Silent table before ∧ now.link = before.link)
        (links nodes) (links after)) ∧
    ((∀ after, expand table nodes = .ok after → AllExpanded table nodes after) ↔
      (∃ site ∈ links nodes, Rejected table site) ∨ ∀ site ∈ links nodes, ¬ Silent table site) := by
  refine ⟨expand_error_iff_rejected table nodes, expanded_or_silent table nodes, ?_⟩
  rw [← expand_error_iff_rejected]
  cases result : expand table nodes with
  | error messages => simp
  | ok after => simpa using all_expanded_iff table nodes after result

def silentTable : Table := ⟨[⟨["w"], fun _ _ => .warning [] "https://partial"⟩]⟩

def silentPage : List Node :=
  [.element .paragraph (some .paragraph) [.element (.link ⟨.inline, "@w", "", ""⟩) (some .link) [.leaf (.text "x")]]]

theorem silent_warning_passes :
    expand silentTable silentPage = .ok silentPage ∧
      (silentTable.resolve "w" none "x").strict = .error [] ∧
      ¬ AllExpanded silentTable silentPage silentPage := by
  have passes : expand silentTable silentPage = .ok silentPage := by rfl
  refine ⟨passes, rfl, ?_⟩
  rw [all_expanded_iff silentTable silentPage silentPage passes]
  intro loud
  have answers : Answers silentTable ⟨⟨.inline, "@w", "", ""⟩, [.leaf (.text "x")]⟩ (.warning [] "https://partial") :=
    ⟨⟨"w", none, none⟩, "x", by decide, .inr ⟨rfl, rfl⟩, rfl⟩
  exact loud _ (by simp [silentPage, links, Node.links, Tag.site]) ⟨_, answers⟩

end LinkPress.Document
