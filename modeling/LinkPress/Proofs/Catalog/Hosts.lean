import LinkPress.Proofs.Catalog.Entries

set_option autoImplicit false

/- Where the addresses of the built-in catalog lead. Each entry has its host, and no option and no
   text can lead to another one or ask for something that the entry does not ask for. -/
namespace LinkPress.Catalog

open LinkPress.Shortcut LinkPress.Url

def service? (name : String) : Option Service := services.find? fun service => service.names.contains name

structure Leads (service : Service) (text : List Char) (parts : Parts) : Prop where
  scheme : parts.scheme = "https".toList
  user : parts.user = none
  host : service.site.Holds parts.host
  port : parts.port = none
  query : Asks (service.asking.key? text) parts.query
  fragment : parts.fragment = none

def Offers (answer : Resolution) (url : String) : Prop :=
  answer = .success url ∨ ∃ messages, answer = .warning messages url

def Guarded (service : Service) (text : List Char) (answer : Resolution) : Prop :=
  ∀ url, Offers answer url → ∃ parts, Parts.read? url.toList = some parts ∧ Leads service text parts

variable {service : Service}

theorem Serves.leads {text : List Char} {url : String} (serves : Serves service text (.success url)) :
    ∃ parts, Parts.read? url.toList = some parts ∧ Leads service text parts := by
  cases serves with
  | led address plain host query =>
      exact ⟨address.parts, address.read_render plain, rfl, rfl, host, rfl, query, rfl⟩

theorem Known.guarded {entry : Entry} (known : Known entry service) (option : Option String) (text : String) :
    Guarded service (Text.trim text.toList) (entry.resolver option text) := by
  rintro url offered
  rcases known.replies option text with serves | ⟨message, own, warned, serves⟩
  · rcases offered with success | ⟨messages, warning⟩
    · exact (success ▸ serves).leads
    · rw [warning] at serves
      cases serves
  · rw [warned] at offered
    rcases offered with success | ⟨messages, warning⟩
    · cases success
    · obtain ⟨-, rfl⟩ := Resolution.warning.inj warning
      exact serves.leads

theorem find_beside {α β : Type} (related : α → β → Prop) (left : α → Bool) (right : β → Bool)
    (agree : ∀ a b, related a b → left a = right b) (as : List α) (bs : List β) (all : List.Forall₂ related as bs)
    (a : α) (found : as.find? left = some a) : ∃ b, bs.find? right = some b ∧ related a b := by
  induction all with
  | nil => cases found
  | @cons first second more others beside rest ih =>
      have same := agree first second beside
      cases chosen : left first with
      | true =>
          rw [List.find?_cons_of_pos chosen] at found
          obtain rfl := Option.some.inj found
          exact ⟨second, List.find?_cons_of_pos (same ▸ chosen), beside⟩
      | false =>
          rw [List.find?_cons_of_neg (by simp [chosen])] at found
          rw [List.find?_cons_of_neg (by simp [← same, chosen])]
          exact ih found

theorem catalog_addresses_guarded (name : String) (option : Option String) (text url : String)
    (offered : Offers (table.resolve name option text) url) :
    ∃ service parts, service? name = some service ∧ Parts.read? url.toList = some parts ∧
      Leads service (Text.trim text.toList) parts := by
  rw [Table.resolve, Table.get?] at offered
  cases found : table.entries.find? fun entry => entry.names.contains name with
  | none =>
      rw [found] at offered
      rcases offered with offered | ⟨messages, offered⟩ <;> cases offered
  | some entry =>
      rw [found] at offered
      have agree (entry : Entry) (service : Service) (known : Known entry service) :
          entry.names.contains name = service.names.contains name := by rw [known.names]
      obtain ⟨service, beside, known⟩ := find_beside Known _ _ agree entries services entries_known entry found
      obtain ⟨parts, read, leads⟩ := known.guarded option text url offered
      exact ⟨service, parts, beside, read, leads⟩

def hostileText : String := " @evil.example/..\\?q=1#top\t%2F "
def hostileUrl : String := "https://fr.wikipedia.org/wiki/@evil.example%2F..%5C%3Fq=1%23top%252F"

theorem hostile_text_guarded :
    Offers (table.resolve "w" (some " FR ") hostileText) hostileUrl ∧
      ∃ service parts, service? "w" = some service ∧ Parts.read? hostileUrl.toList = some parts ∧
        Leads service (Text.trim hostileText.toList) parts := by
  have offered : Offers (table.resolve "w" (some " FR ") hostileText) hostileUrl := .inl (by rfl)
  exact ⟨offered, catalog_addresses_guarded "w" (some " FR ") hostileText hostileUrl offered⟩

end LinkPress.Catalog
