import LinkPress.Catalog.Entries
import LinkPress.Proofs.Url.Segments
import Mathlib.Data.List.Forall2

set_option autoImplicit false

/- What is known of each entry of the built-in catalog: the service that it leads to, how it reads its
   option, and that what it makes of a text is an address there or a message. The laws of the catalog
   as a whole are read off from `entries_known`. -/
namespace LinkPress.Catalog

open LinkPress.Shortcut LinkPress.Url

-- A host of its own, or one for each language under a common domain.
inductive Site where
  | fixed (host : String)
  | languages (domain : String)

-- Whether an entry searches, and the key that the searched text is given under.
inductive Asking where
  | never
  | always (key : String)
  | unlessNumber (key : String)

structure Service where
  names : List String
  site : Site
  asking : Asking

def services : List Service := [
  ⟨["wikipedia", "w"], .languages "wikipedia.org", .never⟩,
  ⟨["google", "g"], .fixed "www.google.com", .always "q"⟩,
  ⟨["duckduckgo", "ddg"], .fixed "duckduckgo.com", .always "q"⟩,
  ⟨["youtube", "yt"], .fixed "www.youtube.com", .always "search_query"⟩,
  ⟨["twitter"], .fixed "twitter.com", .never⟩,
  ⟨["reddit"], .fixed "www.reddit.com", .never⟩,
  ⟨["stackoverflow", "so"], .fixed "stackoverflow.com", .unlessNumber "q"⟩,
  ⟨["arxiv"], .fixed "arxiv.org", .never⟩,
  ⟨["doi"], .fixed "doi.org", .never⟩,
  ⟨["rfc"], .fixed "www.rfc-editor.org", .never⟩,
  ⟨["github", "gh"], .fixed "github.com", .never⟩,
  ⟨["gitlab"], .fixed "gitlab.com", .never⟩,
  ⟨["bitbucket"], .fixed "bitbucket.org", .never⟩,
  ⟨["codeberg"], .fixed "codeberg.org", .never⟩,
  ⟨["crates", "cargo"], .fixed "crates.io", .never⟩,
  ⟨["docsrs"], .fixed "docs.rs", .never⟩,
  ⟨["hackage", "hk"], .fixed "hackage.haskell.org", .never⟩,
  ⟨["stackage"], .fixed "www.stackage.org", .never⟩,
  ⟨["npm"], .fixed "www.npmjs.com", .never⟩,
  ⟨["pypi"], .fixed "pypi.org", .never⟩,
  ⟨["rubygems", "gem"], .fixed "rubygems.org", .never⟩,
  ⟨["cran"], .fixed "cran.r-project.org", .never⟩,
  ⟨["hex"], .fixed "hex.pm", .never⟩,
  ⟨["godoc", "pkg-go"], .fixed "pkg.go.dev", .never⟩,
  ⟨["docker"], .fixed "hub.docker.com", .never⟩]

-- The names of the entries that have options.
def optioned : List (List String) := [
  ["wikipedia", "w"], ["github", "gh"], ["gitlab"], ["bitbucket"], ["codeberg"], ["crates", "cargo"],
  ["docsrs"], ["hackage", "hk"], ["stackage"]]

def isLabelChar (c : Char) : Bool := c.isLower || c.isDigit || c == '-'
def IsLabel (label : List Char) : Prop := label ≠ [] ∧ ∀ c ∈ label, isLabelChar c = true

def Site.Holds (host : List Char) : Site → Prop
  | .fixed own => host = own.toList
  | .languages domain => ∃ label, IsLabel label ∧ host = label ++ '.' :: domain.toList

def Asking.key? (text : List Char) : Asking → Option (List Char)
  | .never => none
  | .always key => some key.toList
  | .unlessNumber key => if isDigits text then none else some key.toList

-- The query that goes with a key: one pair, whose value has no mark that would
-- end it or begin another pair.
def Asks : Option (List Char) → Option (List Char) → Prop
  | none, query => query = none
  | some key, query => ∃ value, query = some (key ++ '=' :: value) ∧ ∀ c ∈ value, isValueChar c = true

-- What a service makes of a text: an address of its own that asks for what it may ask for, or a message.
inductive Serves (service : Service) (text : List Char) : Resolution → Prop where
  | led (address : Address) (plain : address.Plain) (host : service.site.Holds address.host.toList)
      (query : Asks (service.asking.key? text) address.query) : Serves service text (.success address.render)
  | refused (message : String) : Serves service text (.failure message)

-- An option makes a difference to some text.
def Differs (resolver : Resolver) : Prop :=
  ∃ option text url other, resolver (some option) text = .success url ∧
    resolver none text = .success other ∧ url ≠ other

-- An entry and its service. One with options says so, is served whatever option is left when the
-- blank ones are dropped, and makes something of it.
inductive Known : Entry → Service → Prop where
  | plain (title : String) (others : List String) (site : Site) (asking : Asking) (resolve : String → Resolution)
      (unlisted : title :: others ∉ optioned)
      (serves : ∀ argument, Serves ⟨title :: others, site, asking⟩ argument.toList (resolve argument)) :
      Known ⟨title :: others, Catalog.plain title resolve⟩ ⟨title :: others, site, asking⟩
  | tagged (title : String) (others : List String) (site : Site) (asking : Asking)
      (resolve : Option String → String → Resolution) (listed : title :: others ∈ optioned)
      (differs : Differs (Catalog.tagged title resolve))
      (serves : ∀ option argument, (∀ given ∈ option, given ≠ "") →
        Serves ⟨title :: others, site, asking⟩ argument.toList (resolve option argument)) :
      Known ⟨title :: others, Catalog.tagged title resolve⟩ ⟨title :: others, site, asking⟩

variable {service : Service} {text : List Char}

theorem under_plain (host : String) (base : List String) (plainHost : host.toList.all isHostChar = true)
    (plainBase : base.all (fun segment => segment.toList.all isPathChar) = true) : (Address.under host base).Plain where
  host := List.all_eq_true.mp plainHost
  path := by
    rw [Address.under, PlainPath, List.forall_mem_map]
    intro segment member
    exact List.all_eq_true.mp (List.all_eq_true.mp plainBase segment member)
  query := by simp [Address.under]

theorem extend_kept (address : Address) (segments : List (List Char)) :
    (address.extend segments).host = address.host ∧ (address.extend segments).query = address.query := by
  rw [Address.extend]
  split <;> exact ⟨rfl, rfl⟩

theorem page_serves (host : String) (base : List String) (segments : List (List Char))
    (plain : (Address.under host base).Plain) (own : service.site.Holds host.toList)
    (quiet : service.asking.key? text = none) : Serves service text (page host base segments) := by
  have kept := extend_kept (Address.under host base) segments
  refine .led _ (Address.extend_plain _ segments plain) ?_ ?_
  · rw [kept.1]
    exact own
  · rw [kept.2, quiet]
    rfl

theorem search_serves (host : String) (base : List String) (key text : String)
    (plain : (Address.under host base).Plain) (own : service.site.Holds host.toList)
    (plainKey : encodeForm key.toList = key.toList) (asking : service.asking.key? text.toList = some key.toList) :
    Serves service text.toList (search host base key text) := by
  refine .led _ (Address.with_pair_plain plain key.toList text.toList) own ?_
  rw [asking]
  exact ⟨encodeForm text.toList, by simp [Address.withPair, plainKey], encode_form_plain text.toList⟩

theorem label_lower (label found : List Char) (read : Host.ofLabel? label = some found) :
    found = label.map Char.toLower := by
  simp only [Host.ofLabel?] at read
  split at read
  · split at read
    · exact (Option.some.inj read).symm
    · cases read
  · exact (Option.some.inj read).symm

theorem lower_label_char (c : Char) (written : (c.isAlphanum || c == '-') = true) : isLabelChar c.toLower = true := by
  have all : ∀ n < 128, ((Char.ofNat n).isAlphanum || Char.ofNat n == '-') = true →
    isLabelChar (Char.ofNat n).toLower = true := by decide
  have ascii : c.toNat < 128 := by
    rw [Bool.or_eq_true, beq_iff_eq] at written
    rcases written with alphanum | rfl
    · have range := alphanum_range c alphanum
      omega
    · decide
  have known := all c.toNat ascii
  rw [Char.ofNat_toNat] at known
  exact known written

theorem label_char_host (c : Char) (label : isLabelChar c = true) : isHostChar c = true := by
  have spelled : isHostChar c = (c.isUpper || c.isLower || c.isDigit || c == '-' || c == '.') := rfl
  simp only [isLabelChar, Bool.or_eq_true] at label
  simp only [spelled, Bool.or_eq_true]
  rcases label with (lower | digit) | hyphen
  · exact .inl (.inl (.inl (.inr lower)))
  · exact .inl (.inl (.inr digit))
  · exact .inl (.inr hyphen)

theorem wikipedia_serves (site : service.site = .languages "wikipedia.org") (quiet : service.asking = .never)
    (language : Option String) (article : String) (chosen : ∀ given ∈ language, given ≠ "") :
    Serves service article.toList (wikipedia language article) := by
  have nonempty : language.getD "en" ≠ "" := by
    cases language with
    | none => decide
    | some given => exact chosen given rfl
  simp only [wikipedia]
  generalize language.getD "en" = written at nonempty
  by_cases allowed : (written.toList.all fun c => c.isAlphanum || c == '-') = true
  · rw [allowed]
    simp only [Bool.not_true, Bool.false_eq_true, if_false]
    cases read : Host.ofLabel? written.toList with
    | none => exact .refused _
    | some label =>
        have lower := label_lower written.toList label read
        have isLabel : IsLabel label := by
          refine ⟨?_, ?_⟩
          · rw [lower]
            simpa using nonempty
          · rw [lower, List.forall_mem_map]
            exact fun c member => lower_label_char c (List.all_eq_true.mp allowed c member)
        have host : (String.ofList label ++ ".wikipedia.org").toList = label ++ '.' :: "wikipedia.org".toList := by simp
        refine page_serves _ _ _ (under_plain _ _ ?_ (by decide)) ?_ ?_
        · rw [host, List.all_append, Bool.and_eq_true, List.all_eq_true]
          exact ⟨fun c member => label_char_host c (isLabel.2 c member), by decide⟩
        · rw [host, site]
          exact ⟨label, isLabel, rfl⟩
        · rw [quiet, Asking.key?]
  · simp only [Bool.not_eq_true] at allowed
    rw [allowed]
    exact .refused _

theorem own_page_serves (host : String) (base : List String) (site : service.site = .fixed host)
    (quiet : service.asking = .never) (plain : (Address.under host base).Plain) (segments : List (List Char)) :
    Serves service text (page host base segments) :=
  page_serves host base segments plain (by rw [site]; rfl) (by rw [quiet]; rfl)

theorem own_search_serves (host : String) (base : List String) (key : String) (site : service.site = .fixed host)
    (asking : service.asking = .always key) (plain : (Address.under host base).Plain)
    (plainKey : encodeForm key.toList = key.toList) (text : String) :
    Serves service text.toList (search host base key text) :=
  search_serves host base key text plain (by rw [site]; rfl) plainKey (by rw [asking]; rfl)

theorem reddit_serves (site : service.site = .fixed "www.reddit.com") (quiet : service.asking = .never)
    (target : String) : Serves service target.toList (reddit target) := by
  have below (base : List String) (plain : (Address.under "www.reddit.com" base).Plain) (segments : List (List Char)) :
      Serves service target.toList (page "www.reddit.com" base segments) :=
    own_page_serves _ base site quiet plain segments
  have top := below [""] (under_plain _ _ (by decide) (by decide))
  have group := below ["r", ""] (under_plain _ _ (by decide) (by decide))
  rw [reddit]
  split
  · split
    · exact top _
    · exact group _
  · exact group _

theorem stackoverflow_serves (site : service.site = .fixed "stackoverflow.com")
    (asking : service.asking = .unlessNumber "q") (query : String) :
    Serves service query.toList (stackoverflow query) := by
  have own : service.site.Holds "stackoverflow.com".toList := by rw [site]; rfl
  rw [stackoverflow]
  by_cases number : isDigits query.toList = true
  · rw [if_pos number]
    refine page_serves _ _ _ (under_plain _ _ (by decide) (by decide)) own ?_
    rw [asking, Asking.key?, if_pos number]
  · rw [if_neg number]
    refine search_serves _ _ _ query (under_plain _ _ (by decide) (by decide)) own (by decide) ?_
    rw [asking, Asking.key?, if_neg number]

theorem rfc_serves (site : service.site = .fixed "www.rfc-editor.org") (quiet : service.asking = .never)
    (number : String) : Serves service number.toList (rfc number) := by
  rw [rfc]
  split
  · exact .refused _
  · exact own_page_serves _ _ site quiet (under_plain _ _ (by decide) (by decide)) _

theorem docker_serves (site : service.site = .fixed "hub.docker.com") (quiet : service.asking = .never)
    (image : String) : Serves service image.toList (docker image) := by
  rw [docker]
  split
  · exact own_page_serves _ _ site quiet (under_plain _ _ (by decide) (by decide)) _
  · exact own_page_serves _ _ site quiet (under_plain _ _ (by decide) (by decide)) _

-- An entry that makes one page of its argument, whatever the argument is.
theorem page_known (title : String) (others : List String) (host : String) (base : List String)
    (segments : String → List (List Char)) (unlisted : title :: others ∉ optioned)
    (plainHost : host.toList.all isHostChar = true)
    (plainBase : base.all (fun segment => segment.toList.all isPathChar) = true) :
    Known ⟨title :: others, plain title fun argument => page host base (segments argument)⟩
      ⟨title :: others, .fixed host, .never⟩ := by
  refine .plain title others (.fixed host) .never _ unlisted fun argument => ?_
  exact own_page_serves host base rfl rfl (under_plain host base plainHost plainBase) (segments argument)

theorem search_known (title : String) (others : List String) (host : String) (base : List String) (key : String)
    (unlisted : title :: others ∉ optioned) (plainHost : host.toList.all isHostChar = true)
    (plainBase : base.all (fun segment => segment.toList.all isPathChar) = true)
    (plainKey : encodeForm key.toList = key.toList) :
    Known ⟨title :: others, plain title (search host base key)⟩ ⟨title :: others, .fixed host, .always key⟩ := by
  refine .plain title others (.fixed host) (.always key) _ unlisted fun argument => ?_
  exact own_search_serves host base key rfl rfl (under_plain host base plainHost plainBase) plainKey argument

theorem tagged_page_known (title : String) (others : List String) (host : String) (base : List String)
    (segments : Option String → String → List (List Char)) (listed : title :: others ∈ optioned)
    (differs : Differs (tagged title fun option argument => page host base (segments option argument)))
    (plainHost : host.toList.all isHostChar = true)
    (plainBase : base.all (fun segment => segment.toList.all isPathChar) = true) :
    Known ⟨title :: others, tagged title fun option argument => page host base (segments option argument)⟩
      ⟨title :: others, .fixed host, .never⟩ := by
  refine .tagged title others (.fixed host) .never _ listed differs fun option argument _ => ?_
  exact own_page_serves host base rfl rfl (under_plain host base plainHost plainBase) (segments option argument)

theorem entries_known : List.Forall₂ Known entries services :=
  .cons (.tagged _ _ _ _ _ (by decide) ⟨"fr", "x", _, _, rfl, rfl, by decide⟩ (wikipedia_serves rfl rfl)) <|
  .cons (search_known _ _ _ _ _ (by decide) (by decide) (by decide) (by decide)) <|
  .cons (search_known _ _ _ _ _ (by decide) (by decide) (by decide) (by decide)) <|
  .cons (search_known _ _ _ _ _ (by decide) (by decide) (by decide) (by decide)) <|
  .cons (page_known _ _ _ _ _ (by decide) (by decide) (by decide)) <|
  .cons (.plain _ _ _ _ _ (by decide) (reddit_serves rfl rfl)) <|
  .cons (.plain _ _ _ _ _ (by decide) (stackoverflow_serves rfl rfl)) <|
  .cons (page_known _ _ _ _ _ (by decide) (by decide) (by decide)) <|
  .cons (page_known _ _ _ _ _ (by decide) (by decide) (by decide)) <|
  .cons (.plain _ _ _ _ _ (by decide) (rfc_serves rfl rfl)) <|
  .cons (tagged_page_known _ _ _ _ _ (by decide) ⟨"o", "x", _, _, rfl, rfl, by decide⟩ (by decide) (by decide)) <|
  .cons (tagged_page_known _ _ _ _ _ (by decide) ⟨"o", "x", _, _, rfl, rfl, by decide⟩ (by decide) (by decide)) <|
  .cons (tagged_page_known _ _ _ _ _ (by decide) ⟨"o", "x", _, _, rfl, rfl, by decide⟩ (by decide) (by decide)) <|
  .cons (tagged_page_known _ _ _ _ _ (by decide) ⟨"o", "x", _, _, rfl, rfl, by decide⟩ (by decide) (by decide)) <|
  .cons (tagged_page_known _ _ _ _ _ (by decide) ⟨"1", "x", _, _, rfl, rfl, by decide⟩ (by decide) (by decide)) <|
  .cons (tagged_page_known _ _ _ _ _ (by decide) ⟨"1", "x", _, _, rfl, rfl, by decide⟩ (by decide) (by decide)) <|
  .cons (tagged_page_known _ _ _ _ _ (by decide) ⟨"1", "x", _, _, rfl, rfl, by decide⟩ (by decide) (by decide)) <|
  .cons (tagged_page_known _ _ _ _ _ (by decide) ⟨"nightly", "x", _, _, rfl, rfl, by decide⟩ (by decide) (by decide)) <|
  .cons (page_known _ _ _ _ _ (by decide) (by decide) (by decide)) <|
  .cons (page_known _ _ _ _ _ (by decide) (by decide) (by decide)) <|
  .cons (page_known _ _ _ _ _ (by decide) (by decide) (by decide)) <|
  .cons (page_known _ _ _ _ _ (by decide) (by decide) (by decide)) <|
  .cons (page_known _ _ _ _ _ (by decide) (by decide) (by decide)) <|
  .cons (page_known _ _ _ _ _ (by decide) (by decide) (by decide)) <|
  .cons (.plain _ _ _ _ _ (by decide) (docker_serves rfl rfl)) .nil

theorem entry_known (entry : Entry) (member : entry ∈ entries) : ∃ service, Known entry service := by
  obtain ⟨place, within, rfl⟩ := List.getElem_of_mem member
  have same := entries_known.length_eq
  exact ⟨services[place], entries_known.get within (same ▸ within)⟩

theorem Known.names {entry : Entry} (known : Known entry service) : entry.names = service.names := by
  cases known <;> rfl

theorem argument_trimmed (given kept : String) (argued : Text.argument? given = some kept) :
    kept ≠ "" ∧ kept.toList = Text.trim given.toList := by
  rw [Text.argument?] at argued
  split at argued
  · cases argued
  · next nonempty =>
      obtain rfl := Option.some.inj argued
      exact ⟨nonempty, by simp [Text.trimmed]⟩

-- The answer of an entry is the one of its service, or that one with a complaint about the option.
def Replies (service : Service) (text : List Char) (answer : Resolution) : Prop :=
  Serves service text answer ∨ ∃ message url, answer = .warning [message] url ∧ Serves service text (.success url)

theorem plain_replies (title : String) (resolve : String → Resolution)
    (serves : ∀ argument, Serves service argument.toList (resolve argument)) (option : Option String) (text : String) :
    Replies service (Text.trim text.toList) (plain title resolve option text) := by
  rw [plain]
  cases argued : Text.argument? text with
  | none => exact .inl (.refused _)
  | some argument =>
      have answer := serves argument
      rw [(argument_trimmed text argument argued).2] at answer
      dsimp only
      generalize resolve argument = resolution at answer
      cases option with
      | none => exact .inl answer
      | some option =>
          cases resolution with
          | success url => exact .inr ⟨_, url, rfl, answer⟩
          | warning messages url => exact .inl answer
          | failure message => exact .inl answer

theorem tagged_replies (title : String) (resolve : Option String → String → Resolution)
    (serves : ∀ option argument, (∀ given ∈ option, given ≠ "") →
      Serves service argument.toList (resolve option argument)) (option : Option String) (text : String) :
    Replies service (Text.trim text.toList) (tagged title resolve option text) := by
  rw [tagged]
  cases argued : Text.argument? text with
  | none => exact .inl (.refused _)
  | some argument =>
      rw [← (argument_trimmed text argument argued).2]
      refine .inl (serves _ argument fun given chosen => ?_)
      obtain ⟨written, -, trimmed⟩ := Option.bind_eq_some_iff.mp chosen
      exact (argument_trimmed written given trimmed).1

theorem Known.replies {entry : Entry} (known : Known entry service) (option : Option String) (text : String) :
    Replies service (Text.trim text.toList) (entry.resolver option text) := by
  cases known with
  | plain title others site asking resolve _ serves =>
      dsimp only
      exact plain_replies title resolve serves option text
  | tagged title others site asking resolve _ _ serves =>
      dsimp only
      exact tagged_replies title resolve serves option text

end LinkPress.Catalog
