import LinkPress.Proofs.Catalog.Hosts

set_option autoImplicit false

/- Entries that strip at signs from their argument or cut it at slashes. A blank argument is refused
   before that is done; one of which nothing is left afterwards is not, and leads to the page that
   the entry's paths start from. -/
namespace LinkPress.Catalog

open LinkPress.Shortcut LinkPress.Url

structure PathEntry where
  names : List String
  title : String
  host : String
  base : List String
  -- The segments in front of those of the argument.
  leading : List String
  owned : Bool
  strips : Bool
  splits : Bool

def pathEntries : List PathEntry := [
  ⟨["github", "gh"], "github", "github.com", [""], [], true, true, true⟩,
  ⟨["gitlab"], "gitlab", "gitlab.com", [""], [], true, true, true⟩,
  ⟨["bitbucket"], "bitbucket", "bitbucket.org", [""], [], true, true, true⟩,
  ⟨["codeberg"], "codeberg", "codeberg.org", [""], [], true, true, true⟩,
  ⟨["npm"], "npm", "www.npmjs.com", [""], ["package"], false, false, true⟩,
  ⟨["arxiv"], "arxiv", "arxiv.org", [""], ["abs"], false, false, true⟩,
  ⟨["doi"], "doi", "doi.org", [""], [], false, false, true⟩,
  ⟨["godoc", "pkg-go"], "godoc", "pkg.go.dev", [""], [], false, false, true⟩,
  ⟨["docker"], "docker", "hub.docker.com", [""], ["r"], false, false, true⟩,
  ⟨["reddit"], "reddit", "www.reddit.com", ["r", ""], [], false, false, true⟩,
  ⟨["twitter"], "twitter", "twitter.com", [""], [""], false, true, false⟩]

namespace PathEntry

variable (entry : PathEntry)

-- The pieces of an argument that are left.
def remains (argument : List Char) : List (List Char) :=
  let stripped := if entry.strips then withoutAt argument else argument
  if entry.splits then Text.parts '/' stripped else [stripped].filter fun piece => !piece.isEmpty

def remainder (text : String) : List (List Char) := entry.remains (Text.trim text.toList)

def owner (option : Option String) : List (List Char) :=
  if entry.owned then ((option.bind Text.argument?).map forgeParts).getD [] else []

-- The page with nothing of the argument behind it.
def landing (option : Option String) : Address :=
  (Address.under entry.host entry.base).extend (entry.leading.map String.toList ++ entry.owner option)

-- An argument of which nothing is left is refused, so an address stands for
-- something of the argument.
structure Demands (answer : Resolution) (text : String) : Prop where
  answered : ∀ url, Offers answer url → entry.remainder text ≠ []
  refused : entry.remainder text = [] → answer = .failure (missingArgument entry.title)

-- Only a blank argument is refused.
structure Lands (resolver : Resolver) : Prop where
  blank : ∀ option text, Text.trim text.toList = [] → resolver option text = .failure (missingArgument entry.title)
  vanished : ∀ option text, Text.trim text.toList ≠ [] → entry.remainder text = [] →
    Offers (resolver option text) (entry.landing option).render

variable {entry}

theorem plain_lands (resolve : String → Resolution) (unowned : entry.owned = false)
    (lands : ∀ argument : String, entry.remains argument.toList = [] →
      resolve argument = page entry.host entry.base (entry.leading.map String.toList)) :
    entry.Lands (plain entry.title resolve) where
  blank option text blank := by rw [plain, Text.argument_blank text blank]
  vanished option text nonblank vanished := by
    rw [remainder, ← Text.trimmed_chars] at vanished
    rw [plain, Text.argument_nonblank text nonblank]
    dsimp only
    rw [lands _ vanished, page, landing, owner, unowned, if_neg Bool.false_ne_true, List.append_nil]
    cases option with
    | none => exact .inl rfl
    | some option => exact .inr ⟨_, rfl⟩

theorem forge_lands (owned : entry.owned = true) (strips : entry.strips = true) (splits : entry.splits = true)
    (base : entry.base = [""]) (leading : entry.leading = []) :
    entry.Lands (tagged entry.title (forge entry.host)) where
  blank option text blank := by rw [tagged, Text.argument_blank text blank]
  vanished option text nonblank vanished := by
    rw [remainder, ← Text.trimmed_chars] at vanished
    simp only [remains, strips, splits, if_true] at vanished
    rw [tagged, Text.argument_nonblank text nonblank]
    dsimp only
    rw [forge, forgeParts, vanished, List.append_nil, landing, owner, owned, if_pos rfl, base, leading, List.map_nil,
      List.nil_append]
    exact .inl rfl

theorem demands_iff (resolver : Resolver) (lands : entry.Lands resolver) (option : Option String) (text : String) :
    entry.Demands (resolver option text) text ↔ Text.trim text.toList = [] ∨ entry.remainder text ≠ [] := by
  constructor
  · intro demands
    by_contra neither
    rw [not_or, not_not] at neither
    exact demands.answered _ (lands.vanished option text neither.1 neither.2) neither.2
  · rintro (blank | left)
    · have answer := lands.blank option text blank
      refine ⟨fun url offered => ?_, fun _ => answer⟩
      rw [answer] at offered
      rcases offered with offered | ⟨messages, offered⟩ <;> cases offered
    · exact ⟨fun _ _ => left, fun vanished => absurd vanished left⟩

end PathEntry

theorem twitter_lands (user : String) (vanished : ([withoutAt user.toList].filter fun piece => !piece.isEmpty) = []) :
    twitter user = page "twitter.com" [""] [[]] := by
  have stripped : withoutAt user.toList = [] := by simpa using vanished
  rw [twitter, stripped]

theorem reddit_lands (target : String) (vanished : Text.parts '/' target.toList = []) :
    reddit target = page "www.reddit.com" ["r", ""] [] := by
  rw [reddit, vanished]

theorem docker_lands (image : String) (vanished : Text.parts '/' image.toList = []) :
    docker image = page "hub.docker.com" [""] ["r".toList] := by
  rw [docker, vanished]
  rfl

-- The pieces of the argument follow those of the entry.
theorem split_lands (host : String) (leading : List (List Char)) (argument : String)
    (vanished : Text.parts '/' argument.toList = []) :
    page host [""] (leading ++ Text.parts '/' argument.toList) = page host [""] leading := by
  rw [vanished, List.append_nil]

-- The names of an entry stand for one resolver, and it lands.
def Landed (entry : PathEntry) : Prop :=
  ∃ resolver, (∀ name ∈ entry.names, table.get? name = some resolver) ∧ entry.Lands resolver

theorem path_entries_landed : ∀ entry ∈ pathEntries, Landed entry := by
  simp only [pathEntries, List.forall_mem_cons]
  refine ⟨⟨_, ?_, PathEntry.forge_lands rfl rfl rfl rfl rfl⟩,
    ⟨_, ?_, PathEntry.forge_lands rfl rfl rfl rfl rfl⟩,
    ⟨_, ?_, PathEntry.forge_lands rfl rfl rfl rfl rfl⟩,
    ⟨_, ?_, PathEntry.forge_lands rfl rfl rfl rfl rfl⟩,
    ⟨_, ?_, PathEntry.plain_lands npm rfl (split_lands _ ["package".toList])⟩,
    ⟨_, ?_, PathEntry.plain_lands arxiv rfl (split_lands _ ["abs".toList])⟩,
    ⟨_, ?_, PathEntry.plain_lands doi rfl (split_lands _ [])⟩,
    ⟨_, ?_, PathEntry.plain_lands godoc rfl (split_lands _ [])⟩,
    ⟨_, ?_, PathEntry.plain_lands docker rfl docker_lands⟩,
    ⟨_, ?_, PathEntry.plain_lands reddit rfl reddit_lands⟩,
    ⟨_, ?_, PathEntry.plain_lands twitter rfl twitter_lands⟩, List.forall_mem_nil _⟩
  all_goals simp [Table.get?, table, entries, github, gitlab, bitbucket, codeberg]

theorem argument_demanded_iff (entry : PathEntry) (member : entry ∈ pathEntries) (name : String)
    (known : name ∈ entry.names) (option : Option String) (text : String) :
    (entry.Demands (table.resolve name option text) text ↔ Text.trim text.toList = [] ∨ entry.remainder text ≠ []) ∧
      (Text.trim text.toList ≠ [] → entry.remainder text = [] →
        Offers (table.resolve name option text) (entry.landing option).render) := by
  obtain ⟨resolver, named, lands⟩ := path_entries_landed entry member
  rw [Table.resolve, named name known]
  exact ⟨PathEntry.demands_iff resolver lands option text, lands.vanished option text⟩

def githubEntry : PathEntry := ⟨["github", "gh"], "github", "github.com", [""], [], true, true, true⟩

theorem stripped_repository_lands :
    githubEntry ∈ pathEntries ∧ "gh" ∈ githubEntry.names ∧ Text.trim " @@// ".toList ≠ [] ∧
      githubEntry.remainder " @@// " = [] ∧
      Offers (table.resolve "gh" (some " @rust-lang/") " @@// ") "https://github.com/rust-lang" := by
  have member : githubEntry ∈ pathEntries := by simp [pathEntries, githubEntry]
  have known : "gh" ∈ githubEntry.names := by decide
  have nonblank : Text.trim " @@// ".toList ≠ [] := by decide
  have vanished : githubEntry.remainder " @@// " = [] := by decide
  have landing : (githubEntry.landing (some " @rust-lang/")).render = "https://github.com/rust-lang" := by decide
  have lands := (argument_demanded_iff githubEntry member "gh" known (some " @rust-lang/") " @@// ").2 nonblank vanished
  exact ⟨member, known, nonblank, vanished, landing ▸ lands⟩

-- An at sign alone leads to the front page.
theorem lone_at_sign_unrefused :
    githubEntry ∈ pathEntries ∧ "github" ∈ githubEntry.names ∧ githubEntry.remainder "@" = [] ∧
      table.resolve "github" none "@" = .success "https://github.com/" ∧
      ¬ githubEntry.Demands (table.resolve "github" none "@") "@" := by
  have vanished : githubEntry.remainder "@" = [] := by decide
  have answered : table.resolve "github" none "@" = .success "https://github.com/" := by rfl
  refine ⟨by simp [pathEntries, githubEntry], by decide, vanished, answered, fun demands => ?_⟩
  exact demands.answered _ (.inl answered) vanished

end LinkPress.Catalog
