import LinkPress.Catalog.Entries
import LinkPress.Proofs.Text.Trimming

set_option autoImplicit false

/- Links that can be written in more than one way. An owner stands in the option or in front of the
   repository, and a subreddit has its kind in front of it or not; the answer is the same one. -/
namespace LinkPress.Catalog

open LinkPress.Shortcut LinkPress.Url

-- At signs are stripped from the front only, and a slash is none.
theorem without_at_slash (front back : List Char) :
    withoutAt (front ++ '/' :: back) = withoutAt front ++ '/' :: back := by
  have stop : ('/' :: back).dropWhile (· == '@') = '/' :: back := rfl
  rw [withoutAt, List.dropWhile_append, stop]
  by_cases gone : (front.dropWhile (· == '@')).isEmpty = true
  · rw [if_pos gone, withoutAt, List.isEmpty_iff.mp gone, List.nil_append]
  · rw [if_neg gone, withoutAt]

theorem without_at_same (text : List Char) (unmarked : text.head? ≠ some '@') : withoutAt text = text :=
  Text.dropped_same _ text ((Text.front_unmarked_iff '@' text).mpr unmarked)

theorem forge_parts_joined (owner repository : String) (unmarked : repository.toList.head? ≠ some '@') :
    forgeParts (owner ++ "/" ++ repository) = forgeParts owner ++ forgeParts repository := by
  have written : (owner ++ "/" ++ repository).toList = owner.toList ++ '/' :: repository.toList := by simp
  rw [forgeParts, written, without_at_slash, Text.parts_at, forgeParts, forgeParts, without_at_same _ unmarked]

theorem forge_joined (host owner repository : String) (unmarked : repository.toList.head? ≠ some '@') :
    forge host none (owner ++ "/" ++ repository) = forge host (some owner) repository := by
  rw [forge, forge, forge_parts_joined owner repository unmarked]
  rfl

theorem forge_resolver (name : String) (known : name ∈ ["github", "gh", "gitlab", "bitbucket", "codeberg"]) :
    ∃ title host, table.get? name = some (tagged title (forge host)) := by
  simp only [List.mem_cons, List.not_mem_nil, or_false] at known
  rcases known with rfl | rfl | rfl | rfl | rfl
  · exact ⟨"github", "github.com", by simp [Table.get?, table, entries, github]⟩
  · exact ⟨"github", "github.com", by simp [Table.get?, table, entries, github]⟩
  · exact ⟨"gitlab", "gitlab.com", by simp [Table.get?, table, entries, gitlab]⟩
  · exact ⟨"bitbucket", "bitbucket.org", by simp [Table.get?, table, entries, bitbucket]⟩
  · exact ⟨"codeberg", "codeberg.org", by simp [Table.get?, table, entries, codeberg]⟩

theorem owner_in_either_place (name : String) (known : name ∈ ["github", "gh", "gitlab", "bitbucket", "codeberg"])
    (owner repository : String) (owned : Text.trim owner.toList ≠ []) (given : Text.trim repository.toList ≠ [])
    (unmarked : (Text.trim repository.toList).head? ≠ some '@') :
    table.resolve name (some owner) repository =
      table.resolve name none (Text.trimmed owner ++ "/" ++ Text.trimmed repository) := by
  obtain ⟨title, host, found⟩ := forge_resolver name known
  have written : (Text.trimmed owner ++ "/" ++ Text.trimmed repository).toList =
      Text.trim owner.toList ++ ['/'] ++ Text.trim repository.toList := by
    simp [Text.trimmed]
  have whole : Text.Trimmed (Text.trimmed owner ++ "/" ++ Text.trimmed repository).toList := by
    rw [written]
    exact (Text.trim_trimmed _).around ['/'] (Text.trim_trimmed _) owned given
  have argument := Text.argument_trimmed_same _ whole (by simp [written])
  rw [Table.resolve, Table.resolve, found]
  dsimp only
  rw [tagged, tagged, argument, Text.argument_nonblank repository given, Option.bind_some,
    Text.argument_nonblank owner owned]
  dsimp only
  rw [Option.bind_none, forge_joined]
  rw [Text.trimmed_chars]
  exact unmarked

-- Signs and slashes alone make an owner that is no part of the address.
theorem nameless_owner_joined :
    "gh" ∈ ["github", "gh", "gitlab", "bitbucket", "codeberg"] ∧ Text.trim " @@/ ".toList ≠ [] ∧
      Text.trim "\trust-lang//./rust/@x ".toList ≠ [] ∧
      (Text.trim "\trust-lang//./rust/@x ".toList).head? ≠ some '@' ∧
      table.resolve "gh" (some " @@/ ") "\trust-lang//./rust/@x " =
        table.resolve "gh" none "@@//rust-lang//./rust/@x" ∧
      table.resolve "gh" none "@@//rust-lang//./rust/@x" = .success "https://github.com/rust-lang/rust/@x" := by
  have known : "gh" ∈ ["github", "gh", "gitlab", "bitbucket", "codeberg"] := by decide
  have owned : Text.trim " @@/ ".toList ≠ [] := by decide
  have given : Text.trim "\trust-lang//./rust/@x ".toList ≠ [] := by decide
  have unmarked : (Text.trim "\trust-lang//./rust/@x ".toList).head? ≠ some '@' := by decide
  exact ⟨known, owned, given, unmarked, owner_in_either_place "gh" known _ _ owned given unmarked, rfl⟩

-- The first piece says what the others name.
def SaysKind (text : List Char) : Prop :=
  ∃ kind name more, Text.parts '/' text = kind :: name :: more ∧ kind ∈ ["r".toList, "u".toList, "user".toList]

theorem reddit_unsaid (target : String) (bare : ¬ SaysKind target.toList) :
    reddit target = page "www.reddit.com" ["r", ""] (Text.parts '/' target.toList) := by
  rw [reddit]
  split
  · next kind name more cut =>
      rw [if_neg]
      intro known
      exact bare ⟨kind, name, more, cut, List.contains_iff_mem.mp known⟩
  · rfl

theorem reddit_said (target : String) (names : List (List Char)) (some : names ≠ [])
    (cut : Text.parts '/' target.toList = "r".toList :: names) :
    reddit target = page "www.reddit.com" [""] ("r".toList :: names) := by
  obtain ⟨name, more, rfl⟩ := List.exists_cons_of_ne_nil some
  rw [reddit, cut]
  rfl

-- The path of all subreddits is the root with one segment behind it.
theorem subreddit_page (names : List (List Char)) (some : names ≠ []) :
    page "www.reddit.com" [""] ("r".toList :: names) = page "www.reddit.com" ["r", ""] names := by
  obtain ⟨name, more, rfl⟩ := List.exists_cons_of_ne_nil some
  rfl

theorem reddit_led (lead target : String) (only : Text.parts '/' lead.toList = ["r".toList])
    (some : Text.parts '/' target.toList ≠ []) (bare : ¬ SaysKind target.toList) :
    reddit (lead ++ "/" ++ target) = reddit target := by
  have cut : Text.parts '/' (lead ++ "/" ++ target).toList = "r".toList :: Text.parts '/' target.toList := by
    have written : (lead ++ "/" ++ target).toList = lead.toList ++ '/' :: target.toList := by simp
    rw [written, Text.parts_at, only]
    rfl
  rw [reddit_said _ _ some cut, subreddit_page _ some, reddit_unsaid target bare]

theorem plain_same (name : String) (resolve : String → Resolution) (a b keptA keptB : String)
    (argumentA : Text.argument? a = some keptA) (argumentB : Text.argument? b = some keptB)
    (same : resolve keptA = resolve keptB) (option : Option String) :
    plain name resolve option a = plain name resolve option b := by
  rw [plain, plain, argumentA, argumentB]
  dsimp only
  rw [same]

theorem reddit_led_resolved (lead text : String) (whole : Text.Trimmed lead.toList)
    (only : Text.parts '/' lead.toList = ["r".toList]) (some : Text.parts '/' (Text.trim text.toList) ≠ [])
    (bare : ¬ SaysKind (Text.trim text.toList)) (option : Option String) :
    table.resolve "reddit" option (lead ++ "/" ++ Text.trimmed text) = table.resolve "reddit" option text := by
  have found : table.get? "reddit" = .some (plain "reddit" reddit) := by
    simp [Table.get?, table, entries]
  have begun : lead.toList ≠ [] := by
    intro empty
    rw [empty] at only
    cases only
  have ended : Text.trim text.toList ≠ [] := by
    intro empty
    rw [empty] at some
    exact some rfl
  have written : (lead ++ "/" ++ Text.trimmed text).toList = lead.toList ++ ['/'] ++ Text.trim text.toList := by
    simp [Text.trimmed]
  have framed : Text.Trimmed (lead ++ "/" ++ Text.trimmed text).toList := by
    rw [written]
    exact whole.around ['/'] (Text.trim_trimmed _) begun ended
  rw [← Text.trimmed_chars] at some bare
  rw [Table.resolve, Table.resolve, found]
  exact plain_same "reddit" reddit _ _ _ _ (Text.argument_trimmed_same _ framed (by simp [written]))
    (Text.argument_nonblank text ended) (reddit_led lead _ only some bare) option

theorem subreddit_with_or_without_kind (text : String) (some : Text.parts '/' (Text.trim text.toList) ≠ [])
    (bare : ¬ SaysKind (Text.trim text.toList)) (option : Option String) :
    table.resolve "reddit" option ("r/" ++ Text.trimmed text) = table.resolve "reddit" option text ∧
      table.resolve "reddit" option ("/r/" ++ Text.trimmed text) = table.resolve "reddit" option text := by
  have short := reddit_led_resolved "r" text ((Text.trimmed_iff _).mpr (by decide)) (by decide) some bare option
  have long := reddit_led_resolved "/r" text ((Text.trimmed_iff _).mpr (by decide)) (by decide) some bare option
  exact ⟨short, long⟩

-- A lone piece is a name, also where it is called as the kinds are.
theorem subreddit_called_user :
    Text.parts '/' (Text.trim " /user// ".toList) ≠ [] ∧ ¬ SaysKind (Text.trim " /user// ".toList) ∧
      table.resolve "reddit" (some "x") ("r/" ++ Text.trimmed " /user// ") = table.resolve "reddit" (some "x") " /user// " ∧
      table.resolve "reddit" (some "x") ("/r/" ++ Text.trimmed " /user// ") = table.resolve "reddit" (some "x") " /user// " ∧
      table.resolve "reddit" (some "x") " /user// " =
        .warning ["shortcut 'reddit' does not support option 'x'"] "https://www.reddit.com/r/user" := by
  have some : Text.parts '/' (Text.trim " /user// ".toList) ≠ [] := by decide
  have bare : ¬ SaysKind (Text.trim " /user// ".toList) := by
    rintro ⟨kind, name, more, cut, -⟩
    have lone : Text.parts '/' (Text.trim " /user// ".toList) = ["user".toList] := by decide
    rw [lone] at cut
    cases cut
  have same := subreddit_with_or_without_kind " /user// " some bare (.some "x")
  exact ⟨some, bare, same.1, same.2, rfl⟩

end LinkPress.Catalog
