import LinkPress.Proofs.Catalog.Hosts

set_option autoImplicit false

/- Entries that put the name of a package, and its version if they take one, into the path of an
   address. The address carries them unless one of them is not intact. -/
namespace LinkPress.Catalog

open LinkPress.Shortcut LinkPress.Url
open LinkPress.Url.Address (Intact)

structure Registry where
  names : List String
  title : String
  host : String
  leading : List String
  versions : Bool

def registries : List Registry := [
  ⟨["crates", "cargo"], "crates", "crates.io", ["crates"], true⟩,
  ⟨["docsrs"], "docsrs", "docs.rs", [], true⟩,
  ⟨["pypi"], "pypi", "pypi.org", ["project"], false⟩,
  ⟨["rubygems", "gem"], "rubygems", "rubygems.org", ["gems"], false⟩,
  ⟨["hex"], "hex", "hex.pm", ["packages"], false⟩]

namespace Registry

variable (registry : Registry)

def resolver : Resolver :=
  if registry.versions then tagged registry.title (versioned registry.host (registry.leading ++ [""]))
  else plain registry.title fun package => page registry.host (registry.leading ++ [""]) [package.toList]

-- What an address has to carry: the package, and the version unless it is blank.
def texts (option : Option String) (text : String) : List (List Char) :=
  Text.trim text.toList :: if registry.versions then
    (option.toList.map fun given => Text.trim given.toList).filter fun version => !version.isEmpty else []

def Carries (option : Option String) (text url : String) : Prop :=
  ∃ parts, Parts.read? url.toList = some parts ∧
    parts.segments = (registry.leading.map String.toList ++ registry.texts option text).map Text.bytes

end Registry

theorem registry_resolver (registry : Registry) (member : registry ∈ registries) (name : String)
    (known : name ∈ registry.names) : table.get? name = some registry.resolver := by
  fin_cases member <;> fin_cases known <;> rfl

theorem registry_plain (registry : Registry) (member : registry ∈ registries) :
    (Address.under registry.host (registry.leading ++ [""])).Plain ∧
      ∀ segment ∈ registry.leading, segment.toList ≠ [] ∧ decodeBytes segment.toList = Text.bytes segment.toList := by
  have host : ∀ registry ∈ registries, registry.host.toList.all isHostChar = true := by decide
  have base : ∀ registry ∈ registries,
    (registry.leading ++ [""]).all (fun segment => segment.toList.all isPathChar) = true := by decide
  have read : ∀ registry ∈ registries, ∀ segment ∈ registry.leading,
    segment.toList ≠ [] ∧ decodeBytes segment.toList = Text.bytes segment.toList := by decide
  exact ⟨under_plain _ _ (host registry member) (base registry member), read registry member⟩

def Registry.address (registry : Registry) (option : Option String) (text : String) : Address :=
  (Address.under registry.host (registry.leading ++ [""])).extend (registry.texts option text)

theorem version_texts (option : Option String) :
    ((option.bind Text.argument?).map String.toList).toList =
      (option.toList.map fun given => Text.trim given.toList).filter fun version => !version.isEmpty := by
  cases option with
  | none => rfl
  | some given =>
      by_cases blank : Text.trim given.toList = []
      · simp [Text.argument_blank given blank, blank]
      · simp [Text.argument_nonblank given blank, Text.trimmed_chars, blank]

theorem registry_success_iff (registry : Registry) (member : registry ∈ registries) (name : String)
    (known : name ∈ registry.names) (option : Option String) (text url : String)
    (nonblank : Text.trim text.toList ≠ []) :
    table.resolve name option text = .success url ↔
      (registry.versions = true ∨ option = none) ∧ url = (registry.address option text).render := by
  have argued := Text.argument_nonblank text nonblank
  rw [Table.resolve, registry_resolver registry member name known, Registry.address, Registry.texts]
  dsimp only [Registry.resolver]
  by_cases versions : registry.versions = true
  · rw [if_pos versions, if_pos versions, tagged, argued]
    dsimp only
    rw [versioned, page, Text.trimmed_chars, version_texts, Resolution.success.injEq]
    exact ⟨fun same => ⟨.inl versions, same.symm⟩, fun answered => answered.2.symm⟩
  · rw [if_neg versions, if_neg versions, plain, argued]
    dsimp only
    cases option with
    | none =>
        dsimp only
        rw [page, Text.trimmed_chars, Resolution.success.injEq]
        exact ⟨fun same => ⟨.inr rfl, same.symm⟩, fun answered => answered.2.symm⟩
    | some option => simp [page, versions]

theorem registry_carries_iff (registry : Registry) (member : registry ∈ registries) (option : Option String)
    (text : String) (nonblank : Text.trim text.toList ≠ []) :
    registry.Carries option text (registry.address option text).render ↔
      ∀ argument ∈ registry.texts option text, Intact argument := by
  have plain := registry_plain registry member
  have nonempty : ∀ argument ∈ registry.texts option text, argument ≠ [] := by
    intro argument given
    rw [Registry.texts, List.mem_cons] at given
    rcases given with rfl | version
    · exact nonblank
    · split at version
      · simpa using (List.mem_filter.mp version).2
      · cases version
  have segments := Address.extend_segments_iff registry.host registry.leading (registry.texts option text) plain.1
    plain.2 (List.cons_ne_nil _ _) nonempty
  have read := Address.read_render (Address.extend_plain _ (registry.texts option text) plain.1)
  rw [← segments, Registry.Carries, Registry.address, read]
  simp

theorem registry_texts_carried_iff (registry : Registry) (member : registry ∈ registries) (name : String)
    (known : name ∈ registry.names) (option : Option String) (text : String)
    (nonblank : Text.trim text.toList ≠ []) :
    ((∃ url, table.resolve name option text = .success url) ↔ registry.versions = true ∨ option = none) ∧
    ∀ url, table.resolve name option text = .success url →
      (registry.Carries option text url ↔ ∀ argument ∈ registry.texts option text, Intact argument) := by
  have success (url : String) := registry_success_iff registry member name known option text url nonblank
  refine ⟨?_, ?_⟩
  · simp only [success]
    simp
  · intro url answered
    rw [((success url).mp answered).2]
    exact registry_carries_iff registry member option text nonblank

def cratesRegistry : Registry := ⟨["crates", "cargo"], "crates", "crates.io", ["crates"], true⟩
def pypiRegistry : Registry := ⟨["pypi"], "pypi", "pypi.org", ["project"], false⟩

def serdeUrl : String := "https://crates.io/crates/serde%2F..%3Fq%23/1.0%CE%B2"

theorem serde_texts_carried :
    cratesRegistry ∈ registries ∧ "cargo" ∈ cratesRegistry.names ∧ Text.trim " serde/..?q# ".toList ≠ [] ∧
      table.resolve "cargo" (some "\t1.0β ") " serde/..?q# " = .success serdeUrl ∧
      cratesRegistry.Carries (some "\t1.0β ") " serde/..?q# " serdeUrl := by
  have member : cratesRegistry ∈ registries := by simp [registries, cratesRegistry]
  have known : "cargo" ∈ cratesRegistry.names := by decide
  have nonblank : Text.trim " serde/..?q# ".toList ≠ [] := by decide
  have answered : table.resolve "cargo" (some "\t1.0β ") " serde/..?q# " = .success serdeUrl := by rfl
  have carried := registry_texts_carried_iff cratesRegistry member "cargo" known (some "\t1.0β ") " serde/..?q# " nonblank
  have texts : cratesRegistry.texts (some "\t1.0β ") " serde/..?q# " = ["serde/..?q#".toList, "1.0β".toList] := by rfl
  refine ⟨member, known, nonblank, answered, (carried.2 serdeUrl answered).mpr ?_⟩
  rw [texts]
  decide

-- A tab within a name is dropped, so the address names another package.
theorem tab_in_package_dropped :
    pypiRegistry ∈ registries ∧ "pypi" ∈ pypiRegistry.names ∧ Text.trim "a\tb".toList ≠ [] ∧
      table.resolve "pypi" none "a\tb" = .success "https://pypi.org/project/ab" ∧
      ¬ pypiRegistry.Carries none "a\tb" "https://pypi.org/project/ab" := by
  refine ⟨by simp [registries, pypiRegistry], by decide, by decide, by rfl, ?_⟩
  rintro ⟨parts, read, same⟩
  have reading : Parts.read? "https://pypi.org/project/ab".toList =
      some ⟨"https".toList, none, "pypi.org".toList, none, "/project/ab".toList, none, none⟩ := by decide
  obtain rfl := Option.some.inj (read.symm.trans reading)
  revert same
  decide

end LinkPress.Catalog
