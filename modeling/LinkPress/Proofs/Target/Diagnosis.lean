import LinkPress.Proofs.Target.Spelling

set_option autoImplicit false

/- What is wrong with a text that sets out to be a shortcut and is the spelling of none. The faults
   are told apart by how the text begins and by its first parenthesis. -/
namespace LinkPress.Target

-- The part of a text from its first parenthesis on, if that part is not one group and no more.
inductive Misgrouped : List Char → Fault → Prop where
  | closed (after : List Char) : Misgrouped (')' :: after) .unexpectedClose
  | unclosed (inner : List Char) (never : ')' ∉ inner) : Misgrouped ('(' :: inner) .unclosed
  | second (inner after : List Char) (inside : ')' ∉ inner) :
      Misgrouped ('(' :: (inner ++ ')' :: '(' :: after)) .multipleGroups
  | trailing (inner : List Char) (first : Char) (after : List Char) (inside : ')' ∉ inner) (other : first ≠ '(') :
      Misgrouped ('(' :: (inner ++ ')' :: first :: after)) (.trailing (String.ofList (first :: after)))

-- The fault of a text: no name behind the introducer, or else a group that is none behind the name
-- and the option, neither of which holds a parenthesis.
inductive Diagnosed : List Char → Fault → Prop where
  | bare : Diagnosed ['@'] .emptyName
  | nameless (first : Char) (after : List Char) (ends : first = ':' ∨ first = '(' ∨ first = ')') :
      Diagnosed ('@' :: first :: after) .emptyName
  | misgrouped (name : String) (option : Option String) (group : List Char) (fault : Fault) (nonempty : name ≠ "")
      (plain : ∀ c ∈ name.toList, c ≠ ':' ∧ c ≠ '(' ∧ c ≠ ')') (optionPlain : OptionPlain option)
      (wrong : Misgrouped group fault) :
      Diagnosed ('@' :: (name.toList ++ ((displayOption option).toList ++ group))) fault

theorem misgrouped_stopped (group : List Char) (fault : Fault) (wrong : Misgrouped group fault) :
    Stopped endsOption group := by
  cases wrong <;> simp [Stopped, endsOption]

theorem unclosed_plain (inner : List Char) (inside : ')' ∉ inner) : ∀ c ∈ inner, (c == ')') = false := by
  intro c member
  simpa using fun same : c = ')' => inside (same ▸ member)

theorem rest_closed (inner after : List Char) (inside : ')' ∉ inner) :
    rest (· == ')') (inner ++ ')' :: after) = ')' :: after :=
  rest_part _ inner _ (unclosed_plain inner inside) (by simp [Stopped])

theorem rest_unclosed (inner : List Char) (never : ')' ∉ inner) : rest (· == ')') inner = [] := by
  simpa using rest_part _ inner [] (unclosed_plain inner never) (by simp [Stopped])

theorem closed_cases (inner : List Char) :
    ')' ∉ inner ∨ ∃ text after, inner = text ++ ')' :: after ∧ ')' ∉ text := by
  have cut := before_append_rest (· == ')') inner
  have inside : ')' ∉ before (· == ')') inner := by
    intro member
    simpa using before_plain (· == ')') inner ')' member
  cases left : rest (· == ')') inner with
  | nil =>
      rw [left, List.append_nil] at cut
      exact .inl (cut ▸ inside)
  | cons close after =>
      have stopped := rest_stopped (· == ')') inner
      rw [left] at cut stopped
      obtain rfl : close = ')' := by simpa using stopped close rfl
      exact .inr ⟨_, after, cut.symm, inside⟩

theorem parse_group_of_misgrouped (group : List Char) (fault : Fault) (wrong : Misgrouped group fault) :
    parseGroup group = .error fault := by
  cases wrong with
  | closed after => rfl
  | unclosed inner never => simp [parseGroup, rest_unclosed inner never]
  | second inner after inside => simp [parseGroup, rest_closed inner _ inside]
  | trailing inner first after inside other => simp [parseGroup, rest_closed inner _ inside, other]

theorem parse_group_error_iff (group : List Char) (fault : Fault) (stopped : Stopped endsOption group) :
    parseGroup group = .error fault ↔ Misgrouped group fault := by
  refine ⟨?_, parse_group_of_misgrouped group fault⟩
  intro failed
  -- The group has a fault of its own; it is the one that was found.
  suffices wrong : ∃ other, Misgrouped group other by
    obtain ⟨other, wrong⟩ := wrong
    have found := parse_group_of_misgrouped group other wrong
    rwa [Except.error.inj (failed.symm.trans found)]
  cases group with
  | nil => cases failed
  | cons c inner =>
      have ends : c = '(' ∨ c = ')' := by simpa [endsOption] using stopped c rfl
      rcases ends with rfl | rfl
      · rcases closed_cases inner with never | ⟨text, after, rfl, inside⟩
        · exact ⟨_, .unclosed inner never⟩
        · cases after with
          | nil => simp [parseGroup, rest_closed text [] inside] at failed
          | cons first after =>
              by_cases opened : first = '('
              · subst opened
                exact ⟨_, .second text after inside⟩
              · exact ⟨_, .trailing text first after inside opened⟩
      · exact ⟨_, .closed inner⟩

theorem parse_option_stopped (s : List Char) (stopped : Stopped endsName s) :
    Stopped endsOption (parseOption s).2 := by
  cases s with
  | nil => simp [Stopped, parseOption]
  | cons c after =>
      by_cases colon : c = ':'
      · subst colon
        exact rest_stopped endsOption after
      · have ends := stopped c rfl
        simp only [parseOption]
        simpa [Stopped, endsName, endsOption, colon] using ends

theorem nameless_diagnosed (after : List Char) (nothing : before endsName after = []) :
    Diagnosed ('@' :: after) .emptyName := by
  have whole := before_append_rest endsName after
  rw [nothing, List.nil_append] at whole
  have stopped := rest_stopped endsName after
  rw [whole] at stopped
  cases after with
  | nil => exact .bare
  | cons first after =>
      refine .nameless first after ?_
      simpa [endsName, or_assoc] using stopped first rfl

theorem headed_diagnosed (after : List Char) (fault : Fault) (name : before endsName after ≠ [])
    (failed : parseGroup (parseOption (rest endsName after)).2 = .error fault) : Diagnosed ('@' :: after) fault := by
  have stopped := parse_option_stopped _ (rest_stopped endsName after)
  have wrong := (parse_group_error_iff _ fault stopped).mp failed
  obtain ⟨optionPlain, spelled⟩ := parse_option_spelling (rest endsName after)
  have diagnosed := Diagnosed.misgrouped (String.ofList (before endsName after)) _ _ fault (by simpa using name)
    (fun c member => (ends_name_plain c).mp (before_plain endsName after c (by simpa using member))) optionPlain wrong
  rwa [← spelled, String.toList_ofList, before_append_rest] at diagnosed

theorem parse_malformed_iff (s : String) (fault : Fault) :
    parse s = .malformed fault ↔ Diagnosed s.toList fault := by
  constructor
  · intro parsed
    rcases parse_cases s with ⟨-, ordinary⟩ | ⟨after, chars, ⟨nothing, malformed⟩ | ⟨name, ⟨found, failed, malformed⟩ | ⟨text, -, read⟩⟩⟩
    · cases ordinary.symm.trans parsed
    · obtain rfl := Reading.malformed.inj (malformed.symm.trans parsed)
      rw [chars]
      exact nameless_diagnosed after nothing
    · obtain rfl := Reading.malformed.inj (malformed.symm.trans parsed)
      rw [chars]
      exact headed_diagnosed after found name failed
    · cases read.symm.trans parsed
  · intro diagnosed
    generalize chars : s.toList = text at diagnosed
    cases diagnosed with
    | bare => rw [parse, chars]; rfl
    | nameless first after ends =>
        rw [parse, chars]
        rcases ends with rfl | rfl | rfl <;> rfl
    | misgrouped name option group _ nonempty plain optionPlain wrong =>
        have failed := parse_group_of_misgrouped group fault wrong
        rcases parse_headed s name option group chars nonempty plain optionPlain (misgrouped_stopped group fault wrong)
          with ⟨found, group, parsed⟩ | ⟨text, read, -⟩
        · rwa [Except.error.inj (failed.symm.trans group)]
        · cases failed.symm.trans read

theorem malformed_iff_unspelled (s : String) :
    (∃ fault, parse s = .malformed fault) ↔ Introduced s ∧ ∀ target, WellFormed target → s ≠ target.display := by
  have spelled : (∀ target, WellFormed target → s ≠ target.display) ↔ ∀ target, parse s ≠ .shortcut target := by
    simp only [ne_eq, parse_shortcut_iff, not_and]
  rw [introduced_iff, spelled]
  cases parse s <;> simp

-- Each text that sets out to be a shortcut and is the spelling of none has one fault, which is the
-- one that reading it reports.
theorem faults_diagnosed (s : String) :
    (parse s = .ordinary ↔ ¬ Introduced s) ∧
      (∀ fault, parse s = .malformed fault ↔ Diagnosed s.toList fault) ∧
      (Introduced s ∧ (∀ target, WellFormed target → s ≠ target.display) ↔
        ∃ fault, Diagnosed s.toList fault ∧ ∀ other, Diagnosed s.toList other → other = fault) := by
  refine ⟨parse_ordinary_iff s, parse_malformed_iff s, ?_⟩
  rw [← malformed_iff_unspelled]
  simp only [← parse_malformed_iff]
  constructor
  · rintro ⟨fault, parsed⟩
    exact ⟨fault, parsed, fun other read => (Reading.malformed.inj (parsed.symm.trans read)).symm⟩
  · rintro ⟨fault, parsed, -⟩
    exact ⟨fault, parsed⟩

example : parse "@:(" = .malformed .emptyName ∧ parse "@n(f(x)(y" = .malformed .multipleGroups := by decide

end LinkPress.Target
