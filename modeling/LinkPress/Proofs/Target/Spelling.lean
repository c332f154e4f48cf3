import LinkPress.Target

set_option autoImplicit false

/- Reading and writing shortcut targets are inverse to each other: a text reads as a target exactly
   if the target is well formed and the text is its spelling. -/
namespace LinkPress.Target

variable (stop : Char → Bool)

-- What is left of a text once a part has been cut off: nothing, or a text that
-- begins with a character ending the part.
def Stopped (s : List Char) : Prop := ∀ c ∈ s.head?, stop c = true

theorem before_append_rest (s : List Char) : before stop s ++ rest stop s = s :=
  List.takeWhile_append_dropWhile

theorem before_plain (s : List Char) : ∀ c ∈ before stop s, stop c = false := by
  have kept : ∀ c ∈ before stop s, (!stop c) = true := List.all_eq_true.mp List.all_takeWhile
  intro c member
  simpa using kept c member

theorem rest_stopped (s : List Char) : Stopped stop (rest stop s) := by
  intro c first
  have dropped := List.head?_dropWhile_not (fun c => !stop c) s
  rw [show (List.dropWhile (fun c => !stop c) s).head? = some c from first] at dropped
  simpa using dropped

theorem before_part (part tail : List Char) (plain : ∀ c ∈ part, stop c = false)
    (stopped : Stopped stop tail) : before stop (part ++ tail) = part := by
  have none : tail.takeWhile (fun c => !stop c) = [] := by
    cases tail with
    | nil => rfl
    | cons c tail => simp [stopped c rfl]
  rw [before, List.takeWhile_append_of_pos (fun c member => by simp [plain c member]), none, List.append_nil]

theorem rest_part (part tail : List Char) (plain : ∀ c ∈ part, stop c = false)
    (stopped : Stopped stop tail) : rest stop (part ++ tail) = tail := by
  have cut := before_append_rest stop (part ++ tail)
  rw [before_part stop part tail plain stopped] at cut
  exact List.append_cancel_left cut

theorem ends_name_plain (c : Char) : endsName c = false ↔ c ≠ ':' ∧ c ≠ '(' ∧ c ≠ ')' := by
  simp [endsName, and_assoc]

theorem ends_option_plain (c : Char) : endsOption c = false ↔ c ≠ '(' ∧ c ≠ ')' := by
  simp [endsOption]

def TextPlain (text : Option String) : Prop := ∀ written ∈ text, ∀ c ∈ written.toList, c ≠ ')'
def OptionPlain (option : Option String) : Prop :=
  ∀ written ∈ option, ∀ c ∈ written.toList, c ≠ '(' ∧ c ≠ ')'

theorem parse_group_written (inner : List Char) (text : Option String)
    (parsed : parseGroup ('(' :: inner) = .ok text) :
    TextPlain text ∧ '(' :: inner = (displayText text).toList := by
  have cut := before_append_rest (· == ')') inner
  have stopped := rest_stopped (· == ')') inner
  have plain := before_plain (· == ')') inner
  cases left : rest (· == ')') inner with
  | nil => simp [parseGroup, left] at parsed
  | cons close trailing =>
      rw [left] at cut stopped
      have closing : close = ')' := by simpa using stopped close rfl
      cases trailing with
      | cons c trailing =>
          by_cases second : c = '(' <;> simp [parseGroup, left, second] at parsed
      | nil =>
          have written : text = some (String.ofList (before (· == ')') inner)) := by
            simpa [parseGroup, left] using parsed.symm
          subst written closing
          refine ⟨?_, ?_⟩
          · intro written same c member
            obtain rfl := Option.some.inj same
            simpa using plain c (by simpa using member)
          · simp [displayText, cut]

theorem parse_group_spelling (group : List Char) (text : Option String)
    (parsed : parseGroup group = .ok text) : TextPlain text ∧ group = (displayText text).toList := by
  cases group with
  | nil =>
      obtain rfl : text = none := by simpa [parseGroup] using parsed.symm
      exact ⟨by simp [TextPlain], rfl⟩
  | cons c inner =>
      by_cases opened : c = '('
      · subst opened
        exact parse_group_written inner text parsed
      · simp [parseGroup, opened] at parsed

theorem parse_group_display (text : Option String) (plain : TextPlain text) :
    parseGroup (displayText text).toList = .ok text := by
  cases text with
  | none => rfl
  | some written =>
      have inside : ∀ c ∈ written.toList, (c == ')') = false := by
        intro c member
        simpa using plain written rfl c member
      have stopped : Stopped (· == ')') [')'] := by simp [Stopped]
      have spelled : (displayText (some written)).toList = '(' :: (written.toList ++ [')']) := by
        simp [displayText]
      rw [spelled]
      simp [parseGroup, before_part _ _ _ inside stopped, rest_part _ _ _ inside stopped]

-- A group of its own begins with a parenthesis, so it ends a name and an option.
theorem display_text_stopped (text : Option String) : Stopped endsOption (displayText text).toList := by
  cases text <;> simp [Stopped, displayText, endsOption]

theorem stops_option_stops_name (s : List Char) (stopped : Stopped endsOption s) : Stopped endsName s := by
  intro c first
  have ends := stopped c first
  simp only [endsOption, Bool.or_eq_true] at ends
  simp only [endsName, Bool.or_eq_true]
  rcases ends with opened | closed
  · exact .inl (.inr opened)
  · exact .inr closed

theorem display_option_stopped (option : Option String) (tail : List Char)
    (stopped : Stopped endsOption tail) : Stopped endsName ((displayOption option).toList ++ tail) := by
  cases option with
  | none => simpa [displayOption] using stops_option_stops_name tail stopped
  | some written => simp [Stopped, displayOption, endsName]

theorem parse_option_display (option : Option String) (tail : List Char) (plain : OptionPlain option)
    (stopped : Stopped endsOption tail) :
    parseOption ((displayOption option).toList ++ tail) = (option, tail) := by
  cases option with
  | none =>
      cases tail with
      | nil => rfl
      | cons c tail =>
          have colon : c ≠ ':' := by
            intro same
            have ends := stopped c rfl
            simp [same, endsOption] at ends
          simp [displayOption, parseOption, colon]
  | some written =>
      have inside : ∀ c ∈ written.toList, endsOption c = false := fun c member =>
        (ends_option_plain c).mpr (plain written rfl c member)
      simp [displayOption, parseOption, before_part _ _ _ inside stopped, rest_part _ _ _ inside stopped]

theorem parse_option_spelling (s : List Char) :
    OptionPlain (parseOption s).1 ∧ s = (displayOption (parseOption s).1).toList ++ (parseOption s).2 := by
  cases s with
  | nil => exact ⟨by simp [parseOption, OptionPlain], rfl⟩
  | cons c after =>
      by_cases colon : c = ':'
      · subst colon
        refine ⟨?_, ?_⟩
        · intro written same c member
          obtain rfl : String.ofList (before endsOption after) = written := by simpa [parseOption] using same
          exact (ends_option_plain c).mp (before_plain endsOption after c (by simpa using member))
        · simp [parseOption, displayOption, before_append_rest endsOption]
      · refine ⟨?_, ?_⟩
        · simp [parseOption, colon, OptionPlain]
        · simp [parseOption, colon, displayOption]

def Introduced (s : String) : Prop := s.toList.head? = some '@'

instance (s : String) : Decidable (Introduced s) := inferInstanceAs (Decidable (_ = _))

-- All that can come of a text. What follows reads this list and never the
-- parser itself.
theorem parse_cases (s : String) :
    (¬ Introduced s ∧ parse s = .ordinary) ∨
      ∃ after, s.toList = '@' :: after ∧
        (before endsName after = [] ∧ parse s = .malformed .emptyName ∨
          before endsName after ≠ [] ∧
            ((∃ fault, parseGroup (parseOption (rest endsName after)).2 = .error fault ∧
                parse s = .malformed fault) ∨
              ∃ text, parseGroup (parseOption (rest endsName after)).2 = .ok text ∧
                parse s = .shortcut ⟨String.ofList (before endsName after),
                  (parseOption (rest endsName after)).1, text⟩)) := by
  rw [parse, Introduced]
  cases s.toList with
  | nil => exact .inl ⟨by simp, rfl⟩
  | cons c after =>
      by_cases introduced : c = '@'
      · subst introduced
        refine .inr ⟨after, rfl, ?_⟩
        cases name : before endsName after with
        | nil => exact .inl ⟨rfl, by simp [parseChars, introducer, name]⟩
        | cons first more =>
            refine .inr ⟨by simp, ?_⟩
            cases group : parseGroup (parseOption (rest endsName after)).2 with
            | error fault => exact .inl ⟨fault, rfl, by simp [parseChars, introducer, name, group]⟩
            | ok text => exact .inr ⟨text, rfl, by simp [parseChars, introducer, name, group]⟩
      · exact .inl ⟨by simpa using introduced, by simp [parseChars, introducer, introduced]⟩

theorem parse_ordinary_iff (s : String) : parse s = .ordinary ↔ ¬ Introduced s := by
  rcases parse_cases s with ⟨plain, parsed⟩ | ⟨after, chars, outcomes⟩
  · simp [plain, parsed]
  · have introduced : Introduced s := by simp [Introduced, chars]
    rcases outcomes with ⟨-, parsed⟩ | ⟨-, ⟨fault, -, parsed⟩ | ⟨text, -, parsed⟩⟩ <;> simp [introduced, parsed]

theorem introduced_iff (s : String) : Introduced s ↔ parse s ≠ .ordinary := by
  rw [ne_eq, parse_ordinary_iff, Decidable.not_not]

theorem display_chars (target : Target) :
    target.display.toList =
      introducer :: (target.name.toList ++ ((displayOption target.option).toList ++ (displayText target.text).toList)) := by
  simp [display]

-- A name, then perhaps an option, then a text from its first parenthesis on: what comes of it is
-- settled by that text.
theorem parse_headed (s : String) (name : String) (option : Option String) (group : List Char)
    (chars : s.toList = introducer :: (name.toList ++ ((displayOption option).toList ++ group)))
    (nonempty : name ≠ "") (plain : ∀ c ∈ name.toList, c ≠ ':' ∧ c ≠ '(' ∧ c ≠ ')') (optionPlain : OptionPlain option)
    (stopped : Stopped endsOption group) :
    (∃ fault, parseGroup group = .error fault ∧ parse s = .malformed fault) ∨
      ∃ text, parseGroup group = .ok text ∧ parse s = .shortcut ⟨name, option, text⟩ := by
  have inside : ∀ c ∈ name.toList, endsName c = false := fun c member => (ends_name_plain c).mpr (plain c member)
  have behind := display_option_stopped option group stopped
  rcases parse_cases s with ⟨ordinary, -⟩ | ⟨after, introduced, outcomes⟩
  · exact absurd (by simp [Introduced, chars, introducer]) ordinary
  · obtain ⟨-, rfl⟩ := List.cons.inj (introduced.symm.trans chars)
    rw [before_part _ _ _ inside behind, rest_part _ _ _ inside behind,
      parse_option_display option group optionPlain stopped, String.ofList_toList] at outcomes
    rcases outcomes with ⟨empty, -⟩ | ⟨-, outcomes⟩
    · exact absurd (String.toList_eq_nil_iff.mp empty) nonempty
    · exact outcomes

theorem parse_display (target : Target) (valid : WellFormed target) :
    parse target.display = .shortcut target := by
  have group := parse_group_display _ valid.text_plain
  rcases parse_headed target.display target.name target.option (displayText target.text).toList (display_chars target)
    valid.name_nonempty valid.name_plain valid.option_plain (display_text_stopped target.text) with
    ⟨fault, failed, -⟩ | ⟨text, read, parsed⟩
  · cases group.symm.trans failed
  · obtain rfl := Except.ok.inj (group.symm.trans read)
    exact parsed

theorem parse_spelling (s : String) (target : Target) (parsed : parse s = .shortcut target) :
    WellFormed target ∧ s = target.display := by
  rcases parse_cases s with ⟨-, ordinary⟩ | ⟨after, chars, ⟨-, malformed⟩ | ⟨name, ⟨fault, -, malformed⟩ | ⟨text, group, read⟩⟩⟩
  · cases ordinary.symm.trans parsed
  · cases malformed.symm.trans parsed
  · cases malformed.symm.trans parsed
  · obtain rfl := Reading.shortcut.inj (read.symm.trans parsed)
    have plain := before_plain endsName after
    obtain ⟨optionPlain, optionSpelled⟩ := parse_option_spelling (rest endsName after)
    obtain ⟨textPlain, textSpelled⟩ := parse_group_spelling _ text group
    refine ⟨⟨by simpa using name, ?_, optionPlain, textPlain⟩, ?_⟩
    · intro c member
      exact (ends_name_plain c).mp (plain c (by simpa using member))
    · apply String.toList_inj.mp
      rw [chars, display_chars, introducer]
      simp only [String.toList_ofList]
      rw [← textSpelled, ← optionSpelled, before_append_rest]

theorem parse_shortcut_iff (s : String) (target : Target) :
    parse s = .shortcut target ↔ WellFormed target ∧ s = target.display := by
  constructor
  · exact parse_spelling s target
  · rintro ⟨valid, rfl⟩
    exact parse_display target valid

theorem display_injective (a b : Target) (validA : WellFormed a) (validB : WellFormed b)
    (same : a.display = b.display) : a = b := by
  have read := parse_display a validA
  rw [same, parse_display b validB] at read
  exact (Reading.shortcut.inj read).symm

-- An absent part changes the target, so by the last line it changes the spelling too.
theorem parse_display_inverse (s : String) (target : Target) :
    (parse s = .shortcut target ↔ WellFormed target ∧ s = target.display) ∧
      (WellFormed target → parse target.display = .shortcut target) ∧
      (parse s = .shortcut target → target.display = s) ∧
      ∀ other, WellFormed target → WellFormed other → target.display = other.display → target = other := by
  refine ⟨parse_shortcut_iff s target, parse_display target, ?_, fun other => display_injective target other⟩
  intro parsed
  exact (parse_spelling s target parsed).2.symm

example : parse "@npm:" = .shortcut ⟨"npm", some "", none⟩ ∧ parse "@npm" = .shortcut ⟨"npm", none, none⟩ := by
  decide

end LinkPress.Target
