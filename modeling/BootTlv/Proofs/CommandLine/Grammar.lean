import BootTlv.Proofs.CommandLine.Walk
import BootTlv.Proofs.Last

/-!
# The grammar of command lines

An invocation is keywords, each with a path behind it, and at least one of them is a command. The
last pair of each sort counts. Any other line is refused with the message of the walk over it: first
for a path that is missing at its end, then for the first word that is no keyword, and last for
having no command (`parse_exact`).
-/

namespace BootTlv.CommandLine

/-! ## Invocations -/

/-- The line is these keywords, each with its path behind it. -/
inductive Pairs : List String → List (Keyword × String) → Prop where
  | nil : Pairs [] []
  | cons {word : String} {keyword : Keyword} {args : List String} {pairs : List (Keyword × String)}
      (hword : Spells word keyword) (path : String) (h : Pairs args pairs) :
      Pairs (word :: path :: args) ((keyword, path) :: pairs)

/-- The path of the last settings pair, if there is one. -/
inductive LastSettings : List (Keyword × String) → Option String → Prop where
  | none {pairs : List (Keyword × String)} (h : ∀ pair ∈ pairs, pair.1 ≠ .settings) :
      LastSettings pairs none
  | some (before : List (Keyword × String)) (path : String) {after : List (Keyword × String)}
      (h : ∀ pair ∈ after, pair.1 ≠ .settings) :
      LastSettings (before ++ (.settings, path) :: after) (some path)

/-- The command of the last pair that is none of settings. -/
inductive LastCommand : List (Keyword × String) → Command → Prop where
  | decode (before : List (Keyword × String)) (path : String) {after : List (Keyword × String)}
      (h : ∀ pair ∈ after, pair.1 = .settings) :
      LastCommand (before ++ (.decode, path) :: after) (.decode path)
  | encode (before : List (Keyword × String)) (path : String) {after : List (Keyword × String)}
      (h : ∀ pair ∈ after, pair.1 = .settings) :
      LastCommand (before ++ (.encode, path) :: after) (.encode path)

/-- The message that a walk comes to if it is no invocation. -/
inductive Refused : List Step → Option Keyword → String → Prop where
  | missingSettingsPath (steps : List Step) :
      Refused steps (some .settings) "Missing <path> after -c/--config"
  | missingInputPath (steps : List Step) {keyword : Keyword} (h : keyword ≠ .settings) :
      Refused steps (some keyword) ("Missing input path\n" ++ usage)
  | help {before : List Step} (hbefore : AllPairs before) {word : String}
      (hword : word = "-h" ∨ word = "--help") (after : List Step) :
      Refused (before ++ .stray word :: after) none usage
  | unexpected {before : List Step} (hbefore : AllPairs before) {word : String}
      (hword : ¬ (word = "-h" ∨ word = "--help")) (after : List Step) :
      Refused (before ++ .stray word :: after) none
        ("Error: unexpected argument '" ++ word ++ "'\n" ++ usage)
  | noCommand {steps : List Step} (h : ∀ step ∈ steps, ∃ path, step = .pair .settings path) :
      Refused steps none usage

/-! ## The last pair of a sort -/

/-- The step of a pair. -/
def stepOf (pair : Keyword × String) : Step := .pair pair.1 pair.2

variable {pairs : List (Keyword × String)}

theorem settings?_stepOf_eq_none_iff {pair : Keyword × String} :
    (stepOf pair).item.settings? = none ↔ pair.1 ≠ .settings := by
  obtain ⟨_ | _ | _, path⟩ := pair <;> simp [stepOf, Step.item, Keyword.item, Item.settings?]

theorem command?_stepOf_eq_none_iff {pair : Keyword × String} :
    (stepOf pair).item.command? = none ↔ pair.1 = .settings := by
  obtain ⟨_ | _ | _, path⟩ := pair <;> simp [stepOf, Step.item, Keyword.item, Item.command?]

theorem lastSettings_iff {path? : Option String} :
    LastSettings pairs path? ↔
      (pairs.filterMap fun pair => (stepOf pair).item.settings?).getLast? = path? := by
  constructor
  · rintro (h | ⟨before, path, h⟩)
    · rw [List.getLast?_filterMap_eq_none_iff]
      intro pair hpair
      exact settings?_stepOf_eq_none_iff.mpr (h pair hpair)
    · rw [List.getLast?_filterMap_eq_some_iff]
      refine ⟨before, _, _, rfl, rfl, ?_⟩
      intro pair hpair
      exact settings?_stepOf_eq_none_iff.mpr (h pair hpair)
  · intro h
    cases path? with
    | none =>
        rw [List.getLast?_filterMap_eq_none_iff] at h
        exact .none fun pair hpair => settings?_stepOf_eq_none_iff.mp (h pair hpair)
    | some path =>
        rw [List.getLast?_filterMap_eq_some_iff] at h
        obtain ⟨before, ⟨keyword, path'⟩, after, rfl, hpair, hafter⟩ := h
        cases keyword <;> cases hpair
        exact .some before path' fun pair hpair => settings?_stepOf_eq_none_iff.mp (hafter pair hpair)

theorem lastCommand_iff {command : Command} :
    LastCommand pairs command ↔
      (pairs.filterMap fun pair => (stepOf pair).item.command?).getLast? = some command := by
  rw [List.getLast?_filterMap_eq_some_iff]
  constructor
  · rintro (⟨before, path, h⟩ | ⟨before, path, h⟩)
    · exact ⟨before, _, _, rfl, rfl, fun pair hpair =>
        command?_stepOf_eq_none_iff.mpr (h pair hpair)⟩
    · exact ⟨before, _, _, rfl, rfl, fun pair hpair =>
        command?_stepOf_eq_none_iff.mpr (h pair hpair)⟩
  · rintro ⟨before, ⟨keyword, path⟩, after, rfl, hpair, hafter⟩
    have h : ∀ pair ∈ after, pair.1 = .settings := fun pair hpair =>
      command?_stepOf_eq_none_iff.mp (hafter pair hpair)
    cases keyword <;> cases hpair
    · exact .decode before path h
    · exact .encode before path h

variable {args : List String} {steps : List Step}

theorem Pairs.walk (h : Pairs args pairs) : Walk args (pairs.map stepOf) none := by
  induction h with
  | nil => exact .done
  | cons hword path _ ih => exact .pair hword path ih

theorem exists_pairs_of_walk {last : Option Keyword} (h : Walk args steps last)
    (hlast : last = none) (hpairs : AllPairs steps) :
    ∃ pairs, Pairs args pairs ∧ steps = pairs.map stepOf := by
  induction h with
  | done => exact ⟨[], .nil, rfl⟩
  | unfollowed => cases hlast
  | @pair word keyword _ _ _ hword path _ ih =>
      obtain ⟨pairs, h, rfl⟩ := ih hlast fun step hstep => hpairs step (List.mem_cons_of_mem _ hstep)
      exact ⟨(keyword, path) :: pairs, .cons hword path h, rfl⟩
  | stray =>
      obtain ⟨keyword, path, hstep⟩ := hpairs _ List.mem_cons_self
      cases hstep

theorem parse_of_pairs (h : Pairs args pairs) :
    parse args =
      match (pairs.filterMap fun pair => (stepOf pair).item.command?).getLast? with
      | some command =>
        .ok ⟨(pairs.filterMap fun pair => (stepOf pair).item.settings?).getLast?, command⟩
      | none => .error .noCommand := by
  have hfault : (pairs.map stepOf).findSome? (·.item.fault?) = none := by
    rw [findSome?_fault?_eq_none_iff]
    intro step hstep
    obtain ⟨pair, -, rfl⟩ := List.mem_map.mp hstep
    exact ⟨pair.1, pair.2, rfl⟩
  rw [parse_of_walk h.walk, hfault]
  simp only [List.filterMap_map]
  rfl

theorem parse_eq_ok_iff {invocation : Invocation} :
    parse args = .ok invocation ↔
      ∃ pairs, Pairs args pairs ∧ LastSettings pairs invocation.settingsPath ∧
        LastCommand pairs invocation.command := by
  constructor
  · intro h
    obtain ⟨steps, last, hwalk⟩ := exists_walk args
    cases last with
    | some keyword =>
        rw [parse_of_unfollowed hwalk] at h
        cases h
    | none =>
        cases hfault : steps.findSome? (·.item.fault?) with
        | some fault =>
            rw [parse_of_walk hwalk, hfault] at h
            cases h
        | none =>
            obtain ⟨pairs, hpairs, rfl⟩ :=
              exists_pairs_of_walk hwalk rfl (findSome?_fault?_eq_none_iff.mp hfault)
            rw [parse_of_pairs hpairs] at h
            split at h
            · next command hcommand =>
                cases h
                exact ⟨pairs, hpairs, lastSettings_iff.mpr rfl, lastCommand_iff.mpr hcommand⟩
            · cases h
  · rintro ⟨pairs, hpairs, hsettings, hcommand⟩
    rw [parse_of_pairs hpairs, lastCommand_iff.mp hcommand, lastSettings_iff.mp hsettings]

/-- A line of pairs has a last command if one of the pairs is no settings. -/
theorem exists_lastCommand_iff :
    (∃ command, LastCommand pairs command) ↔ ∃ pair ∈ pairs, pair.1 ≠ .settings := by
  constructor
  · rintro ⟨_, ⟨before, path, -⟩ | ⟨before, path, -⟩⟩
    · exact ⟨(.decode, path), by simp, Keyword.noConfusion⟩
    · exact ⟨(.encode, path), by simp, Keyword.noConfusion⟩
  · rintro ⟨pair, hpair, hkeyword⟩
    cases hcommand : (pairs.filterMap fun pair => (stepOf pair).item.command?).getLast? with
    | some command => exact ⟨command, lastCommand_iff.mpr hcommand⟩
    | none =>
        have hnone := List.getLast?_filterMap_eq_none_iff.mp hcommand pair hpair
        exact absurd (command?_stepOf_eq_none_iff.mp hnone) hkeyword

theorem exists_invocation_iff :
    (∃ invocation, parse args = .ok invocation) ↔
      ∃ pairs, Pairs args pairs ∧ ∃ pair ∈ pairs, pair.1 ≠ .settings := by
  simp only [← exists_lastCommand_iff]
  constructor
  · rintro ⟨invocation, h⟩
    obtain ⟨pairs, hpairs, -, hcommand⟩ := parse_eq_ok_iff.mp h
    exact ⟨pairs, hpairs, invocation.command, hcommand⟩
  · rintro ⟨pairs, hpairs, command, hcommand⟩
    exact ⟨⟨_, command⟩, parse_eq_ok_iff.mpr ⟨pairs, hpairs, lastSettings_iff.mpr rfl, hcommand⟩⟩

/-! ## Refusals -/

theorem message_stray_of_help {word : String} (h : word = "-h" ∨ word = "--help") :
    (stray word).message = usage := by
  rw [stray, if_pos h]
  simp [Fault.message, Fault.pieces]

theorem message_stray_of_not_help {word : String} (h : ¬ (word = "-h" ∨ word = "--help")) :
    (stray word).message = "Error: unexpected argument '" ++ word ++ "'\n" ++ usage := by
  rw [stray, if_neg h]
  simp [Fault.message, Fault.pieces, String.append_assoc]

theorem message_noCommand : Fault.noCommand.message = usage := by
  simp [Fault.message, Fault.pieces]

theorem refused_of_error {last : Option Keyword} {fault : Fault} (hwalk : Walk args steps last)
    (h : parse args = .error fault) : Refused steps last fault.message := by
  cases last with
  | some keyword =>
      rw [parse_of_unfollowed hwalk] at h
      cases h
      cases keyword with
      | settings => exact .missingSettingsPath steps
      | decode => exact .missingInputPath steps Keyword.noConfusion
      | encode => exact .missingInputPath steps Keyword.noConfusion
  | none =>
      cases hfault : steps.findSome? (·.item.fault?) with
      | some first =>
          rw [parse_of_walk hwalk, hfault] at h
          cases h
          obtain ⟨before, word, after, rfl, rfl, hbefore⟩ := findSome?_fault?_eq_some_iff.mp hfault
          by_cases hword : word = "-h" ∨ word = "--help"
          · rw [message_stray_of_help hword]
            exact .help hbefore hword after
          · rw [message_stray_of_not_help hword]
            exact .unexpected hbefore hword after
      | none =>
          obtain ⟨pairs, hpairs, rfl⟩ :=
            exists_pairs_of_walk hwalk rfl (findSome?_fault?_eq_none_iff.mp hfault)
          rw [parse_of_pairs hpairs] at h
          split at h
          · cases h
          · next hcommand =>
              cases h
              rw [message_noCommand]
              refine .noCommand ?_
              intro step hstep
              obtain ⟨⟨keyword, path⟩, hpair, rfl⟩ := List.mem_map.mp hstep
              have hnone := List.getLast?_filterMap_eq_none_iff.mp hcommand _ hpair
              obtain rfl : keyword = .settings := command?_stepOf_eq_none_iff.mp hnone
              exact ⟨path, rfl⟩

theorem error_of_refused {last : Option Keyword} {message : String} (hwalk : Walk args steps last)
    (h : Refused steps last message) :
    ∃ fault, parse args = .error fault ∧ fault.message = message := by
  cases h with
  | missingSettingsPath => exact ⟨_, parse_of_unfollowed hwalk, rfl⟩
  | @missingInputPath _ keyword hkeyword =>
      refine ⟨_, parse_of_unfollowed hwalk, ?_⟩
      cases keyword with
      | settings => exact absurd rfl hkeyword
      | decode | encode => simp [Keyword.unfollowed, Fault.message, Fault.pieces]
  | help hbefore hword after =>
      refine ⟨_, ?_, message_stray_of_help hword⟩
      rw [parse_of_walk hwalk, findSome?_fault?_eq_some_iff.mpr ⟨_, _, _, rfl, rfl, hbefore⟩]
  | unexpected hbefore hword after =>
      refine ⟨_, ?_, message_stray_of_not_help hword⟩
      rw [parse_of_walk hwalk, findSome?_fault?_eq_some_iff.mpr ⟨_, _, _, rfl, rfl, hbefore⟩]
  | noCommand hsettings =>
      refine ⟨.noCommand, ?_, message_noCommand⟩
      have hfault : steps.findSome? (·.item.fault?) = none := by
        rw [findSome?_fault?_eq_none_iff]
        intro step hstep
        obtain ⟨path, rfl⟩ := hsettings step hstep
        exact ⟨_, path, rfl⟩
      have hcommand : (steps.filterMap (·.item.command?)).getLast? = none := by
        rw [List.getLast?_filterMap_eq_none_iff]
        intro step hstep
        obtain ⟨path, rfl⟩ := hsettings step hstep
        rfl
      rw [parse_of_walk hwalk, hfault, hcommand]

/-- **A command line is read exactly by its grammar.** It is an invocation when it is keywords, each
with any word behind it as a path, and one of them is a command. Then the last settings pair and the
last command count. Otherwise the message is that of the one walk over the line: of a path that is
missing at the end, or else of the first word that is no keyword, or else the usage line. -/
theorem parse_exact (args : List String) :
    ((∃ invocation, parse args = .ok invocation) ↔
      ∃ pairs, Pairs args pairs ∧ ∃ pair ∈ pairs, pair.1 ≠ .settings) ∧
    (∀ invocation, parse args = .ok invocation ↔
      ∃ pairs, Pairs args pairs ∧ LastSettings pairs invocation.settingsPath ∧
        LastCommand pairs invocation.command) ∧
    ∃ steps last,
      (∀ steps' last', Walk args steps' last' ↔ steps' = steps ∧ last' = last) ∧
      ∀ message, (∃ fault, parse args = .error fault ∧ fault.message = message) ↔
        Refused steps last message := by
  obtain ⟨steps, last, hwalk⟩ := exists_walk args
  refine ⟨exists_invocation_iff, fun _ => parse_eq_ok_iff, steps, last, ?_, ?_⟩
  · intro steps' last'
    constructor
    · exact hwalk.unique
    · rintro ⟨rfl, rfl⟩
      exact hwalk
  · intro message
    constructor
    · rintro ⟨fault, h, rfl⟩
      exact refused_of_error hwalk h
    · exact error_of_refused hwalk

/-- The path that is missing at the end counts, and not the word that comes first. -/
example : parse ["--helm", "-c", "decode", "encode"] = .error .missingInputPath := by decide

/-- Behind a keyword any word is a path. -/
example : parse ["decode", "-c", "-c", "--help", "--config", "encode"] =
    .ok ⟨some "encode", .decode "-c"⟩ := by decide

end BootTlv.CommandLine
