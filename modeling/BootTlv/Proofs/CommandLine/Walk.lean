import BootTlv.CommandLine

/-!
# Walks over a command line

A command line is read from left to right, and what a word is depends on where it stands. In the
place of a keyword there may be a keyword, behind which any word at all is its path, or another
word, which is a fault. A walk says what stands in these places and whether the line ends where a
path should be. There is one walk over each line (`exists_walk`, `Walk.unique`), and what is made of
the line is made of the walk (`parse_of_unfollowed`, `parse_of_walk`).
-/

namespace BootTlv.CommandLine

/-! ## Walks -/

/-- The word stands for the keyword. -/
inductive Spells : String → Keyword → Prop where
  | short : Spells "-c" .settings
  | long : Spells "--config" .settings
  | decode : Spells "decode" .decode
  | encode : Spells "encode" .encode

/-- What stands in the place of a keyword: a keyword with its path, or another word. -/
inductive Step where
  | pair (keyword : Keyword) (path : String)
  | stray (word : String)

/-- No word in the place of a keyword is another word. -/
def AllPairs (steps : List Step) : Prop := ∀ step ∈ steps, ∃ keyword path, step = .pair keyword path

/-- The walk over the line finds these steps, and at its end a keyword if the path of this keyword
is missing. -/
inductive Walk : List String → List Step → Option Keyword → Prop where
  | done : Walk [] [] none
  | unfollowed {word : String} {keyword : Keyword} (hword : Spells word keyword) :
      Walk [word] [] (some keyword)
  | pair {word : String} {keyword : Keyword} {args : List String} {steps : List Step}
      {last : Option Keyword} (hword : Spells word keyword) (path : String)
      (h : Walk args steps last) : Walk (word :: path :: args) (.pair keyword path :: steps) last
  | stray {word : String} {args : List String} {steps : List Step} {last : Option Keyword}
      (hword : ∀ keyword, ¬ Spells word keyword) (h : Walk args steps last) :
      Walk (word :: args) (.stray word :: steps) last

theorem ofWord?_eq_some_iff {word : String} {keyword : Keyword} :
    Keyword.ofWord? word = some keyword ↔ Spells word keyword := by
  constructor
  · intro h
    unfold Keyword.ofWord? at h
    split at h <;> cases h
    · exact .short
    · exact .long
    · exact .decode
    · exact .encode
  · rintro (_ | _ | _ | _) <;> rfl

theorem ofWord?_eq_none_iff {word : String} :
    Keyword.ofWord? word = none ↔ ∀ keyword, ¬ Spells word keyword := by
  simp only [← ofWord?_eq_some_iff, Option.eq_none_iff_forall_ne_some, ne_eq]

theorem exists_walk : ∀ args, ∃ steps last, Walk args steps last
  | [] => ⟨[], none, .done⟩
  | [word] => by
      cases hword : Keyword.ofWord? word with
      | some keyword => exact ⟨[], some keyword, .unfollowed (ofWord?_eq_some_iff.mp hword)⟩
      | none => exact ⟨[.stray word], none, .stray (ofWord?_eq_none_iff.mp hword) .done⟩
  | word :: path :: args => by
      cases hword : Keyword.ofWord? word with
      | some keyword =>
          obtain ⟨steps, last, h⟩ := exists_walk args
          exact ⟨_, _, .pair (ofWord?_eq_some_iff.mp hword) path h⟩
      | none =>
          obtain ⟨steps, last, h⟩ := exists_walk (path :: args)
          exact ⟨_, _, .stray (ofWord?_eq_none_iff.mp hword) h⟩

/-- A word in the place of a keyword can be read in one way only. -/
theorem Walk.unique {args : List String} {steps steps' : List Step} {last last' : Option Keyword}
    (h : Walk args steps last) (h' : Walk args steps' last') : steps' = steps ∧ last' = last := by
  induction h generalizing steps' last' with
  | done =>
      cases h'
      exact ⟨rfl, rfl⟩
  | unfollowed hword =>
      cases h' with
      | unfollowed hword' =>
          rw [← ofWord?_eq_some_iff] at hword hword'
          exact ⟨rfl, hword'.symm.trans hword⟩
      | stray hword' => exact absurd hword (hword' _)
  | pair hword path _ ih =>
      cases h' with
      | pair hword' _ h' =>
          obtain ⟨rfl, rfl⟩ := ih h'
          rw [← ofWord?_eq_some_iff] at hword hword'
          rw [Option.some.inj (hword'.symm.trans hword)]
          exact ⟨rfl, rfl⟩
      | stray hword' => exact absurd hword (hword' _)
  | stray hword _ ih =>
      cases h' with
      | unfollowed hword' => exact absurd hword' (hword _)
      | pair hword' => exact absurd hword' (hword _)
      | stray _ h' =>
          obtain ⟨rfl, rfl⟩ := ih h'
          exact ⟨rfl, rfl⟩

/-! ## Items -/

/-- The item that is made of a step. -/
def Step.item : Step → Item
  | pair keyword path => keyword.item path
  | stray word => .stray (CommandLine.stray word)

/-- A missing path at the end hides all that came before. -/
theorem items_of_walk {args : List String} {steps : List Step} {last : Option Keyword}
    (h : Walk args steps last) :
    items args =
      match last with
      | some keyword => .error keyword.unfollowed
      | none => .ok (steps.map Step.item) := by
  induction h with
  | done => rfl
  | unfollowed hword => simp only [items, ofWord?_eq_some_iff.mpr hword]
  | @pair _ _ _ _ last hword path _ ih =>
      simp only [items, ofWord?_eq_some_iff.mpr hword, ih]
      cases last <;> rfl
  | @stray word args _ last hword hrest ih =>
      cases args with
      | nil =>
          cases hrest
          simp only [items, ofWord?_eq_none_iff.mpr hword]
          rfl
      | cons path args =>
          simp only [items, ofWord?_eq_none_iff.mpr hword, ih]
          cases last <;> rfl

theorem Step.fault?_item_eq_none_iff {step : Step} :
    step.item.fault? = none ↔ ∃ keyword path, step = .pair keyword path := by
  cases step with
  | pair keyword path => cases keyword <;> simp [Step.item, Keyword.item, Item.fault?]
  | stray word => simp [Step.item, Item.fault?]

theorem Step.fault?_item_eq_some_iff {step : Step} {fault : Fault} :
    step.item.fault? = some fault ↔ ∃ word, step = .stray word ∧ CommandLine.stray word = fault := by
  cases step with
  | pair keyword path => cases keyword <;> simp [Step.item, Keyword.item, Item.fault?]
  | stray word => simp [Step.item, Item.fault?]

/-! ## What a walk comes to -/

variable {args : List String} {steps : List Step}

theorem parse_of_unfollowed {keyword : Keyword} (h : Walk args steps (some keyword)) :
    parse args = .error keyword.unfollowed := by
  rw [parse, items_of_walk h]

theorem parse_of_walk (h : Walk args steps none) :
    parse args =
      match steps.findSome? (·.item.fault?) with
      | some fault => .error fault
      | none =>
        match (steps.filterMap (·.item.command?)).getLast? with
        | some command => .ok ⟨(steps.filterMap (·.item.settings?)).getLast?, command⟩
        | none => .error .noCommand := by
  rw [parse, items_of_walk h]
  simp only [List.findSome?_map, List.filterMap_map]
  rfl

theorem findSome?_fault?_eq_none_iff :
    steps.findSome? (·.item.fault?) = none ↔ AllPairs steps := by
  simp only [AllPairs, List.findSome?_eq_none_iff, Step.fault?_item_eq_none_iff]

theorem findSome?_fault?_eq_some_iff {fault : Fault} :
    steps.findSome? (·.item.fault?) = some fault ↔
      ∃ before word after, steps = before ++ .stray word :: after ∧ stray word = fault ∧
        AllPairs before := by
  simp only [AllPairs, List.findSome?_eq_some_iff, Step.fault?_item_eq_none_iff,
    Step.fault?_item_eq_some_iff]
  constructor
  · rintro ⟨before, _, after, rfl, ⟨word, rfl, hfault⟩, hbefore⟩
    exact ⟨before, word, after, rfl, hfault, hbefore⟩
  · rintro ⟨before, word, after, rfl, hfault, hbefore⟩
    exact ⟨before, _, after, rfl, ⟨word, rfl, hfault⟩, hbefore⟩

end BootTlv.CommandLine
