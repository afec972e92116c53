import BootTlv.Toml.Scanner

/-!
# What scanners give

A scanner yields what has a property if whatever it reads from any text has it. The property of a
large scanner comes from those of its parts: these lemmas follow the ways in which scanners are put
together, and none of them looks at a text.
-/

namespace BootTlv.Toml.Scanner

variable {α β : Type} {P : α → Prop} {Q : β → Prop}

/-- Whatever the scanner reads has the property. -/
def Yields (P : α → Prop) (scanner : Scanner α) : Prop :=
  ∀ text a rest, scanner text = some (a, rest) → P a

theorem yields_pure {a : α} (h : P a) : Yields P (pure a : Scanner α) := by
  intro text b rest hread
  cases hread
  exact h

theorem Yields.bind {scanner : Scanner α} {next : α → Scanner β} (hscanner : Yields P scanner)
    (hnext : ∀ a, P a → Yields Q (next a)) : Yields Q (scanner >>= next) := by
  intro text b rest hread
  obtain ⟨⟨a, left⟩, ha, hb⟩ := Option.bind_eq_some_iff.mp hread
  exact hnext a (hscanner text a left ha) left b rest hb

/-- What a scanner reads first may not matter for what is read in the end. -/
theorem yields_bind {scanner : Scanner α} {next : α → Scanner β}
    (hnext : ∀ a, Yields Q (next a)) : Yields Q (scanner >>= next) := by
  have hscanner : Yields (fun _ => True) scanner := fun _ _ _ _ => trivial
  exact hscanner.bind fun a _ => hnext a

theorem yields_map {scanner : Scanner α} {f : α → β} (h : ∀ a, Q (f a)) :
    Yields Q (f <$> scanner) := by
  intro text b rest hread
  obtain ⟨⟨a, left⟩, -, hb⟩ := Option.bind_eq_some_iff.mp hread
  cases hb
  exact h a

theorem Yields.map {scanner : Scanner α} {f : α → β} (hscanner : Yields P scanner)
    (h : ∀ a, P a → Q (f a)) : Yields Q (f <$> scanner) := by
  intro text b rest hread
  obtain ⟨⟨a, left⟩, ha, hb⟩ := Option.bind_eq_some_iff.mp hread
  cases hb
  exact h a (hscanner text a rest ha)

theorem Yields.orElse {first second : Scanner α} (hfirst : Yields P first)
    (hsecond : Yields P second) : Yields P (first <|> second) := by
  intro text a rest hread
  cases hcase : first text with
  | some read =>
      have hboth : (first <|> second) text = some read := by
        show (first text <|> second text) = some read
        rw [hcase]
        rfl
      rw [hboth] at hread
      cases hread
      exact hfirst text a rest hcase
  | none =>
      have hboth : (first <|> second) text = second text := by
        show (first text <|> second text) = second text
        rw [hcase]
        rfl
      rw [hboth] at hread
      exact hsecond text a rest hread

theorem mem_manyFrom {item : Scanner α} (h : Yields P item) (text : List Char) :
    ∀ a ∈ (manyFrom item text).1, P a := by
  fun_induction manyFrom item text with
  | case1 text a rest hread hlt as left hrest ih =>
      rw [hrest] at ih
      intro b hb
      rcases List.mem_cons.mp hb with rfl | hb
      · exact h text _ rest hread
      · exact ih b hb
  | case2 =>
      intro a ha
      cases ha
  | case3 =>
      intro a ha
      cases ha

theorem Yields.many {item : Scanner α} (h : Yields P item) :
    Yields (fun items => ∀ a ∈ items, P a) (many item) := by
  intro text items rest hread
  have hitems : (manyFrom item text).1 = items := congrArg Prod.fst (Option.some.inj hread)
  rw [← hitems]
  exact mem_manyFrom h text

theorem Yields.maybe {item : Scanner α} (h : Yields P item) :
    Yields (fun read => ∀ a ∈ read, P a) (maybe item) := by
  intro text read rest hread b hb
  unfold Scanner.maybe at hread
  split at hread
  · next a left ha =>
      cases hread
      obtain rfl : a = b := Option.some.inj hb
      exact h text a _ ha
  · cases hread
    cases hb

/-- Going on from one state to the next keeps what each step keeps. -/
theorem yields_foldlM {σ : Type} {I : σ → Prop} {step : σ → α → Scanner σ} {items : List α}
    {start : σ} (hstart : I start) (hstep : ∀ s, I s → ∀ a ∈ items, Yields I (step s a)) :
    Yields I (items.foldlM step start) := by
  induction items generalizing start with
  | nil => exact yields_pure hstart
  | cons a items ih =>
      rw [List.foldlM_cons]
      refine (hstep start hstart a List.mem_cons_self).bind fun s hs => ?_
      exact ih hs fun s hs b hb => hstep s hs b (List.mem_cons_of_mem _ hb)

theorem yields_liftM {result : Option α} (h : ∀ a, result = some a → P a) :
    Yields P (liftM result : Scanner α) := by
  intro text a rest hread
  obtain ⟨b, hb, heq⟩ := Option.bind_eq_some_iff.mp hread
  cases heq
  exact h a hb

theorem Yields.of_readAll? {scanner : Scanner α} (h : Yields P scanner) {text : List Char} {a : α}
    (hread : scanner.readAll? text = some a) : P a := by
  unfold readAll? at hread
  split at hread
  · next a' hscanner =>
      cases hread
      exact h text a [] hscanner
  · cases hread

end BootTlv.Toml.Scanner
