import BootTlv.Proofs.Text.Utf8
import BootTlv.Uri

/-!
# The grammar of URIs

What a URI with a host is, as a grammar that says nothing about the order in which a text is cut:
there are a scheme, an authority and a tail, the authority has a host and may have user information
before it and a port behind it. A text is cut at the first mark, at the end of the authority, at the
last `@` and at the first `]` or the last colon. Each of these cuts is the only one that the grammar
allows, because what stands on one side of it may not hold the character that it is made at, so the
check accepts the grammar and nothing else (`accepts_iff`).
-/

namespace BootTlv

/-! ## Cutting at a mark -/

namespace Text

theorem eq_append_of_splitMark {mark text before after : List Char}
    (h : splitMark mark text = some (before, after)) : text = before ++ (mark ++ after) := by
  induction text generalizing before with
  | nil =>
      rw [splitMark] at h
      split at h
      · next hmark =>
          cases h
          rw [hmark]
          rfl
      · cases h
  | cons x rest ih =>
      rw [splitMark] at h
      split at h
      · next hmark =>
          obtain ⟨tail, htail⟩ := List.isPrefixOf_iff_prefix.mp hmark
          rw [← htail, List.drop_left, Option.some.injEq, Prod.mk.injEq] at h
          obtain ⟨rfl, rfl⟩ := h
          exact htail.symm
      · obtain ⟨⟨b, a⟩, hsplit, heq⟩ := Option.map_eq_some_iff.mp h
        cases heq
        rw [ih hsplit]
        rfl

/-- A mark whose first character does not stand before it is found. -/
theorem splitMark_append {c : Char} {before : List Char} (hbefore : c ∉ before)
    (mark after : List Char) :
    splitMark (c :: mark) (before ++ (c :: mark ++ after)) = some (before, after) := by
  induction before with
  | nil =>
      have hfound : (c :: mark).isPrefixOf (c :: (mark ++ after)) = true :=
        List.isPrefixOf_iff_prefix.mpr (List.prefix_append (c :: mark) after)
      show splitMark (c :: mark) (c :: (mark ++ after)) = some ([], after)
      rw [splitMark, if_pos hfound, List.length_cons, List.drop_succ_cons, List.drop_left]
  | cons x before ih =>
      rw [List.mem_cons, not_or] at hbefore
      have hmissed : ¬ (c :: mark).isPrefixOf (x :: (before ++ (c :: mark ++ after))) = true := by
        intro hprefix
        obtain ⟨tail, htail⟩ := List.isPrefixOf_iff_prefix.mp hprefix
        exact hbefore.1 (List.cons.inj htail).1
      rw [List.cons_append, splitMark, if_neg hmissed, ih hbefore.2]
      rfl

end Text

namespace Uri

/-! ## The grammar -/

/-- An ASCII letter, then ASCII letters, digits, `+`, `-` and `.`. -/
inductive Scheme : List Char → Prop where
  | mk {first : Char} {rest : List Char} (hfirst : first.isAlpha = true)
      (hrest : ∀ c ∈ rest, c.isAlphanum = true ∨ c = '+' ∨ c = '-' ∨ c = '.') :
      Scheme (first :: rest)

/-- ASCII digits, possibly none. -/
def Digits (text : List Char) : Prop := ∀ c ∈ text, c.isDigit = true

/-- A host in brackets or without, and behind it a colon and a port, or nothing. -/
inductive HostPort : List Char → Prop where
  | literal {host : List Char} (hne : host ≠ []) (hclose : ']' ∉ host) :
      HostPort ('[' :: (host ++ [']']))
  | literalPort {host port : List Char} (hne : host ≠ []) (hclose : ']' ∉ host)
      (hport : Digits port) : HostPort ('[' :: (host ++ ']' :: ':' :: port))
  | name {host : List Char} (hne : host ≠ []) (hopen : host.head? ≠ some '[')
      (hcolon : ':' ∉ host) : HostPort host
  | namePort {host port : List Char} (hne : host ≠ []) (hopen : host.head? ≠ some '[')
      (hport : Digits port) : HostPort (host ++ ':' :: port)

/-- A host with its port, and before it user information and an `@`, or nothing. -/
inductive Authority : List Char → Prop where
  | host {hostPort : List Char} (hhost : HostPort hostPort) (hat : '@' ∉ hostPort) :
      Authority hostPort
  | userHost {user hostPort : List Char} (hhost : HostPort hostPort) (hat : '@' ∉ hostPort) :
      Authority (user ++ '@' :: hostPort)

/-- A scheme, `://`, an authority, and a path, a query or a fragment, or nothing. -/
inductive WellFormed : List Char → Prop where
  | mk {scheme authority tail : List Char} (hscheme : Scheme scheme)
      (hauthority : Authority authority)
      (hends : ∀ c ∈ authority, c ≠ '/' ∧ c ≠ '?' ∧ c ≠ '#')
      (htail : tail = [] ∨ ∃ c rest, tail = c :: rest ∧ (c = '/' ∨ c = '?' ∨ c = '#')) :
      WellFormed (scheme ++ (':' :: '/' :: '/' :: (authority ++ tail)))

/-! ## Schemes -/

theorem isScheme_iff {text : List Char} : isScheme text = true ↔ Scheme text := by
  cases text with
  | nil =>
      constructor
      · intro h
        cases h
      · rintro ⟨⟩
  | cons first rest =>
      have hall : (rest.all fun c => c.isAlphanum || c == '+' || c == '-' || c == '.') = true ↔
          ∀ c ∈ rest, c.isAlphanum = true ∨ c = '+' ∨ c = '-' ∨ c = '.' := by
        simp only [List.all_eq_true, Bool.or_eq_true, beq_iff_eq, or_assoc]
      rw [isScheme, Bool.and_eq_true, hall]
      constructor
      · rintro ⟨hfirst, hrest⟩
        exact .mk hfirst hrest
      · rintro ⟨hfirst, hrest⟩
        exact ⟨hfirst, hrest⟩

/-- The first colon of a URI is the one of the mark. -/
theorem Scheme.colon_notMem {text : List Char} (h : Scheme text) : ':' ∉ text := by
  obtain ⟨hfirst, hrest⟩ := h
  intro hcolon
  rcases List.mem_cons.mp hcolon with rfl | hcolon
  · revert hfirst
    decide
  · have := hrest ':' hcolon
    revert this
    decide

/-! ## Hosts -/

theorem isPort_iff {text : List Char} : isPort text = true ↔ Digits text := List.all_eq_true

theorem Digits.colon_notMem {text : List Char} (h : Digits text) : ':' ∉ text := by
  intro hcolon
  have := h ':' hcolon
  revert this
  decide

/-- A host in brackets ends at the first closing bracket. -/
theorem host?_open_eq_some_iff {rest host : List Char} :
    host? ('[' :: rest) = some host ↔
      ∃ after, rest = host ++ ']' :: after ∧ ']' ∉ host ∧
        (after = [] ∨ ∃ port, after = ':' :: port ∧ Digits port) := by
  constructor
  · intro h
    rw [host?] at h
    split at h
    · next literal hsplit =>
        cases h
        obtain ⟨hrest, hclose⟩ := Text.splitFirst_eq_some_iff.mp hsplit
        exact ⟨[], hrest, hclose, .inl rfl⟩
    · next literal port hsplit =>
        split at h
        · next hport =>
            cases h
            obtain ⟨hrest, hclose⟩ := Text.splitFirst_eq_some_iff.mp hsplit
            exact ⟨_, hrest, hclose, .inr ⟨port, rfl, isPort_iff.mp hport⟩⟩
        · cases h
    · cases h
  · rintro ⟨after, hrest, hclose, hafter⟩
    have hsplit : Text.splitFirst ']' rest = some (host, after) :=
      Text.splitFirst_eq_some_iff.mpr ⟨hrest, hclose⟩
    rcases hafter with rfl | ⟨port, rfl, hport⟩
    · simp only [host?, hsplit]
    · simp only [host?, hsplit, if_pos (isPort_iff.mpr hport)]

/-- Any other host ends at the last colon, if there is one. -/
theorem host?_eq_some_iff {text host : List Char} (hopen : text.head? ≠ some '[') :
    host? text = some host ↔
      (':' ∉ text ∧ text = host) ∨ ∃ port, text = host ++ ':' :: port ∧ Digits port := by
  have hname : ∀ rest, text = '[' :: rest → False := by
    rintro rest rfl
    exact hopen rfl
  constructor
  · intro h
    rw [host?.eq_2 text hname] at h
    split at h
    · next before port hsplit =>
        split at h
        · next hport =>
            cases h
            exact .inr ⟨port, (Text.splitLast_eq_some_iff.mp hsplit).1, isPort_iff.mp hport⟩
        · cases h
    · next hsplit =>
        cases h
        exact .inl ⟨Text.splitLast_eq_none_iff.mp hsplit, rfl⟩
  · intro h
    rw [host?.eq_2 text hname]
    rcases h with ⟨hcolon, rfl⟩ | ⟨port, rfl, hport⟩
    · rw [Text.splitLast_eq_none_iff.mpr hcolon]
    · rw [Text.splitLast_eq_some_iff.mpr ⟨rfl, hport.colon_notMem⟩]
      exact if_pos (isPort_iff.mpr hport)

theorem head?_append_ne {host : List Char} (hne : host ≠ []) (hopen : host.head? ≠ some '[')
    (rest : List Char) : (host ++ rest).head? ≠ some '[' := by
  obtain ⟨c, host, rfl⟩ := List.exists_cons_of_ne_nil hne
  exact hopen

theorem HostPort.exists_host {text : List Char} (h : HostPort text) :
    ∃ host, host? text = some host ∧ host ≠ [] := by
  cases h with
  | @literal host hne hclose =>
      exact ⟨host, host?_open_eq_some_iff.mpr ⟨[], rfl, hclose, .inl rfl⟩, hne⟩
  | @literalPort host port hne hclose hport =>
      exact ⟨host, host?_open_eq_some_iff.mpr ⟨_, rfl, hclose, .inr ⟨port, rfl, hport⟩⟩, hne⟩
  | name hne hopen hcolon =>
      exact ⟨text, (host?_eq_some_iff hopen).mpr (.inl ⟨hcolon, rfl⟩), hne⟩
  | @namePort host port hne hopen hport =>
      have hopen' := head?_append_ne hne hopen (':' :: port)
      exact ⟨host, (host?_eq_some_iff hopen').mpr (.inr ⟨port, rfl, hport⟩), hne⟩

theorem hostPort_of_host? {text host : List Char} (h : host? text = some host) (hne : host ≠ []) :
    HostPort text := by
  by_cases hopen : text.head? = some '['
  · obtain ⟨rest, rfl⟩ := List.head?_eq_some_iff.mp hopen
    obtain ⟨after, rfl, hclose, hafter⟩ := host?_open_eq_some_iff.mp h
    rcases hafter with rfl | ⟨port, rfl, hport⟩
    · exact .literal hne hclose
    · exact .literalPort hne hclose hport
  · rcases (host?_eq_some_iff hopen).mp h with ⟨hcolon, rfl⟩ | ⟨port, rfl, hport⟩
    · exact .name hne hopen hcolon
    · refine .namePort hne ?_ hport
      obtain ⟨c, host, rfl⟩ := List.exists_cons_of_ne_nil hne
      exact hopen

/-! ## Authorities -/

/-- The host of an authority stands behind the last `@`. -/
theorem authority_iff {text : List Char} : Authority text ↔ HostPort (hostPort text) := by
  constructor
  · intro h
    cases h with
    | host hhost hat =>
        rw [hostPort, Text.splitLast_eq_none_iff.mpr hat]
        exact hhost
    | userHost hhost hat =>
        rw [hostPort, Text.splitLast_eq_some_iff.mpr ⟨rfl, hat⟩]
        exact hhost
  · intro h
    rw [hostPort] at h
    split at h
    · next user after hsplit =>
        obtain ⟨rfl, hat⟩ := Text.splitLast_eq_some_iff.mp hsplit
        exact .userHost h hat
    · next hsplit => exact .host h (Text.splitLast_eq_none_iff.mp hsplit)

theorem endsAuthority_iff {c : Char} :
    endsAuthority c = true ↔ c = '/' ∨ c = '?' ∨ c = '#' := by
  simp only [endsAuthority, Bool.or_eq_true, beq_iff_eq, or_assoc]

/-- The authority ends where a character that ends it stands first. -/
theorem authority_append {text tail : List Char} (h : ∀ c ∈ text, c ≠ '/' ∧ c ≠ '?' ∧ c ≠ '#')
    (htail : tail = [] ∨ ∃ c rest, tail = c :: rest ∧ (c = '/' ∨ c = '?' ∨ c = '#')) :
    authority (text ++ tail) = text := by
  have hinside : ∀ c ∈ text, (!endsAuthority c) = true := by
    intro c hc
    rw [Bool.not_eq_true', Bool.eq_false_iff, Ne, endsAuthority_iff]
    rintro (rfl | rfl | rfl)
    · exact (h _ hc).1 rfl
    · exact (h _ hc).2.1 rfl
    · exact (h _ hc).2.2 rfl
  have hstop : tail.takeWhile (!endsAuthority ·) = [] := by
    rcases htail with rfl | ⟨c, rest, rfl, hc⟩
    · rfl
    · rw [List.takeWhile_cons, endsAuthority_iff.mpr hc]
      rfl
  rw [authority, List.takeWhile_append_of_pos hinside, hstop, List.append_nil]

theorem exists_tail (afterMark : List Char) :
    ∃ tail, afterMark = authority afterMark ++ tail ∧
      (∀ c ∈ authority afterMark, c ≠ '/' ∧ c ≠ '?' ∧ c ≠ '#') ∧
      (tail = [] ∨ ∃ c rest, tail = c :: rest ∧ (c = '/' ∨ c = '?' ∨ c = '#')) := by
  refine ⟨afterMark.dropWhile (!endsAuthority ·), List.takeWhile_append_dropWhile.symm, ?_, ?_⟩
  · intro c hc
    have hends : ¬ endsAuthority c = true := by
      simpa using List.all_eq_true.mp List.all_takeWhile c hc
    rw [endsAuthority_iff, not_or, not_or] at hends
    exact hends
  · cases htail : afterMark.dropWhile (!endsAuthority ·) with
    | nil => exact .inl rfl
    | cons c rest =>
        have hends := List.head?_dropWhile_not (fun c => !endsAuthority c) afterMark
        rw [htail] at hends
        refine .inr ⟨c, rest, rfl, endsAuthority_iff.mp ?_⟩
        simpa using hends

/-! ## The whole text -/

theorem isUri_iff {text : List Char} : isUri text = true ↔ WellFormed text := by
  constructor
  · intro h
    rw [isUri] at h
    split at h
    · cases h
    · next scheme rest hsplit =>
        rw [Bool.and_eq_true, isScheme_iff] at h
        obtain ⟨hscheme, h⟩ := h
        split at h
        · next host hhost =>
            have hauthority : Authority (authority rest) :=
              authority_iff.mpr (hostPort_of_host? hhost (by simpa using h))
            obtain ⟨tail, hrest, hends, htail⟩ := exists_tail rest
            have htext : text = scheme ++ (':' :: '/' :: '/' :: (authority rest ++ tail)) := by
              rw [← hrest]
              exact Text.eq_append_of_splitMark hsplit
            rw [htext]
            exact .mk hscheme hauthority hends htail
        · cases h
  · rintro ⟨hscheme, hauthority, hends, htail⟩
    have hsplit := Text.splitMark_append hscheme.colon_notMem ['/', '/']
    obtain ⟨host, hhost, hne⟩ := (authority_iff.mp hauthority).exists_host
    simp only [List.cons_append, List.nil_append] at hsplit
    simp [isUri, hsplit, isScheme_iff.mpr hscheme, authority_append hends htail, hhost, hne]

theorem isPlain_iff {c : Char} :
    isPlain c = true ↔ Text.isBlank c = false ∧ Text.isControl c = false := by
  rw [isPlain, Bool.and_eq_true, Bool.not_eq_true', Bool.not_eq_true']

/-- **The check accepts exactly the URIs with a host.** A value is accepted when its octets, without
a terminator, are those of a text without white space and control characters, and the grammar has
the text. -/
theorem accepts_iff (value : List UInt8) :
    accepts value = true ↔
      ∃ text, Text.unterminated value = Utf8.encode text ∧
        (∀ c ∈ text, Text.isBlank c = false ∧ Text.isControl c = false) ∧ WellFormed text := by
  have htext : ∀ text, (text.all isPlain && isUri text) = true ↔
      (∀ c ∈ text, Text.isBlank c = false ∧ Text.isControl c = false) ∧ WellFormed text := by
    intro text
    rw [Bool.and_eq_true, List.all_eq_true, isUri_iff]
    simp only [isPlain_iff]
  rw [accepts]
  constructor
  · intro h
    split at h
    · next text hdecode => exact ⟨text, Utf8.decode?_eq_some_iff.mp hdecode, (htext text).mp h⟩
    · cases h
  · rintro ⟨text, hencode, h⟩
    rw [Utf8.decode?_eq_some_iff.mpr hencode]
    exact (htext text).mpr h

end Uri

end BootTlv
