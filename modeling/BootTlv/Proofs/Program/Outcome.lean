import BootTlv.Proofs.Inspector.Admission
import BootTlv.Proofs.Request.RoundTrip
import BootTlv.Program

/-!
# What a run comes to

A run has four stages, the command line, the settings, the input and the codec, and each of them may
fail. The exit code says whether all went well, and what is printed is never a part of an answer: a
report or the digits of a buffer are printed in full or not at all (`run_outcome`). Only a report on
a rejected buffer is printed although the run fails.
-/

namespace BootTlv

/-! ## Inputs -/

theorem Files.readText_eq_ok_iff {files : Files} {path text : String} :
    files.readText path = .ok text ↔ files path = .ok (Utf8.encode text.toList) := by
  rw [readText]
  constructor
  · intro h
    split at h
    · next content hcontent =>
        split at h
        · next chars hdecode =>
            cases h
            rw [hcontent, String.toList_ofList, Utf8.decode?_eq_some_iff.mp hdecode]
        · cases h
    · cases h
  · intro h
    rw [h]
    simp only [Utf8.decode?_eq_some_iff.mpr rfl, String.ofList_toList]

namespace Inspector

variable {settings : Settings} {files : Files} {path : String}

theorem encodeFile_eq_ok_iff {digits : String} :
    encodeFile settings files path = .ok digits ↔
      ∃ buffer text request, files path = .ok (Utf8.encode text.toList) ∧
        Request.ofText? text = some request ∧ request.encode settings.framing = .ok buffer ∧
        digits = String.ofList (Hex.encode buffer) := by
  simp only [← Files.readText_eq_ok_iff]
  rw [encodeFile, Except.bind_eq_ok_iff]
  simp only [Except.mapError_eq_ok_iff]
  constructor
  · rintro ⟨text, htext, h⟩
    split at h
    · cases h
    · next request hrequest =>
        obtain ⟨buffer, hencode, heq⟩ := Except.bind_eq_ok_iff.mp h
        cases heq
        exact ⟨buffer, text, request, htext, hrequest, Except.mapError_eq_ok_iff.mp hencode, rfl⟩
  · rintro ⟨buffer, text, request, htext, hrequest, hencode, rfl⟩
    refine ⟨text, htext, ?_⟩
    rw [hrequest]
    exact Except.bind_eq_ok_iff.mpr ⟨buffer, Except.mapError_eq_ok_iff.mpr hencode, rfl⟩

end Inspector

namespace Program

variable {args : List String} {settingsPath : Option String} {files : Files}
  {environment : List (String × String)} {path : String} {settings : Settings}
  {buffer : List UInt8}

/-! ## Decoding -/

/-- The settings load, and the file at a path stands for a buffer within their limits. -/
structure Reads (settingsPath : Option String) (files : Files)
    (environment : List (String × String)) (path : String) (settings : Settings)
    (buffer : List UInt8) : Prop where
  loads : Settings.load? settingsPath files environment = some settings
  stands : ∃ raw, files path = .ok raw ∧ raw.length ≤ Inspector.maxFileLength settings ∧
    Inspector.StandsFor settings raw buffer
  length_le : buffer.length ≤ settings.maxLength.toNat

theorem reads_iff :
    Reads settingsPath files environment path settings buffer ↔
      Settings.load? settingsPath files environment = some settings ∧
        Inspector.readBuffer settings files path = .ok buffer := by
  simp only [Inspector.readBuffer_eq_ok_iff, Inspector.accept_eq_ok_iff]
  constructor
  · rintro ⟨hloads, ⟨raw, hraw, hfile, hstands⟩, hlength⟩
    exact ⟨hloads, raw, hraw, hfile, hstands, hlength⟩
  · rintro ⟨hloads, raw, hraw, hfile, hstands, hlength⟩
    exact ⟨hloads, ⟨raw, hraw, hfile, hstands⟩, hlength⟩

theorem run_of_reads (hparse : CommandLine.parse args = .ok ⟨settingsPath, .decode path⟩)
    (h : Reads settingsPath files environment path settings buffer) :
    run args files environment = inspected settings (Inspector.inspect settings buffer) := by
  obtain ⟨hload, hread⟩ := reads_iff.mp h
  rw [run, hparse]
  simp only [hload, execute, Inspector.inspectFile, hread]
  rfl

theorem run_of_not_reads (hparse : CommandLine.parse args = .ok ⟨settingsPath, .decode path⟩)
    (h : ∀ settings buffer, ¬ Reads settingsPath files environment path settings buffer) :
    ∃ message, run args files environment = failed message := by
  rw [run, hparse]
  dsimp only
  cases hload : Settings.load? settingsPath files environment with
  | none => exact ⟨_, rfl⟩
  | some settings =>
      cases hread : Inspector.readBuffer settings files path with
      | error failure =>
          simp only [execute, Inspector.inspectFile, hread]
          exact ⟨_, rfl⟩
      | ok buffer => exact absurd (reads_iff.mpr ⟨hload, hread⟩) (h settings buffer)

theorem exit_inspected_eq_zero_iff {inspection : Inspector.Inspection} :
    (inspected settings inspection).exit = 0 ↔
      inspection.verdict.valid = true ∨ settings.rejectInvalid = false := by
  rw [inspected]
  cases inspection.verdict.valid <;> cases settings.rejectInvalid <;> simp

theorem exit_inspected_eq_one {inspection : Inspector.Inspection}
    (h : (inspected settings inspection).exit ≠ 0) :
    (inspected settings inspection).exit = 1 := by
  rw [inspected] at h ⊢
  dsimp only at h ⊢
  split
  · rfl
  · next hrejected =>
      rw [if_neg hrejected] at h
      exact absurd rfl h

/-- A run that decodes prints the report on the buffer if there is one to read, and nothing
otherwise. Its exit code says whether there is one and whether it is as valid as the settings want
it. -/
structure Decodes (settingsPath : Option String) (files : Files)
    (environment : List (String × String)) (path : String) (outcome : Outcome) : Prop where
  exit_eq_zero_iff : outcome.exit = 0 ↔
    ∃ settings buffer, Reads settingsPath files environment path settings buffer ∧
      ((settings.framing.inspect buffer).valid = true ∨ settings.rejectInvalid = false)
  exit_eq_one : outcome.exit ≠ 0 → outcome.exit = 1
  report : ∀ settings buffer, Reads settingsPath files environment path settings buffer →
    outcome.stdout = Report.render settings.output (settings.framing.inspect buffer)
  silent : (∀ settings buffer, ¬ Reads settingsPath files environment path settings buffer) →
    outcome.stdout = ""

theorem decodes_run (hparse : CommandLine.parse args = .ok ⟨settingsPath, .decode path⟩) :
    Decodes settingsPath files environment path (run args files environment) := by
  -- A run either inspects a buffer or fails.
  have hcases : (∃ settings buffer, Reads settingsPath files environment path settings buffer ∧
      run args files environment = inspected settings (Inspector.inspect settings buffer)) ∨
      (∀ settings buffer, ¬ Reads settingsPath files environment path settings buffer) ∧
        ∃ message, run args files environment = failed message := by
    by_cases h : ∃ settings buffer, Reads settingsPath files environment path settings buffer
    · obtain ⟨settings, buffer, hreads⟩ := h
      exact .inl ⟨settings, buffer, hreads, run_of_reads hparse hreads⟩
    · have hnone : ∀ settings buffer,
          ¬ Reads settingsPath files environment path settings buffer :=
        fun settings buffer hreads => h ⟨settings, buffer, hreads⟩
      exact .inr ⟨hnone, run_of_not_reads hparse hnone⟩
  constructor
  case exit_eq_zero_iff =>
    constructor
    · intro hexit
      rcases hcases with ⟨settings, buffer, hreads, hrun⟩ | ⟨-, message, hrun⟩
      · rw [hrun, exit_inspected_eq_zero_iff] at hexit
        exact ⟨settings, buffer, hreads, hexit⟩
      · rw [hrun] at hexit
        cases hexit
    · rintro ⟨settings, buffer, hreads, hvalid⟩
      rw [run_of_reads hparse hreads]
      exact exit_inspected_eq_zero_iff.mpr hvalid
  case exit_eq_one =>
    intro hexit
    rcases hcases with ⟨settings, buffer, -, hrun⟩ | ⟨-, message, hrun⟩
    · rw [hrun] at hexit ⊢
      exact exit_inspected_eq_one hexit
    · rw [hrun]
      rfl
  case report =>
    intro settings buffer hreads
    rw [run_of_reads hparse hreads]
    rfl
  case silent =>
    intro hnone
    obtain ⟨message, hrun⟩ := run_of_not_reads hparse hnone
    rw [hrun]
    rfl

/-! ## Encoding -/

/-- The settings load, and the file at a path is the text of a request that has a buffer in their
framing. -/
structure Writes (settingsPath : Option String) (files : Files)
    (environment : List (String × String)) (path : String) (settings : Settings)
    (buffer : List UInt8) : Prop where
  loads : Settings.load? settingsPath files environment = some settings
  encodes : ∃ text request, files path = .ok (Utf8.encode text.toList) ∧
    Request.ofText? text = some request ∧ request.encode settings.framing = .ok buffer

theorem run_of_writes (hparse : CommandLine.parse args = .ok ⟨settingsPath, .encode path⟩)
    (h : Writes settingsPath files environment path settings buffer) :
    run args files environment =
      { exit := 0, stdout := String.ofList (Hex.encode buffer) ++ "\n" } := by
  obtain ⟨hload, text, request, htext, hrequest, hencode⟩ := h
  have hdigits := Inspector.encodeFile_eq_ok_iff.mpr
    ⟨buffer, text, request, htext, hrequest, hencode, rfl⟩
  rw [run, hparse]
  simp only [hload, execute, hdigits]

theorem run_of_not_writes (hparse : CommandLine.parse args = .ok ⟨settingsPath, .encode path⟩)
    (h : ∀ settings buffer, ¬ Writes settingsPath files environment path settings buffer) :
    ∃ message, run args files environment = failed message := by
  rw [run, hparse]
  dsimp only
  cases hload : Settings.load? settingsPath files environment with
  | none => exact ⟨_, rfl⟩
  | some settings =>
      cases hfile : Inspector.encodeFile settings files path with
      | error failure =>
          simp only [execute, hfile]
          exact ⟨_, rfl⟩
      | ok digits =>
          obtain ⟨buffer, text, request, htext, hrequest, hencode, -⟩ :=
            Inspector.encodeFile_eq_ok_iff.mp hfile
          exact absurd ⟨hload, text, request, htext, hrequest, hencode⟩ (h settings buffer)

/-- A run that encodes prints the digits of the buffer on a line if there is a buffer, and nothing
otherwise, and its exit code says which. -/
structure Encodes (settingsPath : Option String) (files : Files)
    (environment : List (String × String)) (path : String) (outcome : Outcome) : Prop where
  exit_eq_zero_iff : outcome.exit = 0 ↔
    ∃ settings buffer, Writes settingsPath files environment path settings buffer
  digits : ∀ settings buffer, Writes settingsPath files environment path settings buffer →
    outcome.stdout = String.ofList (Hex.encode buffer) ++ "\n"
  silent : outcome.exit ≠ 0 → outcome.exit = 1 ∧ outcome.stdout = ""

theorem encodes_run (hparse : CommandLine.parse args = .ok ⟨settingsPath, .encode path⟩) :
    Encodes settingsPath files environment path (run args files environment) := by
  have hnone : (∀ settings buffer,
      ¬ Writes settingsPath files environment path settings buffer) →
        (run args files environment).exit = 1 ∧ (run args files environment).stdout = "" := by
    intro h
    obtain ⟨message, hrun⟩ := run_of_not_writes hparse h
    rw [hrun]
    exact ⟨rfl, rfl⟩
  constructor
  case exit_eq_zero_iff =>
    constructor
    · intro hexit
      by_contra h
      have hfailed := hnone fun settings buffer hwrites => h ⟨settings, buffer, hwrites⟩
      rw [hfailed.1] at hexit
      cases hexit
    · rintro ⟨settings, buffer, hwrites⟩
      rw [run_of_writes hparse hwrites]
  case digits =>
    intro settings buffer hwrites
    rw [run_of_writes hparse hwrites]
  case silent =>
    intro hexit
    refine hnone ?_
    intro settings buffer hwrites
    rw [run_of_writes hparse hwrites] at hexit
    exact hexit rfl

/-! ## Any run -/

/-- **The exit code and what is printed tell what a run came to.** The code is 2, and nothing is
printed, exactly when there is a usage fault. Otherwise it is 0 or 1 as the command went. -/
theorem run_outcome (args : List String) (files : Files) (environment : List (String × String)) :
    ((run args files environment).exit = 2 ∧ (run args files environment).stdout = "" ↔
      ∃ fault, CommandLine.parse args = .error fault) ∧
    (∀ settingsPath path, CommandLine.parse args = .ok ⟨settingsPath, .decode path⟩ →
      Decodes settingsPath files environment path (run args files environment)) ∧
    ∀ settingsPath path, CommandLine.parse args = .ok ⟨settingsPath, .encode path⟩ →
      Encodes settingsPath files environment path (run args files environment) := by
  refine ⟨⟨?_, ?_⟩, fun _ _ hparse => decodes_run hparse, fun _ _ hparse => encodes_run hparse⟩
  · rintro ⟨hexit, -⟩
    cases hparse : CommandLine.parse args with
    | error fault => exact ⟨fault, rfl⟩
    | ok invocation =>
        obtain ⟨settingsPath, command⟩ := invocation
        have hnonzero : (run args files environment).exit ≠ 0 := by
          rw [hexit]
          decide
        cases command with
        | decode path =>
            have hone := (decodes_run hparse).exit_eq_one hnonzero
            rw [hexit] at hone
            cases hone
        | encode path =>
            have hone := ((encodes_run hparse).silent hnonzero).1
            rw [hexit] at hone
            cases hone
  · rintro ⟨fault, hparse⟩
    rw [run, hparse]
    exact ⟨rfl, rfl⟩

/-- A folder with a flag of 2, in digits, and with a request. -/
def sampleFiles : Files :=
  Files.ofList
    [("flag.hex", Utf8.encode "14 01 02\n".toList),
      ("boot.toml", Utf8.encode "network_device_path = 'http://a'".toList)]

theorem run_outcome_sampleFiles :
    ((run ["decode", "flag.hex"] sampleFiles []).exit = 1 ∧
      (run ["decode", "flag.hex"] sampleFiles []).stdout =
        Report.render .text (Framing.compact.inspect [20, 1, 2])) ∧
    (run ["encode", "boot.toml"] sampleFiles []).exit = 0 ∧
      (run ["encode", "boot.toml"] sampleFiles []).stdout = "0108687474703a2f2f61\n" := by
  constructor
  · obtain ⟨-, hdecodes, -⟩ := run_outcome ["decode", "flag.hex"] sampleFiles []
    have h := hdecodes none "flag.hex" rfl
    have hreads : Reads none sampleFiles [] "flag.hex" {} [20, 1, 2] := by
      refine ⟨by decide +kernel, ⟨Utf8.encode "14 01 02\n".toList, rfl, by decide +kernel, ?_⟩,
        by decide⟩
      exact .hex rfl (.cons (.inl rfl) (.inl rfl) (.cons (.inl rfl) (.inl rfl)
        (.cons (.inl rfl) (.inl rfl) .nil)))
    exact ⟨h.exit_eq_one (by decide +kernel), h.report _ _ hreads⟩
  · obtain ⟨-, -, hencodes⟩ := run_outcome ["encode", "boot.toml"] sampleFiles []
    have h := hencodes none "boot.toml" rfl
    have hwrites : Writes none sampleFiles [] "boot.toml" {}
        [1, 8, 0x68, 0x74, 0x74, 0x70, 0x3A, 0x2F, 0x2F, 0x61] := by
      refine ⟨by decide +kernel, "network_device_path = 'http://a'",
        { networkDevicePath := some "http://a" }, rfl, by decide +kernel, ?_⟩
      exact Request.encode_eq_ok_iff.mpr ⟨_, rfl, by decide +kernel, rfl⟩
    exact ⟨h.exit_eq_zero_iff.mpr ⟨_, _, hwrites⟩, h.digits _ _ hwrites⟩

end Program

end BootTlv
