import Dataflow.Proofs.ByteSequences
import Dataflow.Proofs.Decoding
import Dataflow.Proofs.Stages

/-!
# Files that are not UTF-8

The bytes of a file are checked before anything else is done with it. Settings, reading and running
fail for other reasons (`Settings.load_eq_error`, `Program.parse_cause`,
`Setup.Fails.not_reportsEncoding`), so a session that reports its bytes has done nothing but decode
them.

Main statement: `encoding_checked_first`.
-/

set_option autoImplicit false

namespace Dataflow

/-! ## Other reasons -/

/-- The failures that report bytes which are not UTF-8. -/
def Failure.ReportsEncoding (failure : Failure) : Prop :=
  ∃ path reason line, failure = .fault ⟨.invalidEncoding path reason, line⟩

/-- No run reports its bytes. -/
theorem Setup.Fails.not_reportsEncoding {setup : Setup} {journal : Array Event} {failure : Failure}
    (h : setup.Fails journal failure) : ¬ failure.ReportsEncoding := by
  rintro ⟨path, reason, line, rfl⟩
  cases h with
  | statement henters hstops =>
    obtain ⟨fault, hfault, hcause⟩ := (executeAll_executed _ _).failure _ hstops.failure_eq
    obtain rfl := Failure.fault.inj hfault
    cases hcause
  | intrinsic hintrinsic => cases hintrinsic

theorem inField_eq_error {α : Type} {field : String} {result : Except SettingFlaw α} {fault : Fault}
    (h : inField field result = .error fault) :
    ∃ reason, fault = .unplaced (.invalidSettings field reason) := by
  cases result with
  | ok a => cases h
  | error flaw => exact ⟨flaw.message, (Except.error.inj h).symm⟩

/-- Settings that do not load report a field. -/
theorem Settings.load_eq_error {environment : Environment} {overrides : Overrides} {fault : Fault}
    (h : load environment overrides = .error fault) :
    ∃ field reason, fault = .unplaced (.invalidSettings field reason) := by
  simp only [load] at h
  split at h
  · next hlevel =>
    obtain rfl := Except.error.inj h
    exact ⟨_, inField_eq_error hlevel⟩
  · split at h
    · next hbound =>
      obtain rfl := Except.error.inj h
      exact ⟨_, inField_eq_error hbound⟩
    · split at h
      · next hskip =>
        obtain rfl := Except.error.inj h
        exact ⟨_, inField_eq_error hskip⟩
      · cases h

theorem Program.entry_eq_error {program : Program} {fault : Fault}
    (h : program.entry = .error fault) : fault = .unplaced (.unknownFunction entryName) := by
  rw [entry, function] at h
  split at h
  · cases h
  · exact (Except.error.inj h).symm

namespace Session

variable {steps : Nat} {listener : Option Listener} {text : String} {conclusion : Conclusion}
  {failure : Failure}

theorem not_reportsEncoding_early {journal : Array Event} {fault : Fault}
    (hcause : ∀ path reason, fault.cause ≠ .invalidEncoding path reason)
    (h : some (Conclusion.early journal fault) = some conclusion)
    (hfailure : conclusion.result = .error failure) : ¬ failure.ReportsEncoding := by
  obtain rfl := Option.some.inj h
  obtain rfl := Except.error.inj hfailure
  rintro ⟨path, reason, line, hfault⟩
  exact hcause path reason (congrArg Fault.cause (Failure.fault.inj hfault))

/-- A conclusion fails as its run does. -/
theorem not_reportsEncoding_ofOutcome {setup : Setup} {journal : Array Event} {outcome : Outcome}
    (hrun : setup.run steps (.initial journal) = some outcome)
    (hfailure : (Conclusion.ofOutcome outcome).result = .error failure) :
    ¬ failure.ReportsEncoding := by
  rw [Conclusion.ofOutcome] at hfailure
  split at hfailure
  · next other hother =>
    obtain rfl := Except.error.inj hfailure
    exact (Setup.fails_of_run hrun hother).not_reportsEncoding
  · cases hfailure

theorem not_reportsEncoding_ofText {settings : Settings}
    (h : conclude steps (ofText settings listener text) = some conclusion)
    (hfailure : conclusion.result = .error failure) : ¬ failure.ReportsEncoding := by
  cases hread : Program.read settings.skipBlankLines (Text.lines text) with
  | mk functions fault =>
    simp only [ofText, hread] at h
    cases fault with
    | some fault =>
      refine not_reportsEncoding_early (fun path reason hcause => ?_) h hfailure
      have hparse : Program.parse settings.skipBlankLines (Text.lines text) = .error fault := by
        rw [Program.parse, hread]
      have hreading := Program.parse_cause hparse
      rw [hcause] at hreading
      cases hreading
    | none =>
      cases hentry : Program.entry ⟨functions⟩ with
      | error fault =>
        simp only [hentry] at h
        rw [Program.entry_eq_error hentry] at h
        refine not_reportsEncoding_early (fun path reason hcause => ?_) h hfailure
        cases hcause
      | ok entry =>
        simp only [hentry, conclude] at h
        obtain ⟨outcome, hrun, rfl⟩ := Option.map_eq_some_iff.1 h
        exact not_reportsEncoding_ofOutcome hrun hfailure

theorem not_reportsEncoding_ofSource {environment : Environment} {settings : Option Settings}
    (h : conclude steps (ofSource environment settings listener text) = some conclusion)
    (hfailure : conclusion.result = .error failure) : ¬ failure.ReportsEncoding := by
  cases settings with
  | some settings => exact not_reportsEncoding_ofText h hfailure
  | none =>
    rw [ofSource] at h
    cases hload : Settings.load environment .none with
    | ok settings =>
      simp only [hload] at h
      exact not_reportsEncoding_ofText h hfailure
    | error fault =>
      simp only [hload] at h
      obtain ⟨field, reason, rfl⟩ := Settings.load_eq_error hload
      refine not_reportsEncoding_early (fun path other hcause => ?_) h hfailure
      cases hcause

end Session

/-! ## Files -/

open Text.Utf8

/-- The bytes of a file are checked before anything else. Whatever the settings, the listener and the
number of steps, a run reports them if and only if they are not well formed, which is so if and only
if malformed bytes stand behind those of a text. The report then gives the length of the longest
prefix that is well formed, and nothing else has happened: no event is recorded, so that no function
was read or run, no value was told, and the settings of the environment were not looked at. -/
theorem encoding_checked_first (path : String) (bytes : List UInt8) :
    (∀ steps environment settings listener,
      (∃ conclusion failure,
        runFile steps environment settings listener path bytes = some conclusion ∧
          conclusion.result = .error failure ∧ failure.ReportsEncoding) ↔ ¬ WellFormed bytes) ∧
      (¬ WellFormed bytes ↔ ∃ text rest, bytes = encode text ++ rest ∧ Malformed rest) ∧
      (¬ WellFormed bytes → ∃ (flaw : Flaw) (length : Nat), LongestPrefix bytes length ∧
        ∀ steps environment settings listener,
          runFile steps environment settings listener path bytes =
            some ⟨#[], #[], .error (.fault (.unplaced (.invalidEncoding path
              (flaw.message ++ " at byte " ++ Nat.repr length))))⟩) := by
  rcases decode_cases bytes with ⟨text, -, hencode⟩ | ⟨flaw, text, rest, hdecode, rfl, hmalformed⟩
  · -- a text: nothing is wrong with its bytes, and its run does not say that anything is
    have hwell : WellFormed bytes := ⟨text, hencode⟩
    refine ⟨fun steps environment settings listener => iff_of_false ?_ (not_not_intro hwell),
      iff_of_false (not_not_intro hwell) ?_, fun hill => absurd hwell hill⟩
    · rintro ⟨conclusion, failure, hrun, hfailure, hreports⟩
      rw [← hencode, runFile, Session.ofFile, decode_encode] at hrun
      exact Session.not_reportsEncoding_ofSource hrun hfailure hreports
    · rintro ⟨other, rest, rfl, hmalformed⟩
      exact hmalformed.not_wellFormed other hwell
  · have hill := hmalformed.not_wellFormed text
    have hrun : ∀ steps environment settings listener,
        runFile steps environment settings listener path (encode text ++ rest) =
          some (.early #[] (.unplaced (.invalidEncoding path
            (FlawAt.message ⟨flaw, (encode text).length⟩)))) := by
      intro steps environment settings listener
      rw [runFile, Session.ofFile, hdecode, Session.conclude]
    refine ⟨fun steps environment settings listener => iff_of_true ?_ hill,
      iff_of_true hill ⟨text, rest, rfl, hmalformed⟩,
      fun _ => ⟨flaw, (encode text).length, hmalformed.longestPrefix text, hrun⟩⟩
    exact ⟨_, _, hrun steps environment settings listener, rfl, path, _, none, rfl⟩

/-- A surrogate behind a letter: three bytes that nothing is wrong with but their number. -/
theorem encoding_checked_first_surrogate :
    ¬ WellFormed [0x61, 0xED, 0xA0, 0x80] ∧
      ∃ flaw : Flaw, ∀ steps environment settings listener,
        runFile steps environment settings listener "program" [0x61, 0xED, 0xA0, 0x80] =
          some ⟨#[], #[], .error (.fault (.unplaced (.invalidEncoding "program"
            (flaw.message ++ " at byte 1"))))⟩ := by
  have hspells : Spells 0xED [0xA0, 0x80] 0xD800 := spells_two_iff.2 (by decide)
  have hmalformed : Malformed [0xED, 0xA0, 0x80] := .surrogate hspells (by decide) (by decide) []
  have hencode : encode "a" = [0x61] := by decide
  have hlongest : LongestPrefix [0x61, 0xED, 0xA0, 0x80] 1 := by
    have hprefix := hmalformed.longestPrefix "a"
    rwa [hencode] at hprefix
  obtain ⟨-, hexact, hreport⟩ := encoding_checked_first "program" [0x61, 0xED, 0xA0, 0x80]
  have hill : ¬ WellFormed [0x61, 0xED, 0xA0, 0x80] :=
    hexact.2 ⟨"a", [0xED, 0xA0, 0x80], congrArg (· ++ [0xED, 0xA0, 0x80]) hencode.symm, hmalformed⟩
  obtain ⟨flaw, length, hlength, hrun⟩ := hreport hill
  obtain rfl := hlength.unique hlongest
  have hwords : flaw.message ++ " at byte " ++ Nat.repr 1 = flaw.message ++ " at byte 1" :=
    String.append_assoc.trans (congrArg (flaw.message ++ ·) (by decide))
  exact ⟨hill, flaw, hwords ▸ hrun⟩

end Dataflow
