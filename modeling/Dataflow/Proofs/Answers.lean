import Dataflow.CommandLine
import Dataflow.Proofs.FileText
import Dataflow.Proofs.Printing
import Dataflow.Proofs.WritableLimits

/-!
# Answers of the command line

A command line that asks for the run of a file is answered by what comes of it (`Attempt`). The exit
status tells a report from a fault, unless an integer is too long to be printed or dumped; a fault is
complained about at the end of standard error; and standard output has one line for each value that
was printed (`Printed.exists_lines`).

Main statement: `answer_reports_run`.
-/

set_option autoImplicit false

namespace Dataflow

/-! ## Standard output -/

/-- What is printed is the values told but for one that was refused, which comes last. -/
theorem Printed.exists_lines {told : Array Value} {failure : Option Failure}
    (h : Printed told failure) :
    ∃ printed : List Value, (∀ value ∈ printed, ¬ value.Oversized) ∧
      (told.toList = printed ∨ ∃ last, last.Oversized ∧ told.toList = printed ++ [last]) ∧
      CommandLine.printed told 0 = String.join (printed.map fun value => value.plain ++ "\n") := by
  obtain ⟨printed, rest, htold, hprinted, hrest⟩ : ∃ printed rest, told.toList = printed ++ rest ∧
      (∀ value ∈ printed, ¬ value.Oversized) ∧
      (rest = [] ∨ ∃ last, last.Oversized ∧ rest = [last]) := by
    cases h with
    | all htold => exact ⟨told.toList, [], by simp, by simpa using htold, Or.inl rfl⟩
    | faulty htold fault => exact ⟨told.toList, [], by simp, by simpa using htold, Or.inl rfl⟩
    | @refused before last htold hbefore hlast =>
      exact ⟨before.toList, [last], by simp [htold], by simpa using hbefore,
        Or.inr ⟨last, hlast, rfl⟩⟩
  have hkept : ∀ value ∈ printed, value.printable = true := fun value hvalue =>
    Value.printable_eq_true_iff.2 (hprinted value hvalue)
  have hdropped : rest.takeWhile Value.printable = [] := by
    rcases hrest with rfl | ⟨last, hlast, rfl⟩
    · rfl
    · simp [Value.printable_eq_false_iff.2 hlast]
  refine ⟨printed, hprinted, ?_, ?_⟩
  · rcases hrest with rfl | ⟨last, hlast, rfl⟩
    · exact Or.inl (by simpa using htold)
    · exact Or.inr ⟨last, hlast, htold⟩
  · rw [CommandLine.printed, Array.extract_size, htold, List.takeWhile_append_of_pos hkept,
      hdropped, List.append_nil]

/-- A store can be dumped unless one of its integers is too long. -/
theorem StateDump.dump_eq_error_iff {store : Store} {refusal : Refusal} :
    dump store = .error refusal ↔
      refusal = .digitLimit ∧ ∃ v ∈ store.entries, v.value.Oversized := by
  rw [dump]
  split
  · next hall =>
    have hnone : ¬ ∃ v ∈ store.entries, v.value.Oversized := by
      rintro ⟨v, hv, hoversized⟩
      exact Value.printable_eq_true_iff.1 (List.all_eq_true.1 hall v hv) hoversized
    simp [hnone]
  · next hsome =>
    have hexists : ∃ v ∈ store.entries, v.value.Oversized := by
      simpa [Value.printable_eq_false_iff] using hsome
    simp [hexists, eq_comm]

namespace CommandLine

/-! ## Runs that a command line asks for -/

/-- What comes of running a file under the settings of a command line: the values told, and the
report or the failure. Settings that do not load are a failure before anything is told. -/
inductive Attempt (steps : Nat) (environment : Environment) (options : Options)
    (bytes : List UInt8) : Array Value → Except Failure Report → Prop where
  | unsettled {fault : Fault}
      (hload : Settings.load environment (overrides options) = .error fault) :
      Attempt steps environment options bytes #[] (.error (.fault fault))
  | ran {settings : Settings} {conclusion : Conclusion}
      (hload : Settings.load environment (overrides options) = .ok settings)
      (hrun : runFile steps environment (some settings) (some .printing) options.path bytes =
        some conclusion) :
      Attempt steps environment options bytes conclusion.told conclusion.result

/-- An integer that is too long was to be printed, or to be dumped after a run that halted. -/
def Unwritable (options : Options) (told : Array Value) (result : Except Failure Report) : Prop :=
  (∃ value ∈ told, value.Oversized) ∨
    options.dumpState = true ∧
      ∃ report, result = .ok report ∧ ∃ v ∈ report.store.entries, v.value.Oversized

/-- Values that were all printed can only be in the way of a dump. -/
theorem not_unwritable {options : Options} {told : Array Value} {failure : Failure}
    (htold : ∀ value ∈ told, ¬ value.Oversized) : ¬ Unwritable options told (.error failure) := by
  rintro (⟨value, hvalue, hoversized⟩ | ⟨-, report, hreport, -⟩)
  · exact htold value hvalue hoversized
  · cases hreport

/-- A run is closed with the refusal if something could not be written, and else with a status that
tells the report from the fault. -/
theorem closing_cases (options : Options) {told : Array Value} {result : Except Failure Report}
    (h : Printed told (Failure.ofResult? result)) :
    (Unwritable options told result ∧
        closing options result = (.error (.refusal .digitLimit), "")) ∨
      ¬ Unwritable options told result ∧
        ((∃ report, result = .ok report ∧ (closing options result).1 = .ok 0) ∨
          ∃ fault, result = .error (.fault fault) ∧
            closing options result = (.ok 1, complaint fault)) := by
  cases result with
  | error failure =>
    cases h with
    | faulty htold fault => exact Or.inr ⟨not_unwritable htold, Or.inr ⟨fault, rfl, rfl⟩⟩
    | @refused before last htold hbefore hlast =>
      exact Or.inl ⟨Or.inl ⟨last, by simp [htold], hlast⟩, rfl⟩
  | ok report =>
    cases h with
    | all htold =>
      have hunwritable : Unwritable options told (.ok report) ↔
          options.dumpState = true ∧ ∃ v ∈ report.store.entries, v.value.Oversized := by
        simp only [Unwritable, Except.ok.injEq, exists_eq_left']
        refine or_iff_right ?_
        rintro ⟨value, hvalue, hoversized⟩
        exact htold value hvalue hoversized
      rw [hunwritable]
      cases hdump : options.dumpState with
      | false => exact Or.inr ⟨by simp, Or.inl ⟨report, rfl, by simp [closing, hdump]⟩⟩
      | true =>
        cases htext : StateDump.dump report.store with
        | ok text =>
          have hnone : ¬ ∃ v ∈ report.store.entries, v.value.Oversized := by
            intro hsome
            have herror := StateDump.dump_eq_error_iff.2 ⟨rfl, hsome⟩
            rw [htext] at herror
            cases herror
          exact Or.inr ⟨fun h => hnone h.2,
            Or.inl ⟨report, rfl, by simp [closing, hdump, htext]⟩⟩
        | error refusal =>
          obtain ⟨rfl, hsome⟩ := StateDump.dump_eq_error_iff.1 htext
          exact Or.inl ⟨⟨rfl, hsome⟩, by simp [closing, hdump, htext]⟩

section Answers

variable {steps : Nat} {environment : Environment} {files : String → Option (List UInt8)}
  {arguments : List String} {options : Options} {bytes : List UInt8} {transcript : Transcript}

/-- A command line that names a file is answered by what comes of the run. -/
theorem exists_attempt (hparse : Arguments.parse arguments = .ok options)
    (hfile : files options.path = some bytes)
    (h : answer steps environment files arguments = some transcript) :
    ∃ told result before, Attempt steps environment options bytes told result ∧
      Printed told (Failure.ofResult? result) ∧ (∀ value ∈ told, value.WellFormed) ∧
      transcript = ⟨(closing options result).1, printed told 0,
        before ++ (closing options result).2⟩ := by
  rw [answer, request, hparse] at h
  simp only [hfile] at h
  cases hload : Settings.load environment (overrides options) with
  | error fault =>
    simp only [hload] at h
    obtain rfl := Option.some.inj h
    have hnone : ∀ value : Value, value ∉ #[] := by simp
    exact ⟨#[], .error (.fault fault), "", .unsettled hload,
      .faulty (fun value hvalue => absurd hvalue (hnone value)) fault,
      fun value hvalue => absurd hvalue (hnone value), rfl⟩
  | ok settings =>
    simp only [hload, Option.map_eq_some_iff] at h
    obtain ⟨conclusion, hrun, rfl⟩ := h
    have htold := told_runFile (withinDigitLimit_of_load hparse hload) hrun
    exact ⟨conclusion.told, conclusion.result, _, .ran hload hrun, htold.printed, htold.wellFormed,
      rfl⟩

/-- A command line that names a file, and whose run comes to an end, is answered by what comes of
it. The process ends without a status exactly if an integer was too long to be written. Otherwise the
status is 0 exactly if there is a report, and 1 exactly if there is a fault, which standard error ends
with. However it went, standard output has a line for each value that was told, except one that was
refused, and these are all its lines. -/
theorem answer_reports_run (hparse : Arguments.parse arguments = .ok options)
    (hfile : files options.path = some bytes)
    (hanswer : answer steps environment files arguments = some transcript) :
    ∃ told result, Attempt steps environment options bytes told result ∧
      (∀ failure, transcript.exit = .error failure ↔
        failure = .refusal .digitLimit ∧ Unwritable options told result) ∧
      (¬ Unwritable options told result →
        (transcript.exit = .ok 0 ↔ ∃ report, result = .ok report) ∧
        (transcript.exit = .ok 1 ↔ ∃ fault, result = .error (.fault fault))) ∧
      (∀ fault, result = .error (.fault fault) →
        ∃ before, transcript.stderr = before ++ ("error: " ++ fault.render ++ "\n")) ∧
      ∃ printed : List Value, (∀ value ∈ printed, ¬ value.Oversized) ∧
        (told.toList = printed ∨ ∃ last, last.Oversized ∧ told.toList = printed ++ [last]) ∧
        transcript.stdout = String.join (printed.map fun value => value.plain ++ "\n") ∧
        Text.lines transcript.stdout = printed.map Value.plain := by
  obtain ⟨told, result, before, hattempt, hprinted, hvalues, rfl⟩ :=
    exists_attempt hparse hfile hanswer
  refine ⟨told, result, hattempt, ?_, ?_, ?_, ?_⟩
  · intro failure
    rcases closing_cases options hprinted with
      ⟨hunwritable, hclosing⟩ | ⟨hwritable, ⟨report, -, hexit⟩ | ⟨fault, -, hclosing⟩⟩
    · simp [hunwritable, hclosing, eq_comm]
    · simp [hwritable, hexit]
    · simp [hwritable, hclosing]
  · intro hwritable
    rcases closing_cases options hprinted with
      ⟨hunwritable, -⟩ | ⟨-, ⟨report, rfl, hexit⟩ | ⟨fault, rfl, hclosing⟩⟩
    · exact absurd hunwritable hwritable
    · simp [hexit]
    · simp [hclosing]
  · rintro fault rfl
    exact ⟨before, rfl⟩
  · obtain ⟨printed, hshort, htold, hstdout⟩ := hprinted.exists_lines
    refine ⟨printed, hshort, htold, hstdout, ?_⟩
    -- each value is printed as one line, so the line feeds are the only breaks
    have hmem : ∀ value ∈ printed, value ∈ told.toList := by
      intro value hvalue
      rcases htold with htold | ⟨last, -, htold⟩
      · rwa [htold]
      · rw [htold]
        exact List.mem_append_left _ hvalue
    have hunbroken : ∀ line ∈ printed.map Value.plain, Text.Unbroken line := by
      intro line hline
      obtain ⟨value, hvalue, rfl⟩ := List.mem_map.1 hline
      exact (hvalues value (Array.mem_toList_iff.1 (hmem value hvalue))).unbroken_plain
    have hlines := Text.lines_join_terminated hunbroken
    rw [List.map_map] at hlines
    rw [hstdout]
    exact hlines

/-- A program that prints a value and then calls a function that is not defined. -/
def greeting : String :=
  "- _entry\nvar x text\nassg x hello\nbind in x\ncall print\ncall nowhere\n---\n"

/-- The value is printed although the run fails, and the fault is complained about. -/
theorem answer_reports_run_greeting :
    ∃ transcript told fault,
      answer 3 ⟨none, none, none⟩ (fun _ => some (Text.Utf8.encode greeting)) ["hello.il"] =
        some transcript ∧
      Attempt 3 ⟨none, none, none⟩ ⟨"hello.il", false, none, false, false⟩
        (Text.Utf8.encode greeting) told (.error (.fault fault)) ∧
      transcript.exit = .ok 1 ∧ transcript.stdout = "hello\n" ∧
      transcript.stderr = "error: [UNKNOWN_FUNCTION] No such function 'nowhere'\n" := by
  have hparse : Arguments.parse ["hello.il"] = .ok ⟨"hello.il", false, none, false, false⟩ := by
    with_unfolding_all rfl
  have hload : Settings.load ⟨none, none, none⟩
      (overrides ⟨"hello.il", false, none, false, false⟩) = .ok ⟨.warning, 0, false⟩ := by
    decide +kernel
  have hcomputed :
      (answer 3 ⟨none, none, none⟩ (fun _ => some (Text.Utf8.encode greeting)) ["hello.il"]).map
          (fun transcript => (transcript.exit, transcript.stdout, transcript.stderr)) =
        some (.ok 1, "hello\n",
          "error: [UNKNOWN_FUNCTION] No such function 'nowhere'\n") := by
    simp only [answer, request, hparse, hload, Session.ofFile, Text.Utf8.decode_encode,
      Session.ofSource]
    decide +kernel
  obtain ⟨transcript, hanswer, htranscript⟩ := Option.map_eq_some_iff.1 hcomputed
  obtain ⟨hexit, hstreams⟩ := Prod.mk.inj htranscript
  obtain ⟨hstdout, hstderr⟩ := Prod.mk.inj hstreams
  obtain ⟨told, result, hattempt, hrefused, hstatus, -⟩ :=
    answer_reports_run hparse rfl hanswer
  have hwritable : ¬ Unwritable ⟨"hello.il", false, none, false, false⟩ told result := by
    intro hunwritable
    have hexit' := (hrefused _).2 ⟨rfl, hunwritable⟩
    rw [hexit] at hexit'
    cases hexit'
  obtain ⟨fault, rfl⟩ := (hstatus hwritable).2.1 hexit
  exact ⟨transcript, told, fault, hanswer, hattempt, hexit, hstdout, hstderr⟩

end Answers

end CommandLine

end Dataflow
