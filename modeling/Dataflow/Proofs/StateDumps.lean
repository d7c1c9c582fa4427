import Dataflow.Proofs.Answers
import Dataflow.Proofs.JsonText

/-!
# Dumps tell stores apart

The dump of a store shows its variables and nothing else: a variable can be read back from its text
(`delimited_entry`), and so can the sorted list of the variables (`render_eq_iff`). Where every name
is declared once, the sorted list is fixed by what is found under each name (`sorted_eq_iff`), so the
order of the declarations does not show. The stores that halted runs leave are of this kind
(`Report.OfRun.wellFormed`).

Main statement: `dump_tells_stores_apart`.
-/

set_option autoImplicit false

namespace Dataflow

/-! ## Stores as maps -/

namespace Store

variable {store other : Store}

/-- Two stores are the same map exactly if they differ in the order of their variables only. -/
theorem find?_eq_iff_perm (hnames : store.names.Nodup) (hother : other.names.Nodup) :
    (∀ name, store.find? name = other.find? name) ↔ store.entries.Perm other.entries := by
  rw [List.perm_ext_iff_of_nodup hnames.of_map hother.of_map]
  constructor
  · intro h v
    have hv : store.find? v.name = some v ↔ other.find? v.name = some v := by rw [h]
    rwa [find?_eq_some_iff hnames, find?_eq_some_iff hother, and_iff_left rfl,
      and_iff_left rfl] at hv
  · intro h name
    apply Option.ext
    intro v
    rw [find?_eq_some_iff hnames, find?_eq_some_iff hother, h v]

end Store

namespace StateDump

/-! ## Sorted variables -/

theorem perm_sorted (store : Store) : (sorted store).Perm store.entries :=
  List.mergeSort_perm _ _

theorem pairwise_sorted (store : Store) :
    (sorted store).Pairwise fun v w => v.name ≤ w.name := by
  have htrans : ∀ u v w : Variable, decide (u.name ≤ v.name) = true →
      decide (v.name ≤ w.name) = true → decide (u.name ≤ w.name) = true := by
    intro u v w huv hvw
    exact decide_eq_true (String.le_trans (of_decide_eq_true huv) (of_decide_eq_true hvw))
  have htotal : ∀ v w : Variable, (decide (v.name ≤ w.name) || decide (w.name ≤ v.name)) = true := by
    intro v w
    simpa using String.le_total v.name w.name
  exact (List.pairwise_mergeSort htrans htotal store.entries).imp of_decide_eq_true

/-- The sorted variables depend on the map only, not on the order of the declarations. -/
theorem sorted_eq_iff {store other : Store} (hnames : store.names.Nodup)
    (hother : other.names.Nodup) :
    sorted store = sorted other ↔ ∀ name, store.find? name = other.find? name := by
  rw [Store.find?_eq_iff_perm hnames hother]
  constructor
  · intro h
    exact (perm_sorted store).symm.trans (h ▸ perm_sorted other)
  · intro hperm
    -- two variables that stand on either side of each other have one name
    refine List.Perm.eq_of_pairwise ?_ (pairwise_sorted store) (pairwise_sorted other)
      ((perm_sorted store).trans (hperm.trans (perm_sorted other).symm))
    intro v w hv hw hle hge
    have hmem : v ∈ other.entries := hperm.mem_iff.1 ((perm_sorted store).mem_iff.1 hv)
    exact List.inj_on_of_nodup_map hother hmem ((perm_sorted other).mem_iff.1 hw)
      (String.le_antisymm hle hge)

/-! ## Variables and lists of variables -/

theorem delimited_entry : Delimited fun v => (entry v).toList := by
  rintro ⟨name, type, value, ready, bound⟩ ⟨name', type', value', ready', bound'⟩ rest other h
  simp only [entry, field, String.intercalate_cons_cons, String.intercalate_singleton,
    String.toList_append, List.append_assoc, List.append_cancel_left_eq] at h
  -- the name and the fields are read off in turn, as the text between them is the same
  obtain ⟨rfl, h⟩ := delimited_jsonString h
  simp only [List.append_cancel_left_eq] at h
  obtain ⟨rfl, h⟩ := delimited_jsonBool h
  simp only [List.append_cancel_left_eq] at h
  obtain ⟨rfl, h⟩ := delimited_jsonBool h
  simp only [List.append_cancel_left_eq] at h
  obtain ⟨rfl, h⟩ := delimited_jsonString h
  simp only [List.append_cancel_left_eq] at h
  -- the value ends with its line
  have hlines : ((jsonValue value).toList ++ ['\n']) ++ ("  \x7d".toList ++ rest) =
      ((jsonValue value').toList ++ ['\n']) ++ ("  \x7d".toList ++ other) := by
    rw [List.append_assoc, List.append_assoc]
    exact h
  obtain ⟨rfl, hrest⟩ := delimited_jsonValue hlines
  exact ⟨rfl, List.append_cancel_left hrest⟩

/-- The lines of the variables behind the first one. -/
def rows (list : List Variable) : List Char :=
  (list.flatMap fun w => ",\n".toList ++ (entry w).toList) ++ ['\n']

theorem delimited_rows : Delimited rows := by
  apply Delimited.flatMap
  · intro v w rest other h
    simp only [List.append_assoc, List.append_cancel_left_eq] at h
    exact delimited_entry h
  · intro v rest other h
    exact absurd (List.cons.inj h).1 (by decide)

theorem toList_intercalate_entry (v : Variable) (list : List Variable) :
    (",\n".intercalate ((v :: list).map entry)).toList ++ ['\n'] =
      (entry v).toList ++ rows list := by
  induction list generalizing v with
  | nil => simp [rows]
  | cons w list ih =>
    rw [List.map_cons, List.map_cons, String.intercalate_cons_cons, String.toList_append,
      String.toList_append, ← List.map_cons, List.append_assoc, ih, rows, rows, List.flatMap_cons]
    simp only [List.append_assoc]

/-! ## Whole stores -/

theorem toList_render_nil {store : Store} (h : sorted store = []) :
    (render store).toList = ['\x7b', '\x7d'] := by
  rw [render, h]
  rfl

theorem toList_render_cons {store : Store} {v : Variable} {list : List Variable}
    (h : sorted store = v :: list) :
    (render store).toList = '\x7b' :: '\n' :: ((entry v).toList ++ (rows list ++ ['\x7d'])) := by
  rw [render, h, ← List.append_assoc, ← toList_intercalate_entry, List.append_assoc]
  simp only [String.toList_append]
  rfl

/-- The text of a store is that of its sorted variables. -/
theorem render_eq_iff {store other : Store} :
    render store = render other ↔ sorted store = sorted other := by
  constructor
  · intro h
    have htext := congrArg String.toList h
    cases hfirst : sorted store with
    | nil =>
      cases hsecond : sorted other with
      | nil => rfl
      | cons w second =>
        rw [toList_render_nil hfirst, toList_render_cons hsecond] at htext
        simp at htext
    | cons v first =>
      cases hsecond : sorted other with
      | nil =>
        rw [toList_render_cons hfirst, toList_render_nil hsecond] at htext
        simp at htext
      | cons w second =>
        rw [toList_render_cons hfirst, toList_render_cons hsecond] at htext
        obtain ⟨-, htext⟩ := List.cons.inj htext
        obtain ⟨-, htext⟩ := List.cons.inj htext
        obtain ⟨rfl, hrows⟩ := delimited_entry htext
        obtain ⟨rfl, -⟩ := delimited_rows hrows
        rfl
  · intro h
    rw [render, render, h]

/-- A store whose integers are short enough is dumped. -/
theorem dump_eq_ok {store : Store} (h : ∀ v ∈ store.entries, ¬ v.value.Oversized) :
    dump store = .ok (render store) := by
  refine if_pos (List.all_eq_true.2 ?_)
  intro v hv
  exact Value.printable_eq_true_iff.2 (h v hv)

end StateDump

/-! ## Stores of halted runs -/

/-- What the run of a program text or of a file leaves if it halts. -/
inductive Report.OfRun (report : Report) : Prop where
  | text {steps : Nat} {environment : Environment} {settings : Option Settings}
      {listener : Option Listener} {text : String} {conclusion : Conclusion}
      (hrun : runSource steps environment settings listener text = some conclusion)
      (hresult : conclusion.result = .ok report)
  | file {steps : Nat} {environment : Environment} {settings : Option Settings}
      {listener : Option Listener} {path : String} {bytes : List UInt8} {conclusion : Conclusion}
      (hrun : runFile steps environment settings listener path bytes = some conclusion)
      (hresult : conclusion.result = .ok report)

/-- A report shows the store in which the run ended. -/
theorem Conclusion.store_of_ofOutcome {outcome : Outcome} {report : Report}
    (h : (ofOutcome outcome).result = .ok report) : report.store = outcome.state.store := by
  obtain ⟨state, failure⟩ := outcome
  cases failure with
  | none =>
    obtain rfl := Except.ok.inj h
    rfl
  | some failure => cases h

section Sessions

variable {steps : Nat} {environment : Environment} {settings : Settings}
  {listener : Option Listener} {text : String} {conclusion : Conclusion} {report : Report}

theorem Session.wellFormed_ofText
    (h : conclude steps (ofText settings listener text) = some conclusion)
    (hresult : conclusion.result = .ok report) : report.store.WellFormed := by
  rcases ofText_cases settings listener text with
    ⟨journal, fault, hearly⟩ | ⟨program, journal, hparse, hsession⟩
  · rw [hearly] at h
    obtain rfl := Option.some.inj h
    cases hresult
  · rw [hsession, conclude, Option.map_eq_some_iff] at h
    obtain ⟨outcome, hrun, rfl⟩ := h
    have hprogram : program.WellFormed := Program.wellFormed_of_parse hparse
    have hstate := @Setup.wellFormed_advance ⟨program, settings.maxDispatches, listener⟩ hprogram
      journal steps
    rw [Setup.run_eq_some_iff.1 hrun] at hstate
    rw [Conclusion.store_of_ofOutcome hresult]
    exact hstate.store

theorem Session.wellFormed_ofSource {settings : Option Settings}
    (h : conclude steps (ofSource environment settings listener text) = some conclusion)
    (hresult : conclusion.result = .ok report) : report.store.WellFormed := by
  cases settings with
  | some settings => exact wellFormed_ofText h hresult
  | none =>
    rw [ofSource] at h
    cases hload : Settings.load environment .none with
    | ok settings =>
      simp only [hload] at h
      exact wellFormed_ofText h hresult
    | error fault =>
      simp only [hload] at h
      obtain rfl := Option.some.inj h
      cases hresult

/-- In the store that a halted run leaves, every name is declared once. -/
theorem Report.OfRun.wellFormed (h : report.OfRun) : report.store.WellFormed := by
  cases h with
  | text hrun hresult => exact Session.wellFormed_ofSource hrun hresult
  | @file _ _ _ _ path bytes _ hrun hresult =>
    rw [runFile, Session.ofFile] at hrun
    cases hdecode : Text.Utf8.decode bytes with
    | error flaw =>
      simp only [hdecode] at hrun
      obtain rfl := Option.some.inj hrun
      cases hresult
    | ok text =>
      simp only [hdecode] at hrun
      exact Session.wellFormed_ofSource hrun hresult

end Sessions

namespace CommandLine

/-- The dumps of two halted runs without an integer that is too long are the same text exactly if
under each name both stores have the same variable, or both have none. -/
theorem dump_tells_stores_apart {options options' : Options} (hdump : options.dumpState = true)
    (hdump' : options'.dumpState = true) {report report' : Report} (hrun : report.OfRun)
    (hrun' : report'.OfRun) (hshort : ∀ v ∈ report.store.entries, ¬ v.value.Oversized)
    (hshort' : ∀ v ∈ report'.store.entries, ¬ v.value.Oversized) :
    ∃ text text', closing options (.ok report) = (.ok 0, text ++ "\n") ∧
      closing options' (.ok report') = (.ok 0, text' ++ "\n") ∧
      (text = text' ↔ ∀ name, report.store.find? name = report'.store.find? name) := by
  refine ⟨StateDump.render report.store, StateDump.render report'.store, ?_, ?_, ?_⟩
  · simp [closing, hdump, StateDump.dump_eq_ok hshort]
  · simp [closing, hdump', StateDump.dump_eq_ok hshort']
  · rw [StateDump.render_eq_iff]
    exact StateDump.sorted_eq_iff hrun.wellFormed.names hrun'.wellFormed.names

/-- A program of two variables: one is assigned 2, and the other gets what the last lines make of it. -/
def doubling (declarations sum : String) : String :=
  "- _entry\n" ++ declarations ++ "assg a\" 2\n" ++ sum ++ "---\n"

/-- The report of a run whose store is known. -/
theorem exists_report (text : String) (entries : List Variable)
    (hstore : (runSource 2 ⟨none, none, none⟩ (some ⟨.warning, 0, false⟩) none text).map
        (fun conclusion => conclusion.result.map Report.store) = some (.ok ⟨entries⟩))
    (hprintable : (entries.all fun v => v.value.printable) = true) :
    ∃ report : Report, report.OfRun ∧ report.store = ⟨entries⟩ ∧
      ∀ v ∈ report.store.entries, ¬ v.value.Oversized := by
  obtain ⟨conclusion, hrun, hstore⟩ := Option.map_eq_some_iff.1 hstore
  cases hresult : conclusion.result with
  | error failure =>
    rw [hresult] at hstore
    cases hstore
  | ok report =>
    rw [hresult] at hstore
    have hentries : report.store = ⟨entries⟩ := Except.ok.inj hstore
    refine ⟨report, .text hrun hresult, hentries, ?_⟩
    rw [hentries]
    intro v hv
    exact Value.printable_eq_true_iff.1 (List.all_eq_true.1 hprintable v hv)

/-- The order of the declarations does not show in a dump, but an integer is told from the text that
spells it. -/
theorem dump_tells_stores_apart_doubling :
    ∃ early late spelled : Report, early.OfRun ∧ late.OfRun ∧ spelled.OfRun ∧
      early.store.names = ["a\"", "𝟝"] ∧ late.store.names = ["𝟝", "a\""] ∧
      early.store.read "𝟝" = .ok (.int 4) ∧ spelled.store.read "𝟝" = .ok (.text "4") ∧
      ∃ text other,
        closing ⟨"sum.il", false, none, false, true⟩ (.ok early) = (.ok 0, text ++ "\n") ∧
        closing ⟨"sum.il", true, none, false, true⟩ (.ok late) = (.ok 0, text ++ "\n") ∧
        closing ⟨"sum.il", false, none, false, true⟩ (.ok spelled) = (.ok 0, other ++ "\n") ∧
        text ≠ other := by
  obtain ⟨early, hearly, hfirst, hshort⟩ := exists_report
    (doubling "var a\" int\nvar 𝟝 int\n" "bind in a\"\nbind in a\"\nbind out 𝟝\ncall add\n")
    [⟨"a\"", "int", .text "2", true, false⟩, ⟨"𝟝", "int", .int 4, true, false⟩]
    (by decide +kernel) (by decide +kernel)
  obtain ⟨late, hlate, hsecond, hshort'⟩ := exists_report
    (doubling "var 𝟝 int\nvar a\" int\n" "bind in a\"\nbind in a\"\nbind out 𝟝\ncall add\n")
    [⟨"𝟝", "int", .int 4, true, false⟩, ⟨"a\"", "int", .text "2", true, false⟩]
    (by decide +kernel) (by decide +kernel)
  obtain ⟨spelled, hspelled, hthird, hshort''⟩ := exists_report
    (doubling "var a\" int\nvar 𝟝 int\n" "assg 𝟝 4\n")
    [⟨"a\"", "int", .text "2", true, false⟩, ⟨"𝟝", "int", .text "4", true, false⟩]
    (by decide +kernel) (by decide +kernel)
  obtain ⟨text, text', hclosing, hclosing', hsame⟩ := @dump_tells_stores_apart
    ⟨"sum.il", false, none, false, true⟩ ⟨"sum.il", true, none, false, true⟩ rfl rfl _ _ hearly
    hlate hshort hshort'
  obtain ⟨text'', other, hagain, hother, hdiffer⟩ := @dump_tells_stores_apart
    ⟨"sum.il", false, none, false, true⟩ ⟨"sum.il", false, none, false, true⟩ rfl rfl _ _ hearly
    hspelled hshort hshort''
  obtain rfl : text'' = text := by
    rw [hclosing] at hagain
    exact (String.append_left_inj "\n").1 (Prod.mk.inj hagain).2.symm
  obtain rfl : text'' = text' := by
    rw [hsame, Store.find?_eq_iff_perm hearly.wellFormed.names hlate.wellFormed.names, hfirst,
      hsecond]
    decide
  refine ⟨early, late, spelled, hearly, hlate, hspelled, by rw [hfirst]; rfl, by rw [hsecond]; rfl,
    by rw [hfirst]; rfl, by rw [hthird]; rfl, text'', other, hclosing, hclosing', hother, ?_⟩
  intro heq
  have hfind := hdiffer.1 heq "𝟝"
  rw [hfirst, hthird] at hfind
  revert hfind
  decide

end CommandLine

end Dataflow
