import ParseReport.Proofs.Carets
import ParseReport.Proofs.Diagnoses
import ParseReport.Proofs.FirstError
import ParseReport.Proofs.NewFiles

/-!
What the exit codes of a run mean. Code two is that of everything that keeps a run from parsing; the
other two tell how parsing without recovery ends, whatever the settings are.
-/

namespace ParseReport

/-- A report as text, in the formats that are no styled text. -/
def Format.report? : Format → Option (Nat → Text → List Failure → Except Fault Text)
  | .console => none
  | .plain => some (Plain.report .standard)
  | .html => some (Html.report .standard)
  | .markdown => some (Markdown.report .standard)

/-- What is written behind a report in a format. -/
def Format.closing : Format → Text
  | .html => ['\n']
  | _ => []

/-- Where the log file stands. -/
def Settings.logPath (settings : Settings) : FilePath :=
  (FilePath.ofText settings.logFile).settle

namespace Session

/-- What keeps a run from parsing: a file is not named, the settings do not load, the grammar cannot
be read or is none, or the source cannot be read. The files are those that are there once the log
file is made. -/
inductive Blocked (compile : GrammarCompiler) (w : Workspace) (r : Request) : Prop
  | unnamed : r.grammar = none ∨ r.source = none → Blocked compile w r
  | unsettled {e} : Settings.load r.given w.home w.workingSettings = .error e → Blocked compile w r
  | grammarUnread {settings opened created name fault} : Opens w r settings opened created →
      r.grammar = some name → opened.readText (.ofText name) = .error fault → Blocked compile w r
  | grammarRefused {settings opened created name text message} : Opens w r settings opened created →
      r.grammar = some name → opened.readText (.ofText name) = .ok text →
      compile text settings.parser r.start = .error message → Blocked compile w r
  | sourceUnread {settings opened created name fault} : Opens w r settings opened created →
      r.source = some name → opened.readText (.ofText name) = .error fault → Blocked compile w r

/-- A run makes a log file: both files are named, and the settings load. -/
structure Logs (w : Workspace) (r : Request) (settings : Settings) : Prop where
  grammar_named : r.grammar.isSome = true
  source_named : r.source.isSome = true
  settings_eq : Settings.load r.given w.home w.workingSettings = .ok settings

/-- The new file of a run is the log file that it makes, if nothing stood there before. When the
grammar and the source are read, the log file is empty, or it holds what a verbose run logs before
that. -/
structure MakesLog (w : Workspace) (r : Request) (created : List FilePath) : Prop where
  mem_iff : ∀ path, path ∈ created ↔
    ∃ settings, Logs w r settings ∧ path = settings.logPath ∧ w.find? path = none
  begun : ∀ settings, Logs w r settings → ∃ opened, Opens w r settings opened created ∧
    opened.find? settings.logPath = some (.bytes (Utf8.encode (Log.begun w r settings)))

/-- How a run comes back from a text. The exit code tells how parsing the text without recovery
ends. With code zero only styled text has anything to say, and with code one the other formats
write their report, which is not empty. -/
structure Examines (settings : Settings) (g : Grammar) (text : Text) (outcome : Outcome) :
    Prop where
  exit_le_one : outcome.exit ≤ 1
  exit_zero : outcome.exit = 0 ↔ g.engine.Ends text none
  exit_one : outcome.exit = 1 ↔ ∃ e, g.engine.Ends text (some e)
  silent : outcome.exit = 0 → settings.format ≠ .console → outcome.output = []
  reported : outcome.exit = 1 → ∀ write, settings.format.report? = some write →
    ∃ failures report, g.failures settings.maxErrors text = .ok failures ∧
      write settings.contextLines text failures = .ok report ∧ report ≠ [] ∧
      outcome.output = Terminal.printText (report ++ settings.format.closing)

section

variable {compile : GrammarCompiler} {w opened : Workspace} {r : Request} {settings : Settings}
  {source : FilePath} {created : List FilePath} {g : Grammar} {text : Text}
  {failures : List Failure} {outcome : Outcome}

theorem Opens.unique {settings' : Settings} {opened' : Workspace} {created' : List FilePath}
    (h : Opens w r settings opened created) (h' : Opens w r settings' opened' created') :
    settings' = settings ∧ opened' = opened ∧ created' = created := by
  cases Except.ok.inj (h'.settings_eq.symm.trans h.settings_eq)
  obtain ⟨rfl, rfl⟩ := Prod.mk.inj (Except.ok.inj (h'.log_eq.symm.trans h.log_eq))
  exact ⟨rfl, rfl, rfl⟩

/-- Nothing keeps a run from parsing that is ready to do so. -/
theorem Opens.not_blocked {grammarName sourceName : Text} (h : Opens w r settings opened created)
    (hg : r.grammar = some grammarName) (hs : r.source = some sourceName)
    (hp : prepare compile opened settings r.start (.ofText grammarName) (.ofText sourceName) =
      .ok (g, text)) : ¬Blocked compile w r := by
  obtain ⟨grammarText, hgt, hc, hst⟩ := prepare_eq_ok hp
  intro hb
  cases hb with
  | unnamed hnone => simp [hg, hs] at hnone
  | unsettled hload =>
    rw [h.settings_eq] at hload
    cases hload
  | grammarUnread h' hg' hgt' =>
    obtain ⟨rfl, rfl, rfl⟩ := h.unique h'
    cases Option.some.inj (hg'.symm.trans hg)
    rw [hgt] at hgt'
    cases hgt'
  | grammarRefused h' hg' hgt' hc' =>
    obtain ⟨rfl, rfl, rfl⟩ := h.unique h'
    cases Option.some.inj (hg'.symm.trans hg)
    cases Except.ok.inj (hgt'.symm.trans hgt)
    rw [hc] at hc'
    cases hc'
  | sourceUnread h' hs' hst' =>
    obtain ⟨rfl, rfl, rfl⟩ := h.unique h'
    cases Option.some.inj (hs'.symm.trans hs)
    rw [hst] at hst'
    cases hst'

/-- Every problem of failures that are found in a text has a phrase. -/
theorem failures_classified {limit : Int} (h : g.failures limit text = .ok failures) :
    ∀ f ∈ failures, ∃ c, Extraction.standard.classify f.problem = .ok c := by
  obtain ⟨errors, _, rfl⟩ := failures_eq_ok_iff_errors.mp h
  intro f hf
  obtain ⟨e, _, hf⟩ := List.mem_flatMap.mp hf
  exact failures_phrased hf

theorem report_ne_nil {format : Format} {write : Nat → Text → List Failure → Except Fault Text}
    {extra : Nat} {report : Text} (hf : format.report? = some write) (hr : Reportable failures)
    (h : write extra text failures = .ok report) : report ≠ [] := by
  have hfilled : ∃ other, write extra text failures = .ok other ∧ other ≠ [] := by
    cases format with
    | console => cases hf
    | plain =>
      cases Option.some.inj hf
      exact hr.plain extra text
    | html =>
      cases Option.some.inj hf
      exact hr.html extra text
    | markdown =>
      cases Option.some.inj hf
      exact hr.markdown extra text
  obtain ⟨other, ho, hne⟩ := hfilled
  cases Except.ok.inj (ho.symm.trans h)
  exact hne

theorem written_eq_report {write : Nat → Text → List Failure → Except Fault Text}
    (hf : settings.format.report? = some write) :
    written settings source text failures =
      (write settings.contextLines text failures).map fun report =>
        Terminal.printText (report ++ settings.format.closing) := by
  unfold written
  cases hformat : settings.format with
  | console => rw [hformat] at hf; cases hf
  | plain =>
    rw [hformat] at hf
    cases Option.some.inj hf
    simp [Format.closing]
  | html =>
    rw [hformat] at hf
    cases Option.some.inj hf
    rfl
  | markdown =>
    rw [hformat] at hf
    cases Option.some.inj hf
    simp [Format.closing]

/-- The report of failures that are found in a text can be written in every format. -/
theorem written_ok {limit : Int} (settings : Settings) (source : FilePath)
    (h : g.failures limit text = .ok failures) :
    ∃ output, written settings source text failures = .ok output := by
  have hrender : ∀ {Out : Type} (m : Markup Out) (extra : Nat),
      render m .standard extra text failures =
        .ok (filteredReport .standard failures m extra text) := fun m extra =>
    render_eq_ok_filteredReport (failures_classified h) extra text
  unfold written
  cases settings.format with
  | console => exact ⟨_, congrArg (Except.map _) (hrender (Styled.markup {}) _)⟩
  | plain => exact ⟨_, congrArg (Except.map _ ∘ Except.map _) (hrender Plain.markup _)⟩
  | html => exact ⟨_, congrArg (Except.map _ ∘ Except.map _) (hrender Html.markup _)⟩
  | markdown => exact ⟨_, congrArg (Except.map _ ∘ Except.map _) (hrender Markdown.markup _)⟩

theorem examine_examines {exit : Nat} {output : Text} (created : List FilePath)
    (h : examine settings source g text = .ok (exit, output)) :
    Examines settings g text { exit := exit, output := output, created := created } := by
  obtain ⟨failures, hf, hcases⟩ := examine_eq_ok h
  obtain ⟨hnone, hsome⟩ := ends_iff_failures hf
  rcases hcases with ⟨rfl, rfl, rfl⟩ | ⟨hne, rfl, hw⟩
  · refine ⟨Nat.zero_le 1, by simp [hnone], by simp [hsome], fun _ hformat => ?_, nofun⟩
    dsimp only
    unfold success
    split
    next hconsole => exact absurd hconsole hformat
    next => rfl
  · refine ⟨Nat.le_refl 1, by simp [hnone, hne], by simp [hsome, hne], nofun, ?_⟩
    intro _ write hformat
    rw [written_eq_report hformat] at hw
    obtain ⟨report, hr, ho⟩ := map_eq_ok hw
    have hreportable := reportable hne (failures_classified hf)
    exact ⟨failures, report, hf, hr, report_ne_nil hformat hreportable hr, ho.symm⟩

/-- Looking at a text does not break down over the report. -/
theorem examine_ne_report (settings : Settings) (source : FilePath) (g : Grammar) (text : Text)
    (fault : Fault) : examine settings source g text ≠ .error (.report fault) := by
  unfold examine
  split
  next => nofun
  next => nofun
  next failures _ hf =>
    obtain ⟨output, hw⟩ := written_ok settings source hf
    rw [hw]
    nofun

theorem runWith_ne_report (compile : GrammarCompiler) (w : Workspace) (settings : Settings)
    (start : Name) (grammar source : FilePath) (created : List FilePath) (fault : Fault) :
    runWith compile w settings start grammar source created ≠ .error (.report fault) := by
  unfold runWith
  split
  next => nofun
  next => nofun
  next g text _ =>
    intro h
    cases hx : examine settings source g text with
    | ok result => rw [hx] at h; cases h
    | error breakdown =>
      rw [hx] at h
      cases Except.error.inj h
      exact examine_ne_report settings source g text fault hx

theorem run_ne_report (compile : GrammarCompiler) (w : Workspace) (r : Request) (fault : Fault) :
    run compile w r ≠ .error (.report fault) := by
  unfold run
  split
  next =>
    split
    next => nofun
    next settings _ =>
      split
      next => nofun
      next => exact runWith_ne_report compile _ settings r.start _ _ _ fault
  next => nofun

theorem Returns.exit_two_iff (h : Returns compile w r outcome) :
    outcome.exit = 2 ↔ Blocked compile w r := by
  cases h with
  | unnamed hnone => exact ⟨fun _ => .unnamed hnone, fun _ => rfl⟩
  | unsettled _ _ hload => exact ⟨fun _ => .unsettled hload, fun _ => rfl⟩
  | obstructed hg hs hopens hp =>
    refine ⟨fun _ => ?_, fun _ => rfl⟩
    rcases prepare_eq_error hp with ⟨fault, hgt⟩ | ⟨grammarText, message, hgt, hc⟩ | ⟨fault, hst⟩
    · exact .grammarUnread hopens hg hgt
    · exact .grammarRefused hopens hg hgt hc
    · exact .sourceUnread hopens hs hst
  | examined hg hs hopens hp hx =>
    refine ⟨fun he => ?_, fun hb => absurd hb (hopens.not_blocked hg hs hp)⟩
    have hle := (examine_examines [] hx).exit_le_one
    exact absurd (he ▸ hle) (by decide)

theorem Opens.makesLog (h : Opens w r settings opened created) (hlogs : Logs w r settings) :
    MakesLog w r created := by
  obtain ⟨hbegun, hnew⟩ := createFile_eq_ok h.log_eq
  have honly : ∀ {settings'}, Logs w r settings' → settings' = settings := fun h' =>
    Except.ok.inj (h'.settings_eq.symm.trans hlogs.settings_eq)
  constructor
  · intro path
    rw [hnew]
    constructor
    · rintro ⟨rfl, hn⟩
      exact ⟨settings, hlogs, rfl, hn⟩
    · rintro ⟨settings', h', rfl, hn⟩
      cases honly h'
      exact ⟨rfl, hn⟩
  · intro settings' h'
    cases honly h'
    exact ⟨opened, h, hbegun⟩

theorem makesLog_nil (h : ∀ settings, ¬Logs w r settings) : MakesLog w r [] where
  mem_iff _ := ⟨nofun, fun ⟨settings, hlogs, _⟩ => absurd hlogs (h settings)⟩
  begun settings hlogs := absurd hlogs (h settings)

theorem Returns.makesLog (h : Returns compile w r outcome) : MakesLog w r outcome.created := by
  cases h with
  | unnamed hnone =>
    apply makesLog_nil
    rintro settings ⟨hg, hs, _⟩
    rcases hnone with hnone | hnone
    · simp [hnone] at hg
    · simp [hnone] at hs
  | unsettled hg hs hload =>
    apply makesLog_nil
    rintro settings ⟨_, _, hok⟩
    rw [hload] at hok
    cases hok
  | obstructed hg hs hopens =>
    exact hopens.makesLog ⟨by simp [hg], by simp [hs], hopens.settings_eq⟩
  | examined hg hs hopens =>
    exact hopens.makesLog ⟨by simp [hg], by simp [hs], hopens.settings_eq⟩

end

/-- A run comes back with code two exactly if something keeps it from parsing. Otherwise it comes
back with code zero or one, and the code tells how parsing the text without recovery ends; with code
one a report in text is printed as it is, and with code zero nothing is. The log file is made
exactly if both files are named and the settings load. No run breaks down over its report. -/
theorem run_exit_codes (compile : GrammarCompiler) (w : Workspace) (r : Request) :
    (∀ outcome, run compile w r = .ok outcome →
      (outcome.exit = 2 ↔ Blocked compile w r) ∧
      (¬Blocked compile w r → ∃ settings g source text,
        Reads compile w r settings g source text ∧
        Examines settings g text.unifyBreaks outcome) ∧
      MakesLog w r outcome.created) ∧
    ∀ fault, run compile w r ≠ .error (.report fault) := by
  refine ⟨fun outcome hrun => ?_, run_ne_report compile w r⟩
  have hreturns := run_returns hrun
  refine ⟨hreturns.exit_two_iff, fun hfree => ?_, hreturns.makesLog⟩
  cases hreturns with
  | unnamed hnone => exact absurd (.unnamed hnone) hfree
  | unsettled _ _ hload => exact absurd (.unsettled hload) hfree
  | obstructed hg hs hopens hp =>
    exact absurd ((Returns.obstructed hg hs hopens hp).exit_two_iff.mp rfl) hfree
  | examined hg hs hopens hp hx =>
    obtain ⟨raw, hreads, rfl⟩ := hopens.reads hg hs hp
    exact ⟨_, _, _, raw, hreads, examine_examines _ hx⟩

/-- The text with two bad places ends a run with code one and with a report that is printed, and the
log file is new. -/
theorem run_exit_codes_pairs :
    ∃ outcome report, run pairCompiler pairWorkspace pairRequest = .ok outcome ∧
      ¬Blocked pairCompiler pairWorkspace pairRequest ∧ outcome.exit = 1 ∧ report ≠ [] ∧
      outcome.output = Terminal.printText report ∧ pairSettings.logPath ∈ outcome.created := by
  obtain ⟨outcome, hrun, hexit⟩ :
      ∃ outcome, run pairCompiler pairWorkspace pairRequest = .ok outcome ∧
        outcome.exit = 1 := ⟨_, rfl, rfl⟩
  obtain ⟨htwo, hfree, hlog⟩ :=
    (run_exit_codes pairCompiler pairWorkspace pairRequest).1 outcome hrun
  have hnot : ¬Blocked pairCompiler pairWorkspace pairRequest := by
    intro hb
    rw [htwo.mpr hb] at hexit
    cases hexit
  obtain ⟨settings, g, source, text, hreads, hexamines⟩ := hfree hnot
  have hsettings : settings = pairSettings := Except.ok.inj (hreads.settings_eq.symm.trans rfl)
  subst hsettings
  obtain ⟨failures, report, _, _, hne, hout⟩ := hexamines.reported hexit _ rfl
  exact ⟨outcome, _, hrun, hnot, hexit, by simp [hne], hout,
    (hlog.mem_iff _).mpr ⟨pairSettings, ⟨rfl, rfl, rfl⟩, rfl, rfl⟩⟩

end Session

end ParseReport
