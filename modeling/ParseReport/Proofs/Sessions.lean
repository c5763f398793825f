import ParseReport.Session

/-!
The ways in which a run comes back, and what it has read by then. A run that ends with dead ends has
come past everything that can keep it from parsing: its settings, its grammar and its source are
known, and it wrote the report of the failures.
-/

namespace ParseReport.Session

/-- What a run reads before it parses: its settings, a grammar, and the text written in its source.
The log is begun before the grammar and the source are read. -/
structure Reads (compile : GrammarCompiler) (w : Workspace) (r : Request) (settings : Settings)
    (g : Grammar) (source : FilePath) (text : Text) : Prop where
  settings_eq : Settings.load r.given w.home w.workingSettings = .ok settings
  files : ∃ grammarName sourceName opened created grammarText bytes,
    r.grammar = some grammarName ∧ r.source = some sourceName ∧ source = .ofText sourceName ∧
    Log.create w r settings = .ok (opened, created) ∧
    opened.readText (.ofText grammarName) = .ok grammarText ∧
    compile grammarText settings.parser r.start = .ok g ∧
    opened.look source = .ok (.bytes bytes) ∧ Utf8.decode bytes = .ok text

/-- The settings that a run has loaded, and the workspace and the new files once its log is
begun. -/
structure Opens (w : Workspace) (r : Request) (settings : Settings) (opened : Workspace)
    (created : List FilePath) : Prop where
  settings_eq : Settings.load r.given w.home w.workingSettings = .ok settings
  log_eq : Log.create w r settings = .ok (opened, created)

/-- The ways in which a run comes back: not both files are named, the settings do not load,
something keeps it from parsing, or it has looked at the text. -/
inductive Returns (compile : GrammarCompiler) (w : Workspace) (r : Request) : Outcome → Prop
  | unnamed : r.grammar = none ∨ r.source = none → Returns compile w r
      { exit := 2, output := errorLine "a grammar file and a source file are required".toList }
  | unsettled {grammarName sourceName e} : r.grammar = some grammarName →
      r.source = some sourceName → Settings.load r.given w.home w.workingSettings = .error e →
      Returns compile w r { exit := 2, output := errorLine e.message }
  | obstructed {grammarName sourceName settings opened created obstruction} :
      r.grammar = some grammarName → r.source = some sourceName →
      Opens w r settings opened created →
      prepare compile opened settings r.start (.ofText grammarName) (.ofText sourceName) =
        .error obstruction →
      Returns compile w r
        { exit := 2, output := errorLine obstruction.message, created := created }
  | examined {grammarName sourceName settings opened created g text exit output} :
      r.grammar = some grammarName → r.source = some sourceName →
      Opens w r settings opened created →
      prepare compile opened settings r.start (.ofText grammarName) (.ofText sourceName) =
        .ok (g, text) →
      examine settings (.ofText sourceName) g text = .ok (exit, output) →
      Returns compile w r { exit := exit, output := output, created := created }

section

variable {compile : GrammarCompiler} {w opened : Workspace} {r : Request} {settings : Settings}
  {start : Name} {grammar source path : FilePath} {created : List FilePath} {g : Grammar}
  {grammarName sourceName text : Text} {outcome : Outcome}

theorem bind_eq_ok {ε α β : Type} {x : Except ε α} {f : α → Except ε β} {b : β}
    (h : x >>= f = .ok b) : ∃ a, x = .ok a ∧ f a = .ok b := by
  cases x with
  | error fault => cases h
  | ok a => exact ⟨a, rfl, h⟩

theorem mapError_eq_ok {ε ε' α : Type} {x : Except ε α} {f : ε → ε'} {a : α}
    (h : x.mapError f = .ok a) : x = .ok a := by
  cases x with
  | error fault => cases h
  | ok a' => exact congrArg Except.ok (Except.ok.inj h)

theorem map_eq_ok {ε α β : Type} {x : Except ε α} {f : α → β} {b : β} (h : x.map f = .ok b) :
    ∃ a, x = .ok a ∧ f a = b := by
  cases x with
  | error fault => cases h
  | ok a => exact ⟨a, rfl, Except.ok.inj h⟩

theorem bind_eq_error {ε α β : Type} {x : Except ε α} {f : α → Except ε β} {e : ε}
    (h : x >>= f = .error e) : x = .error e ∨ ∃ a, x = .ok a ∧ f a = .error e := by
  cases x with
  | error fault => exact .inl (congrArg Except.error (Except.error.inj h))
  | ok a => exact .inr ⟨a, rfl, h⟩

theorem mapError_eq_error {ε ε' α : Type} {x : Except ε α} {f : ε → ε'} {e : ε'}
    (h : x.mapError f = .error e) : ∃ fault, x = .error fault := by
  cases x with
  | error fault => exact ⟨fault, rfl⟩
  | ok a => cases h

theorem readText_eq_ok (h : w.readText path = .ok text) :
    ∃ bytes raw, w.look path = .ok (.bytes bytes) ∧ Utf8.decode bytes = .ok raw ∧
      text = raw.unifyBreaks := by
  unfold Workspace.readText at h
  split at h
  next => cases h
  next => cases h
  next bytes hl =>
    split at h
    next => cases h
    next raw hd =>
      cases Except.ok.inj h
      exact ⟨bytes, raw, hl, hd, rfl⟩

theorem prepare_eq_ok (h : prepare compile w settings start grammar source = .ok (g, text)) :
    ∃ grammarText, w.readText grammar = .ok grammarText ∧
      compile grammarText settings.parser start = .ok g ∧ w.readText source = .ok text := by
  obtain ⟨grammarText, hgt, h⟩ := bind_eq_ok h
  obtain ⟨g', hc, h⟩ := bind_eq_ok h
  obtain ⟨text', hst, h⟩ := bind_eq_ok h
  obtain ⟨rfl, rfl⟩ := Prod.mk.inj (Except.ok.inj h)
  exact ⟨grammarText, mapError_eq_ok hgt, mapError_eq_ok hc, mapError_eq_ok hst⟩

/-- What keeps a run from parsing is the grammar or the source. -/
theorem prepare_eq_error {obstruction : Obstruction}
    (h : prepare compile w settings start grammar source = .error obstruction) :
    (∃ fault, w.readText grammar = .error fault) ∨
    (∃ grammarText message, w.readText grammar = .ok grammarText ∧
      compile grammarText settings.parser start = .error message) ∨
    ∃ fault, w.readText source = .error fault := by
  rcases bind_eq_error h with hg | ⟨grammarText, hg, h⟩
  · exact .inl (mapError_eq_error hg)
  · have hg := mapError_eq_ok hg
    rcases bind_eq_error h with hc | ⟨g, _, h⟩
    · obtain ⟨message, hc⟩ := mapError_eq_error hc
      exact .inr (.inl ⟨grammarText, message, hg, hc⟩)
    · rcases bind_eq_error h with hs | ⟨text, _, h⟩
      · exact .inr (.inr (mapError_eq_error hs))
      · cases h

/-- A run reads one thing only. -/
theorem Reads.unique {settings' : Settings} {g' : Grammar} {source' : FilePath} {text' : Text}
    (h : Reads compile w r settings g source text)
    (h' : Reads compile w r settings' g' source' text') :
    settings' = settings ∧ g' = g ∧ source' = source ∧ text' = text := by
  obtain ⟨hs, grammarName, sourceName, opened, created, grammarText, bytes, hg, hn, rfl, hlog, hgt,
    hc, hl, hd⟩ := h
  obtain ⟨hs', grammarName', sourceName', opened', created', grammarText', bytes', hg', hn', rfl,
    hlog', hgt', hc', hl', hd'⟩ := h'
  cases Except.ok.inj (hs'.symm.trans hs)
  cases Option.some.inj (hg'.symm.trans hg)
  cases Option.some.inj (hn'.symm.trans hn)
  cases Except.ok.inj (hlog'.symm.trans hlog)
  cases Except.ok.inj (hgt'.symm.trans hgt)
  cases Except.ok.inj (hl'.symm.trans hl)
  exact ⟨rfl, Except.ok.inj (hc'.symm.trans hc), rfl, Except.ok.inj (hd'.symm.trans hd)⟩

/-- Looking at a text ends with code zero and without a report if there are no failures, and with
code one and their report if there are some. -/
theorem examine_eq_ok {exit : Nat} {output : Text}
    (h : examine settings source g text = .ok (exit, output)) :
    ∃ failures, g.failures settings.maxErrors text = .ok failures ∧
      (failures = [] ∧ exit = 0 ∧ output = success settings source ∨
        failures ≠ [] ∧ exit = 1 ∧ written settings source text failures = .ok output) := by
  unfold examine at h
  split at h
  next => cases h
  next hf =>
    obtain ⟨rfl, rfl⟩ := Prod.mk.inj (Except.ok.inj h)
    exact ⟨_, hf, .inl ⟨rfl, rfl, rfl⟩⟩
  next failures hne hf =>
    obtain ⟨output', hw, he⟩ := map_eq_ok (mapError_eq_ok h)
    obtain ⟨rfl, rfl⟩ := Prod.mk.inj he
    exact ⟨failures, hf, .inr ⟨hne, rfl, hw⟩⟩

/-- What is ready to parse has been read. -/
theorem Opens.reads (h : Opens w r settings opened created) (hg : r.grammar = some grammarName)
    (hs : r.source = some sourceName)
    (hp : prepare compile opened settings r.start (.ofText grammarName) (.ofText sourceName) =
      .ok (g, text)) :
    ∃ raw, Reads compile w r settings g (.ofText sourceName) raw ∧ text = raw.unifyBreaks := by
  obtain ⟨grammarText, hgt, hc, hst⟩ := prepare_eq_ok hp
  obtain ⟨bytes, raw, hl, hd, rfl⟩ := readText_eq_ok hst
  exact ⟨raw, ⟨h.settings_eq, grammarName, sourceName, opened, created, grammarText, bytes, hg, hs,
    rfl, h.log_eq, hgt, hc, hl, hd⟩, rfl⟩

theorem run_returns (h : run compile w r = .ok outcome) : Returns compile w r outcome := by
  unfold run at h
  split at h
  next grammarName sourceName hg hs =>
    split at h
    next e hload =>
      cases Except.ok.inj h
      exact .unsettled hg hs hload
    next settings hload =>
      split at h
      next => cases h
      next opened created hlog =>
        unfold runWith at h
        split at h
        next => cases h
        next hp =>
          cases Except.ok.inj h
          exact .obstructed hg hs ⟨hload, hlog⟩ hp
        next g text hp =>
          obtain ⟨⟨exit, output⟩, hx, rfl⟩ := map_eq_ok h
          exact .examined hg hs ⟨hload, hlog⟩ hp hx
  next hnone =>
    cases Except.ok.inj h
    refine .unnamed ?_
    cases hg : r.grammar with
    | none => exact .inl rfl
    | some grammarName =>
      cases hs : r.source with
      | none => exact .inr rfl
      | some sourceName => exact absurd hs (hnone _ _ hg)

end

end ParseReport.Session
