import Mathlib
import ParseReport.Proofs.Sessions
import ParseReport.Proofs.SettingsFiles

/-!
The layers of settings. Each setting has the value of the first layer that has one, the values are
checked in a fixed order, and the first check that fails gives the fault.
-/

namespace ParseReport

/-- The value that decides a setting: that of the command line, then that of the file of the working
directory, then that of the file of the home directory, then the default. -/
def decided (given : Layer) (high low : Document.Entries) (s : Setting) : Value :=
  match given s, high.lookup s.name, low.lookup s.name with
  | some v, _, _ => v
  | none, some v, _ => v
  | none, none, some v => v
  | none, none, none => defaults s

/-- The value of a setting. -/
def Settings.value (settings : Settings) : Setting → Value
  | .contextLines => .int settings.contextLines
  | .format => .text settings.format.name
  | .parser => .text settings.parser.name
  | .maxErrors => .int settings.maxErrors
  | .logFile => .text settings.logFile

/-- Values that a run can use. -/
structure ValidValues (values : Setting → Value) : Prop where
  contextLines : ∃ n : Int, values .contextLines = .int n ∧ 0 ≤ n
  maxErrors : ∃ n : Int, values .maxErrors = .int n ∧ 1 ≤ n
  format : ∃ f : Format, values .format = .text f.name
  parser : ∃ a : Algorithm, values .parser = .text a.name
  logFile : ∃ t : Text, values .logFile = .text t ∧ t ≠ []

/-- The checks of the values by their number, each with the fault that tells of its violation. -/
inductive Violates (values : Setting → Value) : Nat → SettingsFault → Prop
  | contextLines (h : ∀ n, values .contextLines ≠ .int n) :
    Violates values 0 (.notInteger .contextLines (values .contextLines))
  | maxErrors (h : ∀ n, values .maxErrors ≠ .int n) :
    Violates values 1 (.notInteger .maxErrors (values .maxErrors))
  | format (h : ∀ f : Format, values .format ≠ .text f.name) :
    Violates values 2 (.unsupportedFormat (values .format))
  | parser (h : ∀ a : Algorithm, values .parser ≠ .text a.name) :
    Violates values 3 (.unsupportedParser (values .parser))
  | negative {n : Int} (h : values .contextLines = .int n) (hn : n < 0) :
    Violates values 4 (.negativeContextLines n)
  | tooFew {n : Int} (h : values .maxErrors = .int n) (hn : n < 1) :
    Violates values 5 (.tooFewErrors n)
  | logFile (h : ∀ t, values .logFile = .text t → t = []) :
    Violates values 6 (.badLogFile (values .logFile))

/-- No check below a number is violated. -/
def Passes (values : Setting → Value) (k : Nat) : Prop :=
  ∀ j < k, ∀ f, ¬Violates values j f

/-- The fault of the first check that is violated. -/
def FirstViolation (values : Setting → Value) (f : SettingsFault) : Prop :=
  ∃ k, Violates values k f ∧ Passes values k

/-- The setting that a fault is about. -/
def SettingsFault.setting : SettingsFault → Setting
  | .notInteger setting _ => setting
  | .unsupportedFormat _ => .format
  | .unsupportedParser _ => .parser
  | .negativeContextLines _ => .contextLines
  | .tooFewErrors _ => .maxErrors
  | .badLogFile _ => .logFile

/-- Entries of two files that differ at most in what a higher layer shadows and in what is no
setting. -/
def SameUnshadowed (given : Layer) (high low high' low' : Document.Entries) : Prop :=
  ∀ s : Setting, given s = none → high'.lookup s.name = high.lookup s.name ∧
    (high.lookup s.name = none → low'.lookup s.name = low.lookup s.name)

section

variable {values : Setting → Value} {settings : Settings} {s : Setting} {v : Value}
  {f f' : SettingsFault} {n m : Int} {k : Nat} {given : Layer}
  {high low high' low' : Document.Entries}

/-! ### One check -/

theorem requireInteger_eq_ok_iff : requireInteger s v = .ok n ↔ v = .int n := by
  cases v <;> simp [requireInteger]

theorem requireInteger_eq_error_iff :
    requireInteger s v = .error f ↔ (∀ n, v ≠ .int n) ∧ f = .notInteger s v := by
  cases v <;> simp [requireInteger, eq_comm]

theorem text_eq_of_find? {α : Type} {all : List α} {name : α → Name} {t : Text} {a : α}
    (h : (all.find? fun b => name b = t) = some a) : Value.text t = .text (name a) := by
  have hname := List.find?_some h
  exact congrArg Value.text (of_decide_eq_true hname).symm

theorem Format.ofValue?_eq_some_iff {g : Format} : Format.ofValue? v = some g ↔ v = .text g.name := by
  constructor
  · intro h
    cases v with
    | text t => exact text_eq_of_find? h
    | _ => cases h
  · rintro rfl
    cases g <;> rfl

theorem Algorithm.ofValue?_eq_some_iff {a : Algorithm} :
    Algorithm.ofValue? v = some a ↔ v = .text a.name := by
  constructor
  · intro h
    cases v with
    | text t => exact text_eq_of_find? h
    | _ => cases h
  · rintro rfl
    cases a <;> rfl

theorem requireLogFile_eq_ok_iff {t : { t : Text // t ≠ [] }} :
    requireLogFile v = .ok t ↔ v = .text t.val := by
  obtain ⟨t, ht⟩ := t
  constructor
  · intro h
    cases v with
    | text u =>
      cases u with
      | nil => cases h
      | cons c u => exact congrArg (Value.text ∘ Subtype.val) (Except.ok.inj h)
    | _ => cases h
  · rintro rfl
    cases t with
    | nil => exact absurd rfl ht
    | cons c t => rfl

theorem requireLogFile_eq_error (h : requireLogFile v = .error f) :
    (∀ t, v = .text t → t = []) ∧ f = .badLogFile v := by
  cases v with
  | text u =>
    cases u with
    | nil => exact ⟨fun t ht => (Value.text.inj ht).symm, (Except.error.inj h).symm⟩
    | cons c u => cases h
  | _ => exact ⟨fun t ht => (by cases ht), (Except.error.inj h).symm⟩

theorem elim_eq_ok_iff {ε α : Type} {o : Option α} {e : ε} {a : α} :
    o.elim (.error e) Except.ok = .ok a ↔ o = some a := by
  cases o <;> simp

theorem elim_eq_error_iff {ε α : Type} {o : Option α} {e e' : ε} :
    o.elim (.error e) Except.ok = .error e' ↔ o = none ∧ e' = e := by
  cases o <;> simp [eq_comm]

/-! ### All checks -/

/-- Values are those of settings exactly if they make them. -/
theorem ofValues_eq_ok_iff :
    Settings.ofValues values = .ok settings ↔ ∀ s, settings.value s = values s := by
  constructor
  · intro h
    obtain ⟨n, hn, h⟩ := Session.bind_eq_ok h
    obtain ⟨m, hm, h⟩ := Session.bind_eq_ok h
    obtain ⟨g, hg, h⟩ := Session.bind_eq_ok h
    obtain ⟨a, ha, h⟩ := Session.bind_eq_ok h
    split at h
    next => cases h
    next hcontext =>
      split at h
      next => cases h
      next hmax =>
        obtain ⟨t, ht, h⟩ := Session.bind_eq_ok h
        cases Except.ok.inj h
        have hn := requireInteger_eq_ok_iff.mp hn
        have hm := requireInteger_eq_ok_iff.mp hm
        intro s
        cases s with
        | contextLines =>
          change Value.int n.toNat = _
          rw [hn, Int.toNat_of_nonneg (by omega)]
        | format => exact (Format.ofValue?_eq_some_iff.mp (elim_eq_ok_iff.mp hg)).symm
        | parser => exact (Algorithm.ofValue?_eq_some_iff.mp (elim_eq_ok_iff.mp ha)).symm
        | maxErrors =>
          change Value.int m.toNat = _
          rw [hm, Int.toNat_of_nonneg (by omega)]
        | logFile => exact (requireLogFile_eq_ok_iff.mp ht).symm
  · intro h
    obtain rfl : settings.value = values := funext h
    have hg : Format.ofValue? (.text settings.format.name) = some settings.format :=
      Format.ofValue?_eq_some_iff.mpr rfl
    have ha : Algorithm.ofValue? (.text settings.parser.name) = some settings.parser :=
      Algorithm.ofValue?_eq_some_iff.mpr rfl
    have ht : requireLogFile (.text settings.logFile) =
      .ok ⟨settings.logFile, settings.logFile_ne_nil⟩ := requireLogFile_eq_ok_iff.mpr rfl
    have hpos := settings.maxErrors_pos
    simp only [Settings.ofValues, Settings.value, requireInteger, hg, ha, ht, Option.elim_some, bind,
      Except.bind]
    rw [if_neg (by omega), dif_neg (by omega)]
    rfl

/-! Checks are passed one after the other. -/

theorem Passes.succ (h : Passes values k) (hk : ∀ f, ¬Violates values k f) : Passes values (k + 1) := by
  intro j hj
  rcases Nat.lt_succ_iff_lt_or_eq.mp hj with hj | rfl
  · exact h j hj
  · exact hk

theorem passes_zero : Passes values 0 :=
  fun j hj => absurd hj (Nat.not_lt_zero j)

theorem Passes.contextLines (h : Passes values 0) (hn : values .contextLines = .int n) :
    Passes values 1 :=
  h.succ fun _ hf => by
    cases hf with
    | contextLines hnot => exact hnot n hn

theorem Passes.maxErrors (h : Passes values 1) (hm : values .maxErrors = .int m) : Passes values 2 :=
  h.succ fun _ hf => by
    cases hf with
    | maxErrors hnot => exact hnot m hm

theorem Passes.format {g : Format} (h : Passes values 2) (hg : values .format = .text g.name) :
    Passes values 3 :=
  h.succ fun _ hf => by
    cases hf with
    | format hnot => exact hnot g hg

theorem Passes.parser {a : Algorithm} (h : Passes values 3) (ha : values .parser = .text a.name) :
    Passes values 4 :=
  h.succ fun _ hf => by
    cases hf with
    | parser hnot => exact hnot a ha

theorem Passes.negative (h : Passes values 4) (hn : values .contextLines = .int n) (hle : ¬n < 0) :
    Passes values 5 :=
  h.succ fun _ hf => by
    cases hf with
    | negative heq hlt =>
      cases heq.symm.trans hn
      exact hle hlt

theorem Passes.tooFew (h : Passes values 5) (hm : values .maxErrors = .int m) (hle : ¬m < 1) :
    Passes values 6 :=
  h.succ fun _ hf => by
    cases hf with
    | tooFew heq hlt =>
      cases heq.symm.trans hm
      exact hle hlt

theorem Violates.unique (h : Violates values k f) (h' : Violates values k f') : f = f' := by
  cases h <;> cases h' <;> simp_all

theorem FirstViolation.unique (h : FirstViolation values f) (h' : FirstViolation values f') :
    f = f' := by
  obtain ⟨k, hk, hbelow⟩ := h
  obtain ⟨k', hk', hbelow'⟩ := h'
  rcases Nat.lt_trichotomy k k' with hlt | rfl | hlt
  · exact absurd hk (hbelow' k hlt f)
  · exact hk.unique hk'
  · exact absurd hk' (hbelow k' hlt f')

/-- A fault is that of the first check that is violated. -/
theorem firstViolation_of_ofValues (h : Settings.ofValues values = .error f) :
    FirstViolation values f := by
  rcases Session.bind_eq_error h with h | ⟨n, hn, h⟩
  · obtain ⟨hn, rfl⟩ := requireInteger_eq_error_iff.mp h
    exact ⟨0, .contextLines hn, passes_zero⟩
  have hn := requireInteger_eq_ok_iff.mp hn
  have h₁ := passes_zero.contextLines hn
  rcases Session.bind_eq_error h with h | ⟨m, hm, h⟩
  · obtain ⟨hm, rfl⟩ := requireInteger_eq_error_iff.mp h
    exact ⟨1, .maxErrors hm, h₁⟩
  have hm := requireInteger_eq_ok_iff.mp hm
  have h₂ := h₁.maxErrors hm
  rcases Session.bind_eq_error h with h | ⟨g, hg, h⟩
  · obtain ⟨hnone, rfl⟩ := elim_eq_error_iff.mp h
    refine ⟨2, .format fun g hg => ?_, h₂⟩
    rw [Format.ofValue?_eq_some_iff.mpr hg] at hnone
    cases hnone
  have h₃ := h₂.format (Format.ofValue?_eq_some_iff.mp (elim_eq_ok_iff.mp hg))
  rcases Session.bind_eq_error h with h | ⟨a, ha, h⟩
  · obtain ⟨hnone, rfl⟩ := elim_eq_error_iff.mp h
    refine ⟨3, .parser fun a ha => ?_, h₃⟩
    rw [Algorithm.ofValue?_eq_some_iff.mpr ha] at hnone
    cases hnone
  have h₄ := h₃.parser (Algorithm.ofValue?_eq_some_iff.mp (elim_eq_ok_iff.mp ha))
  split at h
  next hneg =>
    cases h
    exact ⟨4, .negative hn hneg, h₄⟩
  next hneg =>
    split at h
    next hfew =>
      cases h
      exact ⟨5, .tooFew hm hfew, h₄.negative hn hneg⟩
    next hfew =>
      rcases Session.bind_eq_error h with h | ⟨t, -, h⟩
      · obtain ⟨hlog, rfl⟩ := requireLogFile_eq_error h
        exact ⟨6, .logFile hlog, (h₄.negative hn hneg).tooFew hm hfew⟩
      · cases h

theorem Settings.validValues (settings : Settings) : ValidValues settings.value where
  contextLines := ⟨settings.contextLines, rfl, Int.natCast_nonneg _⟩
  maxErrors := ⟨settings.maxErrors, rfl, Int.ofNat_le.mpr settings.maxErrors_pos⟩
  format := ⟨settings.format, rfl⟩
  parser := ⟨settings.parser, rfl⟩
  logFile := ⟨settings.logFile, rfl, settings.logFile_ne_nil⟩

theorem ValidValues.not_violates (h : ValidValues values) : ¬Violates values k f := by
  intro hf
  cases hf with
  | contextLines hn =>
    obtain ⟨n, heq, -⟩ := h.contextLines
    exact hn n heq
  | maxErrors hn =>
    obtain ⟨n, heq, -⟩ := h.maxErrors
    exact hn n heq
  | format hg =>
    obtain ⟨g, heq⟩ := h.format
    exact hg g heq
  | parser ha =>
    obtain ⟨a, heq⟩ := h.parser
    exact ha a heq
  | negative hn hneg =>
    obtain ⟨n, heq, hle⟩ := h.contextLines
    cases hn.symm.trans heq
    omega
  | tooFew hn hfew =>
    obtain ⟨n, heq, hle⟩ := h.maxErrors
    cases hn.symm.trans heq
    omega
  | logFile ht =>
    obtain ⟨t, heq, hne⟩ := h.logFile
    exact hne (ht t heq)

/-- Values make settings exactly if each of them is valid. -/
theorem exists_ofValues_eq_ok_iff :
    (∃ settings, Settings.ofValues values = .ok settings) ↔ ValidValues values := by
  constructor
  · rintro ⟨settings, h⟩
    obtain rfl : settings.value = values := funext (ofValues_eq_ok_iff.mp h)
    exact settings.validValues
  · intro h
    cases hvalues : Settings.ofValues values with
    | ok settings => exact ⟨settings, rfl⟩
    | error f =>
      obtain ⟨k, hk, -⟩ := firstViolation_of_ofValues hvalues
      exact absurd hk h.not_violates

/-- The fault of values is that of the first check that is violated. -/
theorem ofValues_eq_error_iff : Settings.ofValues values = .error f ↔ FirstViolation values f := by
  refine ⟨firstViolation_of_ofValues, fun h => ?_⟩
  cases hvalues : Settings.ofValues values with
  | error f' => rw [(firstViolation_of_ofValues hvalues).unique h]
  | ok settings =>
    obtain ⟨k, hk, -⟩ := h
    exact absurd hk (exists_ofValues_eq_ok_iff.mp ⟨settings, hvalues⟩).not_violates

theorem validValues_defaults : ValidValues defaults where
  contextLines := ⟨2, rfl, by decide⟩
  maxErrors := ⟨10, rfl, by decide⟩
  format := ⟨.console, rfl⟩
  parser := ⟨.lalr, rfl⟩
  logFile := ⟨"deadends.log".toList, rfl, by decide⟩

/-- A fault is about the value of its setting. -/
theorem Violates.value_eq (h : Violates values k f) : f.value = values f.setting := by
  cases h with
  | negative h => exact h.symm
  | tooFew h => exact h.symm
  | _ => rfl

/-- A fault names its setting. -/
theorem name_infix_words (f : SettingsFault) : f.setting.name <:+: f.words := by
  have happend {head name : Text} (h : name <:+: head) (t : Text) : name <:+: head ++ t :=
    h.trans (List.prefix_append head t).isInfix
  have hliteral (before name after : String) :
      name.toList <:+: (before ++ name ++ after).toList :=
    ⟨before.toList, after.toList, by rw [String.toList_append, String.toList_append]⟩
  cases f with
  | notInteger setting v => exact happend (happend (List.infix_refl _) _) _
  | unsupportedFormat v =>
    exact happend (happend (happend (hliteral "Unsupported " "format" " '") _) _) _
  | unsupportedParser v =>
    exact happend (happend (happend (hliteral "Unsupported " "parser" " '") _) _) _
  | negativeContextLines n =>
    exact happend (hliteral "" "context_lines" " must be non-negative, got ") _
  | tooFewErrors n =>
    exact happend (hliteral "" "max_errors" " must be positive, got ") _
  | badLogFile v =>
    exact happend (hliteral "" "log_file" " must be a non-empty string, got ") _

/-! ### Layers -/

theorem ofLayers_eq_ofValues :
    Settings.ofLayers [given, .ofEntries high, .ofEntries low] =
      Settings.ofValues (decided given high low) := by
  have hvalues (s : Setting) :
      (Layer.override given (.override (.ofEntries high) (.override (.ofEntries low) .empty)) s).getD
        (defaults s) = decided given high low s := by
    simp only [Layer.override, Layer.ofEntries, Layer.empty, decided]
    cases given s <;> cases high.lookup s.name <;> cases low.lookup s.name <;> rfl
  exact congrArg Settings.ofValues (funext hvalues)

/-- What a higher layer shadows decides nothing. -/
theorem SameUnshadowed.decided_eq (h : SameUnshadowed given high low high' low') :
    decided given high' low' = decided given high low := by
  funext s
  unfold decided
  cases hgiven : given s with
  | some v => rfl
  | none =>
    obtain ⟨hhigh, hlow⟩ := h s hgiven
    rw [hhigh]
    cases hlookup : high.lookup s.name with
    | some v => rfl
    | none => rw [hlow hlookup]

/-- Settings are those that the layers decide, if the values are valid, and else there is the fault
of the first check that one of them violates. What is shadowed or is no setting makes no
difference, and neither does a file that counts as absent. -/
theorem load_decided_by_layers {home working : Option Content} (hlow : CountsAs home low)
    (hhigh : CountsAs working high) :
    (∀ settings, Settings.load given home working = .ok settings ↔
        ∀ s, settings.value s = decided given high low s) ∧
      ((∃ settings, Settings.load given home working = .ok settings) ↔
        ValidValues (decided given high low)) ∧
      (∀ e, Settings.load given home working = .error e ↔
        ∃ f, e = .fault f ∧ FirstViolation (decided given high low) f) ∧
      ∀ home' working' high' low', CountsAs home' low' → CountsAs working' high' →
        SameUnshadowed given high low high' low' →
        Settings.load given home' working' = Settings.load given home working := by
  have hload : Settings.load given home working =
      (Settings.ofValues (decided given high low)).mapError .fault := by
    rw [load_eq_ofLayers hlow hhigh, ofLayers_eq_ofValues]
  have hok (settings : Settings) : Settings.load given home working = .ok settings ↔
      Settings.ofValues (decided given high low) = .ok settings := by
    rw [hload]
    cases Settings.ofValues (decided given high low) <;> simp [Except.mapError]
  refine ⟨fun settings => (hok settings).trans ofValues_eq_ok_iff, ?_, fun e => ?_, ?_⟩
  · simp only [hok, exists_ofValues_eq_ok_iff]
  · simp only [← ofValues_eq_error_iff]
    rw [hload]
    cases Settings.ofValues (decided given high low) <;> simp [Except.mapError, eq_comm]
  · intro home' working' high' low' hlow' hhigh' hsame
    rw [load_eq_ofLayers hlow' hhigh', ofLayers_eq_ofValues, hsame.decided_eq, hload]

/-- Neither a format that the command line shadows nor a count that the working directory's file
shadows is checked. -/
theorem load_decided_by_layers_shadowed :
    Settings.load (fun s => if s = .format then some (.text "plain".toList) else none)
        (some (.bytes (Utf8.encode "max_errors = 0\nparser = \"earley\"\n".toList)))
        (some (.bytes (Utf8.encode "format = \"pdf\"\nmax_errors = 4\n".toList))) =
      .ok { contextLines := 2, format := .plain, parser := .earley, maxErrors := 4,
            logFile := "deadends.log".toList } := by
  have hlow : Document.read "max_errors = 0\nparser = \"earley\"\n".toList =
      .ok [("max_errors".toList, .int 0), ("parser".toList, .text "earley".toList)] := by cbv
  have hhigh : Document.read "format = \"pdf\"\nmax_errors = 4\n".toList =
      .ok [("format".toList, .text "pdf".toList), ("max_errors".toList, .int 4)] := by cbv
  refine ((load_decided_by_layers (.document hlow) (.document hhigh)).1 _).mpr fun s => ?_
  cases s <;> rfl

/-- A file that is no text keeps the settings from being loaded even if the command line shadows
all it could say. -/
theorem shadowed_file_bars :
    Settings.load (fun s => some (defaults s)) none (some (.bytes [0xFF])) =
        .error (.undecodable ⟨.invalidStart, 0, 0xFF, 1⟩) ∧
      ∃ settings, Settings.load (fun s => some (defaults s)) none none = .ok settings :=
  ⟨rfl, _, rfl⟩

end

end ParseReport
