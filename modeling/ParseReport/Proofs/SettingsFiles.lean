import ParseReport.Proofs.Encoding
import ParseReport.Settings

/-!
What a settings file counts for. A text in UTF-8 that is no document counts as an absent file, but
bytes that are no text keep the settings from being loaded, and so does a number with too many
digits.
-/

namespace ParseReport

/-- The entries that a settings file counts for: none without a file, for a directory and for a text
that is no document. -/
inductive CountsAs : Option Content → Document.Entries → Prop
  | absent : CountsAs none []
  | directory : CountsAs (some .directory) []
  | broken {t : Text} (h : Document.read t = .error .invalid) :
    CountsAs (some (.bytes (Utf8.encode t))) []
  | document {t : Text} {entries : Document.Entries} (h : Document.read t = .ok entries) :
    CountsAs (some (.bytes (Utf8.encode t))) entries

/-- The error with which a settings file ends the loading: no text, or a number that is too long. -/
inductive Bars : Option Content → LoadError → Prop
  | undecodable {bytes : List UInt8} {d : Utf8.DecodeError} (h : Utf8.decode bytes = .error d) :
    Bars (some (.bytes bytes)) (.undecodable d)
  | tooManyDigits {t : Text} {count : Nat} (h : Document.read t = .error (.tooManyDigits count)) :
    Bars (some (.bytes (Utf8.encode t))) (.tooManyDigits count)

/-- Bytes that are a document. -/
def IsDocument (bytes : List UInt8) : Prop :=
  ∃ t entries, bytes = Utf8.encode t ∧ Document.read t = .ok entries

/-- Bytes that make no difference to an absent file, in either place. -/
def Skipped (bytes : List UInt8) : Prop :=
  ∀ given other, Settings.load given (some (.bytes bytes)) other = Settings.load given none other ∧
    Settings.load given other (some (.bytes bytes)) = Settings.load given other none

/-- Bytes with which no settings load: in the home directory whatever else there is, in the working
directory unless the other file, which is read first, has an error of its own. -/
def Obstructs (bytes : List UInt8) (e : LoadError) : Prop :=
  ∀ given other, Settings.load given (some (.bytes bytes)) other = .error e ∧
    ∀ entries, CountsAs other entries → Settings.load given other (some (.bytes bytes)) = .error e

section

variable {file home working : Option Content} {bytes : List UInt8} {t : Text}
  {entries low high : Document.Entries} {given : Layer} {e : LoadError}

theorem CountsAs.ofFile (h : CountsAs file entries) :
    Layer.ofFile file = .ok (.ofEntries entries) := by
  cases h with
  | absent => rfl
  | directory => rfl
  | broken h =>
    simp only [Layer.ofFile, Utf8.decode_eq_ok_iff.mpr rfl, h]
    rfl
  | document h => simp only [Layer.ofFile, Utf8.decode_eq_ok_iff.mpr rfl, h]

theorem Bars.ofFile (h : Bars file e) : Layer.ofFile file = .error e := by
  cases h with
  | undecodable h => simp only [Layer.ofFile, h]
  | tooManyDigits h => simp only [Layer.ofFile, Utf8.decode_eq_ok_iff.mpr rfl, h]

/-- A settings file counts for entries or ends the loading. -/
theorem countsAs_or_bars (file : Option Content) :
    (∃ entries, CountsAs file entries) ∨ ∃ e, Bars file e := by
  match file with
  | none => exact .inl ⟨[], .absent⟩
  | some .directory => exact .inl ⟨[], .directory⟩
  | some (.bytes bytes) =>
    cases hdecode : Utf8.decode bytes with
    | error d => exact .inr ⟨_, .undecodable hdecode⟩
    | ok t =>
      obtain rfl := Utf8.decode_eq_ok_iff.mp hdecode
      cases hread : Document.read t with
      | ok entries => exact .inl ⟨entries, .document hread⟩
      | error fault =>
        cases fault with
        | invalid => exact .inl ⟨[], .broken hread⟩
        | tooManyDigits count => exact .inr ⟨_, .tooManyDigits hread⟩

/-- Settings load from the entries that the files count for. -/
theorem load_eq_ofLayers (hlow : CountsAs home low) (hhigh : CountsAs working high) :
    Settings.load given home working =
      (Settings.ofLayers [given, .ofEntries high, .ofEntries low]).mapError .fault := by
  rw [Settings.load, hlow.ofFile, hhigh.ofFile]
  rfl

theorem load_of_bars_home (h : Bars home e) : Settings.load given home working = .error e := by
  rw [Settings.load, h.ofFile]
  rfl

theorem load_of_bars_working (hlow : CountsAs home low) (h : Bars working e) :
    Settings.load given home working = .error e := by
  rw [Settings.load, hlow.ofFile, h.ofFile]
  rfl

/-- A file with the entries of another one loads as that one. -/
theorem load_congr_home {home' : Option Content} (h : CountsAs home low) (h' : CountsAs home' low) :
    Settings.load given home working = Settings.load given home' working := by
  rw [Settings.load, h.ofFile, Settings.load, h'.ofFile]

theorem load_congr_working {working' : Option Content} (h : CountsAs working high)
    (h' : CountsAs working' high) :
    Settings.load given home working = Settings.load given home working' := by
  rw [Settings.load, h.ofFile, Settings.load, h'.ofFile]

theorem Bars.obstructs (h : Bars (some (.bytes bytes)) e) : Obstructs bytes e :=
  fun _ _ => ⟨load_of_bars_home h, fun _ hlow => load_of_bars_working hlow h⟩

theorem Obstructs.not_skipped (h : Obstructs bytes e) : ¬Skipped bytes := by
  intro hskipped
  have herror := (h .empty none).1
  rw [(hskipped .empty none).1] at herror
  cases herror

theorem not_isDocument_of_bars (h : Bars (some (.bytes bytes)) e) : ¬IsDocument bytes := by
  rintro ⟨t, entries, rfl, hread⟩
  have hok := (CountsAs.document hread).ofFile
  rw [h.ofFile] at hok
  cases hok

theorem not_isDocument_encode (h : Document.read t = .error .invalid) :
    ¬IsDocument (Utf8.encode t) := by
  rintro ⟨t', entries, heq, hread⟩
  have hdecode := Utf8.decode_eq_ok_iff.mpr heq
  rw [Utf8.decode_eq_ok_iff.mpr rfl] at hdecode
  cases hdecode
  rw [h] at hread
  cases hread

/-- A text that is no document is skipped. -/
theorem skipped_encode (h : Document.read t = .error .invalid) : Skipped (Utf8.encode t) :=
  fun _ _ => ⟨load_congr_home (.broken h) .absent, load_congr_working (.broken h) .absent⟩

/-- A file that is no document is skipped exactly if it is a text in UTF-8 whose flaw is in the
document. With any other no settings load; the error is that of the bytes if they are no text, and
else that of the number that is too long. -/
theorem broken_file_skipped_iff (hbroken : ¬IsDocument bytes) :
    (Skipped bytes ↔ ∃ t, bytes = Utf8.encode t ∧ Document.read t = .error .invalid) ∧
      (¬Skipped bytes ↔ ∃ e, Bars (some (.bytes bytes)) e ∧ Obstructs bytes e) ∧
      ((∀ t, bytes ≠ Utf8.encode t) →
        ∃ d, Utf8.decode bytes = .error d ∧ Obstructs bytes (.undecodable d)) := by
  have hskip : (∃ t, bytes = Utf8.encode t ∧ Document.read t = .error .invalid) → Skipped bytes := by
    rintro ⟨t, rfl, h⟩
    exact skipped_encode h
  have hcases : (∃ t, bytes = Utf8.encode t ∧ Document.read t = .error .invalid) ∨
      ∃ e, Bars (some (.bytes bytes)) e := by
    rcases countsAs_or_bars (some (.bytes bytes)) with ⟨entries, hcounts⟩ | hbars
    · cases hcounts with
      | @broken t h => exact .inl ⟨t, rfl, h⟩
      | document h => exact absurd ⟨_, entries, rfl, h⟩ hbroken
    · exact .inr hbars
  refine ⟨⟨fun h => ?_, hskip⟩, ⟨fun h => ?_, ?_⟩, fun h => ?_⟩
  · rcases hcases with ht | ⟨e, he⟩
    · exact ht
    · exact absurd h he.obstructs.not_skipped
  · rcases hcases with ht | ⟨e, he⟩
    · exact absurd (hskip ht) h
    · exact ⟨e, he, he.obstructs⟩
  · rintro ⟨e, -, he⟩
    exact he.not_skipped
  · cases hdecode : Utf8.decode bytes with
    | ok t => exact absurd (Utf8.decode_eq_ok_iff.mp hdecode) (h t)
    | error d => exact ⟨d, rfl, (Bars.undecodable hdecode).obstructs⟩

/-- A key without a value is skipped; an accented letter of one byte, even in a comment, is not. -/
theorem broken_file_skipped_value_missing :
    Skipped (Utf8.encode "format =".toList) ∧
      ∃ d, Utf8.decode [0x23, 0x20, 0x63, 0x61, 0x66, 0xE9, 0x0A] = .error d ∧
        Obstructs [0x23, 0x20, 0x63, 0x61, 0x66, 0xE9, 0x0A] (.undecodable d) := by
  have hread : Document.read "format =".toList = .error .invalid := rfl
  have hdecode : Utf8.decode [0x23, 0x20, 0x63, 0x61, 0x66, 0xE9, 0x0A] =
      .error ⟨.invalidContinuation, 5, 0xE9, 1⟩ := rfl
  refine ⟨(broken_file_skipped_iff (not_isDocument_encode hread)).1.mpr ⟨_, rfl, hread⟩,
    (broken_file_skipped_iff (not_isDocument_of_bars (.undecodable hdecode))).2.2 fun t h => ?_⟩
  rw [Utf8.decode_eq_ok_iff.mpr h] at hdecode
  cases hdecode

/-- A comment with an accented letter of one byte keeps even the defaults from being loaded. -/
theorem accented_comment_bars :
    ¬IsDocument [0x23, 0x20, 0x63, 0x61, 0x66, 0xE9, 0x0A] ∧
      Settings.load .empty (some (.bytes [0x23, 0x20, 0x63, 0x61, 0x66, 0xE9, 0x0A])) none =
        .error (.undecodable ⟨.invalidContinuation, 5, 0xE9, 1⟩) ∧
      ∃ settings, Settings.load .empty none none = .ok settings := by
  have hdecode : Utf8.decode [0x23, 0x20, 0x63, 0x61, 0x66, 0xE9, 0x0A] =
      .error ⟨.invalidContinuation, 5, 0xE9, 1⟩ := rfl
  exact ⟨not_isDocument_of_bars (.undecodable hdecode), load_of_bars_home (.undecodable hdecode),
    _, rfl⟩

end

end ParseReport
