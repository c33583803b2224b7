import CoverageDiff.Proofs.ExitStatus
import CoverageDiff.Proofs.Faults
import CoverageDiff.Proofs.PatternSets

/-!
# CoverageDiff.Proofs.Configuration

What faults of the configuration file lead to.

1. A file can fail to be a text, a document, or one whose settings have the
   right form, and a pattern in it can fail to be one (`ConfigFault`).
2. Reading the settings fails exactly at the faults of form.  Those of the
   document, the table, the format and the patterns are reported as such
   (`Settings.ofBytes_reported_iff`); four others are not foreseen and escape
   (`Settings.ofBytes_escapes_iff`), whatever else is wrong with the file.
3. A text that is no pattern stops the run after the settings are read
   (`filterOf?_of_noPattern`), and is reported as a misuse of the command line.

So a run of a comparison has the code for faults of the configuration exactly
if the file has one of the first kind and none that escapes
(`exitCode_of_configuration`).
-/

namespace CoverageDiff

open Files CommandLine Cobertura

/-! ## Faults -/

/-- A fault of a configuration file. -/
inductive ConfigFault where
  /-- The file is not a text. -/
  | undecodable
  /-- The text is not a document. -/
  | malformed
  /-- The document has a number that is too long. -/
  | longNumber
  /-- The key `tool` is not a table. -/
  | tools
  /-- The key `covdiff` of it is not a table. -/
  | table
  /-- The format is not one of the choices. -/
  | format
  /-- The format is not one of the choices, and has a number that is too long to be shown. -/
  | longFormat
  /-- A key with patterns is neither a text nor a list of texts. -/
  | patterns (key : String)
  /-- A text under a key with patterns is not a pattern. -/
  | pattern (key text : String)

namespace ConfigFault

/-- A fault that is reported as one of the configuration. -/
inductive Reported : ConfigFault → Prop
  | malformed : Reported malformed
  | table : Reported table
  | format : Reported format
  | patterns (key : String) : Reported (patterns key)

/-- A fault that leaves the program without being reported. -/
inductive Escapes : ConfigFault → Prop
  | undecodable : Escapes undecodable
  | longNumber : Escapes longNumber
  | longFormat : Escapes longFormat
  | tools : Escapes tools

end ConfigFault

/-- The file holds a document. -/
def HoldsDocument (bytes : List UInt8) (document : List (String × Toml.Value)) : Prop :=
  ∃ text, Text.decodeUtf8? bytes = some text ∧
    Toml.read? (Text.unifyLineEnds text) = .ok document

/-- The file holds a document with a table of settings. -/
def HoldsTable (bytes : List UInt8) (table : List (String × Toml.Value)) : Prop :=
  ∃ document tools, HoldsDocument bytes document ∧
    document.lookup "tool" = some (.table tools) ∧ tools.lookup "covdiff" = some (.table table)

/-- The value is one text, or a list of texts. -/
inductive IsTexts : Toml.Value → List String → Prop
  | one (s : String) : IsTexts (.text s) [s]
  | several (texts : List String) : IsTexts (.list (texts.map .text)) texts

/-- The keys with patterns. -/
def patternKeys : List String := ["include", "exclude"]

/-- A text that is not blank, and not a pattern without the blanks at its two ends. -/
def NoPattern (text : String) : Prop :=
  Text.trimmed text ≠ "" ∧ ∃ cause, Pattern.ofText? (Text.trimmed text) = .error cause

/-- A configuration file has a fault. -/
inductive HasFault (bytes : List UInt8) : ConfigFault → Prop
  | undecodable (h : Text.decodeUtf8? bytes = none) : HasFault bytes .undecodable
  | malformed {text : List Char} (ht : Text.decodeUtf8? bytes = some text)
      (h : Toml.read? (Text.unifyLineEnds text) = .error .malformed) : HasFault bytes .malformed
  | longNumber {text : List Char} {count : Nat} (ht : Text.decodeUtf8? bytes = some text)
      (h : Toml.read? (Text.unifyLineEnds text) = .error (.tooManyDigits count)) :
      HasFault bytes .longNumber
  | tools {document : List (String × Toml.Value)} {v : Toml.Value}
      (hd : HoldsDocument bytes document) (h : document.lookup "tool" = some v)
      (hv : ∀ tools, v ≠ .table tools) : HasFault bytes .tools
  | table {document tools : List (String × Toml.Value)} {v : Toml.Value}
      (hd : HoldsDocument bytes document) (ht : document.lookup "tool" = some (.table tools))
      (h : tools.lookup "covdiff" = some v) (hv : ∀ table, v ≠ .table table) :
      HasFault bytes .table
  | format {table : List (String × Toml.Value)} {v : Toml.Value} (ht : HoldsTable bytes table)
      (h : table.lookup "format" = some v) (hv : ∀ c : FormatChoice, v ≠ .text c.name)
      (hs : v.isShowable) : HasFault bytes .format
  | longFormat {table : List (String × Toml.Value)} {v : Toml.Value} (ht : HoldsTable bytes table)
      (h : table.lookup "format" = some v) (hs : ¬v.isShowable) : HasFault bytes .longFormat
  | patterns {table : List (String × Toml.Value)} {key : String} {v : Toml.Value}
      (ht : HoldsTable bytes table) (hk : key ∈ patternKeys) (h : table.lookup key = some v)
      (hv : ∀ texts, ¬IsTexts v texts) : HasFault bytes (.patterns key)
  | pattern {table : List (String × Toml.Value)} {key text : String} {v : Toml.Value}
      {texts : List String} (ht : HoldsTable bytes table) (hk : key ∈ patternKeys)
      (h : table.lookup key = some v) (hv : IsTexts v texts) (hmem : text ∈ texts)
      (hno : NoPattern text) : HasFault bytes (.pattern key text)

/-! ## Reading a table -/

namespace Settings

variable {source : Path} {bytes : List UInt8} {table document : List (String × Toml.Value)}
  {s : Settings} {e : SettingsError}

theorem textsOf?_eq_some_iff {v : Toml.Value} {texts : List String} :
    textsOf? v = some texts ↔ IsTexts v texts := by
  constructor
  · intro h
    cases v with
    | text s =>
        cases h
        exact .one s
    | list values =>
        have hvalues : values = texts.map .text := by
          have hread := Text.mapM_eq_some_iff.mp h
          clear h
          induction hread with
          | nil => rfl
          | @cons v t _ _ hv _ ih =>
              cases v <;> cases hv
              rw [ih, List.map_cons]
        rw [hvalues]
        exact .several texts
    | whole n => contradiction
    | real x => contradiction
    | truth b => contradiction
    | moment m => contradiction
    | table fields => contradiction
  · intro h
    cases h with
    | one s => rfl
    | several texts =>
        refine Text.mapM_eq_some_iff.mpr ?_
        rw [List.forall₂_map_left_iff]
        exact List.forall₂_same.mpr fun _ _ => rfl

theorem ofName?_eq_some_iff {name : String} {c : FormatChoice} :
    FormatChoice.ofName? name = some c ↔ name = c.name := by
  constructor
  · intro h
    rw [FormatChoice.ofName?] at h
    have hname := List.find?_some h
    exact (eq_of_beq hname).symm
  · rintro rfl
    cases c with
    | auto => decide
    | fixed f => cases f <;> decide

/-- A format that is not read is none of the choices; the error shows it if that is possible. -/
theorem format?_eq_error (h : format? source table = .error e) :
    ∃ v, table.lookup "format" = some v ∧ (∀ c : FormatChoice, v ≠ .text c.name) ∧
      (v.isShowable ∧ e = .unknownFormat source v.shown ∨
        ¬v.isShowable ∧ e = .tooManyDigits none) := by
  unfold format? at h
  split at h
  · contradiction
  · next v hv =>
      split at h
      · contradiction
      · next hnone =>
          refine ⟨v, hv, ?_, ?_⟩
          · rintro c rfl
            have hname : FormatChoice.ofName? c.name = none := hnone
            rw [ofName?_eq_some_iff.mpr rfl] at hname
            contradiction
          · split at h <;> next hs =>
              cases h
              simp [hs]

/-- A format that is read is one of the choices. -/
theorem format?_eq_ok {c : FormatChoice} (h : format? source table = .ok c) {v : Toml.Value}
    (hv : table.lookup "format" = some v) : v = .text c.name := by
  unfold format? at h
  simp only [hv] at h
  split at h
  · next hname =>
      cases h
      obtain ⟨name, htext, hchoice⟩ := Option.bind_eq_some_iff.mp hname
      cases v <;> cases htext
      rw [ofName?_eq_some_iff.mp hchoice]
  · split at h <;> contradiction

theorem patterns?_eq_error {key : String} (h : patterns? source table key = .error e) :
    e = .notPatterns source key ∧
      ∃ v, table.lookup key = some v ∧ ∀ texts, ¬IsTexts v texts := by
  unfold patterns? at h
  split at h
  · contradiction
  · next v hv =>
      split at h
      · contradiction
      · next hnone =>
          refine ⟨by cases h; rfl, v, hv, ?_⟩
          intro texts htexts
          rw [textsOf?_eq_some_iff.mpr htexts] at hnone
          contradiction

/-- Patterns that are read are the texts under their key. -/
theorem patterns?_eq_ok {key : String} {texts : List String}
    (h : patterns? source table key = .ok texts) {v : Toml.Value}
    (hv : table.lookup key = some v) : IsTexts v texts := by
  unfold patterns? at h
  simp only [hv] at h
  split at h
  · next htexts =>
      cases h
      exact textsOf?_eq_some_iff.mp htexts
  · contradiction

theorem ofTable?_eq_error (h : ofTable? source table = .error e) :
    format? source table = .error e ∨
      ∃ key ∈ patternKeys, patterns? source table key = .error e := by
  rcases bind_eq_error_iff.mp h with hformat | ⟨c, _, h⟩
  · exact .inl hformat
  rcases bind_eq_error_iff.mp h with hincluded | ⟨included, _, h⟩
  · exact .inr ⟨"include", by decide, hincluded⟩
  rcases bind_eq_error_iff.mp h with hexcluded | ⟨excluded, _, h⟩
  · exact .inr ⟨"exclude", by decide, hexcluded⟩
  · cases h

theorem ofTable?_eq_ok (h : ofTable? source table = .ok s) :
    format? source table = .ok s.format ∧
      patterns? source table "include" = .ok s.filter.included ∧
      patterns? source table "exclude" = .ok s.filter.excluded := by
  obtain ⟨c, hformat, h⟩ := bind_eq_ok h
  obtain ⟨included, hincluded, h⟩ := bind_eq_ok h
  obtain ⟨excluded, hexcluded, h⟩ := bind_eq_ok h
  cases h
  exact ⟨hformat, hincluded, hexcluded⟩

/-- The texts under each key with patterns that is there become patterns of the settings. -/
theorem isTexts_of_ofTable? (h : ofTable? source table = .ok s) {key : String}
    (hk : key ∈ patternKeys) {v : Toml.Value} (hv : table.lookup key = some v) :
    ∃ texts, IsTexts v texts ∧ texts ⊆ s.filter.included ++ s.filter.excluded := by
  obtain ⟨_, hincluded, hexcluded⟩ := ofTable?_eq_ok h
  rcases List.mem_cons.mp hk with rfl | hk
  · exact ⟨_, patterns?_eq_ok hincluded hv, List.subset_append_left _ _⟩
  · obtain rfl := List.mem_singleton.mp hk
    exact ⟨_, patterns?_eq_ok hexcluded hv, List.subset_append_right _ _⟩

/-! ## Reading a file -/

theorem document?_of_holds (h : HoldsDocument bytes document) :
    document? source bytes = .ok document := by
  obtain ⟨text, htext, hread⟩ := h
  simp only [document?, htext, hread]

theorem ofBytes_of_holds (h : HoldsTable bytes table) :
    (ofBytes source bytes).2 = ofTable? source table := by
  obtain ⟨document, tools, hdocument, htools, htable⟩ := h
  simp only [ofBytes, document?_of_holds hdocument, Except.bind, table?, htools, htable]

/-- A file whose document or table cannot be read gives the same failure. -/
theorem ofBytes_of_error (h : (document? source bytes).bind (table? source) = .error e) :
    (ofBytes source bytes).2 = .error e := by
  simp only [ofBytes, h, Logged.error]

/-- A format that cannot be shown stops the reading of a table, whatever else it holds. -/
theorem ofTable?_of_longFormat {v : Toml.Value} (h : table.lookup "format" = some v)
    (hs : ¬v.isShowable) : ofTable? source table = .error (.tooManyDigits none) := by
  refine bind_eq_error_iff.mpr (.inl ?_)
  cases v with
  | text s => exact absurd rfl hs
  | _ => simp only [format?, h, Toml.Value.text?, Option.bind_none, if_neg hs]

/-- At a fault that escapes, reading the settings fails with an error that is not foreseen. -/
theorem ofBytes_of_escapes {fault : ConfigFault} (h : HasFault bytes fault)
    (hfault : fault.Escapes) :
    ∃ e, (ofBytes source bytes).2 = .error e ∧ (Failure.settings e).Escapes := by
  cases hfault with
  | undecodable =>
      cases h with
      | undecodable h =>
        exact ⟨_, ofBytes_of_error (by simp only [document?, h]; rfl), .undecodable source⟩
  | longNumber =>
      cases h with
      | longNumber ht h =>
        exact ⟨_, ofBytes_of_error (by simp only [document?, ht, h]; rfl), .tooManyDigits _⟩
  | longFormat =>
      cases h with
      | longFormat ht h hs =>
        exact ⟨_, (ofBytes_of_holds ht).trans (ofTable?_of_longFormat h hs), .tooManyDigits none⟩
  | tools =>
      cases h with
      | @tools document v hd h hv =>
        have htable : table? source document = .error .toolNotTable := by
          cases v with
          | table tools => exact absurd rfl (hv tools)
          | _ => simp only [table?, h]
        refine ⟨_, ofBytes_of_error ?_, .toolNotTable⟩
        rw [document?_of_holds hd]
        exact htable

/-- At a fault that is reported, reading the settings fails. -/
theorem exists_error_of_reported {fault : ConfigFault} (h : HasFault bytes fault)
    (hfault : fault.Reported) : ∃ e, (ofBytes source bytes).2 = .error e := by
  cases hfault with
  | malformed =>
      cases h with
      | malformed ht h =>
        refine ⟨.malformed source, ofBytes_of_error ?_⟩
        simp only [document?, ht, h]
        rfl
  | table =>
      cases h with
      | @table document tools v hd ht h hv =>
        have htable : table? source document = .error (.notTable source) := by
          cases v with
          | table table => exact absurd rfl (hv table)
          | _ => simp only [table?, ht, h]
        refine ⟨.notTable source, ofBytes_of_error ?_⟩
        rw [document?_of_holds hd]
        exact htable
  | format =>
      cases h with
      | @format table v ht h hv =>
        rw [ofBytes_of_holds ht]
        cases htable : ofTable? source table with
        | error e => exact ⟨e, rfl⟩
        | ok s => exact absurd (format?_eq_ok (ofTable?_eq_ok htable).1 h) (hv s.format)
  | patterns key =>
      cases h with
      | @patterns table _ v ht hk h hv =>
        rw [ofBytes_of_holds ht]
        cases htable : ofTable? source table with
        | error e => exact ⟨e, rfl⟩
        | ok s =>
            obtain ⟨texts, htexts, _⟩ := isTexts_of_ofTable? htable hk h
            exact absurd htexts (hv texts)

/-- An error stands for a fault: both are reported, or both escape. -/
def StandsFor (e : SettingsError) (fault : ConfigFault) : Prop :=
  fault.Escapes ∧ (Failure.settings e).Escapes ∨ fault.Reported ∧ ¬(Failure.settings e).Escapes

theorem exists_fault_of_document? (h : document? source bytes = .error e) :
    ∃ fault, HasFault bytes fault ∧ StandsFor e fault := by
  unfold document? at h
  split at h
  · next hnone =>
      cases h
      exact ⟨_, .undecodable hnone, .inl ⟨.undecodable, .undecodable source⟩⟩
  · next text htext =>
      split at h
      · contradiction
      · next hread =>
          cases h
          exact ⟨_, .malformed htext hread, .inr ⟨.malformed, by rintro ⟨⟩⟩⟩
      · next count hread =>
          cases h
          exact ⟨_, .longNumber htext hread, .inl ⟨.longNumber, .tooManyDigits _⟩⟩

theorem holds_of_document? (h : document? source bytes = .ok document) :
    HoldsDocument bytes document := by
  unfold document? at h
  split at h
  · contradiction
  · next text htext =>
      split at h
      · next hread =>
          cases h
          exact ⟨text, htext, hread⟩
      · contradiction
      · contradiction

theorem exists_fault_of_table? (hd : HoldsDocument bytes document)
    (h : table? source document = .error e) :
    ∃ fault, HasFault bytes fault ∧ StandsFor e fault := by
  unfold table? at h
  split at h
  · contradiction
  · next tools htools =>
      split at h
      · contradiction
      · contradiction
      · next v hno hv =>
          cases h
          exact ⟨_, .table hd htools hv hno, .inr ⟨.table, by rintro ⟨⟩⟩⟩
  · next v hno hv =>
      cases h
      exact ⟨_, .tools hd hv hno, .inl ⟨.tools, .toolNotTable⟩⟩

theorem holds_of_table? (hd : HoldsDocument bytes document)
    (h : table? source document = .ok (some table)) : HoldsTable bytes table := by
  unfold table? at h
  split at h
  · cases h
  · next tools htools =>
      split at h
      · cases h
      · next t ht =>
          cases h
          exact ⟨document, tools, hd, htools, ht⟩
      · cases h
  · cases h

theorem exists_fault_of_ofTable? (ht : HoldsTable bytes table)
    (h : ofTable? source table = .error e) :
    ∃ fault, HasFault bytes fault ∧ StandsFor e fault := by
  rcases ofTable?_eq_error h with hformat | ⟨key, hkey, hpatterns⟩
  · obtain ⟨v, hv, hno, ⟨hs, rfl⟩ | ⟨hs, rfl⟩⟩ := format?_eq_error hformat
    · exact ⟨_, .format ht hv hno hs, .inr ⟨.format, by rintro ⟨⟩⟩⟩
    · exact ⟨_, .longFormat ht hv hs, .inl ⟨.longFormat, .tooManyDigits none⟩⟩
  · obtain ⟨rfl, v, hv, hno⟩ := patterns?_eq_error hpatterns
    exact ⟨_, .patterns ht hkey hv hno, .inr ⟨.patterns key, by rintro ⟨⟩⟩⟩

/-- Reading the settings fails only at a fault. -/
theorem exists_fault_of_ofBytes (h : (ofBytes source bytes).2 = .error e) :
    ∃ fault, HasFault bytes fault ∧ StandsFor e fault := by
  cases hdocument : document? source bytes with
  | error e' =>
      rw [ofBytes_of_error (e := e') (by rw [hdocument]; rfl)] at h
      cases h
      exact exists_fault_of_document? hdocument
  | ok document =>
    have hd := holds_of_document? hdocument
    cases htable : table? source document with
    | error e' =>
        rw [ofBytes_of_error (e := e') (by rw [hdocument]; exact htable)] at h
        cases h
        exact exists_fault_of_table? hd htable
    | ok found =>
      cases found with
      | none =>
          simp only [ofBytes, hdocument, Except.bind, htable] at h
          contradiction
      | some table =>
          have ht := holds_of_table? hd htable
          rw [ofBytes_of_holds ht] at h
          exact exists_fault_of_ofTable? ht h

/-- Reading the settings fails with an error that is reported exactly at a fault that is, unless
another one escapes. -/
theorem ofBytes_reported_iff :
    (∃ e, (ofBytes source bytes).2 = .error e ∧ ¬(Failure.settings e).Escapes) ↔
      (∃ fault, HasFault bytes fault ∧ fault.Reported) ∧
        ∀ fault, HasFault bytes fault → ¬fault.Escapes := by
  constructor
  · rintro ⟨e, he, hreported⟩
    constructor
    · obtain ⟨fault, hfault, ⟨_, hescapes⟩ | ⟨h, _⟩⟩ := exists_fault_of_ofBytes he
      · exact absurd hescapes hreported
      · exact ⟨fault, hfault, h⟩
    · intro fault hfault h
      obtain ⟨e', he', hescapes⟩ : ∃ e', (ofBytes source bytes).2 = .error e' ∧
          (Failure.settings e').Escapes := ofBytes_of_escapes hfault h
      cases he.symm.trans he'
      exact hreported hescapes
  · rintro ⟨⟨fault, hfault, h⟩, hno⟩
    obtain ⟨e, he⟩ : ∃ e, (ofBytes source bytes).2 = .error e := exists_error_of_reported hfault h
    obtain ⟨fault', hfault', ⟨hescapes, _⟩ | ⟨_, hreported⟩⟩ := exists_fault_of_ofBytes he
    · exact absurd hescapes (hno fault' hfault')
    · exact ⟨e, he, hreported⟩

/-- The same of errors and faults that escape. -/
theorem ofBytes_escapes_iff :
    (∃ e, (ofBytes source bytes).2 = .error e ∧ (Failure.settings e).Escapes) ↔
      ∃ fault, HasFault bytes fault ∧ fault.Escapes := by
  constructor
  · rintro ⟨e, he, hescapes⟩
    obtain ⟨fault, hfault, ⟨h, _⟩ | ⟨_, hreported⟩⟩ := exists_fault_of_ofBytes he
    · exact ⟨fault, hfault, h⟩
    · exact absurd hescapes hreported
  · rintro ⟨fault, hfault, h⟩
    exact ofBytes_of_escapes hfault h

/-- Where there are no faults but texts that are no patterns, settings are read. -/
theorem ofBytes_of_only_patterns
    (h : ∀ fault, HasFault bytes fault → ∃ key text, fault = .pattern key text) :
    ∃ s, (ofBytes source bytes).2 = .ok s := by
  cases hread : (ofBytes source bytes).2 with
  | ok s => exact ⟨s, rfl⟩
  | error e =>
      obtain ⟨fault, hfault, hstands⟩ := exists_fault_of_ofBytes hread
      obtain ⟨key, text, rfl⟩ := h fault hfault
      rcases hstands with ⟨h, _⟩ | ⟨h, _⟩ <;> cases h

/-- A text that is no pattern becomes one of those of the settings. -/
theorem mem_filter_of_pattern (h : (ofBytes source bytes).2 = .ok s) {key text : String}
    (hfault : HasFault bytes (.pattern key text)) :
    text ∈ s.filter.included ++ s.filter.excluded ∧ NoPattern text := by
  cases hfault with
  | pattern ht hk hv htexts hmem hno =>
    rw [ofBytes_of_holds ht] at h
    obtain ⟨texts', htexts', hsub⟩ := isTexts_of_ofTable? h hk hv
    rw [← textsOf?_eq_some_iff] at htexts htexts'
    have heq := Option.some.inj (htexts.symm.trans htexts')
    exact ⟨hsub (heq ▸ hmem), hno⟩

/-! ## Reading the settings of a project -/

theorem load_of_file {w : Workspace} {start : Path}
    (h : w.tree.at? (projectRoot w start ++ [configName]) = some (.file bytes)) :
    (load w start).2 =
      (ofBytes (Tree.pathOf (projectRoot w start ++ [configName])) bytes).2 := by
  simp only [load, h]

end Settings

/-! ## Patterns -/

namespace CommandLine

variable {w : Workspace} {r : DiffRequest} {g : Globals} {bytes : List UInt8}

/-- A text of the settings that is no pattern stops the run. -/
theorem filterOf?_of_noPattern {s : Settings} {text : String}
    (hmem : text ∈ s.filter.included ++ s.filter.excluded) (h : NoPattern text) :
    ∃ e, filterOf? s r = .error e := by
  cases hf : filterOf? s r with
  | error e => exact ⟨e, rfl⟩
  | ok f =>
      have hreadable := ofPlan?_givenTexts_isOk_iff.mp ⟨f, filterOf?_eq_ok_iff.mp hf⟩
      obtain ⟨hblank, cause, hcause⟩ := h
      have hgiven : Text.trimmed text ∈
          (givenTexts s r).included ++ (givenTexts s r).excluded := by
        simp only [givenTexts_eq, FilterPlan.append, nonBlank_append, List.mem_append] at hmem ⊢
        rcases hmem with hmem | hmem
        · exact .inl (.inl (.inl (trimmed_mem_nonBlank hmem hblank)))
        · exact .inr (.inl (.inl (trimmed_mem_nonBlank hmem hblank)))
      obtain ⟨p, hp⟩ := hreadable _ hgiven
      cases hcause.symm.trans hp

/-! ## Exit codes -/

theorem settingsHandling_cases (e : SettingsError) :
    Failure.settingsHandling e = .unhandled ∨
      ∃ text, Failure.settingsHandling e = .foreseen .config text := by
  cases e <;> simp [Failure.settingsHandling]

/-- Only settings that cannot be read are reported as a fault of the configuration. -/
theorem handling_eq_config_iff {e : Failure} :
    (∃ text, e.handling = .foreseen .config text) ↔
      ∃ se, e = .settings se ∧ ¬(Failure.settings se).Escapes := by
  simp only [← Failure.handling_eq_unhandled_iff]
  constructor
  · rintro ⟨text, h⟩
    cases e with
    | settings se => exact ⟨se, rfl, by rw [h]; exact Handling.noConfusion⟩
    | filter fe =>
        simp only [Failure.handling] at h
        split at h <;> contradiction
    | load le =>
        simp only [Failure.handling, Failure.loadHandling] at h
        split at h <;> cases h
    | render re => contradiction
    | write p pe => contradiction
  · rintro ⟨se, rfl, h⟩
    exact (settingsHandling_cases se).resolve_left h

theorem code_failed_eq_config_iff (hdebug : g.debug = false) (m : List Message) (e : Failure) :
    (Outcome.failed w g m e).status.code = 78 ↔
      ∃ se, e = .settings se ∧ ¬(Failure.settings se).Escapes := by
  rw [← handling_eq_config_iff]
  unfold Outcome.failed Outcome.ending
  cases h : e.handling with
  | foreseen status text => cases status <;> simp [hdebug, ExitStatus.code]
  | _ => simp [hdebug, ExitStatus.code]

/-- A comparison ends with the code for faults of the configuration exactly if its settings cannot
be read, for a reason that is reported. -/
theorem code_eq_config_iff (hdebug : g.debug = false) (before : List Message) :
    (runDiff w g before r).status.code = 78 ↔
      ∃ e, (Settings.load w here).2 = .error e ∧ ¬(Failure.settings e).Escapes := by
  constructor
  · intro hcode
    rcases succeeds_or_fails w g before r with ⟨equivalent, hs⟩ | ⟨e, he⟩
    · rw [code_of_succeeds hs] at hcode
      cases equivalent <;> contradiction
    · obtain ⟨m, hrun⟩ := runDiff_of_fails he g before
      rw [hrun, code_failed_eq_config_iff hdebug] at hcode
      obtain ⟨se, rfl, hreported⟩ := hcode
      cases he with
      | settings he => exact ⟨se, he, hreported⟩
      | write _ _ he =>
          obtain ⟨_, _, _, _, _, heq⟩ := deliverText_eq_error he
          contradiction
  · rintro ⟨e, he, hreported⟩
    obtain ⟨m, hrun⟩ := runDiff_of_fails (.settings he) g before
    rw [hrun, code_failed_eq_config_iff hdebug]
    exact ⟨e, rfl, hreported⟩

/-- A filter that cannot be made is a misuse of the command line, unless a bound is too large. -/
theorem runDiff_of_fails_filter {e : FilterError} (h : Fails w r (.filter e))
    (before : List Message) :
    (runDiff w g before r).status.code = 2 ∧ (runDiff w g before r).failure = none ∨
      (runDiff w g before r).status.code = 1 ∧
        ∃ pattern, (runDiff w g before r).failure = some (.filter ⟨pattern, .boundTooLarge⟩) := by
  obtain ⟨m, hrun⟩ := runDiff_of_fails h g before
  rw [hrun]
  obtain ⟨pattern, cause⟩ := e
  cases cause with
  | boundTooLarge => exact .inr ⟨rfl, pattern, rfl⟩
  | _ => exact .inl ⟨rfl, rfl⟩

/-- **Faults of the configuration**, without debugging: the code for them is given exactly for the
faults of the document, of the table, of the format and of the keys with patterns, unless a fault
escapes.  Where the file is no text, has a number that is too long, a key `tool` that is no table
or a format that cannot be shown, reading the settings fails unforeseen, and only there.  Where nothing is wrong with the file but a text that is no
pattern, that is a misuse of the command line, or escapes if a bound in it is too large. -/
theorem exitCode_of_configuration {args : List String} {q : Request}
    (hread : Request.read args = .ok q) (htask : q.task = .diff r)
    (hdebug : q.globals.debug = false)
    (hfile : w.tree.at? (projectRoot w here ++ [configName]) = some (.file bytes)) :
    ((run w args).status.code = 78 ↔
        (∃ fault, HasFault bytes fault ∧ fault.Reported) ∧
          ∀ fault, HasFault bytes fault → ¬fault.Escapes) ∧
      ((∃ e, (Settings.load w here).2 = .error e ∧ (Failure.settings e).Escapes) ↔
        ∃ fault, HasFault bytes fault ∧ fault.Escapes) ∧
      ((∃ fault, HasFault bytes fault ∧ fault.Escapes) →
        (run w args).status.code = 1 ∧ ∃ e, (run w args).failure = some (.settings e)) ∧
      ((∃ key text, HasFault bytes (.pattern key text)) →
        (∀ fault, HasFault bytes fault → ∃ key text, fault = .pattern key text) →
          (run w args).status.code = 2 ∧ (run w args).failure = none ∨
            (run w args).status.code = 1 ∧
              ∃ pattern, (run w args).failure = some (.filter ⟨pattern, .boundTooLarge⟩)) := by
  have hrun : run w args = runDiff w q.globals (openingMessages q.globals) r := by
    simp only [run, hread, runRequest, htask]
  have hload := Settings.load_of_file hfile
  rw [hrun, code_eq_config_iff hdebug, hload]
  refine ⟨Settings.ofBytes_reported_iff, Settings.ofBytes_escapes_iff, ?_, ?_⟩
  · rintro ⟨fault, hfault, hescapes⟩
    obtain ⟨e, he, hleaves⟩ := Settings.ofBytes_of_escapes hfault hescapes
    have haccounted := accounted_runDiff (w := w) (r := r) hdebug (openingMessages q.globals)
    have hfails : Fails w r (.settings e) := .settings (hload.trans he)
    obtain ⟨_, hone, hfailure⟩ :=
      (haccounted.failure _ hfails).resolve_right fun hright => hright.1 hleaves
    exact ⟨hone, e, hfailure⟩
  · rintro ⟨key, text, hpattern⟩ honly
    obtain ⟨s, hs⟩ := Settings.ofBytes_of_only_patterns honly
    obtain ⟨hmem, hno⟩ := Settings.mem_filter_of_pattern hs hpattern
    obtain ⟨e, he⟩ := filterOf?_of_noPattern (r := r) hmem hno
    exact runDiff_of_fails_filter (.filter (hload.trans hs) he) _

end CommandLine

/-! ## Samples -/

namespace Sample

/-- A report, and a configuration file with a text. -/
def configured (text : String) : Workspace where
  tree :=
    { entries :=
        [(["a.xml"], .file (Text.encodeUtf8 "<coverage/>".toList)),
          (["pyproject.toml"], .file (Text.encodeUtf8 text.toList))] }

/-- The request for a comparison of the report with itself. -/
def sameReport : DiffRequest where
  baseline := .ofText "a.xml"
  current := .ofText "a.xml"

/-- A configuration file whose key for tools is a number. -/
def toolNumber : String := "tool = 3\n"

/-- The fault is one of the configuration, but the exit code is that of reports that differ. -/
theorem code_of_toolNumber :
    Request.read ["diff", "a.xml", "a.xml"] = .ok { task := .diff sameReport } ∧
      HasFault (Text.encodeUtf8 toolNumber.toList) .tools ∧
      (configured toolNumber).tree.at? (projectRoot (configured toolNumber) here ++ [configName]) =
        some (.file (Text.encodeUtf8 toolNumber.toList)) ∧
      (run (configured toolNumber) ["diff", "a.xml", "a.xml"]).status.code = 1 := by
  have htext : Text.decodeUtf8? (Text.encodeUtf8 toolNumber.toList) = some toolNumber.toList := by
    decide +kernel
  have hread : (Toml.read? (Text.unifyLineEnds toolNumber.toList)).map
      (fun document => (document.lookup "tool").map Toml.Value.isTable) = .ok (some false) := by decide +kernel
  obtain ⟨document, hdocument, hlookup⟩ := map_eq_ok hread
  obtain ⟨v, hv, hno⟩ := Option.map_eq_some_iff.mp hlookup
  refine ⟨by decide +kernel, .tools ⟨_, htext, hdocument⟩ hv ?_, by decide +kernel,
    by decide +kernel⟩
  rintro tools rfl
  contradiction

/-- A configuration file whose format is not one of the choices. -/
def unknownFormat : String := "tool.covdiff.format = 'xml'\n"

/-- A format that is not one of the choices has the code for faults of the configuration. -/
theorem code_of_unknownFormat :
    HasFault (Text.encodeUtf8 unknownFormat.toList) .format ∧
      (run (configured unknownFormat) ["diff", "a.xml", "a.xml"]).status.code = 78 := by
  have hread : ((Settings.document? here (Text.encodeUtf8 unknownFormat.toList)).bind
      (Settings.table? here)).map (fun found => found.bind fun table =>
        (table.lookup "format").bind Toml.Value.text?) = .ok (some "xml") := by decide +kernel
  have hreported : (Settings.ofBytes here (Text.encodeUtf8 unknownFormat.toList)).2 =
      .error (.unknownFormat here (Text.quote "xml")) := by decide +kernel
  have hargs : Request.read ["diff", "a.xml", "a.xml"] = .ok { task := .diff sameReport } := by
    decide +kernel
  have hfile : (configured unknownFormat).tree.at?
      (projectRoot (configured unknownFormat) here ++ [configName]) =
        some (.file (Text.encodeUtf8 unknownFormat.toList)) := by decide +kernel
  have hfault : HasFault (Text.encodeUtf8 unknownFormat.toList) .format := by
    obtain ⟨found, hfound, hformat⟩ := map_eq_ok hread
    obtain ⟨document, hdocument, htable⟩ := bind_eq_ok hfound
    obtain ⟨table, rfl, hlookup⟩ := Option.bind_eq_some_iff.mp hformat
    obtain ⟨v, hv, hxml⟩ := Option.bind_eq_some_iff.mp hlookup
    have hheld := Settings.holds_of_table? (Settings.holds_of_document? hdocument) htable
    obtain rfl : v = .text "xml" := by cases v <;> cases hxml; rfl
    refine .format hheld hv (fun c hc => ?_) rfl
    have hname := Toml.Value.text.inj hc
    have hnone : FormatChoice.ofName? "xml" = none := by decide
    rw [Settings.ofName?_eq_some_iff.mpr hname] at hnone
    contradiction
  refine ⟨hfault, (exitCode_of_configuration hargs rfl rfl hfile).1.mpr ⟨⟨_, hfault, .format⟩, ?_⟩⟩
  intro fault hfault' hescapes
  obtain ⟨e, he, hleaves⟩ : ∃ e,
      (Settings.ofBytes here (Text.encodeUtf8 unknownFormat.toList)).2 = .error e ∧
        (Failure.settings e).Escapes := Settings.ofBytes_of_escapes hfault' hescapes
  rw [hreported] at he
  cases he
  cases hleaves

end Sample

end CoverageDiff
