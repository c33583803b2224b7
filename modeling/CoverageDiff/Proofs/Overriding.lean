import CoverageDiff.Proofs.PatternSets

/-!
# CoverageDiff.Proofs.Overriding

Settings and options that say different things.

A format that is asked for takes the place of the format of the settings.  The
patterns of the settings stay beside those of the options: a name is selected
for inclusion, or excluded, if a pattern of either matches it (`mem_givenTexts`
and the two theorems after it).  So the options override the settings exactly
as far as the settings' patterns match nothing more (`filterOf?_overrides_iff`).
-/

namespace CoverageDiff

namespace CommandLine

open ClassFilter

variable {s : Settings} {r : DiffRequest} {f f₀ : ClassFilter}

/-! ## Texts of both -/

/-- The texts of a comparison are those of its settings and those of its command line. -/
theorem mem_givenTexts (s : Settings) (r : DiffRequest) (t : String) :
    (t ∈ (givenTexts s r).included ↔
        t ∈ nonBlank s.filter.included ∨ t ∈ (givenTexts {} r).included) ∧
      (t ∈ (givenTexts s r).excluded ↔
        t ∈ nonBlank s.filter.excluded ∨ t ∈ (givenTexts {} r).excluded) := by
  simp only [givenTexts, nonBlank_append, List.mem_append, List.nil_append, or_assoc, and_self]

/-- A command line is read by itself if it is read with the settings. -/
theorem readable_of_readable (h : (givenTexts s r).Readable) : (givenTexts {} r).Readable := by
  intro t ht
  obtain ⟨hincluded, hexcluded⟩ := mem_givenTexts s r t
  refine h t (List.mem_append.mpr ?_)
  exact (List.mem_append.mp ht).imp (fun hin => hincluded.mpr (.inr hin))
    fun hex => hexcluded.mpr (.inr hex)

/-- Some pattern in a list of texts matches a name. -/
def SomeMatches (texts : List String) (name : String) : Prop :=
  ∃ t ∈ nonBlank texts, FullMatches t name

/-- With an include option, the include patterns of the settings are alternatives to those of the
command line. -/
theorem includes_of_settings (hf : filterOf? s r = .ok f) (hf₀ : filterOf? {} r = .ok f₀)
    (hgiven : nonBlank r.filter.included ≠ []) (name : String) :
    f.Includes name ↔ SomeMatches s.filter.included name ∨ f₀.Includes name := by
  obtain ⟨t₀, ht₀⟩ := List.exists_mem_of_ne_nil _ hgiven
  have hcommand : t₀ ∈ (givenTexts {} r).included := List.mem_append_left _ ht₀
  have hboth : t₀ ∈ (givenTexts s r).included := (mem_givenTexts s r t₀).1.mpr (.inr hcommand)
  rw [includes_iff hf, includes_iff hf₀, SomeMatches]
  simp only [List.ne_nil_of_mem hcommand, List.ne_nil_of_mem hboth, false_or, mem_givenTexts s r,
    or_and_right, exists_or]

/-- The exclude patterns of the settings are alternatives to those of the command line. -/
theorem excludes_of_settings (hf : filterOf? s r = .ok f) (hf₀ : filterOf? {} r = .ok f₀)
    (name : String) :
    f.Excludes name ↔ SomeMatches s.filter.excluded name ∨ f₀.Excludes name := by
  rw [excludes_iff hf, excludes_iff hf₀, SomeMatches]
  simp only [mem_givenTexts s r, or_and_right, exists_or]

/-- A format that is asked for makes that of the settings irrelevant. -/
theorem formatOf_of_format {c : FormatChoice} (h : r.format = some c) (s s' : Settings) :
    formatOf s r = formatOf s' r := by
  simp [formatOf, h]

/-! ## Overriding -/

/-- What is asked for by options overrides the settings: `f` is the filter of both and `f₀` that of
the command line alone. -/
structure Overrides (s : Settings) (r : DiffRequest) (f f₀ : ClassFilter) : Prop where
  included : nonBlank r.filter.included ≠ [] → ∀ name, f.Includes name ↔ f₀.Includes name
  excluded : nonBlank r.filter.excluded ≠ [] → ∀ name, f.Excludes name ↔ f₀.Excludes name
  format : r.format ≠ none → formatOf s r = formatOf {} r

/-- **Options beside settings**: if every text that a comparison is given is a pattern, the filters
of settings and command line and of the command line alone are made.  A name is selected for
inclusion by an include pattern of either, and excluded by an exclude pattern of either, while a
format that is asked for is the one that is used.  So the options override the settings exactly if
the settings' patterns of a kind that is asked for match no name that the command line's do not. -/
theorem filterOf?_overrides_iff (s : Settings) (r : DiffRequest) (h : (givenTexts s r).Readable) :
    ∃ f f₀, filterOf? s r = .ok f ∧ filterOf? {} r = .ok f₀ ∧
      (nonBlank r.filter.included ≠ [] → ∀ name,
        f.Includes name ↔ SomeMatches s.filter.included name ∨ f₀.Includes name) ∧
      (∀ name, f.Excludes name ↔ SomeMatches s.filter.excluded name ∨ f₀.Excludes name) ∧
      (∀ c, r.format = some c → ∀ s', formatOf s r = formatOf s' r) ∧
      (Overrides s r f f₀ ↔
        (nonBlank r.filter.included ≠ [] →
          ∀ name, SomeMatches s.filter.included name → f₀.Includes name) ∧
        (nonBlank r.filter.excluded ≠ [] →
          ∀ name, SomeMatches s.filter.excluded name → f₀.Excludes name)) := by
  obtain ⟨f, hf⟩ := ofPlan?_givenTexts_isOk_iff.mpr h
  obtain ⟨f₀, hf₀⟩ := ofPlan?_givenTexts_isOk_iff.mpr (readable_of_readable h)
  rw [← filterOf?_eq_ok_iff] at hf hf₀
  have hincludes := includes_of_settings hf hf₀
  have hexcludes := excludes_of_settings hf hf₀
  have hformat : ∀ c, r.format = some c → ∀ s', formatOf s r = formatOf s' r :=
    fun c hc s' => formatOf_of_format hc s s'
  refine ⟨f, f₀, hf, hf₀, hincludes, hexcludes, hformat, ?_⟩
  constructor
  · intro hover
    refine ⟨fun hgiven name hsome => ?_, fun hgiven name hsome => ?_⟩
    · exact (hover.included hgiven name).mp ((hincludes hgiven name).mpr (.inl hsome))
    · exact (hover.excluded hgiven name).mp ((hexcludes name).mpr (.inl hsome))
  · rintro ⟨hin, hex⟩
    refine ⟨fun hgiven name => ?_, fun hgiven name => ?_, fun hgiven => ?_⟩
    · rw [hincludes hgiven, or_iff_right_of_imp (hin hgiven name)]
    · rw [hexcludes, or_iff_right_of_imp (hex hgiven name)]
    · obtain ⟨c, hc⟩ := Option.ne_none_iff_exists'.mp hgiven
      exact hformat c hc {}

end CommandLine

/-! ## Samples -/

namespace Sample

open Files CommandLine

/-- Settings for one class and against another. -/
def narrowSettings : Settings :=
  { filter := ⟨["org\\.Foo"], ["org\\.Flaky"]⟩, format := .fixed .json }

/-- A request for the package of both, as rows. -/
def wideRequest : DiffRequest :=
  { baseline := .ofText "a.xml", current := .ofText "b.xml", filter := ⟨["org\\..*"], []⟩,
    format := some (.fixed .rg) }

/-- The format is that of the command line, and a class of the package is left out because the
settings exclude it. -/
theorem settings_beside_wideRequest :
    (givenTexts narrowSettings wideRequest).Readable ∧
      formatOf narrowSettings wideRequest = formatOf {} wideRequest ∧
      ∃ f f₀, filterOf? narrowSettings wideRequest = .ok f ∧ filterOf? {} wideRequest = .ok f₀ ∧
        (["org.Foo", "org.Flaky", "com.Foo"].filter f.allow = ["org.Foo"]) ∧
        (f.Excludes "org.Flaky" ↔
          SomeMatches narrowSettings.filter.excluded "org.Flaky" ∨ f₀.Excludes "org.Flaky") := by
  have hreadable : (givenTexts narrowSettings wideRequest).Readable := by
    intro t ht
    have hall : ∀ t ∈ (givenTexts narrowSettings wideRequest).included ++
        (givenTexts narrowSettings wideRequest).excluded,
        (Pattern.ofText? t).toOption.isSome = true := by decide +kernel
    exact isOk_of_isSome (hall t ht)
  obtain ⟨f, f₀, hf, hf₀, -, hexcludes, hformat, -⟩ :=
    filterOf?_overrides_iff narrowSettings wideRequest hreadable
  have hvalue : (filterOf? narrowSettings wideRequest).map (fun f =>
      ["org.Foo", "org.Flaky", "com.Foo"].filter f.allow) = .ok ["org.Foo"] := by decide +kernel
  rw [hf] at hvalue
  exact ⟨hreadable, hformat _ rfl {}, f, f₀, hf, hf₀, Except.ok.inj hvalue, hexcludes _⟩

/-- Reports that differ by a class, and a configuration file that includes it. -/
def includesB : Workspace where
  tree :=
    { entries :=
        [(["a.xml"], .file (Text.encodeUtf8 "<coverage/>".toList)),
          (["b.xml"], .file (Text.encodeUtf8 "<coverage><class name='B'/></coverage>".toList)),
          (["pyproject.toml"],
            .file (Text.encodeUtf8 "[tool.covdiff]\ninclude = ['B']\n".toList))] }

/-- The settings of the file. -/
def settingsOfB : Settings :=
  { filter := ⟨["B"], []⟩, source := some (Tree.pathOf ["pyproject.toml"]) }

/-- A request for another class. -/
def onlyA : DiffRequest :=
  { baseline := .ofText "a.xml", current := .ofText "b.xml", filter := ⟨["A"], []⟩ }

theorem load_includesB : Settings.load includesB here = ([], .ok settingsOfB) := by
  decide +kernel

/-- A class that is not asked for is compared, since the configuration file includes it, and the
reports are found to be different. -/
theorem configured_pattern_acts :
    Request.read ["diff", "a.xml", "b.xml", "--include", "A"] = .ok { task := .diff onlyA } ∧
      nonBlank onlyA.filter.included ≠ [] ∧
      (Settings.load includesB here).2 = .ok settingsOfB ∧
      (run includesB ["diff", "a.xml", "b.xml", "--include", "A"]).output =
        "classes\tB\tADDED\t- -> -\n" ∧
      (run includesB ["diff", "a.xml", "b.xml", "--include", "A"]).status.code = 1 ∧
      ∃ f f₀, filterOf? settingsOfB onlyA = .ok f ∧ filterOf? {} onlyA = .ok f₀ ∧
        ¬Overrides settingsOfB onlyA f f₀ := by
  have hread : Request.read ["diff", "a.xml", "b.xml", "--include", "A"] =
      .ok { task := .diff onlyA } := by decide +kernel
  have hgiven : nonBlank onlyA.filter.included ≠ [] := by decide +kernel
  have hrun : run includesB ["diff", "a.xml", "b.xml", "--include", "A"] =
      runDiff includesB {} [] onlyA := by
    rw [run, hread]
    rfl
  have hboth : (filterOf? settingsOfB onlyA).map (fun f => f.allow "B") = .ok true := by
    decide +kernel
  have hcommand : (filterOf? {} onlyA).map (fun f => (f.allow "B", f.excluded)) =
      .ok (false, []) := by decide +kernel
  refine ⟨hread, hgiven, by rw [load_includesB], ?_, ?_, ?_⟩
  · rw [hrun, runDiff, renderDiff, load_includesB]
    decide +kernel
  · rw [hrun, runDiff, renderDiff, load_includesB]
    decide +kernel
  · obtain ⟨f, hf, hallow⟩ := map_eq_ok hboth
    obtain ⟨f₀, hf₀, hpair⟩ := map_eq_ok hcommand
    obtain ⟨hallow₀, hexcluded₀⟩ := Prod.mk.inj hpair
    refine ⟨f, f₀, hf, hf₀, fun hover => ?_⟩
    have hincludes : f₀.Includes "B" :=
      (hover.included hgiven "B").mp ((f.allow_eq_true_iff "B").mp hallow).1
    have hnot : ¬f₀.Excludes "B" := by simp [ClassFilter.Excludes, hexcluded₀]
    rw [(f₀.allow_eq_true_iff "B").mpr ⟨hincludes, hnot⟩] at hallow₀
    contradiction

end Sample

end CoverageDiff
