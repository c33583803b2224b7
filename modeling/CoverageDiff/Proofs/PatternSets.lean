import CoverageDiff.CommandLine.Run
import CoverageDiff.Proofs.Steps
import CoverageDiff.Proofs.Words
import Mathlib.Data.List.Nodup

/-!
# CoverageDiff.Proofs.PatternSets

What classes a comparison selects is a matter of two sets of texts, those that
include and those that exclude.

A pattern reaches the filter through options or as a word of one text, and the
words are trimmed, rid of repetitions and read twice: once by themselves, and
once more behind the options.  The second time changes nothing, because a word
has no blanks and repetitions that are removed from a part are removed from the
whole (`eraseDups_append_eraseDups`).  So the filter is made as if the words had
been options (`filterOf?_eq_ok_iff`), and lets a name pass by the texts in the
sets alone (`filterOf?_selects`).
-/

namespace CoverageDiff

/-! ## First occurrences -/

/-- Some texts are others without the repetitions, in the order in which they first occur. -/
structure FirstOccurrences (given kept : List String) : Prop where
  mem_iff : ∀ t, t ∈ kept ↔ t ∈ given
  nodup : kept.Nodup
  order : kept.Pairwise fun t u => given.idxOf t < given.idxOf u

/-- A text that is read after others is kept if it is none of them. -/
theorem eraseDups_concat (xs : List String) (x : String) :
    (xs ++ [x]).eraseDups = if x ∈ xs then xs.eraseDups else xs.eraseDups ++ [x] := by
  rw [List.eraseDups_append]
  by_cases hx : x ∈ xs
  · simp [List.removeAll, hx]
  · simp [List.removeAll, hx, List.eraseDups_cons]

theorem firstOccurrences_eraseDups (xs : List String) : FirstOccurrences xs xs.eraseDups := by
  refine ⟨fun _ => List.mem_eraseDups, ?_, ?_⟩
  · induction xs using List.reverseRecOn with
    | nil => exact List.nodup_nil
    | append_singleton xs x ih =>
        rw [eraseDups_concat]
        split
        · exact ih
        · next hx =>
            have hnew : x ∉ xs.eraseDups := fun h => hx (List.mem_eraseDups.mp h)
            simpa using List.Nodup.concat hnew ih
  · induction xs using List.reverseRecOn with
    | nil => exact List.Pairwise.nil
    | append_singleton xs x ih =>
        -- what is read after a text does not move it
        have hkeep : xs.eraseDups.Pairwise
            fun t u => (xs ++ [x]).idxOf t < (xs ++ [x]).idxOf u := by
          refine List.Pairwise.imp_of_mem ?_ ih
          intro t u ht hu hlt
          rwa [List.idxOf_append_of_mem (List.mem_eraseDups.mp ht),
            List.idxOf_append_of_mem (List.mem_eraseDups.mp hu)]
        rw [eraseDups_concat]
        split
        · exact hkeep
        · next hx =>
            refine List.pairwise_append.mpr ⟨hkeep, List.pairwise_singleton _ x, ?_⟩
            intro t ht u hu
            obtain rfl := List.mem_singleton.mp hu
            have ht' : t ∈ xs := List.mem_eraseDups.mp ht
            rw [List.idxOf_append_of_mem ht', List.idxOf_append_of_notMem hx]
            exact Nat.lt_add_right _ (List.idxOf_lt_length_of_mem ht')

/-- Repetitions that are removed from a part are removed from the whole. -/
theorem eraseDups_append_eraseDups (xs ys : List String) :
    (xs ++ ys.eraseDups).eraseDups = (xs ++ ys).eraseDups := by
  induction ys using List.reverseRecOn with
  | nil => rfl
  | append_singleton ys y ih =>
      have hmem : y ∈ xs ++ ys.eraseDups ↔ y ∈ xs ++ ys := by
        simp only [List.mem_append, List.mem_eraseDups]
      rw [eraseDups_concat ys, ← List.append_assoc xs ys, eraseDups_concat (xs ++ ys), ← ih]
      by_cases hy : y ∈ ys
      · rw [if_pos hy, if_pos (List.mem_append_right xs hy)]
      · rw [if_neg hy, ← List.append_assoc, eraseDups_concat]
        simp only [hmem]

/-! ## Texts that are given -/

/-- The texts that are left of some: trimmed, without the blank ones. -/
def nonBlank (texts : List String) : List String :=
  (texts.map Text.trimmed).filter fun t => t != ""

/-- The texts that a comparison is given for its filter, those of the settings first.  Of the words
of the text with patterns those before the first `-exclude` include, and those after it exclude. -/
def givenTexts (s : Settings) (r : CommandLine.DiffRequest) : FilterPlan :=
  let words := Text.wordsOf (r.patterns.getD "")
  ⟨nonBlank (s.filter.included ++ r.filter.included) ++ words.takeWhile (· != "-exclude"),
    nonBlank (s.filter.excluded ++ r.filter.excluded) ++
      (words.dropWhile (· != "-exclude")).filter (· != "-exclude")⟩

/-- A text is a pattern, and the pattern matches the whole of a name. -/
def FullMatches (text name : String) : Prop :=
  ∃ p, Pattern.ofText? text = .ok p ∧ p.matchesWhole name = true

namespace FilterPlan

variable {plan plan' : FilterPlan}

/-- Every text is a pattern. -/
def Readable (plan : FilterPlan) : Prop :=
  ∀ t ∈ plan.included ++ plan.excluded, ∃ p, Pattern.ofText? t = .ok p

/-- A name passes: one of the texts that include matches it, if there are any, and none of those
that exclude. -/
def Passes (plan : FilterPlan) (name : String) : Prop :=
  (plan.included = [] ∨ ∃ t ∈ plan.included, FullMatches t name) ∧
    ∀ t ∈ plan.excluded, ¬FullMatches t name

/-- Two plans have the same texts, in any order and any number of times. -/
structure SameTexts (plan plan' : FilterPlan) : Prop where
  included : ∀ t, t ∈ plan.included ↔ t ∈ plan'.included
  excluded : ∀ t, t ∈ plan.excluded ↔ t ∈ plan'.excluded

theorem SameTexts.passes_iff (h : SameTexts plan plan') (name : String) :
    plan.Passes name ↔ plan'.Passes name := by
  simp only [Passes, List.eq_nil_iff_forall_not_mem, h.included, h.excluded]

theorem SameTexts.readable_iff (h : SameTexts plan plan') : plan.Readable ↔ plan'.Readable := by
  simp only [Readable, List.mem_append, h.included, h.excluded]

end FilterPlan

/-! ## Texts that are kept -/

theorem nonBlank_append (xs ys : List String) : nonBlank (xs ++ ys) = nonBlank xs ++ nonBlank ys := by
  rw [nonBlank, List.map_append, List.filter_append]
  rfl

theorem trimmed_mem_nonBlank {texts : List String} {t : String} (ht : t ∈ texts)
    (hne : Text.trimmed t ≠ "") : Text.trimmed t ∈ nonBlank texts :=
  List.mem_filter.mpr ⟨List.mem_map_of_mem ht, bne_iff_ne.mpr hne⟩

/-- Texts that are trimmed and not blank are left as they are. -/
theorem nonBlank_eq_self {texts : List String} (h : ∀ t ∈ texts, Text.trimmed t = t ∧ t ≠ "") :
    nonBlank texts = texts := by
  have htrim : texts.map Text.trimmed = texts :=
    (List.map_congr_left fun t ht => (h t ht).1).trans (List.map_id texts)
  rw [nonBlank, htrim, List.filter_eq_self]
  exact fun t ht => bne_iff_ne.mpr (h t ht).2

theorem nonBlank_of_subset_wordsOf {texts : List String} {text : String}
    (h : texts ⊆ Text.wordsOf text) : nonBlank texts = texts :=
  nonBlank_eq_self fun _ ht => Text.trimmed_of_mem_wordsOf (h ht)

namespace ClassFilter

theorem keptTexts_eq (texts : List String) : keptTexts texts = (nonBlank texts).eraseDups := rfl

/-- Words that are kept by themselves first are kept as if they had been given with the rest. -/
theorem keptTexts_append_keptTexts (xs : List String) {ys : List String} {text : String}
    (h : ys ⊆ Text.wordsOf text) : keptTexts (xs ++ keptTexts ys) = (nonBlank xs ++ ys).eraseDups := by
  have hsub : ys.eraseDups ⊆ Text.wordsOf text := fun t ht => h (List.mem_eraseDups.mp ht)
  rw [keptTexts_eq, keptTexts_eq, nonBlank_of_subset_wordsOf h, nonBlank_append,
    nonBlank_of_subset_wordsOf hsub, eraseDups_append_eraseDups]

/-! ## Patterns that are read -/

variable {texts : List String} {ps : List Pattern} {plan : FilterPlan} {f : ClassFilter}

theorem pattern?_eq_ok_iff {t : String} {p : Pattern} :
    pattern? t = .ok p ↔ Pattern.ofText? t = .ok p := by
  rw [pattern?]
  cases Pattern.ofText? t with
  | error e => simp [Except.mapError]
  | ok q => simp [Except.mapError]

theorem source_of_ofText? {t : String} {p : Pattern} (h : Pattern.ofText? t = .ok p) :
    p.source = t := by
  obtain ⟨_, _, rfl⟩ := map_eq_ok h
  rfl

theorem patterns?_eq_ok_iff :
    patterns? texts = .ok ps ↔
      List.Forall₂ (fun t p => Pattern.ofText? t = .ok p) (keptTexts texts) ps := by
  simp only [patterns?, mapM_eq_ok_iff, pattern?_eq_ok_iff]

theorem patterns?_isOk_iff :
    (∃ ps, patterns? texts = .ok ps) ↔ ∀ t ∈ nonBlank texts, ∃ p, Pattern.ofText? t = .ok p := by
  simp only [patterns?, mapM_isOk_iff, pattern?_eq_ok_iff, keptTexts_eq, List.mem_eraseDups]

/-- Patterns are kept under their texts. -/
theorem map_source_of_patterns? (h : patterns? texts = .ok ps) :
    ps.map Pattern.source = keptTexts texts := by
  rw [patterns?_eq_ok_iff] at h
  generalize keptTexts texts = kept at h ⊢
  induction h with
  | nil => rfl
  | cons hp _ ih => rw [List.map_cons, source_of_ofText? hp, ih]

theorem exists_mem_patterns?_iff (h : patterns? texts = .ok ps) (name : String) :
    (∃ p ∈ ps, p.matchesWhole name = true) ↔ ∃ t ∈ nonBlank texts, FullMatches t name := by
  have hkept : ∀ t, t ∈ nonBlank texts ↔ t ∈ keptTexts texts := fun t => List.mem_eraseDups.symm
  rw [patterns?_eq_ok_iff] at h
  simp only [hkept]
  generalize keptTexts texts = kept at h ⊢
  induction h with
  | nil => simp
  | @cons t p _ _ hp _ ih =>
      have hfull : FullMatches t name ↔ p.matchesWhole name = true := by
        simp [FullMatches, hp]
      simp only [List.exists_mem_cons_iff, ih, hfull]

theorem ofPlan?_eq_ok_iff :
    ofPlan? plan = .ok f ↔
      patterns? plan.included = .ok f.included ∧ patterns? plan.excluded = .ok f.excluded := by
  simp only [ofPlan?, bind_eq_ok_iff]
  constructor
  · rintro ⟨ps, hps, qs, hqs, h⟩
    cases h
    exact ⟨hps, hqs⟩
  · rintro ⟨hps, hqs⟩
    exact ⟨_, hps, _, hqs, rfl⟩

theorem ofPlan?_isOk_iff :
    (∃ f, ofPlan? plan = .ok f) ↔
      ∀ t ∈ nonBlank plan.included ++ nonBlank plan.excluded, ∃ p, Pattern.ofText? t = .ok p := by
  simp only [List.forall_mem_append, ← patterns?_isOk_iff, ofPlan?_eq_ok_iff]
  constructor
  · rintro ⟨f, hps, hqs⟩
    exact ⟨⟨_, hps⟩, _, hqs⟩
  · rintro ⟨⟨ps, hps⟩, qs, hqs⟩
    exact ⟨⟨ps, qs⟩, hps, hqs⟩

/-- What is made of a plan depends on the texts that are kept. -/
theorem ofPlan?_congr {plan' : FilterPlan}
    (hincluded : keptTexts plan.included = keptTexts plan'.included)
    (hexcluded : keptTexts plan.excluded = keptTexts plan'.excluded) :
    ofPlan? plan = ofPlan? plan' := by
  rw [ofPlan?, ofPlan?, patterns?, patterns?, patterns?, patterns?, hincluded, hexcluded]

/-- A name is selected for inclusion: a pattern matches it, or there are none. -/
def Includes (f : ClassFilter) (name : String) : Prop :=
  f.included = [] ∨ ∃ p ∈ f.included, p.matchesWhole name = true

/-- A name is excluded: a pattern matches it. -/
def Excludes (f : ClassFilter) (name : String) : Prop :=
  ∃ p ∈ f.excluded, p.matchesWhole name = true

theorem allow_eq_true_iff (f : ClassFilter) (name : String) :
    f.allow name = true ↔ f.Includes name ∧ ¬f.Excludes name := by
  simp [allow, Includes, Excludes, List.isEmpty_iff]

end ClassFilter

/-! ## The filter of a comparison -/

namespace CommandLine

variable {s : Settings} {r : DiffRequest} {f : ClassFilter}

open ClassFilter

/-- The words of the text with patterns. -/
theorem ofText_subset (text : String) :
    (FilterPlan.ofText text).included ⊆ Text.wordsOf text ∧
      (FilterPlan.ofText text).excluded ⊆ Text.wordsOf text :=
  ⟨List.takeWhile_subset _, List.Subset.trans (List.filter_subset_self _) (List.dropWhile_subset _)⟩

theorem givenTexts_eq (s : Settings) (r : DiffRequest) :
    givenTexts s r =
      ⟨nonBlank (s.filter.append r.filter).included ++
          (FilterPlan.ofText (r.patterns.getD "")).included,
        nonBlank (s.filter.append r.filter).excluded ++
          (FilterPlan.ofText (r.patterns.getD "")).excluded⟩ := rfl

theorem nonBlank_givenTexts (s : Settings) (r : DiffRequest) :
    nonBlank (givenTexts s r).included = (givenTexts s r).included ∧
      nonBlank (givenTexts s r).excluded = (givenTexts s r).excluded := by
  have htwice : ∀ texts, nonBlank (nonBlank texts) = nonBlank texts := by
    intro texts
    refine nonBlank_eq_self fun t ht => ?_
    obtain ⟨hmem, hne⟩ := List.mem_filter.mp ht
    obtain ⟨u, _, rfl⟩ := List.mem_map.mp hmem
    exact ⟨Text.trimmed_trimmed u, bne_iff_ne.mp hne⟩
  obtain ⟨hincluded, hexcluded⟩ := ofText_subset (r.patterns.getD "")
  constructor
  · rw [givenTexts_eq, nonBlank_append, htwice, nonBlank_of_subset_wordsOf hincluded]
  · rw [givenTexts_eq, nonBlank_append, htwice, nonBlank_of_subset_wordsOf hexcluded]

theorem ofPlan?_givenTexts_isOk_iff :
    (∃ f, ofPlan? (givenTexts s r) = .ok f) ↔ (givenTexts s r).Readable := by
  obtain ⟨hincluded, hexcluded⟩ := nonBlank_givenTexts s r
  rw [ofPlan?_isOk_iff, hincluded, hexcluded, FilterPlan.Readable]

/-- **Making the filter** is as if the words of the text with patterns had been options. -/
theorem filterOf?_eq_ok_iff : filterOf? s r = .ok f ↔ ofPlan? (givenTexts s r) = .ok f := by
  obtain ⟨hkeepIncluded, hkeepExcluded⟩ := nonBlank_givenTexts s r
  -- without a text the options are all there is
  have hplain : r.patterns.getD "" = "" →
      ofPlan? (s.filter.append r.filter) = ofPlan? (givenTexts s r) := by
    intro hempty
    refine ofPlan?_congr ?_ ?_
    · rw [keptTexts_eq, keptTexts_eq, hkeepIncluded, givenTexts_eq, hempty]
      exact congrArg List.eraseDups (List.append_nil _).symm
    · rw [keptTexts_eq, keptTexts_eq, hkeepExcluded, givenTexts_eq, hempty]
      exact congrArg List.eraseDups (List.append_nil _).symm
  unfold filterOf?
  simp only []
  split
  · next hnone => rw [hplain (by rw [hnone]; rfl)]
  · next hempty => rw [hplain (by rw [hempty]; rfl)]
  · next text _ htext =>
      obtain ⟨hincluded, hexcluded⟩ := ofText_subset text
      have hgiven := givenTexts_eq s r
      rw [show r.patterns.getD "" = text by rw [htext]; rfl] at hgiven
      have hsecond : ∀ parsed, ofPlan? (.ofText text) = .ok parsed →
          ofPlan? ((s.filter.append r.filter).append
            ⟨parsed.included.map Pattern.source, parsed.excluded.map Pattern.source⟩) =
            ofPlan? (givenTexts s r) := by
        intro parsed hparsed
        obtain ⟨hps, hqs⟩ := ofPlan?_eq_ok_iff.mp hparsed
        rw [map_source_of_patterns? hps, map_source_of_patterns? hqs]
        refine ofPlan?_congr ?_ ?_
        · rw [FilterPlan.append, keptTexts_append_keptTexts _ hincluded, keptTexts_eq,
            hkeepIncluded, hgiven]
        · rw [FilterPlan.append, keptTexts_append_keptTexts _ hexcluded, keptTexts_eq,
            hkeepExcluded, hgiven]
      rw [bind_eq_ok_iff]
      constructor
      · rintro ⟨parsed, hparsed, h⟩
        rwa [hsecond parsed hparsed] at h
      · intro h
        -- what is read of all texts is read of the words among them
        have hwords : ∃ parsed, ofPlan? (.ofText text) = .ok parsed := by
          have hreadable := ofPlan?_givenTexts_isOk_iff.mp ⟨f, h⟩
          rw [FilterPlan.Readable, hgiven] at hreadable
          rw [ofPlan?_isOk_iff, nonBlank_of_subset_wordsOf hincluded,
            nonBlank_of_subset_wordsOf hexcluded]
          intro t ht
          refine hreadable t ?_
          simp only [List.mem_append] at ht ⊢
          tauto
        obtain ⟨parsed, hparsed⟩ := hwords
        exact ⟨parsed, hparsed, (hsecond parsed hparsed).trans h⟩

/-- A name is selected for inclusion by the texts that the filter is made from. -/
theorem includes_iff (h : filterOf? s r = .ok f) (name : String) :
    f.Includes name ↔
      (givenTexts s r).included = [] ∨ ∃ t ∈ (givenTexts s r).included, FullMatches t name := by
  have hps := (ofPlan?_eq_ok_iff.mp (filterOf?_eq_ok_iff.mp h)).1
  have hincluded := (nonBlank_givenTexts s r).1
  have hempty : f.included = [] ↔ (givenTexts s r).included = [] := by
    rw [← List.map_eq_nil_iff (f := Pattern.source), map_source_of_patterns? hps, keptTexts_eq,
      hincluded]
    simp only [List.eq_nil_iff_forall_not_mem, List.mem_eraseDups]
  rw [Includes, exists_mem_patterns?_iff hps name, hincluded, hempty]

/-- A name is excluded by the texts that the filter is made from. -/
theorem excludes_iff (h : filterOf? s r = .ok f) (name : String) :
    f.Excludes name ↔ ∃ t ∈ (givenTexts s r).excluded, FullMatches t name := by
  have hqs := (ofPlan?_eq_ok_iff.mp (filterOf?_eq_ok_iff.mp h)).2
  rw [Excludes, exists_mem_patterns?_iff hqs name, (nonBlank_givenTexts s r).2]

/-- A filter lets a name pass by the texts it is made from. -/
theorem allow_iff (h : filterOf? s r = .ok f) (name : String) :
    f.allow name = true ↔ (givenTexts s r).Passes name := by
  rw [allow_eq_true_iff, includes_iff h, excludes_iff h, FilterPlan.Passes]
  simp only [not_exists, not_and]

/-- **Selecting by sets of patterns**: if every text that a comparison is given for its filter is a
pattern, the filter is made and lets a name pass exactly if the texts do.  So another comparison that
is given the same texts, in any order, number or place, selects the same names.  The filter keeps
each text where it occurs first. -/
theorem filterOf?_selects (s : Settings) (r : DiffRequest) (h : (givenTexts s r).Readable) :
    ∃ f, filterOf? s r = .ok f ∧
      (∀ name, f.allow name = true ↔ (givenTexts s r).Passes name) ∧
      FirstOccurrences (givenTexts s r).included (f.included.map Pattern.source) ∧
      FirstOccurrences (givenTexts s r).excluded (f.excluded.map Pattern.source) ∧
      ∀ s' r', (givenTexts s' r').SameTexts (givenTexts s r) →
        ∃ f', filterOf? s' r' = .ok f' ∧ f'.allow = f.allow := by
  obtain ⟨f, hf⟩ := ofPlan?_givenTexts_isOk_iff.mpr h
  obtain ⟨hps, hqs⟩ := ofPlan?_eq_ok_iff.mp hf
  obtain ⟨hincluded, hexcluded⟩ := nonBlank_givenTexts s r
  rw [← filterOf?_eq_ok_iff] at hf
  refine ⟨f, hf, allow_iff hf, ?_, ?_, ?_⟩
  · rw [map_source_of_patterns? hps, keptTexts_eq, hincluded]
    exact firstOccurrences_eraseDups _
  · rw [map_source_of_patterns? hqs, keptTexts_eq, hexcluded]
    exact firstOccurrences_eraseDups _
  · intro s' r' hsame
    obtain ⟨f', hf'⟩ := ofPlan?_givenTexts_isOk_iff.mpr (hsame.readable_iff.mpr h)
    rw [← filterOf?_eq_ok_iff] at hf'
    refine ⟨f', hf', funext fun name => ?_⟩
    rw [Bool.eq_iff_iff, allow_iff hf', allow_iff hf, hsame.passes_iff]

end CommandLine

/-! ## Samples -/

namespace Sample

open CommandLine

/-- Settings with patterns that are padded, blank or repeated. -/
def paddedSettings : Settings :=
  { filter := ⟨["  .*Bar ", "", "org\\.Foo"], ["\t"]⟩ }

/-- A request with patterns in its options and in one text, some of them again. -/
def mixedRequest : DiffRequest :=
  { baseline := { names := ["a.xml"] }, current := { names := ["b.xml"] },
    filter := ⟨[".*Bar"], []⟩, patterns := some "org\\.Foo a -exclude org\\.Bar -exclude b" }

/-- A request with the same patterns in one text. -/
def wordsRequest : DiffRequest :=
  { mixedRequest with filter := {}, patterns := some "a org\\.Foo .*Bar -exclude b org\\.Bar" }

/-- The names that are selected, and the patterns in the order in which they are kept. -/
theorem filterOf?_mixed_words :
    (givenTexts paddedSettings mixedRequest).Readable ∧
      (givenTexts {} wordsRequest).SameTexts (givenTexts paddedSettings mixedRequest) ∧
        ∃ f, filterOf? paddedSettings mixedRequest = .ok f ∧
          ["x.Bar", "org.Bar", "org.Foo", "a", "b"].filter f.allow = ["x.Bar", "org.Foo", "a"] ∧
          f.included.map Pattern.source = [".*Bar", "org\\.Foo", "a"] ∧
          FirstOccurrences [".*Bar", "org\\.Foo", ".*Bar", "org\\.Foo", "a"]
            (f.included.map Pattern.source) ∧
          ∃ f', filterOf? {} wordsRequest = .ok f' ∧ f'.allow = f.allow := by
  have hreadable : (givenTexts paddedSettings mixedRequest).Readable := by
    intro t ht
    have hall : ∀ t ∈ (givenTexts paddedSettings mixedRequest).included ++
        (givenTexts paddedSettings mixedRequest).excluded,
        (Pattern.ofText? t).toOption.isSome = true := by decide +kernel
    exact isOk_of_isSome (hall t ht)
  have hsame : (givenTexts {} wordsRequest).SameTexts (givenTexts paddedSettings mixedRequest) := by
    have hwords : givenTexts {} wordsRequest =
        ⟨["a", "org\\.Foo", ".*Bar"], ["b", "org\\.Bar"]⟩ := by decide +kernel
    have hmixed : givenTexts paddedSettings mixedRequest =
        ⟨[".*Bar", "org\\.Foo", ".*Bar", "org\\.Foo", "a"], ["org\\.Bar", "b"]⟩ := by decide +kernel
    rw [hwords, hmixed]
    constructor <;> intro t <;> simp <;> tauto
  obtain ⟨f, hf, _, hfirst, _, hagree⟩ := filterOf?_selects paddedSettings mixedRequest hreadable
  have hvalue : (filterOf? paddedSettings mixedRequest).map (fun f =>
      (["x.Bar", "org.Bar", "org.Foo", "a", "b"].filter f.allow, f.included.map Pattern.source)) =
      .ok (["x.Bar", "org.Foo", "a"], [".*Bar", "org\\.Foo", "a"]) := by decide +kernel
  rw [hf] at hvalue
  obtain ⟨hallow, hsources⟩ := Prod.mk.inj (Except.ok.inj hvalue)
  exact ⟨hreadable, hsame, f, hf, hallow, hsources, hfirst, hagree {} wordsRequest hsame⟩

end Sample

end CoverageDiff
