import CoverageDiff.Proofs.Reading
import CoverageDiff.Proofs.Words

/-!
# CoverageDiff.Proofs.Grammar

Which documents are coverage reports, said on their elements and texts and not
through the reader:

1. a condition is a jump with counts, a jump with a finite percentage, or a
   switch with as many keys as counts (`IsCondition`);
2. a row is skipped if its number or its count does not read (`Skipped`); any
   other has a count that is not negative, and only conditions (`IsRow`);
3. a class element has a name, and rows (`IsClass`);
4. a report has a root of its own kind, and only class elements in it that are
   some (`IsReport`).

The reader accepts exactly this (`read_iff_isReport`), by one equivalence for
each of its steps: attributes, conditions, rows, class elements, documents.
-/

namespace CoverageDiff.Cobertura

open Markup

/-! ## Attributes -/

/-- The attribute is absent or blank. -/
def IsUnset (n : Node) (name : String) : Prop :=
  ∀ raw, n.attribute? name = some raw → Text.isBlankString raw = true

/-- The attribute is a whole number. -/
def GivesNumber (n : Node) (name : String) (value : Int) : Prop :=
  ∃ raw, n.attribute? name = some raw ∧ Text.int? raw = some value

/-- The attribute is a count. -/
def HasCount (n : Node) (name : String) : Prop :=
  ∃ value, GivesNumber n name value ∧ 0 ≤ value

/-- The attribute is absent, blank or a count. -/
def MayHaveCount (n : Node) (name : String) : Prop :=
  IsUnset n name ∨ HasCount n name

/-- What stands between the blanks and commas of a text. -/
def listItems (raw : String) : List String :=
  ((raw.toList.splitOnP fun c => c == ',' || Text.isBlank c).filter fun item =>
    !item.isEmpty).map String.ofList

/-- The attribute lists whole numbers; an absent one lists none. -/
def ListsNumbers (n : Node) (name : String) (values : List Int) : Prop :=
  List.Forall₂ (fun item value => Text.int? item = some value)
    (listItems ((n.attribute? name).getD "")) values

/-- The number that a text denotes, without blanks around it and percent signs after it. -/
def percentNumber? (raw : String) : Option Binary64 :=
  (Decimal.read? ((Text.trim raw.toList).rdropWhile (· == '%'))).map Binary64.ofDecimal

/-- The percentage of an element. -/
def percentage? (n : Node) : Option Binary64 :=
  (n.attribute? "coverage").bind percentNumber?

/-! ## Conditions -/

/-- The kind of a condition: a jump if none is named, else what is named, without blanks around it
and in small letters. -/
inductive OfKind (n : Node) : String → Prop
  | absent (h : n.attribute? "type" = none) : OfKind n "jump"
  | empty (h : n.attribute? "type" = some "") : OfKind n "jump"
  | named {raw : String} (h : n.attribute? "type" = some raw) (hraw : raw ≠ "") :
      OfKind n (String.ofList (Text.lower (Text.trim raw.toList)))

/-- Some outcome of a jump has an attribute. -/
def NamesOutcome (n : Node) : Prop :=
  n.attribute? "true-hits" ≠ none ∨ n.attribute? "false-hits" ≠ none

/-- What a condition is. -/
inductive IsCondition (n : Node) : Prop
  | countedJump (kind : OfKind n "jump") (number : HasCount n "number") (named : NamesOutcome n)
      (trueHits : MayHaveCount n "true-hits") (falseHits : MayHaveCount n "false-hits")
  | percentJump (kind : OfKind n "jump") (number : HasCount n "number")
      (unnamed : ¬NamesOutcome n) {negative : Bool} {m : Nat} {q : Int}
      (percentage : percentage? n = some (.finite negative m q))
  | switch (kind : OfKind n "switch") (number : HasCount n "number") {keys hits : List Int}
      (listsKeys : ListsNumbers n "keys" keys) (listsHits : ListsNumbers n "hits" hits)
      (even : keys.length = hits.length) (defaultHits : MayHaveCount n "default-hits")

/-! ## Rows -/

/-- The number of the row is no positive whole number, or there is a text for its count that is
no whole number. -/
def Skipped (n : Node) : Prop :=
  (¬∃ number, GivesNumber n "number" number ∧ 1 ≤ number) ∨
    ∃ raw, n.attribute? "hits" = some raw ∧ raw ≠ "" ∧ Text.int? raw = none

/-- What a row is that is not skipped. -/
structure IsRow (n : Node) : Prop where
  hits : n.attribute? "hits" = none ∨ n.attribute? "hits" = some "" ∨ HasCount n "hits"
  conditions : ∀ condition ∈ rowConditions n, IsCondition condition

/-! ## Documents -/

/-- What a class element is. -/
structure IsClass (n : Node) : Prop where
  name : ∃ raw, n.attribute? "name" = some raw ∧ Text.isBlankString raw = false
  rows : ∀ row ∈ classRows n, ¬Skipped row → IsRow row

/-- After the last closing brace of the tag stands `coverage`, in letters of any size. -/
def HasReportTag (n : Node) : Prop :=
  ∃ address name, n.tag.toList = address ++ name ∧
    (address = [] ∨ address.getLast? = some '\x7d') ∧ '\x7d' ∉ name ∧
      String.ofList (Text.lower name) = "coverage"

/-- What a report is. -/
structure IsReport (root : Node) : Prop where
  tag : HasReportTag root
  classes : ∀ n ∈ classElements root, IsClass n

/-! ## Attributes that are read -/

section Attributes

variable {n : Node} {name raw : String} {value : Int}

theorem givenText?_eq_some_iff :
    givenText? n name = some raw ↔
      n.attribute? name = some raw ∧ Text.isBlankString raw = false := by
  simp [givenText?, Option.filter_eq_some_iff]

theorem givenText?_eq_none_iff : givenText? n name = none ↔ IsUnset n name := by
  simp [givenText?, Option.filter_eq_none_iff, IsUnset]

theorem countOf?_eq_ok_iff {tag : String} :
    countOf? tag name raw = .ok value ↔ Text.int? raw = some value ∧ 0 ≤ value := by
  unfold countOf?
  cases hread : Text.int? raw with
  | none => simp
  | some v =>
      by_cases hv : v < 0
      · simp [hv]
        omega
      · simp [hv]
        omega

/-- A number is no blank text. -/
theorem GivesNumber.givenText? (h : GivesNumber n name value) :
    ∃ raw, givenText? n name = some raw ∧ Text.int? raw = some value := by
  obtain ⟨raw, hraw, hread⟩ := h
  refine ⟨raw, givenText?_eq_some_iff.mpr ⟨hraw, ?_⟩, hread⟩
  rw [Bool.eq_false_iff]
  intro hblank
  rw [Text.int?_eq_none hblank] at hread
  cases hread

theorem not_isUnset (h : GivesNumber n name value) : ¬IsUnset n name := by
  obtain ⟨raw, hgiven, _⟩ := h.givenText?
  rw [← givenText?_eq_none_iff, hgiven]
  exact Option.some_ne_none raw

/-- A count that has to be given. -/
theorem count?_eq_ok_iff : count? n name = .ok value ↔ GivesNumber n name value ∧ 0 ≤ value := by
  unfold count?
  cases hgiven : Cobertura.givenText? n name with
  | none =>
      have hunset := givenText?_eq_none_iff.mp hgiven
      simp only [reduceCtorEq, false_iff]
      exact fun h => not_isUnset h.1 hunset
  | some raw =>
      have hraw := (givenText?_eq_some_iff.mp hgiven).1
      simp only [countOf?_eq_ok_iff, GivesNumber, hraw, Option.some.injEq, exists_eq_left']

/-- A count that is zero if it is not given. -/
theorem countOrZero?_eq_ok_iff :
    countOrZero? n name = .ok value ↔
      IsUnset n name ∧ value = 0 ∨ GivesNumber n name value ∧ 0 ≤ value := by
  unfold countOrZero?
  cases hgiven : Cobertura.givenText? n name with
  | none =>
      have hunset := givenText?_eq_none_iff.mp hgiven
      have hnot : ¬GivesNumber n name value := fun h => not_isUnset h hunset
      simp [hunset, hnot, eq_comm]
  | some raw =>
      have hraw := (givenText?_eq_some_iff.mp hgiven).1
      have hset : ¬IsUnset n name := by
        rw [← givenText?_eq_none_iff, hgiven]
        exact Option.some_ne_none raw
      simp [countOf?_eq_ok_iff, GivesNumber, hraw, hset]

theorem count?_isOk_iff : (∃ value, count? n name = .ok value) ↔ HasCount n name := by
  simp only [count?_eq_ok_iff, HasCount]

theorem countOrZero?_isOk_iff :
    (∃ value, countOrZero? n name = .ok value) ↔ MayHaveCount n name := by
  simp only [countOrZero?_eq_ok_iff, exists_or, exists_and_left, exists_eq, and_true,
    MayHaveCount, HasCount]

theorem listItems_eq_wordsOf (raw : String) :
    listItems raw = Text.wordsOf (commasAsBlanks raw) := by
  have hsplit : (raw.toList.map fun c => if c = ',' then ' ' else c).splitOnP Text.isBlank =
      raw.toList.splitOnP fun c => c == ',' || Text.isBlank c := by
    refine Text.splitOnP_map ?_ ?_ _
    · intro c
      by_cases hc : c = ','
      · rw [if_pos hc, hc]
        decide
      · simp [hc]
    · intro c hc
      exact if_neg fun h => by simp [h] at hc
  rw [listItems, Text.wordsOf, commasAsBlanks, String.toList_ofList, Text.words_eq_splitOnP, hsplit]

/-- A list of whole numbers. -/
theorem numbers?_eq_ok_iff {values : List Int} :
    numbers? n name = .ok values ↔ ListsNumbers n name values := by
  rw [ListsNumbers, listItems_eq_wordsOf, ← Text.mapM_eq_some_iff, numbers?]
  cases (Text.wordsOf (commasAsBlanks ((n.attribute? name).getD ""))).mapM Text.int? with
  | none => simp
  | some values' => simp

/-- An attribute lists the same numbers always. -/
theorem ListsNumbers.unique {values values' : List Int} (h : ListsNumbers n name values)
    (h' : ListsNumbers n name values') : values = values' :=
  Except.ok.inj ((numbers?_eq_ok_iff.mpr h).symm.trans (numbers?_eq_ok_iff.mpr h'))

/-- What a percentage is read as: its whole part.  One that is no number counts as none. -/
def wholePercent : Option Binary64 → Except ReadError (Option Int)
  | none => .ok none
  | some x =>
    match x.truncate with
    | .ok value => .ok (some value)
    | .error .nan => .ok none
    | .error .infinite => .error .infiniteCoverage

theorem percentOf?_eq (raw : String) : percentOf? raw = wholePercent (percentNumber? raw) := by
  have htext : percentText raw = (Text.trim raw.toList).rdropWhile (· == '%') := rfl
  rw [percentOf?, htext, percentNumber?]
  cases Decimal.read? ((Text.trim raw.toList).rdropWhile (· == '%')) with
  | none => rfl
  | some d => rfl

theorem percent?_eq (n : Node) : percent? n = wholePercent (percentage? n) := by
  rw [percent?, percentOf?_eq, percentage?]
  cases n.attribute? "coverage" with
  | none =>
      have hempty : percentNumber? "" = none := by decide +kernel
      rw [Option.getD_none, hempty, Option.bind_none]
  | some raw => rw [Option.getD_some, Option.bind_some]

theorem percent?_eq_some_iff :
    percent? n = .ok (some value) ↔
      ∃ negative m q, percentage? n = some (.finite negative m q) ∧
        (Binary64.finite negative m q).truncate = .ok value := by
  rw [percent?_eq]
  rcases percentage? n with _ | ⟨_ | _ | _⟩ <;> simp [Binary64.truncate, wholePercent]

theorem percent?_eq_error_iff {e : ReadError} :
    percent? n = .error e ↔
      e = .infiniteCoverage ∧ ∃ negative, percentage? n = some (.infinite negative) := by
  rw [percent?_eq]
  rcases percentage? n with _ | ⟨_ | _ | _⟩ <;> simp [Binary64.truncate, wholePercent, eq_comm]

theorem percent?_isSome_iff :
    (∃ value, percent? n = .ok (some value)) ↔
      ∃ negative m q, percentage? n = some (.finite negative m q) := by
  simp only [percent?_eq_some_iff]
  constructor
  · rintro ⟨value, negative, m, q, h, _⟩
    exact ⟨negative, m, q, h⟩
  · rintro ⟨negative, m, q, h⟩
    exact ⟨_, negative, m, q, h, rfl⟩

end Attributes

/-! ## Conditions that are read -/

section Conditions

variable {n : Node}

/-- The kind of a condition is the one it is read as. -/
theorem ofKind_iff {kind : String} : OfKind n kind ↔ conditionKind n = kind := by
  have hjump : String.ofList (Text.lower (Text.trim "jump".toList)) = "jump" := by decide +kernel
  constructor
  · intro h
    cases h with
    | absent h => simp only [conditionKind, h, hjump]
    | empty h => simp only [conditionKind, h, hjump]
    | @named raw h hraw =>
        unfold conditionKind
        split
        · next hnone => simp [hnone] at h
        · next hempty => simp [hempty, eq_comm, hraw] at h
        · next s _ hs =>
            rw [hs] at h
            cases h
            rfl
  · rintro rfl
    unfold conditionKind
    split
    · next h =>
        rw [hjump]
        exact .absent h
    · next h =>
        rw [hjump]
        exact .empty h
    · next s hs h => exact .named h hs

theorem hasCounts_iff : hasCounts n = true ↔ NamesOutcome n := by
  simp [hasCounts, NamesOutcome, Option.isSome_iff_ne_none]

@[simp] theorem index_jumpOfPercent (index value : Int) :
    (jumpOfPercent index value).index = index := by
  unfold jumpOfPercent
  split
  · rfl
  · split <;> rfl

/-- The jump of a condition has the counts that are given, or those of the percentage. -/
theorem jump?_eq_ok_iff {line : Int} {j : Jump} :
    jump? line n = .ok j ↔
      count? n "number" = .ok j.index ∧
        (NamesOutcome n ∧ countOrZero? n "true-hits" = .ok j.trueHits ∧
            countOrZero? n "false-hits" = .ok j.falseHits ∨
          ¬NamesOutcome n ∧ ∃ value, percent? n = .ok (some value) ∧
            jumpOfPercent j.index value = j) := by
  simp only [jump?, bind_eq_ok_iff]
  by_cases hnamed : NamesOutcome n
  · simp only [if_pos (hasCounts_iff.mpr hnamed), bind_eq_ok_iff, hnamed, true_and,
      not_true_eq_false, false_and, or_false]
    constructor
    · rintro ⟨index, hindex, trueHits, htrue, falseHits, hfalse, h⟩
      cases h
      exact ⟨hindex, htrue, hfalse⟩
    · rintro ⟨hindex, htrue, hfalse⟩
      exact ⟨j.index, hindex, j.trueHits, htrue, j.falseHits, hfalse, rfl⟩
  · simp only [if_neg (mt hasCounts_iff.mp hnamed), bind_eq_ok_iff, hnamed, false_and,
      not_false_eq_true, true_and, false_or]
    constructor
    · rintro ⟨index, hindex, percent, hpercent, h⟩
      cases percent with
      | none => cases h
      | some value =>
          cases h
          exact ⟨by rw [index_jumpOfPercent]; exact hindex, value, hpercent, by
            rw [index_jumpOfPercent]⟩
    · rintro ⟨hindex, value, hpercent, hj⟩
      exact ⟨j.index, hindex, some value, hpercent, congrArg Except.ok hj⟩

/-- The switch of a condition has the keys and counts that are listed. -/
theorem switch?_eq_ok_iff {line : Int} {s : Switch} :
    switch? line n = .ok s ↔
      count? n "number" = .ok s.index ∧ ListsNumbers n "keys" s.keys ∧
        ListsNumbers n "hits" s.hits ∧ s.keys.length = s.hits.length ∧
          countOrZero? n "default-hits" = .ok s.defaultHits := by
  simp only [switch?, bind_eq_ok_iff, numbers?_eq_ok_iff]
  constructor
  · rintro ⟨index, hindex, keys, hkeys, hits, hhits, h⟩
    split at h
    · next hlen =>
        obtain ⟨defaultHits, hdefault, h⟩ := bind_eq_ok h
        cases h
        exact ⟨hindex, hkeys, hhits, hlen, hdefault⟩
    · cases h
  · rintro ⟨hindex, hkeys, hhits, hlen, hdefault⟩
    refine ⟨s.index, hindex, s.keys, hkeys, s.hits, hhits, ?_⟩
    rw [if_pos hlen, hdefault]
    rfl

/-- **Conditions**: one is accepted on every line, or on none. -/
theorem addCondition?_isOk_iff (l : Line) (n : Node) :
    (∃ l', addCondition? l n = .ok l') ↔ IsCondition n := by
  have hapart : ¬"switch" = "jump" := by decide
  rw [addCondition?]
  constructor
  · intro h
    by_cases hjump : conditionKind n = "jump"
    · rw [if_pos hjump, map_isOk_iff] at h
      obtain ⟨j, hj⟩ := h
      obtain ⟨hindex, ⟨hnamed, htrue, hfalse⟩ | ⟨hunnamed, value, hvalue, _⟩⟩ :=
        jump?_eq_ok_iff.mp hj
      · exact .countedJump (ofKind_iff.mpr hjump) (count?_isOk_iff.mp ⟨_, hindex⟩) hnamed
          (countOrZero?_isOk_iff.mp ⟨_, htrue⟩) (countOrZero?_isOk_iff.mp ⟨_, hfalse⟩)
      · obtain ⟨negative, m, q, hpercentage⟩ := percent?_isSome_iff.mp ⟨value, hvalue⟩
        exact .percentJump (ofKind_iff.mpr hjump) (count?_isOk_iff.mp ⟨_, hindex⟩) hunnamed
          hpercentage
    · rw [if_neg hjump] at h
      by_cases hswitch : conditionKind n = "switch"
      · rw [if_pos hswitch, map_isOk_iff] at h
        obtain ⟨s, hs⟩ := h
        obtain ⟨hindex, hkeys, hhits, hlen, hdefault⟩ := switch?_eq_ok_iff.mp hs
        exact .switch (ofKind_iff.mpr hswitch) (count?_isOk_iff.mp ⟨_, hindex⟩) hkeys hhits hlen
          (countOrZero?_isOk_iff.mp ⟨_, hdefault⟩)
      · rw [if_neg hswitch] at h
        obtain ⟨l', hl'⟩ := h
        cases hl'
  · intro h
    cases h with
    | countedJump kind number named trueHits falseHits =>
        obtain ⟨index, hindex⟩ := count?_isOk_iff.mpr number
        obtain ⟨t, ht⟩ := countOrZero?_isOk_iff.mpr trueHits
        obtain ⟨f, hf⟩ := countOrZero?_isOk_iff.mpr falseHits
        rw [if_pos (ofKind_iff.mp kind), map_isOk_iff]
        exact ⟨⟨index, t, f⟩, jump?_eq_ok_iff.mpr ⟨hindex, .inl ⟨named, ht, hf⟩⟩⟩
    | percentJump kind number unnamed percentage =>
        obtain ⟨index, hindex⟩ := count?_isOk_iff.mpr number
        obtain ⟨value, hvalue⟩ := percent?_isSome_iff.mpr ⟨_, _, _, percentage⟩
        rw [if_pos (ofKind_iff.mp kind), map_isOk_iff]
        refine ⟨jumpOfPercent index value, jump?_eq_ok_iff.mpr ?_⟩
        simp only [index_jumpOfPercent]
        exact ⟨hindex, .inr ⟨unnamed, value, hvalue, rfl⟩⟩
    | @switch kind number keys hits listsKeys listsHits even defaultHits =>
        obtain ⟨index, hindex⟩ := count?_isOk_iff.mpr number
        obtain ⟨d, hd⟩ := countOrZero?_isOk_iff.mpr defaultHits
        rw [ofKind_iff.mp kind, if_neg hapart, if_pos rfl, map_isOk_iff]
        exact ⟨⟨index, keys, hits, d⟩,
          switch?_eq_ok_iff.mpr ⟨hindex, listsKeys, listsHits, even, hd⟩⟩

end Conditions

/-! ## Rows that are read -/

section Rows

variable {n : Node}

theorem hitsAreSound_iff :
    hitsAreSound n = true ↔
      ¬∃ raw, n.attribute? "hits" = some raw ∧ raw ≠ "" ∧ Text.int? raw = none := by
  unfold hitsAreSound
  cases n.attribute? "hits" with
  | none => simp
  | some raw => simp [Option.isSome_iff_ne_none, Decidable.or_iff_not_imp_left]

/-- A row that is not skipped has its number, which is positive. -/
theorem rowNumber_eq_ok_iff {number : Int} :
    rowNumber n = .ok number ↔
      GivesNumber n "number" number ∧ 1 ≤ number ∧ hitsAreSound n = true := by
  have hnumber : ∀ k, (n.attribute? "number").bind Text.int? = some k ↔ GivesNumber n "number" k :=
    fun k => Option.bind_eq_some_iff
  unfold rowNumber
  split
  · next k hk hhits =>
      have hgives : GivesNumber n "number" number ↔ k = number := by
        rw [← hnumber, hk, Option.some_inj]
      by_cases hpos : k < 1
      · rw [if_pos hpos, hgives]
        simp only [reduceCtorEq, false_iff]
        omega
      · rw [if_neg hpos, hgives, hhits, Except.ok.injEq]
        simp only [and_true]
        omega
  · next hnot =>
      simp only [reduceCtorEq, false_iff]
      rintro ⟨hgives, _, hhits⟩
      exact hnot number ((hnumber number).mpr hgives) hhits

/-- **Skipping**: a row is skipped exactly if its number or its count does not read. -/
theorem rowNumber_isError_iff : (∃ skip, rowNumber n = .error skip) ↔ Skipped n := by
  rw [← not_isOk_iff]
  simp only [rowNumber_eq_ok_iff, hitsAreSound_iff, ← and_assoc, exists_and_right, Skipped]
  rw [not_and_or, not_not]

theorem rowNumber_isOk_iff : (∃ number, rowNumber n = .ok number) ↔ ¬Skipped n := by
  rw [← rowNumber_isError_iff, ← not_isOk_iff, not_not]

/-- The line of a row is read if its count and its conditions are. -/
theorem line?_isOk_iff {number : Int} :
    (∃ l, line? number n = .ok l) ↔
      MayHaveCount n "hits" ∧ ∀ condition ∈ rowConditions n, IsCondition condition := by
  rw [line?, bind_isOk_iff, ← countOrZero?_isOk_iff, ← exists_and_right]
  refine exists_congr fun hits => and_congr_right fun _ => ?_
  exact foldlM_isOk_iff addCondition?_isOk_iff _ _

/-- A count that is no number is the count of a skipped row. -/
theorem hits_iff (h : ¬Skipped n) :
    MayHaveCount n "hits" ↔
      n.attribute? "hits" = none ∨ n.attribute? "hits" = some "" ∨ HasCount n "hits" := by
  have hreads := not_or.mp h |>.2
  constructor
  · rintro (hunset | hcount)
    · cases hraw : n.attribute? "hits" with
      | none => exact .inl rfl
      | some raw =>
          by_cases hempty : raw = ""
          · exact .inr (.inl (congrArg some hempty))
          · exact absurd ⟨raw, hraw, hempty, Text.int?_eq_none (hunset raw hraw)⟩ hreads
    · exact .inr (.inr hcount)
  · rintro (hnone | hempty | hcount)
    · exact .inl fun raw hraw => by simp [hnone] at hraw
    · refine .inl fun raw hraw => ?_
      rw [hempty] at hraw
      cases hraw
      rfl
    · exact .inr hcount

/-- The line of a row that is not skipped is read exactly if the row is what a row is. -/
theorem isRow_iff (h : ¬Skipped n) (number : Int) :
    IsRow n ↔ ∃ l, line? number n = .ok l := by
  rw [line?_isOk_iff, hits_iff h]
  constructor
  · intro hrow
    exact ⟨hrow.hits, hrow.conditions⟩
  · rintro ⟨hhits, hconds⟩
    exact ⟨hhits, hconds⟩

/-- **Rows**: one is accepted if it is skipped, or else what a row is. -/
theorem rowSound_iff : RowSound n ↔ (¬Skipped n → IsRow n) := by
  constructor
  · intro h hread
    obtain ⟨number, hnumber⟩ := rowNumber_isOk_iff.mpr hread
    rw [isRow_iff hread number, isOk_iff]
    exact fun e => h number e hnumber
  · intro h number e hnumber
    have hread : ¬Skipped n := rowNumber_isOk_iff.mp ⟨number, hnumber⟩
    have hline := (isRow_iff hread number).mp (h hread)
    exact isOk_iff.mp hline e

/-- A skipped row leaves nothing behind, whatever it holds. -/
theorem addRows_skipped (source : String) (c : Class) (before after : List Node)
    (h : Skipped n) :
    (addRows source c (before ++ n :: after)).2 = (addRows source c (before ++ after)).2 := by
  induction before generalizing c with
  | nil =>
      obtain ⟨skip, hskip⟩ := rowNumber_isError_iff.mpr h
      rw [List.nil_append, List.nil_append, addRows, hskip]
  | cons row before ih =>
      rw [List.cons_append, List.cons_append, addRows, addRows]
      cases rowNumber row with
      | error skip => exact ih c
      | ok number =>
          cases hl : line? number row with
          | error e => simp only [hl]
          | ok l =>
              simp only [hl]
              exact ih _

end Rows

/-! ## Documents that are read -/

section Documents

variable {n root : Node}

theorem className?_isSome_iff :
    (className? n).isSome = true ↔
      ∃ raw, n.attribute? "name" = some raw ∧ Text.isBlankString raw = false := by
  unfold className?
  cases n.attribute? "name" with
  | none => simp
  | some raw =>
      simp [Option.filter_some, Text.trimmed_eq_empty_iff, apply_ite Option.isSome]

/-- **Class elements**: one is accepted if it is what a class element is. -/
theorem classSound_iff : ClassSound n ↔ IsClass n := by
  simp only [ClassSound, className?_isSome_iff, rowSound_iff]
  constructor
  · rintro ⟨hname, hrows⟩
    exact ⟨hname, hrows⟩
  · intro h
    exact ⟨h.name, h.rows⟩

/-- The local name is what stands after the last closing brace of a tag. -/
theorem localName_iff {tag : String} {P : List Char → Prop} :
    P (localName tag).toList ↔
      ∃ address name, tag.toList = address ++ name ∧
        (address = [] ∨ address.getLast? = some '\x7d') ∧ '\x7d' ∉ name ∧ P name := by
  have hlocal : (localName tag).toList = tag.toList.rtakeWhile (· != '\x7d') :=
    String.toList_ofList
  rw [hlocal]
  constructor
  · intro h
    have happend := List.rdropWhile_append_rtakeWhile (p := (· != '\x7d')) (l := tag.toList)
    refine ⟨_, _, happend.symm, ?_, ?_, h⟩
    · by_cases hnil : tag.toList.rdropWhile (· != '\x7d') = []
      · exact .inl hnil
      · have hlast := List.rdropWhile_last_not _ _ hnil
        rw [bne_iff_ne, not_not] at hlast
        exact .inr (by rw [List.getLast?_eq_some_getLast hnil, hlast])
    · intro hmem
      have hne := List.mem_rtakeWhile_imp hmem
      simp at hne
  · rintro ⟨address, name, htag, haddress, hname, h⟩
    have hall : ∀ c ∈ name.reverse, (c != '\x7d') = true := by
      intro c hc
      rw [bne_iff_ne]
      rintro rfl
      exact hname (List.mem_reverse.mp hc)
    have hstop : address.reverse.takeWhile (· != '\x7d') = [] := by
      rcases haddress with rfl | hlast
      · rfl
      · obtain ⟨rest, rfl⟩ := List.getLast?_eq_some_iff.mp hlast
        rw [List.reverse_append, List.reverse_singleton, List.singleton_append]
        exact List.takeWhile_cons_of_neg (by decide)
    rw [htag, List.rtakeWhile, List.reverse_append, List.takeWhile_append_of_pos hall, hstop,
      List.append_nil, List.reverse_reverse]
    exact h

theorem isRoot_iff : isRoot n = true ↔ HasReportTag n := by
  rw [isRoot, beq_iff_eq]
  exact localName_iff (P := fun name => String.ofList (Text.lower name) = "coverage")

/-- **Documents**: the reader accepts exactly the reports, skips exactly the rows without a number
or with a count that is none, and looks at nothing in these. -/
theorem read_iff_isReport (source : String) (root : Node) :
    ((∃ p, project? source root = .ok p) ↔ IsReport root) ∧
      (∀ row, (∃ skip, rowNumber row = .error skip) ↔ Skipped row) ∧
      ∀ c before after row, Skipped row →
        (addRows source c (before ++ row :: after)).2 = (addRows source c (before ++ after)).2 := by
  refine ⟨?_, fun row => rowNumber_isError_iff,
    fun c before after row => addRows_skipped source c before after⟩
  simp only [project?_eq_ok_iff, exists_and_left, exists_eq', and_true, classSound_iff, isRoot_iff]
  constructor
  · rintro ⟨htag, hclasses⟩
    exact ⟨htag, hclasses⟩
  · intro h
    exact ⟨h.tag, h.classes⟩

end Documents

end CoverageDiff.Cobertura

/-! ## Samples -/

namespace CoverageDiff.Sample

open Markup

/-- A report with a single condition. -/
def conditionReport (attributes : List (String × String)) : Node :=
  .element "coverage" []
    [.element "class" [("name", "A")]
      [.element "lines" []
        [.element "line" [("number", "4"), ("hits", "2")]
          [.element "conditions" [] [.element "condition" attributes []]]]]]

end CoverageDiff.Sample
