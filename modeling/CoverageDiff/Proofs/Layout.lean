import CoverageDiff.Proofs.Literal
import CoverageDiff.Proofs.Words
import Mathlib.Algebra.BigOperators.Group.List.Basic
import Mathlib.Algebra.GroupWithZero.Nat

/-!
# CoverageDiff.Proofs.Layout

What a cell of a table shows of its text.

A line is broken where the words up to there do not fit the column together,
and each of them is measured by itself.  Measured so, words take no more cells
than the text, because each but the last ends in a blank and no blank hides the
character after it (`cellWidthFrom_add_le`).  A line that fits is therefore not
broken (`breakOffsets_spacedWords`), and a text in one line is shown as it is
(`cellLines_of_oneLine`).

Of any text, also one that is broken, no more marks are shown than it has
(`sum_markCount_cellLines_le`).
-/

namespace CoverageDiff.Styled

open Text

/-! ## Cells of a text -/

section Width

variable {last : Option Char} {c : Char} {rest : List Char}

/-- A joiner hides the character after it. -/
theorem cellWidthFrom_joiner (last : Option Char) (c : Char) (rest : List Char) :
    cellWidthFrom last ('\u200d' :: c :: rest) = cellWidthFrom last rest := by
  rw [cellWidthFrom.eq_def]
  exact if_pos rfl

/-- The cells that a sign for the emoji form adds to the character before it. -/
def signWidth : Option Char → Nat
  | some l => if inRanges narrowEmojiRanges l.toNat then 1 else 0
  | none => 0

theorem cellWidthFrom_sign (last : Option Char) (rest : List Char) :
    cellWidthFrom last ('\ufe0f' :: rest) = signWidth last + cellWidthFrom none rest := by
  rw [cellWidthFrom.eq_def]
  have hne : '\ufe0f' ≠ '\u200d' := by decide
  cases last with
  | none => simp [hne, signWidth]
  | some l => simp [hne, signWidth]

theorem cellWidthFrom_cons (hjoiner : c ≠ '\u200d') (hsign : c ≠ '\ufe0f') :
    cellWidthFrom last (c :: rest) =
      charWidth c + cellWidthFrom (if charWidth c = 0 then last else some c) rest := by
  rw [cellWidthFrom.eq_def]
  exact (if_neg hjoiner).trans (if_neg hsign)

end Width

/-- A sign for the emoji form counts only after a character. -/
theorem cellWidthFrom_none_le (last : Option Char) (text : List Char) :
    cellWidthFrom none text ≤ cellWidthFrom last text := by
  induction last, text using cellWidthFrom.induct with
  | case1 last => exact Nat.le_refl _
  | case2 last => exact Nat.zero_le 0
  | case3 last c rest ih => rwa [cellWidthFrom_joiner, cellWidthFrom_joiner]
  | case4 rest l _ _ =>
      rw [cellWidthFrom_sign, cellWidthFrom_sign]
      exact Nat.add_le_add_right (Nat.zero_le _) _
  | case5 rest _ _ => exact Nat.le_refl _
  | case6 last c rest hjoiner hsign width ih =>
      rw [cellWidthFrom_cons hjoiner hsign, cellWidthFrom_cons hjoiner hsign]
      by_cases hzero : charWidth c = 0
      · rw [if_pos hzero] at ih ⊢
        simpa [width, hzero] using ih
      · rw [if_neg hzero, if_neg hzero]

/-- What follows a text takes no cells from it. -/
theorem cellWidthFrom_le_append (last : Option Char) (u v : List Char) :
    cellWidthFrom last u ≤ cellWidthFrom last (u ++ v) := by
  induction last, u using cellWidthFrom.induct with
  | case1 last => exact Nat.zero_le _
  | case2 last => exact Nat.zero_le _
  | case3 last c rest ih =>
      rwa [List.cons_append, List.cons_append, cellWidthFrom_joiner, cellWidthFrom_joiner]
  | case4 rest l _ ih =>
      rw [List.cons_append, cellWidthFrom_sign, cellWidthFrom_sign]
      omega
  | case5 rest _ ih =>
      rw [List.cons_append, cellWidthFrom_sign, cellWidthFrom_sign]
      omega
  | case6 last c rest hjoiner hsign width ih =>
      rw [List.cons_append, cellWidthFrom_cons hjoiner hsign, cellWidthFrom_cons hjoiner hsign]
      exact Nat.add_le_add_left ih _

/-- **Cells add up** where a text is cut behind a character that hides none. -/
theorem cellWidthFrom_add_le (last : Option Char) {u : List Char} (v : List Char)
    (h : u.getLast? ≠ some '\u200d') :
    cellWidthFrom last u + cellWidthFrom none v ≤ cellWidthFrom last (u ++ v) := by
  induction last, u using cellWidthFrom.induct with
  | case1 last =>
      rw [cellWidthFrom, Nat.zero_add]
      exact cellWidthFrom_none_le last v
  | case2 last => exact absurd rfl h
  | case3 last c rest ih =>
      rw [List.cons_append, List.cons_append, cellWidthFrom_joiner, cellWidthFrom_joiner]
      refine ih fun hrest => h ?_
      simp [List.getLast?_cons, hrest]
  | case4 rest l _ ih =>
      rw [List.cons_append, cellWidthFrom_sign, cellWidthFrom_sign]
      have := ih fun hrest => h (by simp [List.getLast?_cons, hrest])
      omega
  | case5 rest _ ih =>
      rw [List.cons_append, cellWidthFrom_sign, cellWidthFrom_sign]
      have := ih fun hrest => h (by simp [List.getLast?_cons, hrest])
      omega
  | case6 last c rest hjoiner hsign width ih =>
      rw [List.cons_append, cellWidthFrom_cons hjoiner hsign, cellWidthFrom_cons hjoiner hsign]
      have hrest := ih fun hrest => h (by simp [List.getLast?_cons, hrest])
      rw [Nat.add_assoc]
      exact Nat.add_le_add_left hrest _

/-! ## Breaking lines -/

theorem cellWidth_dropRightWhile_le (p : Char → Bool) (text : List Char) :
    cellWidth (dropRightWhile p text) ≤ cellWidth text := by
  obtain ⟨dropped, heq⟩ : dropRightWhile p text <+: text := List.rdropWhile_prefix p text
  have hle := cellWidthFrom_le_append none (dropRightWhile p text) dropped
  rwa [heq] at hle

/-- Words that fit together are not broken. -/
theorem breakOffsets_eq_nil {width offset start : Nat} {words : List (List Char)}
    (h : offset + (words.map cellWidth).sum ≤ width) : breakOffsets width offset start words = [] := by
  induction words generalizing offset start with
  | nil => rfl
  | cons word rest ih =>
      rw [List.map_cons, List.sum_cons] at h
      have hfits : cellWidth (dropRightWhile isBlank word) ≤ width - offset :=
        Nat.le_trans (cellWidth_dropRightWhile_le isBlank word) (by omega)
      rw [breakOffsets, if_pos hfits]
      exact ih (by omega)

/-- The words of a text take no more cells than the text, for each of them ends in a blank. -/
theorem sum_spacedWords_le (word : List Char) (ended : Bool) (text : List Char)
    (hended : ended = true → ∃ b before, word = b :: before ∧ isBlank b = true) :
    ((spacedWords word ended text).map cellWidth).sum ≤ cellWidth (word.reverse ++ text) := by
  induction text generalizing word ended with
  | nil =>
      rw [spacedWords, List.append_nil]
      split
      · exact Nat.zero_le _
      · simp
  | cons c rest ih =>
      have hmore : (c :: word).reverse ++ rest = word.reverse ++ c :: rest := by simp
      rw [spacedWords]
      split
      · next hc => exact hmore ▸ ih (c :: word) _ fun _ => ⟨c, word, rfl, hc⟩
      · split
        · next hend =>
            obtain ⟨b, before, rfl, hb⟩ := hended hend
            have hrest := ih [c] false fun h => absurd h Bool.false_ne_true
            have hjoiner : (b :: before).reverse.getLast? ≠ some '\u200d' := by
              rw [List.getLast?_reverse, List.head?_cons]
              rintro h
              cases h
              exact absurd hb (by decide)
            have hadd := cellWidthFrom_add_le none (c :: rest) hjoiner
            rw [List.map_cons, List.sum_cons]
            exact Nat.le_trans (Nat.add_le_add_left hrest _) hadd
        · exact hmore ▸ ih (c :: word) false fun h => absurd h Bool.false_ne_true

theorem breakOffsets_spacedWords {width : Nat} {text : List Char} (h : cellWidth text ≤ width) :
    breakOffsets width 0 0 (spacedWords [] false text) = [] := by
  refine breakOffsets_eq_nil ?_
  rw [Nat.zero_add]
  exact Nat.le_trans (sum_spacedWords_le [] false text fun h => absurd h Bool.false_ne_true) h

/-! ## Cutting pieces -/

@[simp] theorem plainText_nil : plainText [] = [] := rfl

@[simp] theorem plainText_cons (p : Piece) (ps : List Piece) :
    plainText (p :: ps) = p.text ++ plainText ps := rfl

/-- Cutting pieces cuts their text. -/
theorem plainText_splitPieces (n : Nat) (ps : List Piece) :
    plainText (splitPieces n ps).1 = (plainText ps).take n ∧
      plainText (splitPieces n ps).2 = (plainText ps).drop n := by
  induction ps generalizing n with
  | nil => simp [splitPieces]
  | cons p ps ih =>
      rw [splitPieces]
      split
      · next hle =>
          obtain ⟨hfront, hback⟩ := ih (n - p.text.length)
          simp [List.take_append, List.drop_append, List.take_of_length_le hle,
            List.drop_of_length_le hle, hfront, hback]
      · next hgt =>
          have hle : n - p.text.length = 0 := by omega
          simp [List.take_append, List.drop_append, hle]

theorem splitAtSeparators_eq_singleton {isSeparator : Char → Bool} {text : List Char}
    (h : ∀ c ∈ text, isSeparator c = false) : splitAtSeparators isSeparator text = [text] := by
  induction text with
  | nil => rfl
  | cons c rest ih =>
      obtain ⟨hc, hrest⟩ := List.forall_mem_cons.mp h
      rw [splitAtSeparators, hc, ih hrest]
      rfl

/-! ## Tabs -/

/-- A character is kept, or blanks take the place of a tab. -/
theorem expandTabsText_cons (position : Nat) (c : Char) (rest : List Char) :
    ∃ next n, (expandTabsText position (c :: rest)).1 =
      (if c = '\t' then List.replicate n ' ' else [c]) ++ (expandTabsText next rest).1 := by
  by_cases hc : c = '\t'
  · exact ⟨(position + 8) / 8 * 8, (position + 8) / 8 * 8 - position,
      by simp only [expandTabsText, if_pos hc]⟩
  · exact ⟨position + charWidth c, 0, by simp only [expandTabsText, if_neg hc]⟩

theorem expandTabsText_eq_self {text : List Char} (h : '\t' ∉ text) (position : Nat) :
    (expandTabsText position text).1 = text := by
  induction text generalizing position with
  | nil => rfl
  | cons c rest ih =>
      rw [List.mem_cons, not_or] at h
      obtain ⟨next, n, heq⟩ := expandTabsText_cons position c rest
      rw [heq, if_neg (Ne.symm h.1), ih h.2]
      rfl

theorem expandTabs_eq_self {ps : List Piece} (h : '\t' ∉ plainText ps) (position : Nat) :
    expandTabs position ps = ps := by
  induction ps generalizing position with
  | nil => rfl
  | cons p ps ih =>
      rw [plainText_cons, List.mem_append, not_or] at h
      simp only [expandTabs, expandTabsText_eq_self h.1, ih h.2]

/-! ## The line of a cell -/

/-- A text in one line: it has no control character and no line separator, and ends in no blank.
Blanks at the end of a line are cut where they do not fit, and can otherwise not be told from those
that fill the column. -/
structure OneLine (text : List Char) : Prop where
  noControl : ∀ c ∈ text, 0x20 ≤ c.toNat ∧ ¬(0x7f ≤ c.toNat ∧ c.toNat ≤ 0x9f)
  noSeparator : '\u2028' ∉ text ∧ '\u2029' ∉ text
  noBlankEnd : ∀ c, text.getLast? = some c → isBlank c = false

/-- The conditions on a text in one line, as they are checked. -/
def isOneLine (text : List Char) : Bool :=
  text.all (fun c => decide (0x20 ≤ c.toNat ∧ ¬(0x7f ≤ c.toNat ∧ c.toNat ≤ 0x9f)))
    && !text.contains '\u2028' && !text.contains '\u2029'
    && text.getLast?.all fun c => !isBlank c

theorem isOneLine_iff {text : List Char} : isOneLine text = true ↔ OneLine text := by
  simp only [isOneLine, Bool.and_eq_true, List.all_eq_true, decide_eq_true_eq, Bool.not_eq_true',
    List.contains_eq_mem, decide_eq_false_iff_not, Option.all_eq_true]
  constructor
  · rintro ⟨⟨⟨hcontrol, hline⟩, hparagraph⟩, hend⟩
    exact ⟨hcontrol, ⟨hline, hparagraph⟩, hend⟩
  · rintro ⟨hcontrol, ⟨hline, hparagraph⟩, hend⟩
    exact ⟨⟨⟨hcontrol, hline⟩, hparagraph⟩, hend⟩

instance (text : List Char) : Decidable (OneLine text) :=
  decidable_of_iff (isOneLine text = true) isOneLine_iff

namespace OneLine

variable {text : List Char}

theorem isLineSeparator_eq_false (h : OneLine text) : ∀ c ∈ text, isLineSeparator c = false := by
  intro c hc
  obtain ⟨hlo, hhi⟩ := h.noControl c hc
  have hne : ∀ d ∉ text, c.toNat ≠ d.toNat :=
    fun d hd heq => hd (Char.toNat_inj.mp heq ▸ hc)
  have hline : c.toNat ≠ 0x2028 := hne _ h.noSeparator.1
  have hparagraph : c.toNat ≠ 0x2029 := hne _ h.noSeparator.2
  simp [isLineSeparator]
  omega

theorem isCursorControl_eq_false (h : OneLine text) : ∀ c ∈ text, isCursorControl c = false := by
  intro c hc
  obtain ⟨hlo, hhi⟩ := h.noControl c hc
  simp [isCursorControl]
  omega

theorem notMem_of_toNat_lt (h : OneLine text) {d : Char} (hd : d.toNat < 0x20) : d ∉ text :=
  fun hmem => absurd (h.noControl d hmem).1 (by omega)

end OneLine

section Cells

variable {width : Nat} {cell : List Piece}

theorem pieceLines_eq_singleton (h : '\n' ∉ plainText cell) : pieceLines cell = [cell] := by
  have hno : ∀ c ∈ plainText cell, (c == '\n') = false :=
    fun c hc => beq_eq_false_iff_ne.mpr fun heq => h (heq ▸ hc)
  rw [pieceLines, splitAtSeparators_eq_singleton hno]
  rfl

theorem wrapLine_eq_singleton (htab : '\t' ∉ plainText cell)
    (h : cellWidth (plainText cell) ≤ width) : wrapLine width cell = [dropExcess width cell] := by
  simp only [wrapLine, expandTabs_eq_self htab, breakOffsets_spacedWords h]
  rfl

theorem plainText_dropExcess (h : ∀ c, (plainText cell).getLast? = some c → isBlank c = false) :
    plainText (dropExcess width cell) = plainText cell := by
  have hnone : (plainText cell).reverse.takeWhile isBlank = [] := by
    rw [← List.head?_reverse] at h
    cases hrev : (plainText cell).reverse with
    | nil => rfl
    | cons c rest => exact List.takeWhile_cons_of_neg (by simp [h c (by simp [hrev])])
  simp only [dropExcess, (plainText_splitPieces _ _).1, hnone]
  simp

theorem textWidth_eq (h : OneLine (plainText cell)) :
    textWidth (plainText cell) = cellWidth (plainText cell) := by
  rw [textWidth, splitAtSeparators_eq_singleton h.isLineSeparator_eq_false]
  exact Nat.zero_max _

theorem dropControls_eq_self (h : OneLine (plainText cell)) : dropControls cell = cell := by
  have hkeep : ∀ p ∈ cell, { p with text := p.text.filter fun c => !isCursorControl c } = p := by
    intro p hp
    have hall : ∀ c ∈ p.text, (!isCursorControl c) = true := by
      intro c hc
      rw [h.isCursorControl_eq_false c (List.mem_flatMap.mpr ⟨p, hp, hc⟩)]
      rfl
    rw [List.filter_eq_self.mpr hall]
  exact (List.map_congr_left hkeep).trans (List.map_id _)

theorem lineText_false (line : List Piece) :
    Table.lineText false width false line =
      " " ++ String.ofList (plainText line) ++
        Table.blanks (width - cellWidth (plainText line)) ++ " " := by
  have hjoin : String.join (line.map (Table.pieceText false)) = String.ofList (plainText line) := by
    rw [← String.toList_inj, String.toList_join, String.toList_ofList, List.flatMap_map]
    exact List.flatMap_congr fun p _ => String.toList_ofList
  simp only [Table.lineText, hjoin, Bool.false_eq_true, if_false, String.append_assoc]

/-- **A text in one line** is shown as it is, filled up to the width of its column. -/
theorem cellLines_of_oneLine (h : OneLine (plainText cell))
    (hwidth : cellWidth (plainText cell) ≤ width) :
    Table.cellLines false width false cell =
      [" " ++ String.ofList (plainText cell) ++
        Table.blanks (width - cellWidth (plainText cell)) ++ " "] := by
  rw [Table.cellLines, pieceLines_eq_singleton (h.notMem_of_toNat_lt (by decide)),
    List.flatMap_singleton, wrapLine_eq_singleton (h.notMem_of_toNat_lt (by decide)) hwidth,
    List.map_singleton, lineText_false, plainText_dropExcess h.noBlankEnd]

end Cells

/-! ## Marks in the lines of a cell -/

theorem markCount_replicate_blank (n : Nat) : markCount (List.replicate n ' ') = 0 :=
  Unmarked.markCount_eq_zero fun _ hc => (List.mem_replicate.mp hc).2 ▸ rfl

/-- The marks that lines show. -/
def shownMarks (lines : List (List Piece)) : Nat :=
  (lines.map fun line => markCount (plainText line)).sum

theorem shownMarks_cons (line : List Piece) (lines : List (List Piece)) :
    shownMarks (line :: lines) = markCount (plainText line) + shownMarks lines :=
  List.sum_cons

theorem markCount_splitPieces (n : Nat) (ps : List Piece) :
    markCount (plainText (splitPieces n ps).1) + markCount (plainText (splitPieces n ps).2) =
      markCount (plainText ps) := by
  obtain ⟨hfront, hback⟩ := plainText_splitPieces n ps
  rw [hfront, hback, ← markCount_append, List.take_append_drop]

theorem shownMarks_cutLines_le (lengths : List Nat) (ps : List Piece) :
    shownMarks (cutLines lengths ps) ≤ markCount (plainText ps) := by
  fun_induction cutLines lengths ps with
  | case1 => exact Nat.zero_le _
  | case2 n ps => exact Nat.le_of_eq (Nat.add_zero _)
  | case3 n lengths ps _ line rest heq ih =>
      have hline : markCount (plainText line) + markCount (plainText rest) =
          markCount (plainText ps) := by simpa only [heq] using markCount_splitPieces n ps
      have hrest := markCount_splitPieces 1 rest
      rw [shownMarks_cons]
      omega

theorem shownMarks_cutAt (done : Nat) (offsets : List Nat) (ps : List Piece) :
    shownMarks (cutAt done offsets ps) = markCount (plainText ps) := by
  fun_induction cutAt done offsets ps with
  | case1 done ps => exact Nat.add_zero _
  | case2 done offset offsets ps line rest heq ih =>
      have hline := markCount_splitPieces (offset - done) ps
      rw [heq] at hline
      rw [shownMarks_cons, ih]
      exact hline

theorem markCount_expandTabsText (position : Nat) (text : List Char) :
    markCount (expandTabsText position text).1 = markCount text := by
  induction text generalizing position with
  | nil => rfl
  | cons c rest ih =>
      obtain ⟨next, n, heq⟩ := expandTabsText_cons position c rest
      rw [heq, markCount_append, ih, markCount_cons, Nat.add_comm]
      congr 1
      split
      · next hc =>
          rw [hc, markCount_replicate_blank]
          rfl
      · rw [markCount_cons, markCount_nil, Nat.zero_add]

theorem markCount_expandTabs (position : Nat) (ps : List Piece) :
    markCount (plainText (expandTabs position ps)) = markCount (plainText ps) := by
  induction ps generalizing position with
  | nil => rfl
  | cons p ps ih =>
      simp only [expandTabs, plainText_cons, markCount_append, markCount_expandTabsText, ih]

theorem shownMarks_wrapLine_le (width : Nat) (line : List Piece) :
    shownMarks (wrapLine width line) ≤ markCount (plainText line) := by
  have hdrop : ∀ lines : List (List Piece),
      shownMarks (lines.map (dropExcess width)) ≤ shownMarks lines := by
    intro lines
    induction lines with
    | nil => exact Nat.le_refl _
    | cons l ls ih =>
        have hline : markCount (plainText (dropExcess width l)) ≤ markCount (plainText l) := by
          rw [← markCount_splitPieces _ l]
          exact Nat.le_add_right _ _
        rw [List.map_cons, shownMarks_cons, shownMarks_cons]
        exact Nat.add_le_add hline ih
  refine Nat.le_trans (hdrop _) ?_
  rw [shownMarks_cutAt, markCount_expandTabs]

theorem markCount_dropControls_le (ps : List Piece) :
    markCount (plainText (dropControls ps)) ≤ markCount (plainText ps) := by
  induction ps with
  | nil => exact Nat.le_refl _
  | cons p ps ih =>
      have htext : markCount (p.text.filter fun c => !isCursorControl c) ≤ markCount p.text :=
        List.filter_sublist.countP_le
      rw [dropControls, List.map_cons, plainText_cons, plainText_cons, markCount_append,
        markCount_append]
      exact Nat.add_le_add htext ih

/-- **No marks are added** in the lines of a cell. -/
theorem sum_markCount_cellLines_le (width : Nat) (cell : List Piece) :
    ((Table.cellLines false width false cell).map fun s => markCount s.toList).sum ≤
      markCount (plainText cell) := by
  have hline : ∀ line, markCount (Table.lineText false width false line).toList =
      markCount (plainText line) := by
    intro line
    have hblank : isMark ' ' = false := by decide
    rw [lineText_false]
    simp [Table.blanks, markCount_replicate_blank, hblank]
  have hlines : ∀ lines : List (List Piece),
      ((lines.flatMap fun line => (wrapLine width line).map (Table.lineText false width false)).map
        fun s => markCount s.toList).sum ≤ shownMarks lines := by
    intro lines
    induction lines with
    | nil => exact Nat.le_refl _
    | cons l ls ih =>
        have hwrap := shownMarks_wrapLine_le width l
        rw [List.flatMap_cons, List.map_append, List.sum_append, shownMarks_cons, List.map_map]
        refine Nat.add_le_add ?_ ih
        simpa only [shownMarks, Function.comp_def, hline] using hwrap
  exact Nat.le_trans (hlines _) (shownMarks_cutLines_le _ _)

end CoverageDiff.Styled
