import CoverageDiff.Text.Numeral
import Mathlib.Data.List.Basic
import Mathlib.Data.List.DropRight
import Mathlib.Data.List.Forall2

/-!
# CoverageDiff.Proofs.Words

Blanks said without the functions that skip them:

1. the words of a text are its pieces between blanks, without the empty ones
   (`words_eq_splitOnP`), so trimming leaves them as they are
   (`trimmed_of_mem_wordsOf`);
2. trimming twice is trimming once (`trimmed_trimmed`), and leaves nothing of
   a text exactly if the text has nothing but blanks (`trimmed_eq_empty_iff`);
   dropping any characters around a text leaves one that neither begins nor
   ends with them (`dropAround_eq`, `eq_append_dropAround`);
3. such a text is no number (`int?_eq_none`);
4. several texts are read as numbers one by one (`mapM_eq_some_iff`).
-/

namespace CoverageDiff.Text

/-! ## Words -/

theorem wordsFrom_eq_splitOnPPrepend (word text : List Char) :
    wordsFrom word text =
      (text.splitOnPPrepend isBlank word).filter fun piece => !piece.isEmpty := by
  induction text generalizing word with
  | nil => cases word <;> simp [wordsFrom, List.splitOnPPrepend]
  | cons c rest ih =>
      by_cases hc : isBlank c = true
      · cases word with
        | nil => simp [wordsFrom, List.splitOnPPrepend, hc, ih]
        | cons d word => simp [wordsFrom, List.splitOnPPrepend, hc, ih]
      · simp [wordsFrom, List.splitOnPPrepend, hc, ih]

/-- **Words** are the pieces between blanks, without the empty ones. -/
theorem words_eq_splitOnP (text : List Char) :
    words text = (text.splitOnP isBlank).filter fun piece => !piece.isEmpty :=
  wordsFrom_eq_splitOnPPrepend [] text

/-- Separators that a map makes blanks, and only these, are where the mapped text is split. -/
theorem splitOnP_map {f : Char → Char} {p q : Char → Bool} (hsep : ∀ c, p (f c) = q c)
    (hkeep : ∀ c, q c = false → f c = c) (text : List Char) :
    (text.map f).splitOnP p = text.splitOnP q := by
  induction text with
  | nil => rfl
  | cons c text ih =>
      rw [List.map_cons, List.splitOnP_cons_eq_if_modifyHead,
        List.splitOnP_cons_eq_if_modifyHead, hsep, ih]
      cases hc : q c with
      | true => rfl
      | false => rw [hkeep c hc]

/-- A word is not empty and has no blank. -/
theorem of_mem_wordsFrom {word text : List Char} (hword : ∀ c ∈ word, isBlank c = false)
    {w : List Char} (h : w ∈ wordsFrom word text) : w ≠ [] ∧ ∀ c ∈ w, isBlank c = false := by
  have hread : ¬word.isEmpty → word.reverse ≠ [] ∧ ∀ c ∈ word.reverse, isBlank c = false := by
    intro hne
    exact ⟨by simpa using hne, fun c hc => hword c (List.mem_reverse.mp hc)⟩
  induction text generalizing word with
  | nil =>
      rw [wordsFrom] at h
      split at h
      · cases h
      · next hne => exact List.mem_singleton.mp h ▸ hread hne
  | cons c rest ih =>
      have hnone : ∀ c ∈ ([] : List Char), isBlank c = false := List.forall_mem_nil _
      rw [wordsFrom] at h
      split at h
      · split at h
        · exact ih hnone h (by simp)
        · next hne =>
            rcases List.mem_cons.mp h with rfl | hrest
            · exact hread hne
            · exact ih hnone hrest (by simp)
      · next hc =>
          have hcons : ∀ d ∈ c :: word, isBlank d = false :=
            List.forall_mem_cons.mpr ⟨by simpa using hc, hword⟩
          exact ih hcons h fun _ => ⟨by simp, fun d hd => hcons d (List.mem_reverse.mp hd)⟩

/-! ## Trimming -/

theorem trim_eq (text : List Char) :
    trim text = (text.dropWhile isBlank).rdropWhile isBlank := rfl

theorem trim_eq_nil_iff {text : List Char} : trim text = [] ↔ ∀ c ∈ text, isBlank c = true := by
  rw [trim_eq, List.rdropWhile_eq_nil_iff, ← List.dropWhile_eq_nil_iff (l := text)]
  constructor
  · intro h
    -- what is left after the first blanks would begin with a character that is none
    cases hleft : text.dropWhile isBlank with
    | nil => rfl
    | cons c rest =>
        have hc : isBlank c = false := by
          have hhead := List.head?_dropWhile_not isBlank text
          rwa [hleft, List.head?_cons] at hhead
        have hblank : isBlank c = true := h c (hleft ▸ List.mem_cons_self)
        exact absurd hblank (by simp [hc])
  · intro h
    rw [h]
    exact List.forall_mem_nil _

theorem trim_trim (text : List Char) : trim (trim text) = trim text := by
  -- what is left still begins with the first character that is no blank
  have hleft : (trim text).dropWhile isBlank = trim text := by
    have hfirst := List.dropWhile_eq_self_iff.mp (List.dropWhile_idempotent isBlank text)
    have hleftmost : trim text <+: text.dropWhile isBlank := List.rdropWhile_prefix _ _
    refine List.dropWhile_eq_self_iff.mpr fun hpos => ?_
    rw [List.IsPrefix.getElem hleftmost hpos]
    exact hfirst _
  rw [trim_eq (trim text), hleft, trim_eq, List.rdropWhile_idempotent]

/-- **Trimming** twice is trimming once. -/
theorem trimmed_trimmed (s : String) : trimmed (trimmed s) = trimmed s := by
  rw [trimmed, trimmed, String.toList_ofList, trim_trim]

theorem trim_eq_self {text : List Char} (h : ∀ c ∈ text, isBlank c = false) : trim text = text := by
  have hleft : text.dropWhile isBlank = text :=
    List.dropWhile_eq_self_iff.mpr fun hpos => by simp [h _ (List.getElem_mem hpos)]
  have hright : text.rdropWhile isBlank = text :=
    List.rdropWhile_eq_self_iff.mpr fun hne => by simp [h _ (List.getLast_mem hne)]
  rw [trim_eq, hleft, hright]

/-- **Trimming** leaves words as they are. -/
theorem trimmed_of_mem_wordsOf {s w : String} (h : w ∈ wordsOf s) : trimmed w = w ∧ w ≠ "" := by
  obtain ⟨chars, hchars, rfl⟩ := List.mem_map.mp h
  obtain ⟨hne, hplain⟩ := of_mem_wordsFrom (List.forall_mem_nil _) hchars
  refine ⟨by rw [trimmed, String.toList_ofList, trim_eq_self hplain], ?_⟩
  rw [Ne, ← String.toList_inj, String.toList_ofList]
  exact hne

theorem isBlankString_iff {s : String} :
    isBlankString s = true ↔ ∀ c ∈ s.toList, isBlank c = true :=
  List.all_eq_true

/-- **Trimming** leaves nothing exactly of a blank text. -/
theorem trimmed_eq_empty_iff {s : String} : trimmed s = "" ↔ isBlankString s = true := by
  rw [isBlankString_iff, ← trim_eq_nil_iff, trimmed, ← String.toList_inj, String.toList_ofList]
  rfl

/-! ## Dropping around a text -/

/-- Of a text that does not end with a class of characters, what follows of the class is dropped. -/
theorem dropRightWhile_append {q : Char → Bool} {core after : List Char} (hne : core ≠ [])
    (hafter : ∀ c ∈ after, q c = true) (hlast : ∀ c ∈ core.getLast?, q c = false) :
    dropRightWhile q (core ++ after) = core := by
  have hend : core.reverse.dropWhile q = core.reverse := by
    obtain ⟨c, more, hcons⟩ := List.exists_cons_of_ne_nil (List.reverse_ne_nil_iff.mpr hne)
    have hc : c ∈ core.getLast? := by
      rw [← List.head?_reverse, hcons]
      rfl
    rw [hcons]
    simp [hlast c hc]
  have hafter' : ∀ c ∈ after.reverse, q c = true := fun c hc => hafter c (List.mem_reverse.mp hc)
  rw [dropRightWhile, List.reverse_append, List.dropWhile_append_of_pos hafter', hend,
    List.reverse_reverse]

/-- A text that does not begin or end with a class of characters is left when the class is dropped
around it. -/
theorem dropAround_eq {q : Char → Bool} {before core after : List Char} (hne : core ≠ [])
    (hbefore : ∀ c ∈ before, q c = true) (hafter : ∀ c ∈ after, q c = true)
    (hfirst : ∀ c ∈ core.head?, q c = false) (hlast : ∀ c ∈ core.getLast?, q c = false) :
    dropRightWhile q ((before ++ (core ++ after)).dropWhile q) = core := by
  have hstart : (core ++ after).dropWhile q = core ++ after := by
    obtain ⟨c, more, rfl⟩ := List.exists_cons_of_ne_nil hne
    simp [hfirst c rfl]
  rw [List.dropWhile_append_of_pos hbefore, hstart, dropRightWhile_append hne hafter hlast]

/-- What is dropped around a text is of the class. -/
theorem eq_append_dropAround (q : Char → Bool) (text : List Char) :
    ∃ before after, text = before ++ (dropRightWhile q (text.dropWhile q) ++ after) ∧
      (∀ c ∈ before, q c = true) ∧ ∀ c ∈ after, q c = true := by
  refine ⟨text.takeWhile q, (text.dropWhile q).rtakeWhile q, ?_, ?_, ?_⟩
  · have hright : dropRightWhile q (text.dropWhile q) ++ (text.dropWhile q).rtakeWhile q =
        text.dropWhile q := List.rdropWhile_append_rtakeWhile
    rw [hright, List.takeWhile_append_dropWhile]
  · exact fun c hc => List.mem_takeWhile_imp hc
  · exact fun c hc => List.mem_rtakeWhile_imp hc

/-! ## Numbers -/

/-- A range of characters without the digits of any script. -/
theorem digitValue?_eq_none_of_apart {c : Char} {lo hi : Nat}
    (hapart : ∀ z ∈ zeros, hi < z ∨ z + 10 ≤ lo) (hlo : lo ≤ c.toNat) (hhi : c.toNat ≤ hi) :
    digitValue? c = none := by
  have hzero : zeros.find? (fun z => decide (z ≤ c.toNat) && decide (c.toNat < z + 10)) = none := by
    rw [List.find?_eq_none]
    intro z hz hdigit
    rw [Bool.and_eq_true, decide_eq_true_iff, decide_eq_true_iff] at hdigit
    have hz := hapart z hz
    omega
  rw [digitValue?, hzero]

/-- No digit of any script is a blank. -/
theorem digitValue?_of_isBlank {c : Char} (h : isBlank c = true) : digitValue? c = none := by
  obtain ⟨r, hr, hlo, hhi⟩ := exists_of_inRanges h
  have hapart : ∀ r ∈ blankRanges, ∀ z ∈ zeros, r.2 < z ∨ z + 10 ≤ r.1 := by decide +kernel
  exact digitValue?_eq_none_of_apart (hapart r hr) hlo hhi

/-- No digit of any script is a capital letter. -/
theorem digitValue?_of_capital {c : Char} (h : 'A' ≤ c) (h' : c ≤ 'Z') : digitValue? c = none := by
  have hapart : ∀ z ∈ zeros, 90 < z ∨ z + 10 ≤ 65 := by decide +kernel
  exact digitValue?_eq_none_of_apart hapart h h'

/-- What has no value as a digit is none. -/
theorem ne_of_digitValue? {c x : Char} {d : Nat} (hc : digitValue? c = some d)
    (hx : digitValue? x = none) : c ≠ x := by
  rintro rfl
  rw [hx] at hc
  contradiction

/-- A blank text has no digits at its start. -/
theorem takeDigits_of_isBlank {text : List Char} (h : ∀ c ∈ text, isBlank c = true) :
    takeDigits text = ([], text) := by
  cases text with
  | nil => rw [takeDigits]
  | cons c rest => rw [takeDigits, digitValue?_of_isBlank (h c List.mem_cons_self)]

/-- A blank text has no sign at its start. -/
theorem takeSign_of_isBlank {text : List Char} (h : ∀ c ∈ text, isBlank c = true) :
    takeSign text = (false, text) := by
  unfold takeSign
  split
  · exact absurd (h '+' List.mem_cons_self) (by decide)
  · exact absurd (h '-' List.mem_cons_self) (by decide)
  · rfl

theorem mem_of_mem_trimNumber {text : List Char} {c : Char} (h : c ∈ trimNumber text) : c ∈ text :=
  (List.dropWhile_suffix _).subset ((List.rdropWhile_prefix _ _).subset h)

/-- **Numbers**: a blank text is none. -/
theorem int?_eq_none {s : String} (h : isBlankString s = true) : int? s = none := by
  have hblank : ∀ c ∈ trimNumber s.toList, isBlank c = true :=
    fun c hc => isBlankString_iff.mp h c (mem_of_mem_trimNumber hc)
  rw [int?, readInt?, takeSign_of_isBlank hblank]
  simp only [takeDigits_of_isBlank hblank]

/-! ## Several texts -/

/-- **Reading several texts** succeeds if each of them is read, and gives what each gives. -/
theorem mapM_eq_some_iff {α β : Type} {f : α → Option β} {xs : List α} {ys : List β} :
    xs.mapM f = some ys ↔ List.Forall₂ (fun x y => f x = some y) xs ys := by
  induction xs generalizing ys with
  | nil => simp [eq_comm]
  | cons x xs ih =>
      rw [List.mapM_cons, List.forall₂_cons_left_iff]
      simp only [Option.bind_eq_bind, Option.bind_eq_some_iff, ih]
      constructor
      · rintro ⟨y, hy, zs, hzs, h⟩
        cases h
        exact ⟨y, zs, hy, hzs, rfl⟩
      · rintro ⟨y, zs, hy, hzs, rfl⟩
        exact ⟨y, hy, zs, hzs, rfl⟩

end CoverageDiff.Text
