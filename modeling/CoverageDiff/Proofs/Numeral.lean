import CoverageDiff.Text.Numeral
import Mathlib.Data.List.Basic

/-!
# CoverageDiff.Proofs.Numeral

Written numbers are read back:

* `int?_toString`: one number, if it has no more digits than are read
  (`Short`);
* `mapM_int?_wordsOf`: several with blanks between them.

A written number has nothing but digits, perhaps after a minus sign, so it has
no blank (`isBlank_of_mem_toString`) and is a word of its own
(`words_intercalate`).
-/

namespace CoverageDiff.Text

/-! ## Plain characters -/

/-- A visible ASCII character is no blank. -/
theorem isBlank_eq_false {c : Char} (h : 0x21 ≤ c.toNat) (h' : c.toNat ≤ 0x7e) :
    isBlank c = false := by
  rw [isBlank, Bool.eq_false_iff]
  intro hblank
  obtain ⟨r, hr, hlo, hhi⟩ := exists_of_inRanges hblank
  have hapart : ∀ r ∈ blankRanges, r.2 < 0x21 ∨ 0x7e < r.1 := by decide
  rcases hapart r hr with hbelow | habove
  · omega
  · omega

/-- What is no blank is not skipped around a number. -/
theorem isNumberBlank_eq_false {c : Char} (h : isBlank c = false) : isNumberBlank c = false := by
  rw [isNumberBlank, h, Bool.false_and]

/-- Nothing is dropped from a text without characters of the class. -/
private theorem dropWhile_eq_self {p : Char → Bool} {text : List Char}
    (h : ∀ c ∈ text, p c = false) : text.dropWhile p = text := by
  cases text with
  | nil => rfl
  | cons c text =>
      have hc : ¬p c = true := by
        rw [h c List.mem_cons_self]
        exact Bool.false_ne_true
      exact List.dropWhile_cons_of_neg hc

/-- A text without blanks has none around it. -/
theorem trimNumber_eq_self {text : List Char} (h : ∀ c ∈ text, isBlank c = false) :
    trimNumber text = text := by
  have hp : ∀ c ∈ text, isNumberBlank c = false := fun c hc => isNumberBlank_eq_false (h c hc)
  have hr : ∀ c ∈ text.reverse, isNumberBlank c = false :=
    fun c hc => hp c (List.mem_reverse.mp hc)
  rw [trimNumber, dropWhile_eq_self hp, dropRightWhile, dropWhile_eq_self hr, List.reverse_reverse]

/-! ## Digits -/

/-- The value of an ASCII digit. -/
theorem digitValue?_of_isDigit {c : Char} (h : c.isDigit = true) :
    digitValue? c = some (c.toNat - '0'.toNat) := by
  obtain ⟨hlo, hhi⟩ := Char.isDigit_iff_toNat.mp h
  have hzero : zeros.find? (fun z => decide (z ≤ c.toNat) && decide (c.toNat < z + 10)) =
      some 0x30 := by
    refine List.find?_cons_of_pos ?_
    rw [Bool.and_eq_true, decide_eq_true_iff, decide_eq_true_iff]
    exact ⟨hlo, Nat.lt_succ_of_le hhi⟩
  rw [digitValue?, hzero]
  rfl

/-- No underscore joins ASCII digits. -/
theorem joinsDigit_eq_false {ds : List Char} (h : ∀ c ∈ ds, c.isDigit = true) :
    joinsDigit ds = false := by
  unfold joinsDigit
  split
  · next next rest =>
      have hunderscore : '_'.isDigit = true := h '_' List.mem_cons_self
      exact absurd hunderscore (by decide)
  · rfl

/-- Of ASCII digits all are taken. -/
theorem takeDigits_eq {ds : List Char} (h : ∀ c ∈ ds, c.isDigit = true) :
    takeDigits ds = (ds.map fun c => c.toNat - '0'.toNat, []) := by
  induction ds with
  | nil => rw [takeDigits, List.map_nil]
  | cons d ds ih =>
      obtain ⟨hd, hds⟩ := List.forall_mem_cons.mp h
      have hjoin : (if joinsDigit ds = true then ds.drop 1 else ds) = ds := by
        rw [joinsDigit_eq_false hds]
        rfl
      rw [takeDigits, digitValue?_of_isDigit hd]
      simp only [hjoin, ih hds, List.map_cons]

theorem isDigit_of_mem_toDigits {n : Nat} {c : Char} (h : c ∈ Nat.toDigits 10 n) :
    c.isDigit = true :=
  Nat.isDigit_of_mem_toDigits (by decide) (by decide) h

/-- The digits of a number denote it. -/
theorem ofDigits_toDigits (n : Nat) :
    ofDigits ((Nat.toDigits 10 n).map fun c => c.toNat - '0'.toNat) = n := by
  rw [ofDigits, List.foldl_map, ← Nat.ofDigitChars_eq_foldl]
  exact Nat.ofDigitChars_ten_toDigits

/-! ## Numbers -/

/-- A number with no more digits than are read. -/
def Short (i : Int) : Prop :=
  (Nat.toDigits 10 i.natAbs).length ≤ maxDigits

instance (i : Int) : Decidable (Short i) :=
  inferInstanceAs (Decidable (_ ≤ _))

/-- The sign that is written before the digits of a number. -/
def signOf (i : Int) : List Char :=
  if i < 0 then ['-'] else []

/-- A written number is its sign and its digits. -/
theorem toList_toString (i : Int) :
    (toString i).toList = signOf i ++ Nat.toDigits 10 i.natAbs := by
  rw [Int.toString_eq_repr, Int.repr_eq_if, signOf]
  by_cases h : 0 ≤ i
  · have hnat : i.toNat = i.natAbs := by omega
    rw [if_pos h, if_neg (Int.not_lt.mpr h), Nat.repr_eq_ofList_toDigits, String.toList_ofList,
      hnat, List.nil_append]
  · have hnat : (-i).toNat = i.natAbs := by omega
    have hminus : "-".toList = ['-'] := rfl
    rw [if_neg h, if_pos (Int.not_le.mp h), Nat.repr_eq_ofList_toDigits, String.toList_append,
      hminus, String.toList_ofList, hnat]

theorem takeSign_toDigits (n : Nat) :
    takeSign (Nat.toDigits 10 n) = (false, Nat.toDigits 10 n) := by
  have hdigits : ∀ c ∈ Nat.toDigits 10 n, c.isDigit = true := fun _ => isDigit_of_mem_toDigits
  unfold takeSign
  split
  · next rest heq =>
      have hplus : '+'.isDigit = true := hdigits '+' (heq ▸ List.mem_cons_self)
      exact absurd hplus (by decide)
  · next rest heq =>
      have hminus : '-'.isDigit = true := hdigits '-' (heq ▸ List.mem_cons_self)
      exact absurd hminus (by decide)
  · rfl

/-- The sign is taken from a written number. -/
theorem takeSign_toString (i : Int) :
    takeSign (toString i).toList = (decide (i < 0), Nat.toDigits 10 i.natAbs) := by
  rw [toList_toString, signOf]
  by_cases h : i < 0
  · rw [if_pos h, decide_eq_true h]
    rfl
  · rw [if_neg h, decide_eq_false h, List.nil_append, takeSign_toDigits]

/-- A written number has visible ASCII characters only, and no comma. -/
theorem of_mem_toString {i : Int} {c : Char} (h : c ∈ (toString i).toList) :
    0x2d ≤ c.toNat ∧ c.toNat ≤ 0x39 := by
  rw [toList_toString, List.mem_append, signOf] at h
  rcases h with hsign | hdigit
  · split at hsign
    · rw [List.mem_singleton.mp hsign]
      decide
    · exact absurd hsign List.not_mem_nil
  · obtain ⟨hlo, hhi⟩ := Char.isDigit_iff_toNat.mp (isDigit_of_mem_toDigits hdigit)
    exact ⟨Nat.le_trans (by decide) hlo, hhi⟩

/-- A written number has no blank. -/
theorem isBlank_of_mem_toString {i : Int} {c : Char} (h : c ∈ (toString i).toList) :
    isBlank c = false := by
  obtain ⟨hlo, hhi⟩ := of_mem_toString h
  exact isBlank_eq_false (by omega) (by omega)

/-- Numbers are told apart by what is written for them. -/
theorem toString_injective {i j : Int} (h : toString i = toString j) : i = j := by
  have hsigned := congrArg (fun s : String => takeSign s.toList) h
  simp only [takeSign_toString, Prod.mk.injEq, decide_eq_decide] at hsigned
  obtain ⟨hsign, hdigits⟩ := hsigned
  have habs : i.natAbs = j.natAbs := by
    rw [← ofDigits_toDigits i.natAbs, hdigits, ofDigits_toDigits]
  omega

/-- Something is written for every number. -/
theorem toList_toString_ne_nil (i : Int) : (toString i).toList ≠ [] := by
  rw [toList_toString]
  exact List.append_ne_nil_of_right_ne_nil _ Nat.toDigits_ne_nil

/-- **One number**: it is read back. -/
theorem int?_toString {i : Int} (h : Short i) : int? (toString i) = some i := by
  have hdigits : takeDigits (Nat.toDigits 10 i.natAbs) =
      ((Nat.toDigits 10 i.natAbs).map fun c => c.toNat - '0'.toNat, []) :=
    takeDigits_eq fun _ => isDigit_of_mem_toDigits
  have hne : (Nat.toDigits 10 i.natAbs).map (fun c => c.toNat - '0'.toNat) ≠ [] :=
    fun hnil => Nat.toDigits_ne_nil (List.map_eq_nil_iff.mp hnil)
  have hvalue := ofDigits_toDigits i.natAbs
  have hlen : ¬maxDigits <
      ((Nat.toDigits 10 i.natAbs).map fun c => c.toNat - '0'.toNat).length := by
    rw [List.length_map]
    exact Nat.not_lt.mpr h
  rw [int?, readInt?, trimNumber_eq_self fun _ => isBlank_of_mem_toString, takeSign_toString]
  simp only [hdigits]
  generalize (Nat.toDigits 10 i.natAbs).map (fun c => c.toNat - '0'.toNat) = ds at *
  cases ds with
  | nil => exact absurd rfl hne
  | cons d ds =>
      simp only [hlen, if_false, hvalue]
      by_cases hneg : i < 0
      · rw [if_pos (decide_eq_true hneg)]
        exact congrArg some (by omega)
      · rw [if_neg (by simpa using hneg)]
        exact congrArg some (by omega)

/-! ## Several numbers -/

/-- A word is read to its end, and what was read before belongs to it. -/
theorem wordsFrom_append {word : List Char} (hword : ∀ c ∈ word, isBlank c = false)
    (before text : List Char) :
    wordsFrom before (word ++ text) = wordsFrom (word.reverse ++ before) text := by
  induction word generalizing before with
  | nil => rfl
  | cons c word ih =>
      obtain ⟨hc, hrest⟩ := List.forall_mem_cons.mp hword
      have hnot : ¬isBlank c = true := by
        rw [hc]
        exact Bool.false_ne_true
      rw [List.cons_append, wordsFrom, if_neg hnot, ih hrest, List.reverse_cons, List.append_assoc,
        List.singleton_append]

/-- Words with blanks between them are the words of the text. -/
theorem words_intercalate {ws : List (List Char)} (hne : ∀ w ∈ ws, w ≠ [])
    (hblank : ∀ w ∈ ws, ∀ c ∈ w, isBlank c = false) : words ([' '].intercalate ws) = ws := by
  -- a blank follows every word but the last
  induction ws with
  | nil => rfl
  | cons w ws ih =>
      obtain ⟨hw, hws⟩ := List.forall_mem_cons.mp hne
      obtain ⟨hwb, hwsb⟩ := List.forall_mem_cons.mp hblank
      have hrev : w.reverse.isEmpty = false := by
        rw [List.isEmpty_eq_false_iff]
        exact fun h => hw (List.reverse_eq_nil_iff.mp h)
      cases ws with
      | nil =>
          rw [List.intercalate_singleton, words, ← List.append_nil w, wordsFrom_append hwb,
            List.append_nil, List.append_nil, wordsFrom, hrev]
          exact congrArg (· :: []) (List.reverse_reverse w)
      | cons v ws =>
          have hspace : isBlank ' ' = true := by decide
          have htail : wordsFrom [] ([' '].intercalate (v :: ws)) = v :: ws := ih hws hwsb
          rw [List.intercalate_cons_cons, words, List.append_assoc, wordsFrom_append hwb,
            List.append_nil, List.singleton_append, wordsFrom, if_pos hspace, hrev, htail,
            List.reverse_reverse]
          rfl

/-- The words of written numbers with blanks between them. -/
theorem wordsOf_intercalate (ns : List Int) :
    wordsOf (" ".intercalate (ns.map toString)) = ns.map toString := by
  have hwords : words ([' '].intercalate ((ns.map toString).map String.toList)) =
      (ns.map toString).map String.toList := by
    refine words_intercalate ?_ ?_
    · simp only [List.forall_mem_map]
      exact fun i _ => toList_toString_ne_nil i
    · simp only [List.forall_mem_map]
      exact fun i _ c hc => isBlank_of_mem_toString hc
  have hspace : " ".toList = [' '] := rfl
  rw [wordsOf, String.toList_intercalate, hspace, hwords, List.map_map]
  simp

/-- **Several numbers**: they are read back. -/
theorem mapM_int?_wordsOf {ns : List Int} (h : ∀ i ∈ ns, Short i) :
    (wordsOf (" ".intercalate (ns.map toString))).mapM int? = some ns := by
  rw [wordsOf_intercalate]
  induction ns with
  | nil => rfl
  | cons i ns ih =>
      obtain ⟨hi, hns⟩ := List.forall_mem_cons.mp h
      rw [List.map_cons, List.mapM_cons, int?_toString hi, ih hns]
      rfl

/-- What holds of the characters of words and of the one between them holds of the text. -/
theorem forall_mem_intercalate {P : Char → Prop} {sep : Char} {ws : List (List Char)} (hsep : P sep)
    (hws : ∀ w ∈ ws, ∀ c ∈ w, P c) : ∀ c ∈ [sep].intercalate ws, P c := by
  induction ws with
  | nil => exact fun _ hc => absurd hc List.not_mem_nil
  | cons w ws ih =>
      obtain ⟨hw, hrest⟩ := List.forall_mem_cons.mp hws
      cases ws with
      | nil =>
          rw [List.intercalate_singleton]
          exact hw
      | cons v ws =>
          rw [List.intercalate_cons_cons, List.append_assoc, List.forall_mem_append,
            List.singleton_append, List.forall_mem_cons]
          exact ⟨hw, hsep, ih hrest⟩

/-- Written numbers with blanks between them have no comma. -/
theorem ne_comma_of_mem_intercalate {ns : List Int} {c : Char}
    (h : c ∈ (" ".intercalate (ns.map toString)).toList) : c ≠ ',' := by
  have hspace : " ".toList = [' '] := rfl
  rw [String.toList_intercalate, hspace] at h
  refine forall_mem_intercalate (P := fun c => c ≠ ',') (by decide) ?_ c h
  simp only [List.forall_mem_map]
  rintro i _ c hc rfl
  have hlo : 0x2d ≤ ','.toNat := (of_mem_toString hc).1
  exact absurd hlo (by decide)

end CoverageDiff.Text
