import CoverageDiff.Proofs.Numeral
import CoverageDiff.Proofs.Rounding
import CoverageDiff.Proofs.Words

/-!
# CoverageDiff.Proofs.DecimalText

Which texts are decimal numbers, and of what value, said without the reader.

A decimal number is an optional sign, digits with an optional point, and an
optional exponent (`WritesDecimal`); digits are of any script, with single
underscores between them (`WritesDigits`).  The reader takes one part after
another.  A part ends where a character stands that cannot go on with it
(`EndsDigits`), so each is taken as it was written, whatever follows it
(`takeDigits_append`, `takeFraction_append`, `takeExponent_eq`), and the whole
is read with its value (`read?_of_writesDecimal`).  Nothing else is read as a
decimal number (`read?_isFraction_iff`).
-/

namespace CoverageDiff

open Text

namespace Decimal

/-! ## Texts of numbers -/

/-- Digits with single underscores between some of them, and the values of the digits. -/
inductive WritesDigits : List Char → List ℕ → Prop
  | one {c : Char} {d : ℕ} (digit : digitValue? c = some d) : WritesDigits [c] [d]
  | next {c : Char} {d : ℕ} {cs : List Char} {ds : List ℕ} (digit : digitValue? c = some d)
      (rest : WritesDigits cs ds) : WritesDigits (c :: cs) (d :: ds)
  | joined {c : Char} {d : ℕ} {cs : List Char} {ds : List ℕ} (digit : digitValue? c = some d)
      (rest : WritesDigits cs ds) : WritesDigits (c :: '_' :: cs) (d :: ds)

/-- Digits that may be missing. -/
inductive WritesPart : List Char → List ℕ → Prop
  | missing : WritesPart [] []
  | digits {cs : List Char} {ds : List ℕ} (h : WritesDigits cs ds) : WritesPart cs ds

/-- A sign that may be missing, `true` for minus. -/
inductive WritesSign : List Char → Bool → Prop
  | missing : WritesSign [] false
  | plus : WritesSign ['+'] false
  | minus : WritesSign ['-'] true

/-- A point with digits behind it, which may be missing. -/
inductive WritesFraction : List Char → List ℕ → Prop
  | missing : WritesFraction [] []
  | point {cs : List Char} {ds : List ℕ} (part : WritesPart cs ds) : WritesFraction ('.' :: cs) ds

/-- A power of ten, which may be missing. -/
inductive WritesExponent : List Char → ℤ → Prop
  | missing : WritesExponent [] 0
  | power {c : Char} {s cs : List Char} {negative : Bool} {ds : List ℕ} (letter : c = 'e' ∨ c = 'E')
      (sign : WritesSign s negative) (digits : WritesDigits cs ds) :
      WritesExponent (c :: (s ++ cs)) (if negative then -(ofDigits ds : ℤ) else ofDigits ds)

/-- The number with a sign, digits before and after the point, and a power of ten. -/
def valueOf (negative : Bool) (whole part : List ℕ) (exponent : ℤ) : ℚ :=
  (if negative then -1 else 1) * (ofDigits whole + ofDigits part / 10 ^ part.length) * 10 ^ exponent

/-- A decimal number with its value. -/
inductive WritesDecimal : List Char → ℚ → Prop
  | intro {s w f x : List Char} {negative : Bool} {whole part : List ℕ} {exponent : ℤ}
      (sign : WritesSign s negative) (digits : WritesPart w whole) (point : WritesFraction f part)
      (digit : whole ≠ [] ∨ part ≠ []) (power : WritesExponent x exponent) :
      WritesDecimal (s ++ (w ++ (f ++ x))) (valueOf negative whole part exponent)

/-! ## Characters of numbers -/

/-- A digit is not a blank. -/
theorem isBlank_of_digitValue? {c : Char} {d : ℕ} (h : digitValue? c = some d) :
    isBlank c = false := by
  rw [Bool.eq_false_iff]
  intro hblank
  rw [digitValue?_of_isBlank hblank] at h
  contradiction

/-- The characters that a number can have. -/
def IsNumberChar (c : Char) : Prop :=
  (∃ d, digitValue? c = some d) ∨ c ∈ ['_', '.', '+', '-', 'e', 'E']

theorem IsNumberChar.isBlank_eq_false {c : Char} (h : IsNumberChar c) : isBlank c = false := by
  rcases h with ⟨d, hd⟩ | hmem
  · exact isBlank_of_digitValue? hd
  · have hplain : ['_', '.', '+', '-', 'e', 'E'].all (fun c => !isBlank c) = true := by decide
    simpa using List.all_eq_true.mp hplain c hmem

section Characters

variable {cs : List Char} {ds : List ℕ}

theorem WritesDigits.isNumberChar (h : WritesDigits cs ds) : ∀ c ∈ cs, IsNumberChar c := by
  induction h with
  | one digit => exact List.forall_mem_singleton.mpr (.inl ⟨_, digit⟩)
  | next digit _ ih => exact List.forall_mem_cons.mpr ⟨.inl ⟨_, digit⟩, ih⟩
  | joined digit _ ih =>
      refine List.forall_mem_cons.mpr ⟨.inl ⟨_, digit⟩, List.forall_mem_cons.mpr ⟨.inr ?_, ih⟩⟩
      decide

theorem WritesPart.isNumberChar (h : WritesPart cs ds) : ∀ c ∈ cs, IsNumberChar c := by
  cases h with
  | missing => simp
  | digits h => exact h.isNumberChar

theorem WritesSign.isNumberChar {negative : Bool} (h : WritesSign cs negative) :
    ∀ c ∈ cs, IsNumberChar c := by
  cases h with
  | missing => simp
  | plus => exact List.forall_mem_singleton.mpr (.inr (by decide))
  | minus => exact List.forall_mem_singleton.mpr (.inr (by decide))

theorem WritesFraction.isNumberChar (h : WritesFraction cs ds) : ∀ c ∈ cs, IsNumberChar c := by
  cases h with
  | missing => simp
  | point part => exact List.forall_mem_cons.mpr ⟨.inr (by decide), part.isNumberChar⟩

theorem WritesExponent.isNumberChar {e : ℤ} (h : WritesExponent cs e) :
    ∀ c ∈ cs, IsNumberChar c := by
  cases h with
  | missing => simp
  | power letter sign digits =>
      refine List.forall_mem_cons.mpr ⟨.inr ?_, ?_⟩
      · rcases letter with rfl | rfl <;> decide
      · exact List.forall_mem_append.mpr ⟨sign.isNumberChar, digits.isNumberChar⟩

theorem WritesDecimal.isNumberChar {p : ℚ} (h : WritesDecimal cs p) :
    ∀ c ∈ cs, IsNumberChar c := by
  obtain ⟨sign, digits, point, _, power⟩ := h
  simp only [List.forall_mem_append]
  exact ⟨sign.isNumberChar, digits.isNumberChar, point.isNumberChar, power.isNumberChar⟩

end Characters

/-! ## Taking the parts -/

section Parts

variable {cs rest : List Char} {ds : List ℕ}

/-- A text does not go on with a run of digits. -/
def EndsDigits (text : List Char) : Prop :=
  ∀ c ∈ text.head?, digitValue? c = none ∧ c ≠ '_'

theorem EndsDigits.takeDigits (h : EndsDigits rest) : takeDigits rest = ([], rest) := by
  cases rest with
  | nil => rw [Text.takeDigits]
  | cons c rest => simp [Text.takeDigits, (h c rfl).1]

theorem EndsDigits.joinsDigit (h : EndsDigits rest) : joinsDigit rest = false := by
  unfold Text.joinsDigit
  split
  · exact absurd rfl (h '_' rfl).2
  · rfl

/-- A run of digits starts with a digit. -/
theorem WritesDigits.exists_cons (h : WritesDigits cs ds) :
    ∃ c d more, cs = c :: more ∧ digitValue? c = some d := by
  cases h with
  | one digit => exact ⟨_, _, _, rfl, digit⟩
  | next digit _ => exact ⟨_, _, _, rfl, digit⟩
  | joined digit _ => exact ⟨_, _, _, rfl, digit⟩

/-- Digits are taken as they are written. -/
theorem takeDigits_append (h : WritesDigits cs ds) (hrest : EndsDigits rest) :
    takeDigits (cs ++ rest) = (ds, rest) := by
  induction h with
  | one digit => simp [takeDigits, digit, hrest.joinsDigit, hrest.takeDigits]
  | @next c d cs ds digit more ih =>
      have hjoin : joinsDigit (cs ++ rest) = false := by
        obtain ⟨c', d', more', rfl, hc'⟩ := more.exists_cons
        have hjoint := ne_of_digitValue? hc' (by decide : digitValue? '_' = none)
        simp [joinsDigit, hjoint]
      rw [List.cons_append, takeDigits, digit]
      simp [hjoin, ih]
  | @joined c d cs ds digit more ih =>
      have hjoin : joinsDigit ('_' :: (cs ++ rest)) = true := by
        obtain ⟨c', d', more', rfl, hc'⟩ := more.exists_cons
        simp [joinsDigit, hc']
      rw [List.cons_append, List.cons_append, takeDigits, digit]
      simp [hjoin, ih]

theorem takeDigits_part (h : WritesPart cs ds) (hrest : EndsDigits rest) :
    takeDigits (cs ++ rest) = (ds, rest) := by
  cases h with
  | missing => exact hrest.takeDigits
  | digits h => exact takeDigits_append h hrest

/-- A sign is taken as it is written, if none follows. -/
theorem takeSign_append {s : List Char} {negative : Bool} (h : WritesSign s negative)
    (hrest : ∀ c ∈ rest.head?, c ≠ '+' ∧ c ≠ '-') : takeSign (s ++ rest) = (negative, rest) := by
  cases h with
  | missing =>
      rw [List.nil_append, takeSign.eq_def]
      split
      · exact absurd rfl (hrest '+' rfl).1
      · exact absurd rfl (hrest '-' rfl).2
      · rfl
  | plus => rfl
  | minus => rfl

/-- No digit is a sign. -/
theorem WritesDigits.not_sign (h : WritesDigits cs ds) (rest : List Char) :
    ∀ c ∈ (cs ++ rest).head?, c ≠ '+' ∧ c ≠ '-' := by
  obtain ⟨c, d, more, rfl, hc⟩ := h.exists_cons
  intro x hx
  cases hx
  exact ⟨ne_of_digitValue? hc (by decide), ne_of_digitValue? hc (by decide)⟩

theorem WritesExponent.endsDigits {e : ℤ} (h : WritesExponent cs e) : EndsDigits cs := by
  cases h with
  | missing => simp [EndsDigits]
  | power letter _ _ =>
      intro c hc
      cases hc
      rcases letter with rfl | rfl <;> decide

theorem takeExponent_eq {e : ℤ} (h : WritesExponent cs e) : takeExponent cs = (e, []) := by
  cases h with
  | missing => rfl
  | @power c s cs negative ds letter sign digits =>
      have hsign : takeSign (s ++ cs) = (negative, cs) := by
        have hnot := digits.not_sign []
        rw [List.append_nil] at hnot
        exact takeSign_append sign hnot
      have hdigits : takeDigits cs = (ds, []) := by
        have htake : takeDigits (cs ++ []) = (ds, []) :=
          takeDigits_append digits (by simp [EndsDigits])
        rwa [List.append_nil] at htake
      have hletter : (c = 'e' || c = 'E') = true := by simpa using letter
      rw [takeExponent, if_pos hletter, hsign]
      simp only [hdigits]
      cases digits <;> rfl

theorem WritesFraction.endsDigits {x : List Char} {e : ℤ} (h : WritesFraction cs ds)
    (hx : WritesExponent x e) : EndsDigits (cs ++ x) := by
  cases h with
  | missing => exact hx.endsDigits
  | point _ =>
      intro c hc
      cases hc
      decide

theorem takeFraction_append {x : List Char} {e : ℤ} (h : WritesFraction cs ds)
    (hx : WritesExponent x e) : takeFraction (cs ++ x) = (ds, x) := by
  cases h with
  | missing =>
      rw [List.nil_append, takeFraction.eq_def]
      split
      · cases hx with
        | power letter _ _ => simp at letter
      · rfl
  | point part => exact takeDigits_part part hx.endsDigits

end Parts

/-! ## Reading -/

theorem ofDigits_append (xs ys : List ℕ) :
    ofDigits (xs ++ ys) = ofDigits xs * 10 ^ ys.length + ofDigits ys := by
  induction ys using List.reverseRecOn with
  | nil => simp [ofDigits]
  | append_singleton ys y ih =>
      have hconcat : ∀ zs : List ℕ, ofDigits (zs ++ [y]) = 10 * ofDigits zs + y := by
        simp [ofDigits]
      rw [← List.append_assoc, hconcat, hconcat, ih, List.length_append, List.length_singleton]
      ring

/-- The number that is read, with the digits of both sides of the point in one. -/
theorem valueOf_eq (negative : Bool) (whole part : List ℕ) (exponent : ℤ) :
    valueOf negative whole part exponent =
      (if negative then -1 else 1) *
        Binary64.decimalMagnitude (ofDigits (whole ++ part)) (exponent - part.length) := by
  have hten : (10 : ℚ) ≠ 0 := by norm_num
  rw [valueOf, Binary64.decimalMagnitude, ofDigits_append, zpow_sub₀ hten, zpow_natCast]
  push_cast
  field_simp

/-- A number starts with a digit or a point, after its sign. -/
theorem head_of_body {w f x : List Char} {whole part : List ℕ} (digits : WritesPart w whole)
    (point : WritesFraction f part) (hsome : whole ≠ [] ∨ part ≠ []) :
    ∃ c more, w ++ (f ++ x) = c :: more ∧ ((∃ d, digitValue? c = some d) ∨ c = '.') := by
  cases digits with
  | digits h =>
      obtain ⟨c, d, more, rfl, hc⟩ := h.exists_cons
      exact ⟨c, _, rfl, .inl ⟨d, hc⟩⟩
  | missing =>
      cases point with
      | missing => simp at hsome
      | point _ => exact ⟨'.', _, rfl, .inr rfl⟩

/-- A digit or a point is no letter. -/
theorem asciiLower_eq_self {c : Char} (hc : (∃ d, digitValue? c = some d) ∨ c = '.') :
    asciiLower c = c := by
  have hsmall : ¬('A' ≤ c && c ≤ 'Z') = true := by
    rcases hc with ⟨d, hd⟩ | rfl
    · rw [Bool.and_eq_true, decide_eq_true_iff, decide_eq_true_iff]
      rintro ⟨hA, hZ⟩
      rw [digitValue?_of_capital hA hZ] at hd
      contradiction
    · decide
  rw [asciiLower, if_neg hsmall]

theorem ne_of_start {c x : Char} (hc : (∃ d, digitValue? c = some d) ∨ c = '.')
    (hx : digitValue? x = none) (hx' : x ≠ '.') : c ≠ x := by
  rcases hc with ⟨d, hd⟩ | rfl
  · exact ne_of_digitValue? hd hx
  · exact hx'.symm

theorem readFraction?_eq {w f x : List Char} {whole part : List ℕ} {exponent : ℤ}
    (digits : WritesPart w whole) (point : WritesFraction f part)
    (hsome : whole ≠ [] ∨ part ≠ []) (power : WritesExponent x exponent) (negative : Bool) :
    readFraction? negative (w ++ (f ++ x)) =
      some (.fraction negative (ofDigits (whole ++ part)) (exponent - part.length)) := by
  have hempty : (whole.isEmpty && part.isEmpty) = false := by
    rcases hsome with h | h <;> simp [h]
  rw [readFraction?, takeDigits_part digits (point.endsDigits power)]
  simp only [takeFraction_append point power, hempty, takeExponent_eq power, Bool.false_eq_true,
    if_false]

theorem WritesDecimal.ne_nil {cs : List Char} {p : ℚ} (h : WritesDecimal cs p) : cs ≠ [] := by
  obtain ⟨sign, digits, point, hsome, power⟩ := h
  obtain ⟨c, more, hbody, _⟩ := head_of_body digits point hsome
  rw [hbody]
  simp

/-- **Reading a decimal number**: it is read with its value, whatever blanks stand around it. -/
theorem read?_of_writesDecimal {before cs after : List Char} {p : ℚ} (h : WritesDecimal cs p)
    (hbefore : ∀ c ∈ before, isNumberBlank c = true)
    (hafter : ∀ c ∈ after, isNumberBlank c = true) :
    ∃ negative mantissa exponent,
      read? (before ++ (cs ++ after)) = some (.fraction negative mantissa exponent) ∧
        p = (if negative then -1 else 1) * Binary64.decimalMagnitude mantissa exponent := by
  have htrim : trimNumber (before ++ (cs ++ after)) = cs := by
    have hplain : ∀ c ∈ cs, isNumberBlank c = false :=
      fun c hc => isNumberBlank_eq_false (h.isNumberChar c hc).isBlank_eq_false
    exact dropAround_eq h.ne_nil hbefore hafter (fun c hc => hplain c (List.mem_of_mem_head? hc))
      fun c hc => hplain c (List.mem_of_mem_getLast? hc)
  obtain @⟨s, w, f, x, negative, whole, part, exponent, sign, digits, point, hsome, power⟩ := h
  obtain ⟨c, more, hbody, hstart⟩ := head_of_body (x := x) digits point hsome
  have hsign : takeSign (s ++ (w ++ (f ++ x))) = (negative, w ++ (f ++ x)) := by
    refine takeSign_append sign ?_
    rw [hbody]
    intro c' hc'
    cases hc'
    exact ⟨ne_of_start hstart (by decide) (by decide), ne_of_start hstart (by decide) (by decide)⟩
  -- the first character of the number is none of a word
  have hword : ∀ first rest, digitValue? first = none → first ≠ '.' →
      String.ofList ((w ++ (f ++ x)).map asciiLower) ≠ String.ofList (first :: rest) := by
    intro first rest hfirst hpoint heq
    rw [hbody, List.map_cons, asciiLower_eq_self hstart, String.ofList_inj, List.cons.injEq] at heq
    exact ne_of_start hstart hfirst hpoint heq.1
  have hinf := hword 'i' ['n', 'f'] (by decide) (by decide)
  have hinfinity := hword 'i' ['n', 'f', 'i', 'n', 'i', 't', 'y'] (by decide) (by decide)
  have hnan := hword 'n' ['a', 'n'] (by decide) (by decide)
  refine ⟨negative, _, _, ?_, valueOf_eq negative whole part exponent⟩
  rw [read?, htrim, hsign]
  simp only [Bool.or_eq_true, decide_eq_true_iff]
  rw [if_neg (not_or.mpr ⟨hinf, hinfinity⟩), if_neg hnan]
  exact readFraction?_eq digits point hsome power negative

/-! ## What is read -/

section Read

variable {text rest : List Char} {ds : List ℕ} {e : ℤ}

/-- An underscore that joins digits has one behind it. -/
theorem eq_of_joinsDigit (h : joinsDigit text = true) :
    ∃ c d more, text = '_' :: c :: more ∧ digitValue? c = some d := by
  unfold joinsDigit at h
  split at h
  · next c more => exact ⟨c, _, more, rfl, (Option.isSome_iff_exists.mp h).choose_spec⟩
  · contradiction

/-- What is taken for digits is written as digits. -/
theorem writesPart_of_takeDigits (h : takeDigits text = (ds, rest)) :
    ∃ cs, text = cs ++ rest ∧ WritesPart cs ds := by
  induction text using takeDigits.induct generalizing ds with
  | case1 =>
      rw [takeDigits] at h
      cases h
      exact ⟨[], rfl, .missing⟩
  | case2 c more hc =>
      rw [takeDigits, hc] at h
      cases h
      exact ⟨[], rfl, .missing⟩
  | case3 c more d hc ds' after htake ih =>
      rw [takeDigits, hc] at h
      by_cases hjoin : joinsDigit more = true
      · obtain ⟨c', d', more', rfl, hc'⟩ := eq_of_joinsDigit hjoin
        simp only [hjoin, dite_true, if_true, List.drop_one, List.tail_cons] at htake ih h
        simp only [htake, Prod.mk.injEq] at h
        obtain ⟨rfl, rfl⟩ := h
        obtain ⟨cs, hcs, hpart⟩ := ih htake
        cases hpart with
        | missing => simp [takeDigits, hc'] at htake
        | digits hdigits => exact ⟨c :: '_' :: cs, by rw [hcs]; rfl, .digits (.joined hc hdigits)⟩
      · simp only [hjoin, dite_false, if_false, Bool.false_eq_true] at htake ih h
        simp only [htake, Prod.mk.injEq] at h
        obtain ⟨rfl, rfl⟩ := h
        obtain ⟨cs, rfl, hpart⟩ := ih htake
        cases hpart with
        | missing => exact ⟨[c], rfl, .digits (.one hc)⟩
        | digits hdigits => exact ⟨c :: cs, rfl, .digits (.next hc hdigits)⟩

theorem writesSign_of_takeSign {negative : Bool} (h : takeSign text = (negative, rest)) :
    ∃ s, text = s ++ rest ∧ WritesSign s negative := by
  unfold takeSign at h
  split at h
  · cases h
    exact ⟨['+'], rfl, .plus⟩
  · cases h
    exact ⟨['-'], rfl, .minus⟩
  · cases h
    exact ⟨[], rfl, .missing⟩

theorem writesFraction_of_takeFraction (h : takeFraction text = (ds, rest)) :
    ∃ f, text = f ++ rest ∧ WritesFraction f ds := by
  unfold takeFraction at h
  split at h
  · obtain ⟨cs, rfl, hpart⟩ := writesPart_of_takeDigits h
    exact ⟨'.' :: cs, rfl, .point hpart⟩
  · cases h
    exact ⟨[], rfl, .missing⟩

theorem writesExponent_of_takeExponent (h : takeExponent text = (e, [])) :
    WritesExponent text e := by
  unfold takeExponent at h
  split at h
  · next c rest =>
      split at h
      · next hletter =>
          have hc : c = 'e' ∨ c = 'E' := by simpa using hletter
          cases hbody : takeSign rest with
          | mk negative body =>
              obtain ⟨s, rfl, hsign⟩ := writesSign_of_takeSign hbody
              simp only [hbody] at h
              split at h
              · cases h
              · next ds after hnil htake =>
                  obtain ⟨rfl, rfl⟩ := Prod.mk.inj h
                  obtain ⟨cs, rfl, hpart⟩ := writesPart_of_takeDigits htake
                  rw [List.append_nil]
                  cases hpart with
                  | missing => exact absurd rfl hnil
                  | digits hdigits => exact .power hc hsign hdigits
      · cases h
  · cases h
    exact .missing

theorem writesDecimal_of_readFraction? {negative : Bool} {d : Decimal} {s : List Char}
    (hs : WritesSign s negative) (h : readFraction? negative text = some d) :
    ∃ p, WritesDecimal (s ++ text) p := by
  unfold readFraction? at h
  cases hdigits : takeDigits text with
  | mk whole afterWhole =>
    cases hpoint : takeFraction afterWhole with
    | mk part afterPart =>
        obtain ⟨w, rfl, hwhole⟩ := writesPart_of_takeDigits hdigits
        obtain ⟨f, rfl, hpart⟩ := writesFraction_of_takeFraction hpoint
        simp only [hdigits, hpoint] at h
        split at h
        · contradiction
        · next hsome =>
            split at h
            · next e hexponent =>
                have hpower := writesExponent_of_takeExponent hexponent
                refine ⟨_, .intro hs hwhole hpart ?_ hpower⟩
                simpa [List.isEmpty_iff, imp_iff_not_or] using hsome
            · contradiction

/-- **What is read as a decimal fraction** is a decimal number with blanks around it. -/
theorem read?_isFraction_iff :
    (∃ negative mantissa exponent, read? text = some (.fraction negative mantissa exponent)) ↔
      ∃ before cs after p, text = before ++ (cs ++ after) ∧ WritesDecimal cs p ∧
        (∀ c ∈ before, isNumberBlank c = true) ∧ ∀ c ∈ after, isNumberBlank c = true := by
  constructor
  · rintro ⟨negative, mantissa, exponent, h⟩
    obtain ⟨before, after, htext, hbefore, hafter⟩ := eq_append_dropAround isNumberBlank text
    rw [← trimNumber] at htext
    unfold read? at h
    cases hsign : takeSign (trimNumber text) with
    | mk minus body =>
        obtain ⟨s, hs, hwrites⟩ := writesSign_of_takeSign hsign
        simp only [hsign] at h
        split at h
        · cases h
        · split at h
          · cases h
          · obtain ⟨p, hp⟩ := writesDecimal_of_readFraction? hwrites h
            rw [hs] at htext
            exact ⟨before, s ++ body, after, p, htext, hp, hbefore, hafter⟩
  · rintro ⟨before, cs, after, p, rfl, hp, hbefore, hafter⟩
    obtain ⟨negative, mantissa, exponent, hread, _⟩ := read?_of_writesDecimal hp hbefore hafter
    exact ⟨negative, mantissa, exponent, hread⟩

end Read

end Decimal

end CoverageDiff
