import CoverageDiff.Styled.Table
import CoverageDiff.Proofs.Steps
import Mathlib.Data.List.Infix
import Mathlib.Data.List.TakeWhile

/-!
# CoverageDiff.Proofs.Literal

Which texts are shown as they are written, although tags, escapes and codes are
looked for in them (`Literal`).

Whatever is found takes something from the text: a tag its bracket or a
backslash before it, an escape its backslash, a code its colons, and the emoji
that takes the place of a code has none of these marks.  So each step leaves a
text as it is or leaves fewer marks in it:

* codes (`Emoji.reduced_replaceCodes`);
* escapes (`reduced_dropEscapes`);
* tags (`noTag_or_lt`).

A text that is not literal therefore has lost marks when it is shown
(`literal_or_lt`).
-/

namespace CoverageDiff.Styled

open Text

/-! ## Marks -/

/-- Whether a character can belong to a tag, an escape or a code. -/
def isMark (c : Char) : Bool :=
  c = '[' || c = '\\' || c = ':'

/-- How many such characters a text has. -/
def markCount (text : List Char) : Nat :=
  text.countP isMark

@[simp] theorem markCount_nil : markCount [] = 0 := rfl

@[simp] theorem markCount_cons (c : Char) (text : List Char) :
    markCount (c :: text) = markCount text + if isMark c = true then 1 else 0 :=
  List.countP_cons

@[simp] theorem markCount_append (a b : List Char) :
    markCount (a ++ b) = markCount a + markCount b :=
  List.countP_append

/-- A text has none of them. -/
def Unmarked (text : List Char) : Prop :=
  ∀ c ∈ text, isMark c = false

theorem Unmarked.markCount_eq_zero {text : List Char} (h : Unmarked text) : markCount text = 0 :=
  List.countP_eq_zero.mpr fun c hc => by simp [h c hc]

theorem markCount_replicate_slash (n : Nat) : markCount (List.replicate n '\\') = n := by
  rw [markCount, List.countP_replicate, if_pos (by decide)]

/-- A text was left as it is, or marks were taken from it. -/
def Reduced (text left : List Char) : Prop :=
  left = text ∨ markCount left < markCount text

namespace Reduced

variable {text left left' : List Char}

theorem le (h : Reduced text left) : markCount left ≤ markCount text := by
  rcases h with rfl | h
  · exact Nat.le_refl _
  · exact Nat.le_of_lt h

theorem append_left (h : Reduced text left) (front : List Char) :
    Reduced (front ++ text) (front ++ left) := by
  rcases h with rfl | h
  · exact .inl rfl
  · exact .inr (by simpa using h)

end Reduced

/-! ## Emoji -/

namespace Emoji

/-- Whether a byte is none that a mark is encoded as. -/
def isClearByte (b : UInt8) : Bool :=
  Nat.blt b.toNat 0x3a || Nat.blt 0x5c b.toNat

/-- A text has no marks if its bytes are none of theirs. -/
theorem unmarked_toList {s : String} (h : s.toByteArray.data.toList.all isClearByte = true) :
    Unmarked s.toList := by
  have hbytes : s.toByteArray.data.toList = s.toList.flatMap String.utf8EncodeChar := by
    rw [← String.utf8Encode_toList, List.utf8Encode, List.data_toByteArray]
  rw [hbytes, List.all_eq_true] at h
  intro c hc
  have hmem : ∀ b ∈ String.utf8EncodeChar c, isClearByte b = true :=
    fun b hb => h b (List.mem_flatMap.mpr ⟨c, hc, hb⟩)
  rw [Bool.eq_false_iff]
  intro hmark
  simp only [isMark, Bool.or_eq_true, decide_eq_true_eq] at hmark
  rcases hmark with (rfl | rfl) | rfl
  · exact absurd (hmem 0x5b (by decide)) (by decide)
  · exact absurd (hmem 0x5c (by decide)) (by decide)
  · exact absurd (hmem 0x3a (by decide)) (by decide)

theorem unmarked_emoji : ∀ p ∈ untonedEmoji ++ tonedEmoji, Unmarked p.2.toList := by
  -- bytes, since characters take far longer to decode
  have hbytes : (untonedEmoji ++ tonedEmoji).all
      (fun p => p.2.toByteArray.data.toList.all isClearByte) = true := by decide +kernel
  exact fun p hp => unmarked_toList (List.all_eq_true.mp hbytes p hp)

theorem isMark_ofNat_eq_false {n : Nat} (h : 0x5c < n) : isMark (Char.ofNat n) = false := by
  have hvalue : (Char.ofNat n).toNat = n ∨ (Char.ofNat n).toNat = 0 := by
    by_cases hvalid : n.isValidChar
    · rw [Char.ofNat, dif_pos hvalid]
      exact .inl rfl
    · rw [Char.ofNat, dif_neg hvalid]
      exact .inr rfl
  have hne : ∀ d : Char, 0 < d.toNat → d.toNat ≤ 0x5c → Char.ofNat n ≠ d := by
    rintro d hpos hle rfl
    omega
  simp [isMark, hne '[' (by decide) (by decide), hne '\\' (by decide) (by decide),
    hne ':' (by decide) (by decide)]

theorem unmarked_lettersFrom {first : Nat} (h : 0x5c < first) (letters : String) :
    Unmarked (lettersFrom first letters) := by
  intro c hc
  obtain ⟨d, _, rfl⟩ := List.mem_map.mp hc
  exact isMark_ofNat_eq_false (by omega)

theorem mem_of_lookup {table : List (String × String)} {name value : String}
    (h : table.lookup name = some value) : (name, value) ∈ table := by
  obtain ⟨before, after, rfl, _⟩ := List.lookup_eq_some_iff.mp h
  exact List.mem_append_right _ List.mem_cons_self

theorem unmarked_withTone {tone : Char} (htone : isMark tone = false) {cs : List Char}
    (h : Unmarked cs) : Unmarked (withTone tone cs) := by
  cases cs with
  | nil => exact List.forall_mem_nil _
  | cons c rest =>
      obtain ⟨hc, hrest⟩ := List.forall_mem_cons.mp h
      have hleft : Unmarked (rest.dropWhile (· == '\ufe0f')) :=
        fun d hd => hrest d ((List.dropWhile_suffix _).subset hd)
      exact List.forall_mem_cons.mpr ⟨hc, List.forall_mem_cons.mpr ⟨htone, hleft⟩⟩

theorem unmarked_landFlag (letters : String) : Unmarked (landFlag letters) :=
  unmarked_lettersFrom (by decide) letters

theorem unmarked_regionFlag (letters : String) : Unmarked (regionFlag letters) := by
  intro c hc
  rcases List.mem_cons.mp hc with rfl | hc
  · decide
  · rcases List.mem_append.mp hc with hc | hc
    · exact unmarked_lettersFrom (by decide) letters c hc
    · exact List.mem_singleton.mp hc ▸ isMark_ofNat_eq_false (by decide)

/-- **Emoji** have no marks. -/
theorem unmarked_of_ofName? {name : String} {cs : List Char} (h : ofName? name = some cs) :
    Unmarked cs := by
  have hemoji : ∀ {table name value}, table.lookup name = some value →
      table ⊆ untonedEmoji ++ tonedEmoji → Unmarked value.toList :=
    fun hvalue hsub => unmarked_emoji _ (hsub (mem_of_lookup hvalue))
  have huntoned := List.subset_append_left untonedEmoji tonedEmoji
  have htoned := List.subset_append_right untonedEmoji tonedEmoji
  simp only [ofName?, Option.orElse_eq_orElse, Option.orElse_eq_or, Option.or_eq_some_iff,
    Option.map_eq_some_iff] at h
  rcases h with ⟨value, hvalue, rfl⟩ | ⟨_, ⟨value, hvalue, rfl⟩ | ⟨_, h | ⟨_, h | ⟨_, h⟩⟩⟩⟩
  · exact hemoji hvalue huntoned
  · exact hemoji hvalue htoned
  · obtain ⟨⟨ending, tone⟩, hending, h⟩ := List.exists_of_findSome?_eq_some h
    simp only [Option.bind_eq_bind, Option.bind_eq_some_iff] at h
    obtain ⟨base, _, value, hvalue, h⟩ := h
    cases h
    have htones : ∀ t ∈ tones, isMark t.2 = false := by decide
    exact unmarked_withTone (htones _ hending) (hemoji hvalue htoned)
  · simp only [flag?, Option.orElse_eq_orElse, Option.orElse_eq_or, Option.or_eq_some_iff,
      Option.map_eq_some_iff] at h
    rcases h with ⟨letters, _, rfl⟩ | ⟨_, letters, _, rfl⟩
    · exact unmarked_landFlag letters
    · exact unmarked_regionFlag letters
  · simp only [flagFor?, Option.bind_eq_bind, Option.bind_eq_some_iff, Option.map_eq_some_iff] at h
    obtain ⟨_, _, letters, _, rfl⟩ := h
    exact unmarked_landFlag letters

/-- The sign for a form, if one is asked for, is none of the marks. -/
theorem unmarked_sign {form? : String × Char → Option (List Char × List Char)}
    (h : ∀ entry form, form? entry = some form → form.2 = [entry.2]) (code : List Char) :
    Unmarked ((forms.findSome? form?).getD (code, [])).2 := by
  cases hform : forms.findSome? form? with
  | none => exact List.forall_mem_nil _
  | some form =>
      obtain ⟨entry, hentry, heq⟩ := List.exists_of_findSome?_eq_some hform
      have hforms : ∀ entry ∈ forms, isMark entry.2 = false := by decide
      intro c hc
      rw [Option.getD_some, h entry form heq] at hc
      exact List.mem_singleton.mp hc ▸ hforms entry hentry

theorem unmarked_of_ofCode? {code cs : List Char} (h : ofCode? code = some cs) :
    Unmarked cs := by
  obtain ⟨emoji, hemoji, rfl⟩ := Option.map_eq_some_iff.mp h
  intro c hc
  rcases List.mem_append.mp hc with hc | hc
  · exact unmarked_of_ofName? hemoji c hc
  · refine unmarked_sign ?_ code c hc
    intro entry form hform
    obtain ⟨_, _, rfl⟩ := Option.map_eq_some_iff.mp hform
    rfl

theorem upToColon_eq_some {text code after : List Char} (h : upToColon text = some (code, after)) :
    text = code ++ ':' :: after := by
  induction text generalizing code with
  | nil => cases h
  | cons c rest ih =>
      rw [upToColon] at h
      split at h
      · next hc =>
          cases h
          rw [hc]
          rfl
      · split at h
        · cases h
        · obtain ⟨⟨inside, after'⟩, hrest, heq⟩ := Option.map_eq_some_iff.mp h
          cases heq
          rw [ih hrest]
          rfl

/-- **Codes**: replacing them leaves a text as it is, or takes marks from it. -/
theorem reduced_replaceCodes (text : List Char) : Reduced text (replaceCodes text) := by
  fun_induction replaceCodes text with
  | case1 => exact .inl rfl
  | case2 rest code after h hlt ih =>
      rw [upToColon_eq_some h]
      cases hcode : ofCode? code with
      | none => simpa using ih.append_left (':' :: code ++ [':'])
      | some cs =>
          have hcs : markCount cs = 0 := (unmarked_of_ofCode? hcode).markCount_eq_zero
          have hcolon : isMark ':' = true := by decide
          have hle := ih.le
          exact .inr (by simp [hcs, hcolon]; omega)
  | case3 rest h ih => exact ih.append_left [':']
  | case4 c rest hc ih => exact ih.append_left [c]

end Emoji

/-! ## Escapes -/

theorem reduced_dropEscapes (text : List Char) : Reduced text (dropEscapes text) := by
  fun_induction dropEscapes text with
  | case1 rest ih =>
      have hslash : isMark '\\' = true := by decide
      have hle := ih.le
      exact .inr (by simp [hslash]; omega)
  | case2 c rest _ ih => exact ih.append_left [c]
  | case3 => exact .inl rfl

/-- Nothing is dropped from a text without escapes. -/
theorem dropEscapes_eq_self_iff {text : List Char} :
    dropEscapes text = text ↔ ¬['\\', '['] <:+: text := by
  fun_induction dropEscapes text with
  | case1 rest ih => simp [List.infix_cons_iff]
  | case2 c rest h ih =>
      have hprefix : ¬['\\', '['] <+: c :: rest := by
        rintro ⟨after, heq⟩
        obtain ⟨rfl, rfl⟩ := List.cons.inj heq
        exact h _ rfl rfl
      simp [List.infix_cons_iff, hprefix, ih]
  | case3 => simp

/-! ## Tags -/

/-- A text has no tag. -/
def NoTag (text : List Char) : Prop :=
  ∀ s, s <:+ text → tagAt? s = none

instance (text : List Char) : Decidable (NoTag text) :=
  decidable_of_iff (∀ s ∈ text.tails, tagAt? s = none) (by simp only [NoTag, List.mem_tails])

/-- The characters of the texts among tokens. -/
def textOf (tokens : List Token) : List Char :=
  tokens.flatMap fun
    | .text cs => cs
    | .tag _ => []

section Tokens

variable {plain rest tag after : List Char} {c : Char}

theorem tokensFrom_cons_of_none
    (h : tagAt? ((c :: rest).drop (leadingSlashes (c :: rest))) = none) :
    tokensFrom plain (c :: rest) = tokensFrom (c :: plain) rest := by
  rw [tokensFrom]
  split
  · next hsome => cases h.symm.trans hsome
  · rfl

theorem tokensFrom_cons_of_some
    (h : tagAt? ((c :: rest).drop (leadingSlashes (c :: rest))) = some (tag, after)) :
    tokensFrom plain (c :: rest) =
      textToken (dropEscapes plain.reverse)
        ++ textToken (List.replicate (leadingSlashes (c :: rest) / 2) '\\')
        ++ (if leadingSlashes (c :: rest) % 2 = 1 then [.text ('[' :: tag ++ [']'])] else [.tag tag])
        ++ tokensFrom [] after := by
  rw [tokensFrom]
  split
  · next hsome =>
      cases h.symm.trans hsome
      rfl
  · next hnone => cases h.symm.trans hnone

end Tokens

theorem upToBracket_eq_some {text inside after : List Char}
    (h : upToBracket text = some (inside, after)) : text = inside ++ ']' :: after := by
  induction text generalizing inside with
  | nil => cases h
  | cons c rest ih =>
      rw [upToBracket] at h
      split at h
      · next hc =>
          cases h
          rw [hc]
          rfl
      · split at h
        · cases h
        · obtain ⟨⟨inside', after'⟩, hrest, heq⟩ := Option.map_eq_some_iff.mp h
          cases heq
          rw [ih hrest]
          rfl

theorem tagAt?_eq_some {text tag after : List Char} (h : tagAt? text = some (tag, after)) :
    text = '[' :: tag ++ ']' :: after := by
  unfold tagAt? at h
  split at h
  · split at h
    · obtain ⟨⟨inside, after'⟩, hrest, heq⟩ := Option.map_eq_some_iff.mp h
      cases heq
      rw [upToBracket_eq_some hrest]
      rfl
    · cases h
  · cases h

/-- The backslashes at the start of a text, and what follows them. -/
theorem leadingSlashes_append_drop (text : List Char) :
    List.replicate (leadingSlashes text) '\\' ++ text.drop (leadingSlashes text) = text := by
  have hslashes : text.takeWhile (· == '\\') = List.replicate (leadingSlashes text) '\\' :=
    List.eq_replicate_of_mem fun c hc => by simpa using List.mem_takeWhile_imp hc
  rw [← hslashes]
  exact List.prefix_iff_eq_append.mp (List.takeWhile_prefix _)

@[simp] theorem textOf_nil : textOf [] = [] := rfl

@[simp] theorem textOf_append (ts us : List Token) : textOf (ts ++ us) = textOf ts ++ textOf us :=
  List.flatMap_append

@[simp] theorem textOf_text_cons (cs : List Char) (ts : List Token) :
    textOf (.text cs :: ts) = cs ++ textOf ts := rfl

@[simp] theorem textOf_tag_cons (cs : List Char) (ts : List Token) :
    textOf (.tag cs :: ts) = textOf ts := rfl

@[simp] theorem textOf_textToken (cs : List Char) : textOf (textToken cs) = cs := by
  cases cs with
  | nil => rfl
  | cons c cs => exact List.append_nil _

theorem tokensFrom_of_noTag {text : List Char} (h : NoTag text) (plain : List Char) :
    tokensFrom plain text = textToken (dropEscapes (plain.reverse ++ text)) := by
  induction text generalizing plain with
  | nil => rw [tokensFrom, List.append_nil]
  | cons c rest ih =>
      rw [tokensFrom_cons_of_none (h _ (List.drop_suffix _ _)),
        ih (fun s hs => h s (hs.trans (List.suffix_cons c rest))), List.reverse_cons,
        List.append_assoc, List.singleton_append]

/-- A tag takes at least its bracket, or one of the backslashes before it. -/
theorem noTag_or_lt (plain text : List Char) :
    NoTag text ∨ markCount (textOf (tokensFrom plain text)) < markCount (plain.reverse ++ text) := by
  induction plain, text using tokensFrom.induct with
  | case1 plain =>
      refine .inl fun s hs => ?_
      rw [List.suffix_nil.mp hs]
      rfl
  | case2 plain c rest tag after slashes h ih =>
      have hplain := (reduced_dropEscapes plain.reverse).le
      have hafter : markCount (textOf (tokensFrom [] after)) ≤ markCount after := by
        rcases ih with hnone | hlt
        · rw [tokensFrom_of_noTag hnone, textOf_textToken]
          exact (reduced_dropEscapes after).le
        · exact Nat.le_of_lt hlt
      have hopen : isMark '[' = true := by decide
      have hclose : isMark ']' = false := by decide
      have hcount : markCount (c :: rest) = slashes + 1 + markCount tag + markCount after := by
        rw [← leadingSlashes_append_drop (c :: rest), tagAt?_eq_some h]
        simp [markCount_replicate_slash, hopen, hclose]
        omega
      rw [tokensFrom_cons_of_some h]
      right
      simp only [textOf_append, textOf_textToken, markCount_append, markCount_replicate_slash, hcount]
      split
      · simp [hopen, hclose]
        omega
      · simp
        omega
  | case3 plain c rest slashes h ih =>
      rw [tokensFrom_cons_of_none h]
      rw [List.reverse_cons, List.append_assoc, List.singleton_append] at ih
      refine ih.imp_left fun hrest s hs => ?_
      rcases List.suffix_cons_iff.mp hs with rfl | hs
      · -- a text that starts with a backslash starts with no tag
        by_cases hc : c = '\\'
        · rw [hc]
          rfl
        · have hzero : slashes = 0 := by simp [slashes, leadingSlashes, hc]
          rwa [hzero] at h
      · exact hrest s hs

/-! ## Pieces -/

theorem textOf_joinTexts (ts : List Token) : textOf (joinTexts ts) = textOf ts := by
  fun_induction joinTexts ts with
  | case1 cs rest cs' rest' h ih =>
      rw [h, textOf_text_cons] at ih
      rw [textOf_text_cons, textOf_text_cons, ← ih, List.append_assoc]
  | case2 cs rest h ih => rw [textOf_text_cons, textOf_text_cons, ih]
  | case3 cs rest ih => rw [textOf_tag_cons, textOf_tag_cons, ih]
  | case4 => rfl

theorem markCount_withEmoji_le (ts : List Token) :
    markCount (textOf (ts.map Token.withEmoji)) ≤ markCount (textOf ts) := by
  induction ts with
  | nil => exact Nat.le_refl _
  | cons t ts ih =>
      cases t with
      | text cs =>
          have hle := (Emoji.reduced_replaceCodes cs).le
          simp only [List.map_cons, Token.withEmoji, textOf_text_cons, markCount_append]
          omega
      | tag cs => exact ih

/-- Pieces have the characters of the texts among tokens. -/
theorem plainText_of_piecesFrom {opened : List OpenTag} {ts : List Token} {ps : List Piece}
    (h : piecesFrom opened ts = .ok ps) : plainText ps = textOf ts := by
  induction ts generalizing opened ps with
  | nil =>
      cases h
      rfl
  | cons t ts ih =>
      cases t with
      | text cs =>
          obtain ⟨rest, hrest, rfl⟩ := map_eq_ok h
          rw [textOf_text_cons, ← ih hrest]
          rfl
      | tag cs =>
          rw [piecesFrom] at h
          split at h
          · exact ih h
          · cases h

theorem plainText_of_pieces? {text : List Char} {ps : List Piece} (h : pieces? text = .ok ps) :
    plainText ps = textOf ((tokensFrom [] text).map Token.withEmoji) := by
  rw [plainText_of_piecesFrom h, tokens, textOf_joinTexts]

/-- **Without tags** a text is read, and only its escapes and codes are replaced. -/
theorem NoTag.pieces? {text : List Char} (h : NoTag text) :
    ∃ ps, pieces? text = .ok ps ∧ plainText ps = Emoji.replaceCodes (dropEscapes text) := by
  have htokens : tokensFrom [] text = textToken (dropEscapes text) := tokensFrom_of_noTag h []
  have hread : ∃ ps, Styled.pieces? text = .ok ps := by
    rw [Styled.pieces?, tokens, htokens]
    cases dropEscapes text with
    | nil => exact ⟨_, rfl⟩
    | cons c cs => exact ⟨_, rfl⟩
  obtain ⟨ps, hps⟩ := hread
  refine ⟨ps, hps, ?_⟩
  rw [plainText_of_pieces? hps, htokens]
  cases dropEscapes text with
  | nil => simp [textToken, Emoji.replaceCodes]
  | cons c cs => exact List.append_nil _

theorem noTag_of_notMem {text : List Char} (h : '[' ∉ text) : NoTag text := by
  intro s hs
  cases htag : tagAt? s with
  | none => rfl
  | some found =>
      have hstart := tagAt?_eq_some htag
      exact absurd (hs.subset (hstart ▸ List.mem_cons_self)) h

/-! ## Literal texts -/

/-- A text that is shown as it is written. -/
structure Literal (text : List Char) : Prop where
  noTag : NoTag text
  noEscape : ¬['\\', '['] <:+: text
  /-- No emoji is named in it. -/
  noCode : Emoji.replaceCodes text = text

instance (text : List Char) : Decidable (Literal text) :=
  decidable_of_iff
    (NoTag text ∧ ¬['\\', '['] <:+: text ∧ Emoji.replaceCodes text = text)
    ⟨fun ⟨htag, hescape, hcode⟩ => ⟨htag, hescape, hcode⟩,
      fun h => ⟨h.noTag, h.noEscape, h.noCode⟩⟩

theorem Literal.pieces? {text : List Char} (h : Literal text) :
    ∃ ps, Styled.pieces? text = .ok ps ∧ plainText ps = text := by
  obtain ⟨ps, hps, htext⟩ := h.noTag.pieces?
  rw [dropEscapes_eq_self_iff.mpr h.noEscape, h.noCode] at htext
  exact ⟨ps, hps, htext⟩

/-- **Other texts** lose marks. -/
theorem literal_or_lt {text : List Char} {ps : List Piece} (h : pieces? text = .ok ps) :
    Literal text ∨ markCount (plainText ps) < markCount text := by
  rcases noTag_or_lt [] text with hnone | hlt
  · obtain ⟨ps', hps', htext⟩ := hnone.pieces?
    obtain rfl := Except.ok.inj (h.symm.trans hps')
    rw [htext]
    have hcodes := Emoji.reduced_replaceCodes (dropEscapes text)
    rcases reduced_dropEscapes text with hkeep | hlt
    · rw [hkeep] at hcodes ⊢
      refine hcodes.imp_left fun hcode => ⟨hnone, dropEscapes_eq_self_iff.mp hkeep, hcode⟩
    · exact .inr (Nat.lt_of_le_of_lt hcodes.le hlt)
  · right
    rw [plainText_of_pieces? h]
    exact Nat.lt_of_le_of_lt (markCount_withEmoji_le _) hlt

end CoverageDiff.Styled
