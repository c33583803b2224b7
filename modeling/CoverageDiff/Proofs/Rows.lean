import CoverageDiff.Proofs.Coverage
import CoverageDiff.Proofs.Output
import CoverageDiff.Proofs.Payload

/-!
# CoverageDiff.Proofs.Rows

The two forms of a report that programs read, rows and structured documents,
tell reports apart.

1. Of every level it is known what its elements hold (`Element.Fits`): which
   place, and which values.
2. A row is read from both ends (`Element.row_inj`).  The level is what stands
   before the first tab.  Class names can hold everything that separates
   fields, so the others are read from the end, where no field holds the
   character before it.
3. Rows have no line feed if class names have none, so the text of a report is
   its rows (`Report.splitOn_rowsText`).
4. A document is read by looking up its fields (`Report.toJson_injective`);
   this needs nothing of the report.

So both forms determine the report, and therefore each other
(`Report.rows_and_document_agree`).
-/

namespace CoverageDiff

open CoverageDiff.Shelf

/-! ## Cutting texts -/

section Cutting

variable {α : Type} {c : α} {x y r s : List α}

/-- A text is cut at the first place where a character stands. -/
theorem append_cons_inj_left (hx : c ∉ x) (hy : c ∉ y) (h : x ++ c :: r = y ++ c :: s) :
    x = y ∧ r = s := by
  induction x generalizing y with
  | nil =>
      cases y with
      | nil => exact ⟨rfl, (List.cons.inj h).2⟩
      | cons b y => exact absurd ((List.cons.inj h).1 ▸ List.mem_cons_self) hy
  | cons a x ih =>
      cases y with
      | nil => exact absurd ((List.cons.inj h).1 ▸ List.mem_cons_self) hx
      | cons b y =>
          obtain ⟨rfl, hrest⟩ := List.cons.inj h
          obtain ⟨rfl, rfl⟩ := ih (List.not_mem_of_not_mem_cons hx)
            (List.not_mem_of_not_mem_cons hy) hrest
          exact ⟨rfl, rfl⟩

/-- The same from the end. -/
theorem append_cons_inj_right (hr : c ∉ r) (hs : c ∉ s) (h : x ++ c :: r = y ++ c :: s) :
    x = y ∧ r = s := by
  have hrev : r.reverse ++ c :: x.reverse = s.reverse ++ c :: y.reverse := by
    simpa using congrArg List.reverse h
  obtain ⟨hrest, hfront⟩ := append_cons_inj_left (by simpa using hr) (by simpa using hs) hrev
  exact ⟨List.reverse_inj.mp hfront, List.reverse_inj.mp hrest⟩

/-- Words in a list are separated by commas alone if a blank is counted to the word after it. -/
theorem intercalate_comma_blank (w : List Char) (ws : List (List Char)) :
    [',', ' '].intercalate (w :: ws) = [','].intercalate (w :: ws.map (' ' :: ·)) := by
  induction ws generalizing w with
  | nil => simp
  | cons v ws ih =>
      rw [List.intercalate_cons_cons, ih, List.map_cons, List.intercalate_cons_cons]
      cases ws <;> simp

/-- Words without commas that are not empty are read back from their list. -/
theorem intercalate_comma_inj {ws vs : List (List Char)} (hw : ∀ w ∈ ws, w ≠ [] ∧ ',' ∉ w)
    (hv : ∀ v ∈ vs, v ≠ [] ∧ ',' ∉ v)
    (h : [',', ' '].intercalate ws = [',', ' '].intercalate vs) : ws = vs := by
  have hsplit : ∀ (x : List Char) (xs : List (List Char)), (∀ y ∈ x :: xs, y ≠ [] ∧ ',' ∉ y) →
      ([',', ' '].intercalate (x :: xs)).splitOn ',' = x :: xs.map (' ' :: ·) := by
    intro x xs hxs
    rw [intercalate_comma_blank]
    refine List.splitOn_intercalate ',' ?_ (List.cons_ne_nil _ _)
    obtain ⟨hx, hrest⟩ := List.forall_mem_cons.mp hxs
    rw [List.forall_mem_cons, List.forall_mem_map]
    exact ⟨hx.2, fun y hy => by simpa using (hrest y hy).2⟩
  have hempty : ∀ (x : List Char) (xs : List (List Char)), (∀ y ∈ x :: xs, y ≠ [] ∧ ',' ∉ y) →
      [',', ' '].intercalate (x :: xs) ≠ [] := by
    intro x xs hxs
    have hx := (hxs x List.mem_cons_self).1
    cases xs <;> simp [hx]
  cases ws with
  | nil =>
      cases vs with
      | nil => rfl
      | cons v vs => exact absurd h.symm (hempty v vs hv)
  | cons w ws =>
      cases vs with
      | nil => exact absurd h (hempty w ws hw)
      | cons v vs =>
          have hboth := congrArg (List.splitOn ',') h
          rw [hsplit w ws hw, hsplit v vs hv] at hboth
          obtain ⟨hfirst, hrest⟩ := List.cons.inj hboth
          have hmap := List.map_injective_iff.mpr (List.cons_injective (a := ' ')) hrest
          rw [hfirst, hmap]

end Cutting

/-! ## Words -/

theorem Kind.name_inj {k l : Kind} (h : k.name = l.name) : k = l := by
  revert h
  cases k <;> cases l <;> decide

theorem Level.name_inj {k l : Level} (h : k.name = l.name) : k = l := by
  revert h
  cases k <;> cases l <;> decide

theorem Status.name_inj {s t : Status} (h : s.name = t.name) : s = t := by
  have hread := congrArg Status.ofName? h
  simpa using hread

/-! ## What elements hold -/

/-- A label that a case of a switch can have. -/
def IsCaseLabel (label : String) : Prop :=
  label = Switch.defaultLabel ∨ ∃ k : Int, label = toString k

/-- Where the elements of a level are. -/
def Level.Locates : Level → Place → Prop
  | classes, p => p = .whole
  | lines, p => ∃ n, p = .line n
  | jumps, p => ∃ n i, p = .branch n i
  | switches, p => ∃ n i, p = .branch n i

/-- What the elements of a level have as values. -/
inductive Level.Carries : Level → Value → Prop
  | status (s : Status) : Carries lines (.status s)
  | outcome (o : Bool × Bool) : Carries jumps (.outcome o)
  | cases (labels : List String) (h : ∀ label ∈ labels, IsCaseLabel label) :
      Carries switches (.cases labels)

/-- An element is one that the level can have. -/
structure Element.Fits (level : Level) (e : Element) : Prop where
  place : level.Locates e.place
  before : ∀ v, e.before = some v → level.Carries v
  after : ∀ v, e.after = some v → level.Carries v

section Views

variable {a b : Project} {c : String} {n i : Int} {v : LineView} {s : Set String}

theorem isCaseLabel_of_covered (hv : a.view.line? c n = some v) (hs : v.covered i = some s)
    {label : String} (h : label ∈ s) : IsCaseLabel label := by
  obtain ⟨l, _, rfl⟩ := Project.view_line?_eq_some_iff.mp hv
  obtain ⟨t, _, rfl⟩ := Option.map_eq_some_iff.mp hs
  obtain ⟨_, hzip, _⟩ := h
  have hlabel := (List.of_mem_zip hzip).1
  rw [Switch.caseLabels, List.mem_append, List.mem_map, List.mem_singleton] at hlabel
  rcases hlabel with ⟨k, _, rfl⟩ | rfl
  · exact .inr ⟨k, rfl⟩
  · exact .inl rfl

theorem carries_cases (hv : a.view.line? c n = some v) (hs : v.covered i = some s)
    {labels : List String} (h : Lists labels s) : Level.switches.Carries (.cases labels) :=
  .cases labels fun label hlabel => isCaseLabel_of_covered hv hs ((h.mem_iff label).mp hlabel)

/-- What is to be reported at a level is what the level can have. -/
theorem fits_of_discrepancy {level : Level} {e : Element}
    (h : Discrepancy a.view b.view level e) : e.Fits level := by
  have hnone : ∀ v, (none : Option Value) = some v → level.Carries v := fun _ h => nomatch h
  have hsome : ∀ w, level.Carries w → ∀ v, some w = some v → level.Carries v :=
    fun w hw v h => Option.some.inj h ▸ hw
  cases h with
  | classRemoved => exact ⟨rfl, hnone, hnone⟩
  | classAdded => exact ⟨rfl, hnone, hnone⟩
  | lineRemoved => exact ⟨⟨_, rfl⟩, hsome _ (.status _), hnone⟩
  | lineAdded => exact ⟨⟨_, rfl⟩, hnone, hsome _ (.status _)⟩
  | lineChanged => exact ⟨⟨_, rfl⟩, hsome _ (.status _), hsome _ (.status _)⟩
  | jumpRemoved => exact ⟨⟨_, _, rfl⟩, hsome _ (.outcome _), hnone⟩
  | jumpAdded => exact ⟨⟨_, _, rfl⟩, hnone, hsome _ (.outcome _)⟩
  | jumpChanged => exact ⟨⟨_, _, rfl⟩, hsome _ (.outcome _), hsome _ (.outcome _)⟩
  | switchRemoved hva _ hsa _ hxs =>
      exact ⟨⟨_, _, rfl⟩, hsome _ (carries_cases hva hsa hxs), hnone⟩
  | switchAdded _ hvb _ hsb hys =>
      exact ⟨⟨_, _, rfl⟩, hnone, hsome _ (carries_cases hvb hsb hys)⟩
  | switchChanged hva hvb hsa hsb _ hxs hys =>
      exact ⟨⟨_, _, rfl⟩, hsome _ (carries_cases hva hsa hxs), hsome _ (carries_cases hvb hsb hys)⟩

/-- Whatever is to be reported is of a class that a side has. -/
theorem isSome_of_discrepancy {a b : ProjectView} {level : Level} {e : Element}
    (h : Discrepancy a b level e) : (a e.className).isSome ∨ (b e.className).isSome := by
  cases h with
  | classRemoved ha _ => exact .inl ha
  | classAdded _ hb => exact .inr hb
  | lineRemoved hc _ _ => exact .inr hc
  | lineAdded hc _ _ => exact .inl hc
  | lineChanged ha _ _ => exact .inl (ProjectView.isSome_of_line? ha)
  | jumpRemoved ha _ _ _ => exact .inl (ProjectView.isSome_of_line? ha)
  | jumpAdded ha _ _ _ => exact .inl (ProjectView.isSome_of_line? ha)
  | jumpChanged ha _ _ _ _ => exact .inl (ProjectView.isSome_of_line? ha)
  | switchRemoved ha _ _ _ _ => exact .inl (ProjectView.isSome_of_line? ha)
  | switchAdded ha _ _ _ _ => exact .inl (ProjectView.isSome_of_line? ha)
  | switchChanged ha _ _ _ _ _ _ => exact .inl (ProjectView.isSome_of_line? ha)

end Views

/-! ## Fields of a row -/

/-- A text without the characters that separate rows, fields and values. -/
structure IsField (text : List Char) : Prop where
  tab : '\t' ∉ text
  lineFeed : '\n' ∉ text
  bracket : '>' ∉ text

instance (text : List Char) : Decidable (IsField text) :=
  decidable_of_iff ('\t' ∉ text ∧ '\n' ∉ text ∧ '>' ∉ text)
    ⟨fun ⟨htab, hfeed, hbracket⟩ => ⟨htab, hfeed, hbracket⟩,
      fun h => ⟨h.tab, h.lineFeed, h.bracket⟩⟩

/-- A written number has none of the characters outside a range. -/
theorem notMem_toString {d : Char} (hd : d.toNat < 0x2d ∨ 0x39 < d.toNat) (k : Int) :
    d ∉ (toString k).toList := by
  intro h
  have hrange := Text.of_mem_toString h
  omega

namespace IsCaseLabel

variable {label : String}

theorem isField (h : IsCaseLabel label) : IsField label.toList := by
  rcases h with rfl | ⟨k, rfl⟩
  · decide
  · exact ⟨notMem_toString (by decide) k, notMem_toString (by decide) k,
      notMem_toString (by decide) k⟩

/-- A label can be read from a list of labels. -/
theorem separable (h : IsCaseLabel label) : label.toList ≠ [] ∧ ',' ∉ label.toList := by
  rcases h with rfl | ⟨k, rfl⟩
  · decide
  · exact ⟨Text.toList_toString_ne_nil k, notMem_toString (by decide) k⟩

end IsCaseLabel

/-! ## Values -/

namespace Value

theorem text_cases (labels : List String) :
    (Value.cases labels).text = "\x7b" ++ ", ".intercalate labels ++ "\x7d" := by
  have hmarks : (labels.map Mark.label).map Mark.text = labels := by
    rw [List.map_map]
    exact List.map_id labels
  have htext : (Value.cases labels).text =
      "\x7b" ++ ", ".intercalate ((labels.map Mark.label).map Mark.text) ++ "\x7d" := by
    rcases labels with _ | ⟨x, _ | ⟨y, _ | ⟨z, labels⟩⟩⟩ <;> rfl
  rw [htext, hmarks]

theorem toList_text_cases (labels : List String) :
    (Value.cases labels).text.toList =
      '\x7b' :: ([',', ' '].intercalate (labels.map String.toList) ++ ['\x7d']) := by
  have hopen : "\x7b".toList = ['\x7b'] := rfl
  have hclose : "\x7d".toList = ['\x7d'] := rfl
  have hcomma : ", ".toList = [',', ' '] := rfl
  rw [text_cases, String.toList_append, String.toList_append, String.toList_intercalate, hopen,
    hclose, hcomma]
  rfl

end Value

theorem notMem_intercalate_comma {d : Char} (hcomma : ',' ≠ d) (hblank : ' ' ≠ d)
    {ws : List (List Char)} (hws : ∀ w ∈ ws, d ∉ w) : d ∉ [',', ' '].intercalate ws := by
  have hchars : ∀ w ∈ ws, ∀ c ∈ w, c ≠ d := fun w hw c hc heq => hws w hw (heq ▸ hc)
  cases ws with
  | nil => simp
  | cons w ws =>
      obtain ⟨hw, hrest⟩ := List.forall_mem_cons.mp hchars
      rw [intercalate_comma_blank]
      refine fun hd => Text.forall_mem_intercalate (P := fun c => c ≠ d) hcomma ?_ d hd rfl
      rw [List.forall_mem_cons, List.forall_mem_map]
      exact ⟨hw, fun v hv => List.forall_mem_cons.mpr ⟨hblank, hrest v hv⟩⟩

/-- The text of covered cases has the characters of their labels, and those of a list. -/
theorem Value.notMem_text_cases {d : Char} (hd : d ∉ ['\x7b', '\x7d', ',', ' '])
    {labels : List String} (h : ∀ label ∈ labels, d ∉ label.toList) :
    d ∉ (Value.cases labels).text.toList := by
  simp only [List.mem_cons, List.not_mem_nil, or_false, not_or] at hd
  obtain ⟨hopen, hclose, hcomma, hblank⟩ := hd
  have hlist := notMem_intercalate_comma (Ne.symm hcomma) (Ne.symm hblank)
    (List.forall_mem_map.mpr h)
  rw [toList_text_cases]
  simp [hopen, hclose, hlist]

theorem Value.isField_cases {labels : List String} (h : ∀ label ∈ labels, IsCaseLabel label) :
    IsField (Value.cases labels).text.toList :=
  ⟨notMem_text_cases (by decide) fun label hlabel => (h label hlabel).isField.tab,
    notMem_text_cases (by decide) fun label hlabel => (h label hlabel).isField.lineFeed,
    notMem_text_cases (by decide) fun label hlabel => (h label hlabel).isField.bracket⟩

/-- The labels of covered cases are read from their list. -/
theorem Value.cases_inj_of_text {xs ys : List String} (hx : ∀ label ∈ xs, IsCaseLabel label)
    (hy : ∀ label ∈ ys, IsCaseLabel label)
    (h : (Value.cases xs).text = (Value.cases ys).text) : xs = ys := by
  have hlist := congrArg String.toList h
  rw [toList_text_cases, toList_text_cases] at hlist
  have hwords := List.append_cancel_right (List.cons.inj hlist).2
  have hsame := intercalate_comma_inj
    (List.forall_mem_map.mpr fun label hlabel => (hx label hlabel).separable)
    (List.forall_mem_map.mpr fun label hlabel => (hy label hlabel).separable) hwords
  exact List.map_injective_iff.mpr (fun _ _ => String.toList_inj.mp) hsame

theorem Value.outcome_inj_of_text : ∀ t f t' f' : Bool,
    (Value.outcome (t, f)).text = (Value.outcome (t', f')).text → (t, f) = (t', f') := by
  decide

namespace Level

variable {level : Level}

namespace Carries

variable {v w : Value}

/-- The text of a value has no character that separates fields. -/
theorem isField (h : level.Carries v) : IsField v.text.toList := by
  cases h with
  | status s => cases s <;> decide
  | outcome o =>
      obtain ⟨t, f⟩ := o
      cases t <;> cases f <;> decide
  | cases labels h => exact Value.isField_cases h

/-- No value is shown like one that is absent. -/
theorem text_ne (h : level.Carries v) : v.text ≠ "-" := by
  cases h with
  | status s => cases s <;> decide
  | outcome o =>
      obtain ⟨t, f⟩ := o
      cases t <;> cases f <;> decide
  | cases labels _ =>
      intro heq
      have hlist := congrArg String.toList heq
      rw [Value.toList_text_cases] at hlist
      exact absurd (List.cons.inj hlist).1 (by decide)

/-- Values of one level are told apart by their texts. -/
theorem eq_of_text (hv : level.Carries v) (hw : level.Carries w) (h : v.text = w.text) : v = w := by
  cases hv with
  | status s =>
      cases hw with
      | status t => rw [Status.name_inj h]
  | outcome o =>
      cases hw with
      | outcome p => exact congrArg Value.outcome (Value.outcome_inj_of_text _ _ _ _ h)
  | cases xs hxs =>
      cases hw with
      | cases ys hys => rw [Value.cases_inj_of_text hxs hys h]

end Carries

variable {x y : Option Value}

/-- **Values**, also absent ones, are told apart by their texts. -/
theorem eq_of_text? (hx : ∀ v, x = some v → level.Carries v)
    (hy : ∀ v, y = some v → level.Carries v) (h : Value.text? x = Value.text? y) : x = y := by
  cases x with
  | none =>
      cases y with
      | none => rfl
      | some w => exact absurd h.symm (hy w rfl).text_ne
  | some v =>
      cases y with
      | none => exact absurd h (hx v rfl).text_ne
      | some w => rw [(hx v rfl).eq_of_text (hy w rfl) h]

theorem isField_text? (hx : ∀ v, x = some v → level.Carries v) :
    IsField (Value.text? x).toList := by
  cases x with
  | none => decide
  | some v => exact (hx v rfl).isField

end Level

/-! ## Rows -/

namespace Element

variable {level level' : Level} {e f : Element}

/-- The values of an element as its row shows them. -/
def valueChars (e : Element) : List Char :=
  ((Value.text? e.before).toList ++ [' ', '-']) ++ '>' :: ' ' :: (Value.text? e.after).toList

/-- The row of an element as a list of characters. -/
theorem toList_row (level : Level) (e : Element) :
    (e.row level).toList =
      level.name.toList ++ '\t' ::
        ((e.location.toList ++ '\t' :: e.kind.name.toList) ++ '\t' :: e.valueChars) := by
  have htab : "\t".toList = ['\t'] := rfl
  have harrow : " -> ".toList = [' ', '-', '>', ' '] := rfl
  simp only [row, valueChars, String.toList_append, htab, harrow, List.append_assoc,
    List.cons_append, List.nil_append]

theorem Fits.tab_notMem (h : e.Fits level) : '\t' ∉ e.valueChars := by
  have hbefore := (Level.isField_text? h.before).tab
  have hafter := (Level.isField_text? h.after).tab
  simp [valueChars, hbefore, hafter]

/-- Values are told apart by their texts, which the only angle bracket separates. -/
theorem values_inj (he : e.Fits level) (hf : f.Fits level) (h : e.valueChars = f.valueChars) :
    e.before = f.before ∧ e.after = f.after := by
  have hbracket : ∀ {g : Element}, g.Fits level →
      '>' ∉ (Value.text? g.before).toList ++ [' ', '-'] := by
    intro g hg
    have htext := (Level.isField_text? hg.before).bracket
    simp [htext]
  obtain ⟨hbefore, hafter⟩ := append_cons_inj_left (hbracket he) (hbracket hf) h
  have hbefore := String.toList_inj.mp (List.append_cancel_right hbefore)
  have hafter := String.toList_inj.mp (List.cons.inj hafter).2
  exact ⟨Level.eq_of_text? he.before hf.before hbefore, Level.eq_of_text? he.after hf.after hafter⟩

/-- A class and a line of it are told apart from others by what is written for them. -/
theorem line_inj {c d : List Char} {n m : Int}
    (h : c ++ ':' :: (toString n).toList = d ++ ':' :: (toString m).toList) : c = d ∧ n = m := by
  have hno : ∀ k : Int, ':' ∉ (toString k).toList := notMem_toString (by decide)
  obtain ⟨hc, hn⟩ := append_cons_inj_right (hno n) (hno m) h
  exact ⟨hc, Text.toString_injective (String.toList_inj.mp hn)⟩

theorem branch_inj {c d : List Char} {n m i j : Int}
    (h : c ++ ':' :: ((toString n).toList ++ ':' :: '#' :: (toString i).toList) =
      d ++ ':' :: ((toString m).toList ++ ':' :: '#' :: (toString j).toList)) :
    c = d ∧ n = m ∧ i = j := by
  have hno : ∀ k : Int, '#' ∉ (toString k).toList := notMem_toString (by decide)
  have hindex : (c ++ ':' :: (toString n).toList ++ [':']) ++ '#' :: (toString i).toList =
      (d ++ ':' :: (toString m).toList ++ [':']) ++ '#' :: (toString j).toList := by
    simpa using h
  obtain ⟨hline, hi⟩ := append_cons_inj_right (hno i) (hno j) hindex
  obtain ⟨hc, hn⟩ := line_inj (List.append_cancel_right hline)
  exact ⟨hc, hn, Text.toString_injective (String.toList_inj.mp hi)⟩

/-- **Locations** of one level are told apart, whatever class names hold. -/
theorem location_inj (he : level.Locates e.place) (hf : level.Locates f.place)
    (h : e.location = f.location) : e.className = f.className ∧ e.place = f.place := by
  have hcolon : ":".toList = [':'] := rfl
  have hhash : ":#".toList = [':', '#'] := rfl
  have hbranch : (∃ n i, e.place = .branch n i) → (∃ n i, f.place = .branch n i) →
      e.className = f.className ∧ e.place = f.place := by
    rintro ⟨n, i, hn⟩ ⟨m, j, hm⟩
    have hlist := congrArg String.toList h
    simp only [location, hn, hm, String.toList_append, hcolon, hhash, List.append_assoc,
      List.cons_append, List.nil_append] at hlist
    obtain ⟨hc, rfl, rfl⟩ := branch_inj hlist
    exact ⟨String.toList_inj.mp hc, hn.trans hm.symm⟩
  cases level with
  | classes =>
      have hn : e.place = .whole := he
      have hm : f.place = .whole := hf
      simp only [location, hn, hm] at h
      exact ⟨h, hn.trans hm.symm⟩
  | lines =>
      obtain ⟨n, hn⟩ := he
      obtain ⟨m, hm⟩ := hf
      have hlist := congrArg String.toList h
      simp only [location, hn, hm, String.toList_append, hcolon, List.append_assoc,
        List.cons_append, List.nil_append] at hlist
      obtain ⟨hc, rfl⟩ := line_inj hlist
      exact ⟨String.toList_inj.mp hc, hn.trans hm.symm⟩
  | jumps => exact hbranch he hf
  | switches => exact hbranch he hf

/-- **Rows** are told apart, also from those of other levels. -/
theorem row_inj (he : e.Fits level) (hf : f.Fits level') (h : e.row level = f.row level') :
    level = level' ∧ e = f := by
  have hlist := congrArg String.toList h
  rw [toList_row, toList_row] at hlist
  -- the level is in front of the first tab
  have hname : ∀ l : Level, '\t' ∉ l.name.toList := by
    intro l
    cases l <;> decide
  obtain ⟨hlevel, hrest⟩ := append_cons_inj_left (hname level) (hname level') hlist
  obtain rfl := Level.name_inj (String.toList_inj.mp hlevel)
  -- the values are behind the last tab, the kind is behind the one before it
  have hkindName : ∀ k : Kind, '\t' ∉ k.name.toList := by
    intro k
    cases k <;> decide
  obtain ⟨hfront, hvalues⟩ := append_cons_inj_right he.tab_notMem hf.tab_notMem hrest
  obtain ⟨hlocation, hkind⟩ :=
    append_cons_inj_right (hkindName e.kind) (hkindName f.kind) hfront
  obtain ⟨hclass, hplace⟩ := location_inj he.place hf.place (String.toList_inj.mp hlocation)
  obtain ⟨hbefore, hafter⟩ := values_inj he hf hvalues
  have hkind := Kind.name_inj (String.toList_inj.mp hkind)
  cases e
  cases f
  simp_all

end Element

/-! ## Lines of a text -/

/-- No element of the report is of a class whose name has a line feed. -/
def Report.OneLine (r : Report) : Prop :=
  ∀ level, ∀ e ∈ r.level level, '\n' ∉ e.className.toList

/-- Every element of the report fits its level. -/
def Report.Fits (r : Report) : Prop :=
  ∀ level, ∀ e ∈ r.level level, e.Fits level

namespace Element

variable {level : Level} {e : Element}

theorem notMem_location (h : '\n' ∉ e.className.toList) : '\n' ∉ e.location.toList := by
  have hno : ∀ k : Int, '\n' ∉ (toString k).toList := notMem_toString (by decide)
  cases hplace : e.place <;> simp [location, hplace, h, -Int.toString_eq_repr, hno]

/-- A row has no line feed if the class name has none. -/
theorem notMem_row (he : e.Fits level) (h : '\n' ∉ e.className.toList) :
    '\n' ∉ (e.row level).toList := by
  have hlevel : '\n' ∉ level.name.toList := by cases level <;> decide
  have hkind : '\n' ∉ e.kind.name.toList := by cases e.kind <;> decide
  have hbefore := (Level.isField_text? he.before).lineFeed
  have hafter := (Level.isField_text? he.after).lineFeed
  have hlocation := notMem_location h
  rw [toList_row]
  simp [valueChars, hlevel, hkind, hbefore, hafter, hlocation]

end Element

namespace Report

variable {r r' : Report}

theorem mem_elements_iff {level : Level} {e : Element} :
    (level, e) ∈ r.elements ↔ e ∈ r.level level := by
  cases level <;> simp [elements, Level.all]

/-- The elements of a level are those that come with it. -/
theorem level_eq_filterMap (r : Report) (level : Level) :
    r.level level = r.elements.filterMap fun x => if x.1 = level then some x.2 else none := by
  cases level <;>
    simp [elements, Level.all, level, List.filterMap_append, List.filterMap_map]

theorem eq_of_levels (h : ∀ level, r.level level = r'.level level) : r = r' := by
  have hclasses : r.classes = r'.classes := h .classes
  have hlines : r.lines = r'.lines := h .lines
  have hjumps : r.jumps = r'.jumps := h .jumps
  have hswitches : r.switches = r'.switches := h .switches
  cases r
  cases r'
  simp_all

theorem eq_of_elements (h : r.elements = r'.elements) : r = r' := by
  apply eq_of_levels
  intro level
  rw [level_eq_filterMap, h, ← level_eq_filterMap]

/-- Rows determine the report. -/
theorem eq_of_rows (hr : r.Fits) (hr' : r'.Fits) (h : r.rows = r'.rows) : r = r' := by
  have hfits : ∀ {q : Report}, q.Fits → ∀ x ∈ q.elements, x.2.Fits x.1 :=
    fun hq x hx => hq x.1 x.2 (mem_elements_iff.mp hx)
  have hall := hfits hr
  have hall' := hfits hr'
  refine eq_of_elements ?_
  unfold rows at h
  generalize r.elements = xs at h hall
  generalize r'.elements = ys at h hall'
  induction xs generalizing ys with
  | nil => exact (List.map_eq_nil_iff.mp h.symm).symm
  | cons x xs ih =>
      cases ys with
      | nil => contradiction
      | cons y ys =>
          obtain ⟨hx, hxs⟩ := List.forall_mem_cons.mp hall
          obtain ⟨hy, hys⟩ := List.forall_mem_cons.mp hall'
          obtain ⟨hrow, hrest⟩ := List.cons.inj h
          obtain ⟨hlevel, helement⟩ := Element.row_inj hx hy hrow
          rw [Prod.ext hlevel helement, ih hxs ys hrest hys]

/-- **Lines**: a text of rows that is not empty has the rows as its lines. -/
theorem splitOn_rowsText (hr : r.Fits) (h : r.OneLine) (hne : r.rowsText ≠ "") :
    (r.rowsText.toList.splitOn '\n').map String.ofList = r.rows := by
  have hrows : r.rows.map String.toList ≠ [] := by
    intro hnil
    rw [rowsText, List.map_eq_nil_iff.mp hnil] at hne
    exact hne rfl
  have hline : ∀ line ∈ r.rows.map String.toList, '\n' ∉ line := by
    rw [List.forall_mem_map, rows, List.forall_mem_map]
    intro x hx
    have hmem := mem_elements_iff.mp hx
    exact Element.notMem_row (hr _ _ hmem) (h _ _ hmem)
  have hfeed : "\n".toList = ['\n'] := rfl
  rw [rowsText, String.toList_intercalate, hfeed, List.splitOn_intercalate '\n' hline hrows,
    List.map_map]
  exact (List.map_congr_left fun s _ => String.ofList_toList).trans (List.map_id _)

/-- Texts of rows determine the report. -/
theorem eq_of_rowsText (hr : r.Fits) (hr' : r'.Fits) (h : r.OneLine) (h' : r'.OneLine)
    (heq : r.rowsText = r'.rowsText) : r = r' := by
  by_cases hne : r.rowsText = ""
  · have hempty : ∀ {q : Report}, q.rowsText = "" → q.elements = [] := by
      intro q hq
      rw [← List.length_eq_zero_iff, length_elements, ← isEmpty_iff]
      exact rowsText_eq_empty_iff.mp hq
    exact eq_of_elements ((hempty hne).trans (hempty (heq ▸ hne)).symm)
  · have hrows := splitOn_rowsText hr h hne
    rw [heq, splitOn_rowsText hr' h' (heq ▸ hne)] at hrows
    exact eq_of_rows hr hr' hrows.symm

end Report

/-! ## Documents -/

theorem Mark.toJson_injective : Function.Injective Mark.toJson := by
  intro x y h
  cases x <;> cases y <;> simp_all [Mark.toJson]

theorem Value.toJson_injective : Function.Injective Value.toJson := by
  intro v w h
  cases v with
  | status s =>
      cases w with
      | status t => rw [Status.name_inj (Json.str.inj h)]
      | marks ns => cases h
  | marks ms =>
      cases w with
      | status t => cases h
      | marks ns =>
          rw [List.map_injective_iff.mpr Mark.toJson_injective (Json.arr.inj h)]

/-- The fields of an element are looked up in its document. -/
theorem Element.toJson_injective : Function.Injective Element.toJson := by
  intro e f h
  have hlookup := fun name => congrArg (List.lookup name) (Json.obj.inj h)
  simp only [List.lookup_append, Json.lookup_field?] at hlookup
  have hclass : e.className = f.className := by simpa using hlookup "class"
  have hkind : e.kind.name = f.kind.name := by simpa [List.lookup_cons] using hlookup "kind"
  have hline : e.place.line?.map Json.int = f.place.line?.map Json.int := by
    simpa [List.lookup_cons] using hlookup "line"
  have hindex : e.place.index?.map Json.int = f.place.index?.map Json.int := by
    simpa [List.lookup_cons] using hlookup "index"
  have hbefore : e.before.map Value.toJson = f.before.map Value.toJson := by
    simpa [List.lookup_cons] using hlookup "before"
  have hafter : e.after.map Value.toJson = f.after.map Value.toJson := by
    simpa [List.lookup_cons] using hlookup "after"
  have hplace : e.place = f.place := by
    have hint : Function.Injective Json.int := fun _ _ => Json.int.inj
    have hparts := Place.ofParts?_parts e.place
    rw [Option.map_injective hint hline, Option.map_injective hint hindex,
      Place.ofParts?_parts] at hparts
    exact (Except.ok.inj hparts).symm
  have hkind := Kind.name_inj hkind
  have hbefore := Option.map_injective Value.toJson_injective hbefore
  have hafter := Option.map_injective Value.toJson_injective hafter
  cases e
  cases f
  simp_all

/-- **Documents** determine the report, whatever it holds. -/
theorem Report.toJson_injective : Function.Injective Report.toJson := by
  intro r r' h
  have hlookup := fun name => congrArg (List.lookup name) (Json.obj.inj h)
  have hlevel : ∀ level, r.level level = r'.level level := by
    intro level
    have hdocuments : (r.level level).map Element.toJson = (r'.level level).map Element.toJson := by
      cases level
      · simpa [jsonFields, Level.all, Level.name, List.lookup_cons] using hlookup "classes"
      · simpa [jsonFields, Level.all, Level.name, List.lookup_cons] using hlookup "lines"
      · simpa [jsonFields, Level.all, Level.name, List.lookup_cons] using hlookup "jumps"
      · simpa [jsonFields, Level.all, Level.name, List.lookup_cons] using hlookup "switches"
    exact List.map_injective_iff.mpr Element.toJson_injective hdocuments
  exact Report.eq_of_levels hlevel

/-! ## Reports of projects -/

/-- No name of a class of the project has a line feed. -/
def Project.OneLineNames (p : Project) : Prop :=
  ∀ c ∈ p.classes, '\n' ∉ c.name.toList

instance (p : Project) : Decidable p.OneLineNames :=
  inferInstanceAs (Decidable (∀ c ∈ p.classes, '\n' ∉ c.name.toList))

namespace Report

variable {a b : Project}

theorem fits_between (ha : a.Distinct) (hb : b.Distinct) : (between a b).Fits :=
  fun _ _ he => fits_of_discrepancy (discrepancy_of_mem ha hb he)

theorem oneLine_between (ha : a.Distinct) (hb : b.Distinct) (hna : a.OneLineNames)
    (hnb : b.OneLineNames) : (between a b).OneLine := by
  have hname : ∀ {p : Project}, p.OneLineNames → ∀ {name : String}, (p.view name).isSome →
      '\n' ∉ name.toList := by
    intro p hp name h
    rw [Project.isSome_view] at h
    obtain ⟨c, hc⟩ := Option.isSome_iff_exists.mp h
    have hkey : c.name = name := key_of_find? hc
    exact hkey ▸ hp c (mem_of_find? hc)
  intro level e he
  rcases isSome_of_discrepancy (discrepancy_of_mem ha hb he) with h | h
  · exact hname hna h
  · exact hname hnb h

/-- **Two forms, one report**: of projects that operations can give, their classes and lines held in
any order and no class name with a line feed, two reports have the same rows exactly if they have
the same document, and the same document exactly if they are the same.  A text of rows that is not
empty has one line for each element, in the order of the elements. -/
theorem rows_and_document_agree {a b a' b' : Project} (ha : a.Stored) (hb : b.Stored)
    (ha' : a'.Stored) (hb' : b'.Stored) (hna : a.OneLineNames) (hnb : b.OneLineNames)
    (hna' : a'.OneLineNames) (hnb' : b'.OneLineNames) :
    ((between a b).rowsText = (between a' b').rowsText ↔
        (between a b).toJson = (between a' b').toJson) ∧
      ((between a b).toJson = (between a' b').toJson ↔
        ∀ level, (between a b).level level = (between a' b').level level) ∧
      ((between a b).rowsText ≠ "" →
        ((between a b).rowsText.toList.splitOn '\n').map String.ofList =
            (between a b).elements.map (fun (level, e) => e.row level) ∧
          ((between a b).rowsText.toList.splitOn '\n').length = (between a b).size) := by
  have hfits := fits_between ha.distinct hb.distinct
  have hfits' := fits_between ha'.distinct hb'.distinct
  have hline := oneLine_between ha.distinct hb.distinct hna hnb
  have hline' := oneLine_between ha'.distinct hb'.distinct hna' hnb'
  refine ⟨⟨?_, ?_⟩, ⟨?_, ?_⟩, ?_⟩
  · intro h
    rw [eq_of_rowsText hfits hfits' hline hline' h]
  · intro h
    rw [toJson_injective h]
  · intro h level
    rw [toJson_injective h]
  · intro h
    rw [eq_of_levels h]
  · intro hne
    have hrows := splitOn_rowsText hfits hline hne
    refine ⟨hrows, ?_⟩
    have hlength := congrArg List.length hrows
    rwa [List.length_map, rows, List.length_map, length_elements] at hlength

end Report

/-! ## Samples -/

namespace Sample

/-- The rows of the comparison of the samples, and of the comparison the other way round. -/
theorem rows_of_samples :
    (Report.between earlier later).rowsText ≠ (Report.between later earlier).rowsText ∧
      (Report.between earlier later).toJson ≠ (Report.between later earlier).toJson ∧
      ((Report.between earlier later).rowsText.toList.splitOn '\n').map String.ofList =
        (Report.between earlier later).elements.map (fun (level, e) => e.row level) := by
  obtain ⟨hrows, hdocuments, hlines⟩ := Report.rows_and_document_agree
    reachable_earlier.stored reachable_later.stored reachable_later.stored reachable_earlier.stored
    (by decide) (by decide) (by decide) (by decide)
  have hne : ¬∀ level, (Report.between earlier later).level level =
      (Report.between later earlier).level level :=
    fun h => absurd (h .classes) (by decide +kernel)
  have hdocument := fun h => hne (hdocuments.mp h)
  exact ⟨fun h => hdocument (hrows.mp h), hdocument, (hlines (by decide +kernel)).1⟩

end Sample

end CoverageDiff
