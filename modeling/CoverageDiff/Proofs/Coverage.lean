import Mathlib.Data.Set.Basic
import CoverageDiff.Proofs.Description
import CoverageDiff.Proofs.Numeral
import CoverageDiff.Proofs.Regular

/-!
# CoverageDiff.Proofs.Coverage

What merging does to the coverage of a line, where no count is negative.

* A jump takes the outcomes that one of the sides takes
  (`Jump.outcome_merge`), a switch covers what one of them covers
  (`Switch.covered_merge`).
* A line is without coverage exactly if it is on both sides
  (`Line.status_merge_eq_none_iff`).

Whether everything is covered is another matter.  It depends on the keys of
the switches, and those that are not covered are no part of the view
(`Line.allCovered_iff`).
-/

namespace CoverageDiff

open CoverageDiff.Shelf

/-! ## Some value of a shelf -/

namespace Shelf

variable {α κ : Type} [Filed α κ] {p : α → Bool}

theorem any_eq_true_iff [DecidableEq κ] {xs : List α} (hxs : (keys xs).Nodup) :
    xs.any p = true ↔ ∃ k a, find? k xs = some a ∧ p a = true := by
  rw [List.any_eq_true]
  constructor
  · rintro ⟨a, ha, hp⟩
    exact ⟨key a, a, find?_key_of_mem hxs ha, hp⟩
  · rintro ⟨k, a, ha, hp⟩
    exact ⟨a, mem_of_find? ha, hp⟩

theorem all_eq_true_iff [DecidableEq κ] {xs : List α} (hxs : (keys xs).Nodup) :
    xs.all p = true ↔ ∀ k a, find? k xs = some a → p a = true := by
  rw [List.all_eq_true]
  constructor
  · intro h k a ha
    exact h a (mem_of_find? ha)
  · intro h a ha
    exact h (key a) a (find?_key_of_mem hxs ha)

/-- What some value has that is merged, some value of a side has, if joining neither adds nor
takes it away. -/
theorem any_merge [LinearOrder κ] {join : α → α → α} (hjoin : KeepsKey join) {xs ys : List α}
    (hxs : Ascending xs) (hys : Ascending ys)
    (hp : ∀ a ∈ xs, ∀ b ∈ ys, p (join a b) = (p a || p b)) :
    (merge join xs ys).any p = (xs.any p || ys.any p) := by
  have hmerge : Ascending (merge join xs ys) := Ascending.merge hjoin ys hxs
  rw [Bool.eq_iff_iff, Bool.or_eq_true, any_eq_true_iff hmerge.nodup_keys,
    any_eq_true_iff hxs.nodup_keys, any_eq_true_iff hys.nodup_keys, ← exists_or]
  apply exists_congr
  intro k
  rw [find?_merge hjoin hxs hys.nodup_keys]
  cases hx : find? k xs with
  | none => simp
  | some a =>
      cases hy : find? k ys with
      | none => simp
      | some b => simp [hp a (mem_of_find? hx) b (mem_of_find? hy)]

end Shelf

/-! ## Counts that are not negative -/

/-- No count of the jump is negative. -/
structure Jump.Nonneg (j : Jump) : Prop where
  trueHits : 0 ≤ j.trueHits
  falseHits : 0 ≤ j.falseHits

/-- No count of the switch is negative. -/
structure Switch.Nonneg (s : Switch) : Prop where
  hits : ∀ n ∈ s.hits, 0 ≤ n
  defaultHits : 0 ≤ s.defaultHits

/-- No count of the line or of one of its branches is negative. -/
structure Line.Nonneg (l : Line) : Prop where
  hits : 0 ≤ l.hits
  jumps : ∀ j ∈ l.jumps, j.Nonneg
  switches : ∀ s ∈ l.switches, s.Nonneg

/-- No count of the project is negative. -/
def Project.Nonneg (p : Project) : Prop :=
  ∀ c ∈ p.classes, ∀ l ∈ c.lines, l.Nonneg

instance (j : Jump) : Decidable j.Nonneg :=
  decidable_of_iff (0 ≤ j.trueHits ∧ 0 ≤ j.falseHits)
    ⟨fun ⟨ht, hf⟩ => ⟨ht, hf⟩, fun h => ⟨h.trueHits, h.falseHits⟩⟩

instance (s : Switch) : Decidable s.Nonneg :=
  decidable_of_iff ((∀ n ∈ s.hits, 0 ≤ n) ∧ 0 ≤ s.defaultHits)
    ⟨fun ⟨hh, hd⟩ => ⟨hh, hd⟩, fun h => ⟨h.hits, h.defaultHits⟩⟩

instance (l : Line) : Decidable l.Nonneg :=
  decidable_of_iff (0 ≤ l.hits ∧ (∀ j ∈ l.jumps, j.Nonneg) ∧ ∀ s ∈ l.switches, s.Nonneg)
    ⟨fun ⟨hh, hj, hs⟩ => ⟨hh, hj, hs⟩, fun h => ⟨h.hits, h.jumps, h.switches⟩⟩

instance (p : Project) : Decidable p.Nonneg :=
  inferInstanceAs (Decidable (∀ c ∈ p.classes, ∀ l ∈ c.lines, l.Nonneg))

/-- A sum is positive exactly if one of its parts is. -/
theorem decide_pos_add {m n : Int} (hm : 0 ≤ m) (hn : 0 ≤ n) :
    decide (0 < m + n) = (decide (0 < m) || decide (0 < n)) := by
  rw [Bool.eq_iff_iff, Bool.or_eq_true, decide_eq_true_iff, decide_eq_true_iff, decide_eq_true_iff]
  omega

/-! ## Jumps -/

namespace Jump

variable {a b : Jump}

/-- The outcomes that are taken on one of two sides. -/
def joinOutcomes (o p : Bool × Bool) : Bool × Bool :=
  (o.1 || p.1, o.2 || p.2)

theorem outcome_merge (ha : a.Nonneg) (hb : b.Nonneg) :
    (a.merge b).outcome = joinOutcomes a.outcome b.outcome := by
  have htrue := decide_pos_add ha.trueHits hb.trueHits
  have hfalse := decide_pos_add ha.falseHits hb.falseHits
  exact Prod.ext htrue hfalse

theorem Nonneg.merge (ha : a.Nonneg) (hb : b.Nonneg) : (a.merge b).Nonneg where
  trueHits := Int.add_nonneg ha.trueHits hb.trueHits
  falseHits := Int.add_nonneg ha.falseHits hb.falseHits

theorem touched_merge (ha : a.Nonneg) (hb : b.Nonneg) :
    (a.merge b).touched = (a.touched || b.touched) := by
  simp only [touched, outcome_merge ha hb, joinOutcomes]
  ac_rfl

theorem fullyCovered_iff {j : Jump} : j.fullyCovered = true ↔ j.outcome = (true, true) := by
  simp [fullyCovered, Prod.ext_iff]

end Jump

/-! ## Switches -/

namespace Switch

/-- A switch with one count for each key and no key twice. -/
structure Regular (s : Switch) : Prop where
  even : s.Even
  distinct : s.keys.Nodup

/-- A regular switch without negative counts. -/
structure Tidy (s : Switch) : Prop extends s.Nonneg, s.Regular

/-- The count under a key, zero if it is missing. -/
def count (s : Switch) (k : Int) : Int :=
  ((find? k s.pairs).map Prod.snd).getD 0

/-- Some case with the key has a positive count. -/
def Covers (cs : List (Int × Int)) (k : Int) : Prop :=
  ∃ n, (k, n) ∈ cs ∧ 0 < n

variable {s a b : Switch}

theorem Regular.nodup_pairs (h : s.Regular) : (Shelf.keys s.pairs).Nodup :=
  nodup_keys_pairs h.even h.distinct

theorem Tidy.count_nonneg (h : s.Tidy) (k : Int) : 0 ≤ s.count k := by
  rw [count]
  cases hfind : find? k s.pairs with
  | none => simp
  | some c => exact h.hits c.2 (List.of_mem_zip (mem_of_find? hfind)).2

theorem count_of_mem_pairs (hs : (Shelf.keys s.pairs).Nodup) {k n : Int} (h : (k, n) ∈ s.pairs) :
    s.count k = n := by
  have hfind : find? k s.pairs = some (k, n) := find?_key_of_mem hs h
  rw [count, hfind]
  rfl

theorem count_pos_iff (hs : (Shelf.keys s.pairs).Nodup) {k : Int} :
    0 < s.count k ↔ Covers s.pairs k := by
  have hfind : ∀ n, (k, n) ∈ s.pairs ↔ find? k s.pairs = some (k, n) := by
    intro n
    rw [find?_eq_some_iff hs]
    exact (and_iff_left rfl).symm
  simp only [Covers, hfind, count]
  cases h : find? k s.pairs with
  | none => simp
  | some c =>
      have hkey : c.1 = k := key_of_find? h
      constructor
      · intro hpos
        exact ⟨c.2, by rw [← hkey], hpos⟩
      · rintro ⟨n, heq, hpos⟩
        rw [Option.some.inj heq]
        exact hpos

theorem count_merge (ha : a.Tidy) (hb : b.Tidy) (k : Int) :
    (a.merge b).count k = a.count k + b.count k := by
  rw [count, find?_pairs_merge ha.nodup_pairs hb.nodup_pairs]
  exact getD_optionMerge (fun _ _ => rfl) _ _

/-- The label of a key is never that of the default case. -/
theorem toString_ne_defaultLabel (k : Int) : toString k ≠ defaultLabel := by
  intro h
  have hd : 'd' ∈ (toString k).toList := by
    rw [h]
    decide
  have hrange := (Text.of_mem_toString hd).2
  exact absurd hrange (by decide)

/-- The labels and counts of all cases are those of the keys, then those of the default case. -/
theorem zip_caseLabels (h : s.Even) :
    s.caseLabels.zip s.caseHits =
      s.pairs.map (Prod.map toString id) ++ [(defaultLabel, s.defaultHits)] := by
  have hlen : (s.keys.map toString).length = s.hits.length := by
    rw [List.length_map]
    exact h
  rw [caseLabels, caseHits, List.zip_append hlen, List.zip_map_left, pairs]
  rfl

/-- The labels of the covered keys are covered, and that of the default case if it has a count. -/
theorem mem_covered_iff_covers (h : s.Even) {label : String} :
    label ∈ s.covered ↔
      (∃ k, Covers s.pairs k ∧ label = toString k) ∨ label = defaultLabel ∧ 0 < s.defaultHits := by
  have hmem : label ∈ s.covered ↔
      ∃ n, (label, n) ∈ s.caseLabels.zip s.caseHits ∧ 0 < n := Iff.rfl
  rw [hmem, zip_caseLabels h]
  simp only [List.mem_append, List.mem_map, List.mem_singleton]
  constructor
  · rintro ⟨n, ⟨⟨k, m⟩, hpair, heq⟩ | heq, hpos⟩
    · obtain ⟨hlabel, hcount⟩ := Prod.mk.inj heq
      exact .inl ⟨k, ⟨m, hpair, by rwa [← hcount] at hpos⟩, hlabel.symm⟩
    · obtain ⟨hlabel, hcount⟩ := Prod.mk.inj heq
      exact .inr ⟨hlabel, hcount ▸ hpos⟩
  · rintro (⟨k, ⟨n, hpair, hpos⟩, rfl⟩ | ⟨rfl, hpos⟩)
    · exact ⟨n, .inl ⟨(k, n), hpair, rfl⟩, hpos⟩
    · exact ⟨s.defaultHits, .inr rfl, hpos⟩

theorem mem_covered_iff (h : s.Regular) {label : String} :
    label ∈ s.covered ↔
      (∃ k, 0 < s.count k ∧ label = toString k) ∨ label = defaultLabel ∧ 0 < s.defaultHits := by
  simp only [mem_covered_iff_covers h.even, count_pos_iff h.nodup_pairs]

theorem toString_mem_covered_iff (h : s.Regular) {k : Int} :
    toString k ∈ s.covered ↔ 0 < s.count k := by
  rw [mem_covered_iff h]
  constructor
  · rintro (⟨j, hpos, heq⟩ | ⟨heq, _⟩)
    · rwa [Text.toString_injective heq]
    · exact absurd heq (toString_ne_defaultLabel k)
  · intro hpos
    exact .inl ⟨k, hpos, rfl⟩

theorem defaultLabel_mem_covered_iff (h : s.Regular) :
    defaultLabel ∈ s.covered ↔ 0 < s.defaultHits := by
  rw [mem_covered_iff h]
  constructor
  · rintro (⟨k, _, heq⟩ | ⟨_, hpos⟩)
    · exact absurd heq.symm (toString_ne_defaultLabel k)
    · exact hpos
  · intro hpos
    exact .inr ⟨rfl, hpos⟩

theorem Tidy.merge (ha : a.Tidy) (hb : b.Tidy) : (a.merge b).Tidy where
  hits := by
    -- a count of the merged switch is the one under its key, so it is a sum
    intro n hn
    have hnodup := (ascending_pairs_merge a b).nodup_keys
    rw [← List.map_snd_zip (Nat.le_of_eq (a.even_merge b).symm), List.mem_map] at hn
    obtain ⟨⟨k, m⟩, hpair, rfl⟩ := hn
    have hcount := count_of_mem_pairs hnodup hpair
    have hsum := count_merge ha hb k
    have hnonneg := Int.add_nonneg (ha.count_nonneg k) (hb.count_nonneg k)
    omega
  defaultHits := Int.add_nonneg ha.defaultHits hb.defaultHits
  even := a.even_merge b
  distinct := a.nodup_keys_merge b

/-- **Switches**: a merged switch covers what either side covers. -/
theorem covered_merge (ha : a.Tidy) (hb : b.Tidy) :
    (a.merge b).covered = a.covered ∪ b.covered := by
  ext label
  have hcount : ∀ k, 0 < (a.merge b).count k ↔ 0 < a.count k ∨ 0 < b.count k := by
    intro k
    have hak := ha.count_nonneg k
    have hbk := hb.count_nonneg k
    rw [count_merge ha hb]
    omega
  have hdefault : 0 < (a.merge b).defaultHits ↔ 0 < a.defaultHits ∨ 0 < b.defaultHits := by
    have had := ha.defaultHits
    have hbd := hb.defaultHits
    have hsum : (a.merge b).defaultHits = a.defaultHits + b.defaultHits := rfl
    omega
  rw [Set.mem_union, mem_covered_iff (ha.merge hb).toRegular, mem_covered_iff ha.toRegular,
    mem_covered_iff hb.toRegular, hdefault]
  simp only [hcount, or_and_right, exists_or, and_or_left]
  exact or_or_or_comm

/-- A switch is touched exactly if it covers something. -/
theorem touched_iff (h : s.Even) : s.touched = true ↔ s.covered.Nonempty := by
  have hlen : s.caseHits.length ≤ s.caseLabels.length := by
    simp only [caseHits, caseLabels, List.length_append, List.length_map]
    exact Nat.le_of_eq (congrArg (· + 1) h.symm)
  rw [touched, List.any_eq_true, ← List.map_snd_zip hlen]
  simp only [List.mem_map, decide_eq_true_iff]
  constructor
  · rintro ⟨_, ⟨⟨label, n⟩, hmem, rfl⟩, hpos⟩
    exact ⟨label, n, hmem, hpos⟩
  · rintro ⟨label, n, hmem, hpos⟩
    exact ⟨n, ⟨(label, n), hmem, rfl⟩, hpos⟩

theorem touched_merge (ha : a.Tidy) (hb : b.Tidy) :
    (a.merge b).touched = (a.touched || b.touched) := by
  rw [Bool.eq_iff_iff, Bool.or_eq_true, touched_iff (a.even_merge b), touched_iff ha.even,
    touched_iff hb.even, covered_merge ha hb, Set.union_nonempty]

/-- A switch is fully covered exactly if the labels of all its keys and of the default case are. -/
theorem fullyCovered_iff (h : s.Regular) :
    s.fullyCovered = true ↔
      (∀ k ∈ s.keys, toString k ∈ s.covered) ∧ defaultLabel ∈ s.covered := by
  have hkeys : (∀ k ∈ s.keys, 0 < s.count k) ↔ ∀ n ∈ s.hits, 0 < n := by
    have hk : ∀ k, k ∈ s.keys ↔ ∃ n, (k, n) ∈ s.pairs := by
      intro k
      have hfst : s.pairs.map Prod.fst = s.keys := List.map_fst_zip (Nat.le_of_eq h.even)
      rw [← hfst, List.mem_map]
      simp
    have hn : ∀ n, n ∈ s.hits ↔ ∃ k, (k, n) ∈ s.pairs := by
      intro n
      have hsnd : s.pairs.map Prod.snd = s.hits := List.map_snd_zip (Nat.le_of_eq h.even.symm)
      rw [← hsnd, List.mem_map]
      simp
    simp only [hk, hn]
    constructor
    · rintro hpos n ⟨k, hpair⟩
      rw [← count_of_mem_pairs h.nodup_pairs hpair]
      exact hpos k ⟨n, hpair⟩
    · rintro hpos k ⟨n, hpair⟩
      rw [count_of_mem_pairs h.nodup_pairs hpair]
      exact hpos n ⟨k, hpair⟩
  simp only [toString_mem_covered_iff h, defaultLabel_mem_covered_iff h, hkeys]
  simp [fullyCovered, caseHits]

end Switch

/-! ## Lines -/

/-- Two statuses that are none both or neither and full both or neither are the same. -/
theorem Status.eq_of_iff {s t : Status} (hnone : s = .none ↔ t = .none)
    (hfull : s = .full ↔ t = .full) : s = t := by
  cases s <;> cases t <;> simp_all

namespace Line

/-- A regular line without negative counts. -/
structure Tidy (l : Line) : Prop extends l.Regular where
  nonneg : l.Nonneg

/-- A switch of the line has a key. -/
def HasKey (l : Line) (i k : Int) : Prop :=
  ∃ s, l.switch? i = some s ∧ k ∈ s.keys

variable {l a b : Line}

theorem Regular.switch (h : l.Regular) {s : Switch} (hs : s ∈ l.switches) : s.Regular where
  even := h.even s hs
  distinct := h.distinctKeys s hs

theorem Tidy.switch (h : l.Tidy) {s : Switch} (hs : s ∈ l.switches) : s.Tidy where
  toNonneg := h.nonneg.switches s hs
  toRegular := h.toRegular.switch hs

theorem Tidy.merge (ha : a.Tidy) (hb : b.Tidy) : (a.merge b).Tidy where
  toRegular := ha.toRegular.merge hb.toRegular
  nonneg := by
    have hswitches : ∀ s ∈ (a.merge b).switches, s.Tidy :=
      forall_mem_merge (fun _ hs => ha.switch hs) (fun _ hs => hb.switch hs)
        fun _ _ hs ht => hs.merge ht
    exact {
      hits := Int.add_nonneg ha.nonneg.hits hb.nonneg.hits
      jumps := forall_mem_merge ha.nonneg.jumps hb.nonneg.jumps fun _ _ hi hj => hi.merge hj
      switches := fun s hs => (hswitches s hs).toNonneg }

/-! ### Status -/

theorem status_eq_none_iff : l.status = .none ↔ l.hits = 0 ∧ l.anyTouched = false := by
  unfold status
  split <;> split <;> simp_all

theorem status_eq_full_iff : l.status = .full ↔ l.hits ≠ 0 ∧ l.allCovered = true := by
  unfold status
  split <;> split <;> simp_all

theorem anyTouched_merge (ha : a.Tidy) (hb : b.Tidy) :
    (a.merge b).anyTouched = (a.anyTouched || b.anyTouched) := by
  have hjumps : (a.merge b).jumps.any Jump.touched =
      (a.jumps.any Jump.touched || b.jumps.any Jump.touched) :=
    any_merge Jump.keepsKey_merge ha.jumps hb.jumps fun i hi j hj =>
      Jump.touched_merge (ha.nonneg.jumps i hi) (hb.nonneg.jumps j hj)
  have hswitches : (a.merge b).switches.any Switch.touched =
      (a.switches.any Switch.touched || b.switches.any Switch.touched) :=
    any_merge Switch.keepsKey_merge ha.switches hb.switches fun s hs t ht =>
      Switch.touched_merge (ha.switch hs) (hb.switch ht)
  rw [anyTouched, hjumps, hswitches, anyTouched, anyTouched]
  ac_rfl

/-- **Lines**: a merged line is without coverage exactly if both sides are. -/
theorem status_merge_eq_none_iff (ha : a.Tidy) (hb : b.Tidy) :
    (a.merge b).status = .none ↔ a.status = .none ∧ b.status = .none := by
  have hsum : (a.merge b).hits = a.hits + b.hits := rfl
  have hpos := ha.nonneg.hits
  have hpos' := hb.nonneg.hits
  have hzero : (a.merge b).hits = 0 ↔ a.hits = 0 ∧ b.hits = 0 := by omega
  rw [status_eq_none_iff, status_eq_none_iff, status_eq_none_iff, anyTouched_merge ha hb,
    Bool.or_eq_false_iff, hzero]
  exact and_and_and_comm

/-! ### Branches -/

theorem outcome_view_merge (ha : a.Tidy) (hb : b.Tidy) (i : Int) :
    (a.merge b).view.outcome i =
      Option.merge Jump.joinOutcomes (a.view.outcome i) (b.view.outcome i) := by
  simp only [view, jump?_merge ha.toWellFormed hb.toWellFormed]
  apply map_optionMerge
  intro j k hj hk
  exact Jump.outcome_merge (ha.nonneg.jumps j (mem_of_find? hj)) (hb.nonneg.jumps k (mem_of_find? hk))

theorem covered_view_merge (ha : a.Tidy) (hb : b.Tidy) (i : Int) :
    (a.merge b).view.covered i =
      Option.merge (· ∪ ·) (a.view.covered i) (b.view.covered i) := by
  simp only [view, switch?_merge ha.toWellFormed hb.toWellFormed]
  apply map_optionMerge
  intro s t hs ht
  exact Switch.covered_merge (ha.switch (mem_of_find? hs)) (hb.switch (mem_of_find? ht))

/-- **Full coverage** is a matter of the view and of the keys of the switches: each jump takes both
outcomes, each switch covers its default case and the label of each of its keys. -/
theorem allCovered_iff (h : l.Regular) :
    l.allCovered = true ↔
      (∀ i o, l.view.outcome i = some o → o = (true, true)) ∧
        (∀ i c, l.view.covered i = some c → Switch.defaultLabel ∈ c) ∧
        ∀ i c k, l.view.covered i = some c → l.HasKey i k → toString k ∈ c := by
  have hjumps : l.jumps.all Jump.fullyCovered = true ↔
      ∀ i o, l.view.outcome i = some o → o = (true, true) := by
    rw [all_eq_true_iff h.jumps.nodup_keys]
    simp only [Jump.fullyCovered_iff, view, jump?, Option.map_eq_some_iff]
    constructor
    · rintro hall i _ ⟨j, hj, rfl⟩
      exact hall i j hj
    · intro hall i j hj
      exact hall i _ ⟨j, hj, rfl⟩
  rw [allCovered, Bool.and_eq_true, hjumps, all_eq_true_iff h.switches.nodup_keys]
  apply and_congr_right
  intro _
  constructor
  · intro hall
    constructor
    · intro i c hc
      obtain ⟨s, hs, rfl⟩ := Option.map_eq_some_iff.mp hc
      exact ((Switch.fullyCovered_iff (h.switch (mem_of_find? hs))).mp (hall i s hs)).2
    · rintro i c k hc ⟨s, hs, hk⟩
      have hcovered : l.view.covered i = some s.covered := congrArg (Option.map _) hs
      rw [hcovered, Option.some.injEq] at hc
      rw [← hc]
      exact ((Switch.fullyCovered_iff (h.switch (mem_of_find? hs))).mp (hall i s hs)).1 k hk
  · rintro ⟨hdefault, hkeys⟩ i s hs
    have hcovered : l.view.covered i = some s.covered := congrArg (Option.map _) hs
    rw [Switch.fullyCovered_iff (h.switch (mem_of_find? hs))]
    exact ⟨fun k hk => hkeys i _ k hcovered ⟨s, hs, hk⟩, hdefault i _ hcovered⟩

end Line

/-! ## Projects -/

namespace Project

/-- A project that operations can give, without negative counts and without a switch that repeats
a key. -/
structure Tidy (p : Project) : Prop where
  reachable : p.Reachable
  nonneg : p.Nonneg
  distinctKeys : p.DistinctKeys

instance (p : Project) : Decidable p.Tidy :=
  decidable_of_iff (p.Reachable ∧ p.Nonneg ∧ p.DistinctKeys)
    ⟨fun ⟨hr, hn, hk⟩ => ⟨hr, hn, hk⟩, fun h => ⟨h.reachable, h.nonneg, h.distinctKeys⟩⟩

theorem Tidy.line? {p : Project} (h : p.Tidy) {c : String} {n : Int} {l : Line}
    (hl : p.line? c n = some l) : l.Tidy := by
  obtain ⟨k, hc, hline⟩ := line?_eq_some_iff.mp hl
  have hk := mem_of_find? hc
  have hmem := mem_of_find? hline
  exact {
    toWellFormed := h.reachable.wellFormed.of_line? hl
    distinctKeys := h.distinctKeys k hk l hmem
    nonneg := h.nonneg k hk l hmem }

end Project

end CoverageDiff
