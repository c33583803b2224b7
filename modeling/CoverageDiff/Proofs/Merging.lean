import CoverageDiff.Proofs.View

/-!
# CoverageDiff.Proofs.Merging

What a merged project holds.  At every level what is found under a key is
merged from what both sides hold there (`class?_merge`, `line?_merge`,
`jump?_merge`, `switch?_merge`), and the cases of a merged switch are merged
by key (`Switch.find?_pairs_merge`).

`Project.IsSum p q r` says place by place that `r` holds what `p` and `q`
hold, each count once; `Project.isSum_merge` is the main statement.
-/

namespace CoverageDiff

open CoverageDiff.Shelf

/-! ## Cases of a switch -/

namespace Switch

/-- The keys with their counts, in stored order. -/
def pairs (s : Switch) : List (Int × Int) :=
  s.keys.zip s.hits

/-- The counts under the occurrences of a key, in stored order. -/
def hitsUnder (s : Switch) (k : Int) : List Int :=
  (s.pairs.filter fun c => decide (c.1 = k)).map Prod.snd

/-- Counts added up. -/
def total (counts : List Int) : Int :=
  counts.foldr (· + ·) 0

theorem keys_pairs {s : Switch} (h : s.Even) : Shelf.keys s.pairs = s.keys :=
  List.map_fst_zip (Nat.le_of_eq h)

theorem nodup_keys_pairs {s : Switch} (h : s.Even) (hs : s.keys.Nodup) :
    (Shelf.keys s.pairs).Nodup := by
  rw [keys_pairs h]
  exact hs

theorem ascending_cases (s : Switch) : Ascending s.cases := Ascending.ofList _

/-- With distinct keys the cases of a switch are its pairs in another order. -/
theorem find?_cases {s : Switch} (hs : (Shelf.keys s.pairs).Nodup) (k : Int) :
    find? k s.cases = find? k s.pairs :=
  find?_ofList hs k

/-- The pairs of a merged switch are the cases of both, merged by key. -/
theorem pairs_merge (a b : Switch) : (a.merge b).pairs = Shelf.merge addCase a.cases b.pairs := by
  unfold pairs Switch.merge
  rw [List.zip_map']
  exact List.map_id _

/-- The pairs of a merged switch are ascending by key. -/
theorem ascending_pairs_merge (a b : Switch) : Ascending (a.merge b).pairs := by
  rw [pairs_merge]
  exact a.ascending_cases.merge keepsKey_addCase b.pairs

/-- Under each key of a merged switch the counts of both sides are added. -/
theorem find?_pairs_merge {a b : Switch} (ha : (Shelf.keys a.pairs).Nodup)
    (hb : (Shelf.keys b.pairs).Nodup) (k : Int) :
    find? k (a.merge b).pairs = Option.merge addCase (find? k a.pairs) (find? k b.pairs) := by
  rw [pairs_merge, find?_merge keepsKey_addCase a.ascending_cases hb, find?_cases ha]

/-- With distinct keys there is at most one count under a key. -/
theorem hitsUnder_eq {s : Switch} (hs : (Shelf.keys s.pairs).Nodup) (k : Int) :
    s.hitsUnder k = ((find? k s.pairs).map Prod.snd).toList := by
  unfold hitsUnder
  generalize s.pairs = xs at hs
  induction xs with
  | nil => rfl
  | cons c xs ih =>
      obtain ⟨hc, hxs⟩ := List.nodup_cons.mp hs
      by_cases hk : c.1 = k
      · have hkey : key c = k := hk
        have hnone : find? k xs = none := find?_eq_none_iff.mpr (hkey ▸ hc)
        have hrest := ih hxs
        rw [hnone] at hrest
        rw [List.filter_cons, if_pos (decide_eq_true hk), List.map_cons, hrest, find?_cons,
          if_pos hkey]
        rfl
      · have hk' : ¬decide (c.1 = k) = true := fun h => hk (of_decide_eq_true h)
        rw [List.filter_cons, if_neg hk', ih hxs, find?_cons_ne hk]

/-- Under a key of either side a merged switch has one count, the sum. -/
theorem hitsUnder_merge {a b : Switch} (ha : (Shelf.keys a.pairs).Nodup)
    (hb : (Shelf.keys b.pairs).Nodup) (k : Int) :
    (a.merge b).hitsUnder k =
      if a.hitsUnder k = [] ∧ b.hitsUnder k = [] then []
      else [total (a.hitsUnder k) + total (b.hitsUnder k)] := by
  rw [hitsUnder_eq ha, hitsUnder_eq hb, hitsUnder_eq (ascending_pairs_merge a b).nodup_keys,
    find?_pairs_merge ha hb]
  cases find? k a.pairs with
  | none =>
      cases find? k b.pairs with
      | none => rfl
      | some d => simp [total]
  | some c =>
      cases find? k b.pairs with
      | none => simp [total]
      | some d => simp [total, addCase]

end Switch

/-! ## Looking up in a merged project -/

theorem Line.jump?_merge {a b : Line} (ha : a.WellFormed) (hb : b.WellFormed) (i : Int) :
    (a.merge b).jump? i = Option.merge Jump.merge (a.jump? i) (b.jump? i) :=
  find?_merge Jump.keepsKey_merge ha.jumps hb.jumps.nodup_keys i

theorem Line.switch?_merge {a b : Line} (ha : a.WellFormed) (hb : b.WellFormed) (i : Int) :
    (a.merge b).switch? i = Option.merge Switch.merge (a.switch? i) (b.switch? i) :=
  find?_merge Switch.keepsKey_merge ha.switches hb.switches.nodup_keys i

theorem Class.line?_merge {a b : Class} (ha : a.WellFormed) (hb : b.WellFormed) (n : Int) :
    (a.merge b).line? n = Option.merge Line.merge (a.line? n) (b.line? n) :=
  find?_merge Line.keepsKey_merge ha.ascending hb.ascending.nodup_keys n

namespace Project

/-- The jump of a line. -/
def jump? (p : Project) (c : String) (n i : Int) : Option Jump :=
  (p.line? c n).bind fun l => l.jump? i

/-- The switch of a line. -/
def switch? (p : Project) (c : String) (n i : Int) : Option Switch :=
  (p.line? c n).bind fun l => l.switch? i

theorem WellFormed.of_line? {p : Project} (h : p.WellFormed) {c : String} {n : Int} {l : Line}
    (hl : p.line? c n = some l) : l.WellFormed := by
  obtain ⟨k, hk, hline⟩ := line?_eq_some_iff.mp hl
  exact (h.of_class? hk).of_line? hline

variable {p q : Project}

theorem class?_merge (hp : p.WellFormed) (hq : q.WellFormed) (c : String) :
    (p.merge q).class? c = Option.merge Class.merge (p.class? c) (q.class? c) :=
  find?_merge Class.keepsKey_merge hp.ascending hq.ascending.nodup_keys c

theorem line?_merge (hp : p.WellFormed) (hq : q.WellFormed) (c : String) (n : Int) :
    (p.merge q).line? c n = Option.merge Line.merge (p.line? c n) (q.line? c n) := by
  rw [line?, class?_merge hp hq]
  apply optionMerge_bind
  intro a b ha hb
  exact Class.line?_merge (hp.of_class? ha) (hq.of_class? hb) n

theorem jump?_merge (hp : p.WellFormed) (hq : q.WellFormed) (c : String) (n i : Int) :
    (p.merge q).jump? c n i = Option.merge Jump.merge (p.jump? c n i) (q.jump? c n i) := by
  rw [jump?, line?_merge hp hq]
  apply optionMerge_bind
  intro a b ha hb
  exact Line.jump?_merge (hp.of_line? ha) (hq.of_line? hb) i

theorem switch?_merge (hp : p.WellFormed) (hq : q.WellFormed) (c : String) (n i : Int) :
    (p.merge q).switch? c n i = Option.merge Switch.merge (p.switch? c n i) (q.switch? c n i) := by
  rw [switch?, line?_merge hp hq]
  apply optionMerge_bind
  intro a b ha hb
  exact Line.switch?_merge (hp.of_line? ha) (hq.of_line? hb) i

end Project

/-! ## Distinct switch keys -/

/-- No switch of the line repeats a key. -/
def Line.DistinctKeys (l : Line) : Prop :=
  ∀ s ∈ l.switches, s.keys.Nodup

/-- No switch of the class repeats a key. -/
def Class.DistinctKeys (c : Class) : Prop :=
  ∀ l ∈ c.lines, l.DistinctKeys

namespace Project

/-- No switch of the project repeats a key. -/
def DistinctKeys (p : Project) : Prop :=
  ∀ c ∈ p.classes, c.DistinctKeys

instance (p : Project) : Decidable p.DistinctKeys :=
  inferInstanceAs (Decidable (∀ c ∈ p.classes, ∀ l ∈ c.lines, ∀ s ∈ l.switches, s.keys.Nodup))

theorem nodup_pairs_of_switch? {p : Project} (hp : p.WellFormed) (hpk : p.DistinctKeys)
    {c : String} {n i : Int} {s : Switch} (hs : p.switch? c n i = some s) :
    (Shelf.keys s.pairs).Nodup := by
  obtain ⟨l, hl, hswitch⟩ := Option.bind_eq_some_iff.mp hs
  obtain ⟨k, hk, hline⟩ := line?_eq_some_iff.mp hl
  have hmem := mem_of_find? hswitch
  have heven := (hp.of_line? hl).even s hmem
  exact Switch.nodup_keys_pairs heven
    (hpk k (mem_of_find? hk) l (mem_of_find? hline) s hmem)

/-! ## Sums of projects -/

/-- The count of a line, zero if it is missing. -/
def hits (p : Project) (c : String) (n : Int) : Int :=
  ((p.line? c n).map Line.hits).getD 0

/-- The method of a line. -/
def method (p : Project) (c : String) (n : Int) : Option String :=
  (p.line? c n).bind Line.method

/-- How often the condition of a jump held, zero if it is missing. -/
def trueHits (p : Project) (c : String) (n i : Int) : Int :=
  ((p.jump? c n i).map Jump.trueHits).getD 0

/-- How often the condition of a jump did not hold, zero if it is missing. -/
def falseHits (p : Project) (c : String) (n i : Int) : Int :=
  ((p.jump? c n i).map Jump.falseHits).getD 0

/-- The count of the default case of a switch, zero if it is missing. -/
def defaultHits (p : Project) (c : String) (n i : Int) : Int :=
  ((p.switch? c n i).map Switch.defaultHits).getD 0

/-- The counts under the occurrences of a key of a switch, none if it is missing. -/
def hitsUnder (p : Project) (c : String) (n i k : Int) : List Int :=
  ((p.switch? c n i).map fun s => s.hitsUnder k).getD []

/-- At every place `r` holds what `p` and `q` hold, each count once. -/
structure IsSum (p q r : Project) : Prop where
  /-- Nothing is held twice. -/
  distinct : r.Distinct
  /-- The classes are those of both. -/
  classes : ∀ c, (r.class? c).isSome ↔ (p.class? c).isSome ∨ (q.class? c).isSome
  /-- The lines of a class are those of both. -/
  lines : ∀ c n, (r.line? c n).isSome ↔ (p.line? c n).isSome ∨ (q.line? c n).isSome
  /-- Counts of lines are added. -/
  hits : ∀ c n, r.hits c n = p.hits c n + q.hits c n
  /-- The method of the first is kept, if it has one. -/
  method : ∀ c n, r.method c n = (p.method c n).or (q.method c n)
  /-- The jumps of a line are those of both. -/
  jumps : ∀ c n i, (r.jump? c n i).isSome ↔ (p.jump? c n i).isSome ∨ (q.jump? c n i).isSome
  /-- Counts of the true outcome are added. -/
  trueHits : ∀ c n i, r.trueHits c n i = p.trueHits c n i + q.trueHits c n i
  /-- Counts of the false outcome are added. -/
  falseHits : ∀ c n i, r.falseHits c n i = p.falseHits c n i + q.falseHits c n i
  /-- The switches of a line are those of both. -/
  switches : ∀ c n i,
    (r.switch? c n i).isSome ↔ (p.switch? c n i).isSome ∨ (q.switch? c n i).isSome
  /-- Every switch has one count for each key. -/
  even : ∀ c n i s, r.switch? c n i = some s → s.Even
  /-- Counts of the default case are added. -/
  defaultHits : ∀ c n i, r.defaultHits c n i = p.defaultHits c n i + q.defaultHits c n i
  /-- Under a key of either side is one count, the sum, and there are no other keys. -/
  hitsUnder : ∀ c n i k, r.hitsUnder c n i k =
    if p.hitsUnder c n i k = [] ∧ q.hitsUnder c n i k = [] then []
    else [Switch.total (p.hitsUnder c n i k) + Switch.total (q.hitsUnder c n i k)]

/-- **Nothing is lost and nothing counted twice**: of reachable projects without a repeated switch
key, the merged project is the sum. -/
theorem isSum_merge {p q : Project} (hp : p.Reachable) (hq : q.Reachable) (hpk : p.DistinctKeys)
    (hqk : q.DistinctKeys) : p.IsSum q (p.merge q) := by
  have hpw := hp.wellFormed
  have hqw := hq.wellFormed
  constructor
  case distinct => exact (hpw.merge hqw).distinct
  case classes =>
      intro c
      rw [class?_merge hpw hqw]
      exact isSome_optionMerge_iff
  case lines =>
      intro c n
      rw [line?_merge hpw hqw]
      exact isSome_optionMerge_iff
  case hits =>
      intro c n
      rw [hits, line?_merge hpw hqw]
      exact getD_optionMerge (fun _ _ => rfl) _ _
  case method =>
      intro c n
      rw [method, line?_merge hpw hqw, method, method]
      cases p.line? c n with
      | none => rw [Option.merge_none_left, Option.bind_none, Option.none_or]
      | some lp =>
          cases q.line? c n with
          | none => rw [Option.merge_none_right, Option.bind_none, Option.or_none]
          | some lq => exact Option.orElse_eq_or
  case jumps =>
      intro c n i
      rw [jump?_merge hpw hqw]
      exact isSome_optionMerge_iff
  case trueHits =>
      intro c n i
      rw [trueHits, jump?_merge hpw hqw]
      exact getD_optionMerge (fun _ _ => rfl) _ _
  case falseHits =>
      intro c n i
      rw [falseHits, jump?_merge hpw hqw]
      exact getD_optionMerge (fun _ _ => rfl) _ _
  case switches =>
      intro c n i
      rw [switch?_merge hpw hqw]
      exact isSome_optionMerge_iff
  case even =>
      intro c n i s hs
      obtain ⟨l, hl, hswitch⟩ := Option.bind_eq_some_iff.mp hs
      exact ((hpw.merge hqw).of_line? hl).even s (mem_of_find? hswitch)
  case defaultHits =>
      intro c n i
      rw [defaultHits, switch?_merge hpw hqw]
      exact getD_optionMerge (fun _ _ => rfl) _ _
  case hitsUnder =>
      intro c n i k
      rw [hitsUnder, switch?_merge hpw hqw, hitsUnder, hitsUnder]
      have hps := fun s => nodup_pairs_of_switch? hpw hpk (s := s) (c := c) (n := n) (i := i)
      have hqs := fun s => nodup_pairs_of_switch? hqw hqk (s := s) (c := c) (n := n) (i := i)
      cases hsp : p.switch? c n i with
      | none =>
          cases hsq : q.switch? c n i with
          | none => rfl
          | some t =>
              rw [Option.merge_none_left, Option.map_some, Option.getD_some,
                Switch.hitsUnder_eq (hqs t hsq)]
              cases find? k t.pairs <;> simp [Switch.total]
      | some s =>
          cases hsq : q.switch? c n i with
          | none =>
              rw [Option.merge_none_right, Option.map_some, Option.getD_some,
                Switch.hitsUnder_eq (hps s hsp)]
              cases find? k s.pairs <;> simp [Switch.total]
          | some t => exact Switch.hitsUnder_merge (hps s hsp) (hqs t hsq) k

end Project

/-- In the merged samples a shared line has one count under a shared key. -/
theorem Sample.merge_earlier_later :
    (earlier.merge later).hits "org.example.Foo" 3 = 6 ∧
      (earlier.merge later).method "org.example.Foo" 3 = some "run" ∧
      (earlier.merge later).hitsUnder "org.example.Foo" 3 1 7 = [4] := by
  have hsum := Project.isSum_merge reachable_earlier reachable_later (by decide) (by decide)
  refine ⟨?_, ?_, ?_⟩
  · rw [hsum.hits]
    decide
  · rw [hsum.method]
    decide
  · rw [hsum.hitsUnder]
    decide

end CoverageDiff
