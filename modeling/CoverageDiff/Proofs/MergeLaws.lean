import CoverageDiff.Proofs.Merging

/-!
# CoverageDiff.Proofs.MergeLaws

The algebra of merging.  Merging is associative with the empty project as its
identity, and commutative up to the methods of lines that both sides have
(`Project.merge_laws`).

The laws are proved level by level: a law of the values that meet under one
key gives the law of the shelves that hold them (`Shelf.merge_assoc`,
`Shelf.map_merge_comm`).  Switches are the exception.  The keys of a switch
are in no order until it is merged, so its laws go through the look-up of its
pairs, which needs distinct keys.
-/

namespace CoverageDiff

open CoverageDiff.Shelf

/-! ## Branches -/

theorem Jump.merge_assoc (a b c : Jump) : (a.merge b).merge c = a.merge (b.merge c) := by
  simp only [Jump.merge, Int.add_assoc]

theorem Jump.merge_comm {a b : Jump} (h : a.index = b.index) : a.merge b = b.merge a := by
  simp only [Jump.merge, h, Int.add_comm]

namespace Switch

/-- Cases with one key are joined to the same case in both orders. -/
theorem addCase_comm {x y : Int × Int} (h : x.1 = y.1) : addCase x y = addCase y x := by
  simp only [addCase, h, Int.add_comm]

theorem addCase_assoc (x y z : Int × Int) :
    addCase (addCase x y) z = addCase x (addCase y z) := by
  simp only [addCase, Int.add_assoc]

/-- Even switches are the same if their pairs are. -/
theorem ext_pairs {a b : Switch} (ha : a.Even) (hb : b.Even) (hindex : a.index = b.index)
    (hpairs : a.pairs = b.pairs) (hdefault : a.defaultHits = b.defaultHits) : a = b := by
  have hkeys : a.keys = b.keys := by
    rw [← keys_pairs ha, ← keys_pairs hb, hpairs]
  have hhits : a.hits = b.hits := by
    rw [← List.map_snd_zip (Nat.le_of_eq ha.symm), ← List.map_snd_zip (Nat.le_of_eq hb.symm)]
    exact congrArg (List.map Prod.snd) hpairs
  cases a
  cases b
  simp_all

/-- Merged switches are the same if the same is found under each key. -/
theorem merge_eq_merge {a b c d : Switch} (hindex : a.index = c.index)
    (hfind : ∀ k, find? k (a.merge b).pairs = find? k (c.merge d).pairs)
    (hdefault : a.defaultHits + b.defaultHits = c.defaultHits + d.defaultHits) :
    a.merge b = c.merge d :=
  ext_pairs (a.even_merge b) (c.even_merge d) hindex
    ((a.ascending_pairs_merge b).ext (c.ascending_pairs_merge d) hfind) hdefault

theorem merge_assoc {a b c : Switch} (ha : (Shelf.keys a.pairs).Nodup)
    (hb : (Shelf.keys b.pairs).Nodup) (hc : (Shelf.keys c.pairs).Nodup) :
    (a.merge b).merge c = a.merge (b.merge c) := by
  refine merge_eq_merge rfl ?_ (Int.add_assoc _ _ _)
  intro k
  rw [find?_pairs_merge (ascending_pairs_merge a b).nodup_keys hc, find?_pairs_merge ha hb,
    find?_pairs_merge ha (ascending_pairs_merge b c).nodup_keys, find?_pairs_merge hb hc]
  exact optionMerge_assoc fun x y z _ _ _ => addCase_assoc x y z

theorem merge_comm {a b : Switch} (h : a.index = b.index) (ha : (Shelf.keys a.pairs).Nodup)
    (hb : (Shelf.keys b.pairs).Nodup) : a.merge b = b.merge a := by
  refine merge_eq_merge h ?_ (Int.add_comm _ _)
  intro k
  rw [find?_pairs_merge ha hb, find?_pairs_merge hb ha]
  apply optionMerge_comm
  intro x y hx hy
  exact addCase_comm ((key_of_find? hx).trans (key_of_find? hy).symm)

end Switch

/-! ## Lines -/

namespace Line

/-- The pairs of a switch of a line have distinct keys. -/
theorem DistinctKeys.nodup_pairs {l : Line} (hk : l.DistinctKeys) (h : l.WellFormed) {s : Switch}
    (hs : s ∈ l.switches) : (Shelf.keys s.pairs).Nodup :=
  Switch.nodup_keys_pairs (h.even s hs) (hk s hs)

variable {a b c : Line}

theorem merge_assoc (ha : a.WellFormed) (hb : b.WellFormed) (hc : c.WellFormed)
    (hak : a.DistinctKeys) (hbk : b.DistinctKeys) (hck : c.DistinctKeys) :
    (a.merge b).merge c = a.merge (b.merge c) := by
  have hmethod : ((a.method <|> b.method) <|> c.method) =
      (a.method <|> (b.method <|> c.method)) := by
    cases a.method <;> rfl
  have hjumps : Shelf.merge Jump.merge (Shelf.merge Jump.merge a.jumps b.jumps) c.jumps =
      Shelf.merge Jump.merge a.jumps (Shelf.merge Jump.merge b.jumps c.jumps) :=
    Shelf.merge_assoc Jump.keepsKey_merge ha.jumps hb.jumps hc.jumps.nodup_keys
      fun i _ j _ k _ _ _ => Jump.merge_assoc i j k
  have hswitches :
      Shelf.merge Switch.merge (Shelf.merge Switch.merge a.switches b.switches) c.switches =
        Shelf.merge Switch.merge a.switches (Shelf.merge Switch.merge b.switches c.switches) := by
    refine Shelf.merge_assoc Switch.keepsKey_merge ha.switches hb.switches
      hc.switches.nodup_keys ?_
    intro s hs t ht u hu _ _
    exact Switch.merge_assoc (hak.nodup_pairs ha hs) (hbk.nodup_pairs hb ht)
      (hck.nodup_pairs hc hu)
  simp only [Line.merge, Int.add_assoc, hmethod, hjumps, hswitches]

/-- The line without its method. -/
def withoutMethod (l : Line) : Line :=
  { l with method := none }

/-- Merging lines is commutative up to the method. -/
theorem merge_comm (hab : a.number = b.number) (ha : a.WellFormed) (hb : b.WellFormed)
    (hak : a.DistinctKeys) (hbk : b.DistinctKeys) :
    (a.merge b).withoutMethod = (b.merge a).withoutMethod := by
  have hjumps : Shelf.merge Jump.merge a.jumps b.jumps =
      Shelf.merge Jump.merge b.jumps a.jumps := by
    refine Shelf.merge_comm Jump.keepsKey_merge ha.jumps hb.jumps ?_
    exact fun _ _ _ _ hij => Jump.merge_comm hij
  have hswitches : Shelf.merge Switch.merge a.switches b.switches =
      Shelf.merge Switch.merge b.switches a.switches := by
    refine Shelf.merge_comm Switch.keepsKey_merge ha.switches hb.switches ?_
    intro s hs t ht hst
    exact Switch.merge_comm hst (hak.nodup_pairs ha hs) (hbk.nodup_pairs hb ht)
  simp only [withoutMethod, Line.merge, hab, Int.add_comm, hjumps, hswitches]

end Line

/-! ## Classes -/

namespace Class

variable {a b c : Class}

theorem merge_assoc (ha : a.WellFormed) (hb : b.WellFormed) (hc : c.WellFormed)
    (hak : a.DistinctKeys) (hbk : b.DistinctKeys) (hck : c.DistinctKeys) :
    (a.merge b).merge c = a.merge (b.merge c) := by
  have hlines : Shelf.merge Line.merge (Shelf.merge Line.merge a.lines b.lines) c.lines =
      Shelf.merge Line.merge a.lines (Shelf.merge Line.merge b.lines c.lines) := by
    refine Shelf.merge_assoc Line.keepsKey_merge ha.ascending hb.ascending
      hc.ascending.nodup_keys ?_
    intro l hl m hm n hn _ _
    exact Line.merge_assoc (ha.lines l hl) (hb.lines m hm) (hc.lines n hn) (hak l hl) (hbk m hm)
      (hck n hn)
  simp only [Class.merge, hlines]

/-- The class without the methods of the lines for which `forget` holds. -/
def withoutMethods (forget : Int → Bool) (c : Class) : Class :=
  { c with lines := c.lines.map fun l => if forget l.number then l.withoutMethod else l }

/-- Merging classes is commutative up to the methods of the lines that both have. -/
theorem merge_comm (hab : a.name = b.name) (ha : a.WellFormed) (hb : b.WellFormed)
    (hak : a.DistinctKeys) (hbk : b.DistinctKeys) {forget : Int → Bool}
    (hforget : ∀ n, (a.line? n).isSome → (b.line? n).isSome → forget n = true) :
    (a.merge b).withoutMethods forget = (b.merge a).withoutMethods forget := by
  have hlines :
      (Shelf.merge Line.merge a.lines b.lines).map
          (fun l => if forget l.number then l.withoutMethod else l) =
        (Shelf.merge Line.merge b.lines a.lines).map
          fun l => if forget l.number then l.withoutMethod else l := by
    refine map_merge_comm Line.keepsKey_merge ?_ ha.ascending hb.ascending ?_
    · intro l
      by_cases h : forget l.number = true
      · rw [if_pos h]
        rfl
      · rw [if_neg h]
    · intro l hl m hm hlm
      have hnumber : l.number = m.number := hlm
      have hal : a.line? l.number = some l := find?_key_of_mem ha.ascending.nodup_keys hl
      have hbm : b.line? l.number = some m := by
        rw [hnumber]
        exact find?_key_of_mem hb.ascending.nodup_keys hm
      have hboth : forget l.number = true :=
        hforget _ (Option.isSome_of_eq_some hal) (Option.isSome_of_eq_some hbm)
      rw [Line.number_merge, Line.number_merge, ← hnumber, if_pos hboth, if_pos hboth]
      exact Line.merge_comm hnumber (ha.lines l hl) (hb.lines m hm) (hak l hl) (hbk m hm)
  simp only [withoutMethods, Class.merge, hab, hlines]

end Class

/-! ## Projects -/

namespace Project

/-- The project without the methods of the lines for which `forget` holds. -/
def withoutMethods (forget : String → Int → Bool) (p : Project) : Project :=
  { p with classes := p.classes.map fun c => c.withoutMethods (forget c.name) }

/-- Both projects have the line. -/
def bothHave (p q : Project) (c : String) (n : Int) : Bool :=
  (p.line? c n).isSome && (q.line? c n).isSome

variable {p q r : Project}

theorem merge_assoc (hp : p.WellFormed) (hq : q.WellFormed) (hr : r.WellFormed)
    (hpk : p.DistinctKeys) (hqk : q.DistinctKeys) (hrk : r.DistinctKeys) :
    (p.merge q).merge r = p.merge (q.merge r) := by
  have hclasses : Shelf.merge Class.merge (Shelf.merge Class.merge p.classes q.classes) r.classes =
      Shelf.merge Class.merge p.classes (Shelf.merge Class.merge q.classes r.classes) := by
    refine Shelf.merge_assoc Class.keepsKey_merge hp.ascending hq.ascending
      hr.ascending.nodup_keys ?_
    intro a ha b hb c hc _ _
    exact Class.merge_assoc (hp.classes a ha) (hq.classes b hb) (hr.classes c hc) (hpk a ha)
      (hqk b hb) (hrk c hc)
  simp only [Project.merge, hclasses]

theorem empty_merge (hp : p.WellFormed) : empty.merge p = p := by
  have hclasses : Shelf.merge Class.merge [] p.classes = p.classes :=
    nil_merge Class.keepsKey_merge hp.ascending
  simp only [Project.merge, empty, hclasses]

theorem merge_empty (p : Project) : p.merge empty = p := rfl

theorem merge_comm (hp : p.WellFormed) (hq : q.WellFormed) (hpk : p.DistinctKeys)
    (hqk : q.DistinctKeys) :
    (p.merge q).withoutMethods (p.bothHave q) = (q.merge p).withoutMethods (p.bothHave q) := by
  have hclasses :
      (Shelf.merge Class.merge p.classes q.classes).map
          (fun c => c.withoutMethods (p.bothHave q c.name)) =
        (Shelf.merge Class.merge q.classes p.classes).map
          fun c => c.withoutMethods (p.bothHave q c.name) := by
    have hkey : ∀ c : Class, key (c.withoutMethods (p.bothHave q c.name)) = key c := fun _ => rfl
    refine map_merge_comm Class.keepsKey_merge hkey hp.ascending hq.ascending ?_
    intro a ha b hb hab
    have hname : a.name = b.name := hab
    rw [Class.name_merge, Class.name_merge, ← hname]
    refine Class.merge_comm hname (hp.classes a ha) (hq.classes b hb) (hpk a ha) (hqk b hb) ?_
    intro n hla hlb
    have hpa : p.class? a.name = some a := find?_key_of_mem hp.ascending.nodup_keys ha
    have hqb : q.class? a.name = some b := by
      rw [hname]
      exact find?_key_of_mem hq.ascending.nodup_keys hb
    rw [bothHave, line?_of_class? hpa, line?_of_class? hqb, hla, hlb]
    rfl
  simp only [withoutMethods, Project.merge, hclasses]

/-- **Merge laws**: merging reachable projects without a repeated switch key is associative, the
empty project is its identity on both sides, and the order of the sides is seen in nothing but
the methods of lines that both have. -/
theorem merge_laws (hp : p.Reachable) (hq : q.Reachable) (hr : r.Reachable)
    (hpk : p.DistinctKeys) (hqk : q.DistinctKeys) (hrk : r.DistinctKeys) :
    (p.merge q).merge r = p.merge (q.merge r) ∧
      empty.merge p = p ∧
      p.merge empty = p ∧
      (p.merge q).withoutMethods (p.bothHave q) = (q.merge p).withoutMethods (p.bothHave q) := by
  have hpw := hp.wellFormed
  have hqw := hq.wellFormed
  refine ⟨?_, ?_, ?_, ?_⟩
  · exact merge_assoc hpw hqw hr.wellFormed hpk hqk hrk
  · exact empty_merge hpw
  · exact merge_empty p
  · exact merge_comm hpw hqw hpk hqk

end Project

/-- The samples merge in both orders to the same, but for the method of their shared line. -/
theorem Sample.merge_later_earlier :
    (earlier.merge later).merge earlier = earlier.merge (later.merge earlier) ∧
      earlier.merge later ≠ later.merge earlier ∧
      (earlier.merge later).withoutMethods (earlier.bothHave later) =
        (later.merge earlier).withoutMethods (earlier.bothHave later) := by
  have hek : earlier.DistinctKeys := by decide
  have hlk : later.DistinctKeys := by decide
  obtain ⟨hassoc, _, _, hcomm⟩ :=
    Project.merge_laws reachable_earlier reachable_later reachable_earlier hek hlk hek
  exact ⟨hassoc, by decide, hcomm⟩

end CoverageDiff
