import CoverageDiff.Proofs.Shelf
import CoverageDiff.Blueprint

/-!
# CoverageDiff.Proofs.WellFormed

The form every coverage tree has that was built by its own operations:

1. a switch has one count for each key (`Switch.Even`);
2. a line has a positive number, and its jumps and switches are strictly
   ascending by index;
3. the lines of a class are strictly ascending by number, the classes of a
   project by name.

`WellFormed` is a structure at each level, and there is one lemma for each
operation that gives a line, a class or a project.
-/

namespace CoverageDiff

/-! ## Joining keeps the key -/

theorem Jump.keepsKey_merge : Shelf.KeepsKey Jump.merge := fun _ _ _ => rfl

theorem Switch.keepsKey_merge : Shelf.KeepsKey Switch.merge := fun _ _ _ => rfl

theorem Switch.keepsKey_addCase : Shelf.KeepsKey Switch.addCase := fun _ _ _ => rfl

theorem Line.keepsKey_merge : Shelf.KeepsKey Line.merge := fun _ _ _ => rfl

theorem Class.keepsKey_merge : Shelf.KeepsKey Class.merge := fun _ _ _ => rfl

/-! ## Switches -/

/-- A switch with exactly one count for each key. -/
def Switch.Even (s : Switch) : Prop :=
  s.keys.length = s.hits.length

instance (s : Switch) : Decidable s.Even :=
  inferInstanceAs (Decidable (s.keys.length = s.hits.length))

/-- Only even switches can be made. -/
theorem Switch.even_of_make? {index : Int} {keys hits : List Int} {defaultHits : Int} {s : Switch}
    (h : Switch.make? index keys hits defaultHits = .ok s) : s.Even := by
  unfold Switch.make? at h
  split at h
  · next hlen =>
      rw [Except.ok.injEq] at h
      rw [← h]
      exact hlen
  · contradiction

/-- A merged switch is even, whatever it was merged from. -/
theorem Switch.even_merge (a b : Switch) : (a.merge b).Even := by
  simp only [Switch.Even, Switch.merge, List.length_map]

/-! ## Lines -/

/-- The form of every line. -/
structure Line.WellFormed (l : Line) : Prop where
  number_pos : 1 ≤ l.number
  jumps : Shelf.Ascending l.jumps
  switches : Shelf.Ascending l.switches
  even : ∀ s ∈ l.switches, s.Even

namespace Line

instance (l : Line) : Decidable l.WellFormed :=
  decidable_of_iff
    (1 ≤ l.number ∧ Shelf.Ascending l.jumps ∧ Shelf.Ascending l.switches ∧
      ∀ s ∈ l.switches, s.Even)
    ⟨fun ⟨hn, hj, hs, he⟩ => ⟨hn, hj, hs, he⟩,
      fun h => ⟨h.number_pos, h.jumps, h.switches, h.even⟩⟩

theorem WellFormed.new {number : Int} (h : 1 ≤ number) (method : Option String) :
    ({ number, method } : Line).WellFormed where
  number_pos := h
  jumps := Shelf.ascending_nil
  switches := Shelf.ascending_nil
  even := fun _ hs => absurd hs List.not_mem_nil

theorem WellFormed.setJump {l : Line} (h : l.WellFormed) (j : Jump) : (l.setJump j).WellFormed where
  number_pos := h.number_pos
  jumps := h.jumps.put j
  switches := h.switches
  even := h.even

theorem WellFormed.setSwitch {l : Line} (h : l.WellFormed) {s : Switch} (hs : s.Even) :
    (l.setSwitch s).WellFormed where
  number_pos := h.number_pos
  jumps := h.jumps
  switches := h.switches.put s
  even := Shelf.forall_mem_put h.even hs

/-- An edit that is not refused gives a well-formed line. -/
theorem WellFormed.edit {l l' : Line} (h : l.WellFormed) {e : Edit} (he : l.edit e = .ok l') :
    l'.WellFormed := by
  cases e with
  | hits n =>
      cases he
      exact ⟨h.number_pos, h.jumps, h.switches, h.even⟩
  | jump j =>
      cases he
      exact h.setJump j
  | switch index keys hits defaultHits =>
      simp only [Line.edit] at he
      split at he
      · next s hmake =>
          cases he
          exact h.setSwitch (Switch.even_of_make? hmake)
      · contradiction

/-- The edits up to the first that is refused give a well-formed line. -/
theorem WellFormed.apply {l : Line} (h : l.WellFormed) (edits : List Edit) :
    (l.apply edits).1.WellFormed := by
  induction edits generalizing l with
  | nil => exact h
  | cons e edits ih =>
      unfold Line.apply
      split
      · next l' he => exact ih (h.edit he)
      · exact h

@[simp] theorem number_apply (l : Line) (edits : List Edit) :
    (l.apply edits).1.number = l.number := by
  induction edits generalizing l with
  | nil => rfl
  | cons e edits ih =>
      unfold Line.apply
      split
      · next l' he =>
          have hnumber : l'.number = l.number := by
            cases e with
            | hits n => cases he; rfl
            | jump j => cases he; rfl
            | switch index keys hits defaultHits =>
                simp only [Line.edit] at he
                split at he
                · cases he; rfl
                · contradiction
          rw [ih l', hnumber]
      · rfl

theorem WellFormed.merge {a b : Line} (ha : a.WellFormed) (hb : b.WellFormed) :
    (a.merge b).WellFormed where
  number_pos := ha.number_pos
  jumps := ha.jumps.merge Jump.keepsKey_merge b.jumps
  switches := ha.switches.merge Switch.keepsKey_merge b.switches
  even := Shelf.forall_mem_merge ha.even hb.even fun s t _ _ => s.even_merge t

end Line

/-! ## Classes -/

/-- The form of every class. -/
structure Class.WellFormed (c : Class) : Prop where
  ascending : Shelf.Ascending c.lines
  lines : ∀ l ∈ c.lines, l.WellFormed

namespace Class

instance (c : Class) : Decidable c.WellFormed :=
  decidable_of_iff (Shelf.Ascending c.lines ∧ ∀ l ∈ c.lines, l.WellFormed)
    ⟨fun ⟨ha, hl⟩ => ⟨ha, hl⟩, fun h => ⟨h.ascending, h.lines⟩⟩

theorem WellFormed.new (name : String) : ({ name } : Class).WellFormed where
  ascending := Shelf.ascending_nil
  lines := fun _ hl => absurd hl List.not_mem_nil

theorem WellFormed.of_line? {c : Class} (h : c.WellFormed) {number : Int} {l : Line}
    (hl : c.line? number = some l) : l.WellFormed :=
  h.lines l (Shelf.mem_of_find? hl)

/-- A line that is asked for is well-formed, found or new. -/
theorem WellFormed.of_lineOrNew {c : Class} (h : c.WellFormed) {number : Int}
    {method : Option String} {l : Line} (hl : c.lineOrNew number method = .ok l) :
    l.WellFormed := by
  unfold Class.lineOrNew at hl
  split at hl
  · next found hfound =>
      cases hl
      exact h.of_line? hfound
  · split at hl
    · contradiction
    · next hpos =>
        cases hl
        exact Line.WellFormed.new (Int.not_lt.mp hpos) method

/-- Putting a line that is there changes nothing. -/
theorem WellFormed.putLine_eq_self {c : Class} (h : c.WellFormed) {l : Line}
    (hl : c.line? l.number = some l) : c.putLine l = c := by
  rw [Class.putLine, h.ascending.put_eq_self hl]

/-- A line that is asked for has the number it was asked for by. -/
theorem number_of_lineOrNew {c : Class} {number : Int} {method : Option String} {l : Line}
    (h : c.lineOrNew number method = .ok l) : l.number = number := by
  unfold lineOrNew at h
  split at h
  · next found hfound =>
      cases h
      exact Shelf.key_of_find? hfound
  · split at h
    · contradiction
    · cases h
      rfl

theorem WellFormed.putLine {c : Class} (h : c.WellFormed) {l : Line} (hl : l.WellFormed) :
    (c.putLine l).WellFormed where
  ascending := h.ascending.put l
  lines := Shelf.forall_mem_put h.lines hl

theorem WellFormed.applyLine {c : Class} (h : c.WellFormed) (plan : LinePlan) :
    (c.applyLine plan).1.WellFormed := by
  unfold Class.applyLine
  split
  · exact h
  · next l hl => exact h.putLine ((h.of_lineOrNew hl).apply plan.edits)

theorem name_applyLine (c : Class) (plan : LinePlan) : (c.applyLine plan).1.name = c.name := by
  unfold applyLine
  split <;> rfl

/-- Filling a class leaves its name. -/
theorem name_of_build? {c c' : Class} {plans : List LinePlan} (h : c.build? plans = .ok c') :
    c'.name = c.name := by
  induction plans generalizing c with
  | nil =>
      cases h
      rfl
  | cons plan plans ih =>
      rw [build?] at h
      split at h
      · next next hnext =>
          have hname := c.name_applyLine plan
          rw [hnext] at hname
          rw [ih h, hname]
      · contradiction

theorem WellFormed.build? {c c' : Class} (h : c.WellFormed) {plans : List LinePlan}
    (hc : c.build? plans = .ok c') : c'.WellFormed := by
  induction plans generalizing c with
  | nil =>
      cases hc
      exact h
  | cons plan plans ih =>
      have happly := h.applyLine plan
      unfold Class.build? at hc
      split at hc
      · next next hnext =>
          rw [hnext] at happly
          exact ih happly hc
      · contradiction

theorem WellFormed.merge {a b : Class} (ha : a.WellFormed) (hb : b.WellFormed) :
    (a.merge b).WellFormed where
  ascending := ha.ascending.merge Line.keepsKey_merge b.lines
  lines := Shelf.forall_mem_merge ha.lines hb.lines fun _ _ hl hm => hl.merge hm

end Class

/-! ## Projects -/

/-- The form of every project. -/
structure Project.WellFormed (p : Project) : Prop where
  ascending : Shelf.Ascending p.classes
  classes : ∀ c ∈ p.classes, c.WellFormed

namespace Project

instance (p : Project) : Decidable p.WellFormed :=
  decidable_of_iff (Shelf.Ascending p.classes ∧ ∀ c ∈ p.classes, c.WellFormed)
    ⟨fun ⟨ha, hc⟩ => ⟨ha, hc⟩, fun h => ⟨h.ascending, h.classes⟩⟩

theorem WellFormed.empty : empty.WellFormed where
  ascending := Shelf.ascending_nil
  classes := fun _ hc => absurd hc List.not_mem_nil

theorem WellFormed.of_class? {p : Project} (h : p.WellFormed) {name : String} {c : Class}
    (hc : p.class? name = some c) : c.WellFormed :=
  h.classes c (Shelf.mem_of_find? hc)

/-- A class that is asked for has the name it was asked for by. -/
theorem name_classOrNew (p : Project) (name : String) : (p.classOrNew name).name = name := by
  unfold classOrNew
  cases hc : p.class? name with
  | none => rfl
  | some c => exact Shelf.key_of_find? hc

/-- A class that is asked for is well-formed, found or new. -/
theorem WellFormed.classOrNew {p : Project} (h : p.WellFormed) (name : String) :
    (p.classOrNew name).WellFormed := by
  unfold Project.classOrNew
  cases hc : p.class? name with
  | none => exact Class.WellFormed.new name
  | some c => exact h.of_class? hc

theorem WellFormed.putClass {p : Project} (h : p.WellFormed) {c : Class} (hc : c.WellFormed) :
    (p.putClass c).WellFormed where
  ascending := h.ascending.put c
  classes := Shelf.forall_mem_put h.classes hc

theorem WellFormed.addClass {p p' : Project} (h : p.WellFormed) {c : Class} (hc : c.WellFormed)
    (hp : p.addClass c = .ok p') : p'.WellFormed := by
  unfold Project.addClass at hp
  split at hp
  · contradiction
  · cases hp
    exact h.putClass hc

theorem WellFormed.build? {p p' : Project} (h : p.WellFormed) {plans : List ClassPlan}
    (hp : p.build? plans = .ok p') : p'.WellFormed := by
  induction plans generalizing p with
  | nil =>
      cases hp
      exact h
  | cons plan plans ih =>
      unfold Project.build? at hp
      split at hp
      · next c hc => exact ih (h.putClass ((h.classOrNew plan.name).build? hc)) hp
      · contradiction

theorem WellFormed.ofPlans? {p : Project} {plans : List ClassPlan}
    (hp : Project.ofPlans? plans = .ok p) : p.WellFormed :=
  WellFormed.empty.build? hp

theorem WellFormed.merge {p q : Project} (hp : p.WellFormed) (hq : q.WellFormed) :
    (p.merge q).WellFormed where
  ascending := hp.ascending.merge Class.keepsKey_merge q.classes
  classes := Shelf.forall_mem_merge hp.classes hq.classes fun _ _ hc hd => hc.merge hd

theorem WellFormed.filter {p : Project} (h : p.WellFormed) (allow : String → Bool) :
    (p.filter allow).WellFormed where
  ascending := h.ascending.filter _
  classes := fun c hc => h.classes c (List.mem_filter.mp hc).1

end Project

end CoverageDiff
