import CoverageDiff.Proofs.Filing
import CoverageDiff.Proofs.MergeLaws

/-!
# CoverageDiff.Proofs.Regular

Lines and classes that can be filed in any grouping, and without their methods
in any order: the *regular* ones, well-formed and without a switch that
repeats a key.

`Line.joins_merge` and `Class.joins_merge` are the laws of merging regular
values in the form that `CoverageDiff.Proofs.Filing` asks for;
`Line.commutes_merge` and `Class.commutes_merge` are those of values without
methods.  That methods can be forgotten before or after merging
(`Line.withoutMethod_merge`, `Class.forgetMethods_merge`) brings the second
pair back to all regular values.
-/

namespace CoverageDiff

open CoverageDiff.Shelf

/-- The keys of a merged switch are distinct, whatever it was merged from. -/
theorem Switch.nodup_keys_merge (a b : Switch) : (a.merge b).keys.Nodup := by
  have hkeys : Shelf.keys (a.merge b).pairs = (a.merge b).keys := keys_pairs (a.even_merge b)
  rw [← hkeys]
  exact (a.ascending_pairs_merge b).nodup_keys

/-! ## Lines -/

namespace Line

/-- A well-formed line whose switches repeat no key. -/
structure Regular (l : Line) : Prop extends l.WellFormed where
  distinctKeys : l.DistinctKeys

theorem DistinctKeys.merge {a b : Line} (ha : a.DistinctKeys) (hb : b.DistinctKeys) :
    (a.merge b).DistinctKeys :=
  Shelf.forall_mem_merge ha hb fun s t _ _ => s.nodup_keys_merge t

theorem Regular.merge {a b : Line} (ha : a.Regular) (hb : b.Regular) : (a.merge b).Regular where
  toWellFormed := ha.toWellFormed.merge hb.toWellFormed
  distinctKeys := ha.distinctKeys.merge hb.distinctKeys

/-- Regular lines can be filed in any grouping. -/
theorem joins_merge : Joins Regular merge where
  keepsKey := keepsKey_merge
  closed := fun _ _ ha hb => ha.merge hb
  assoc := fun _ _ _ ha hb hc _ _ =>
    merge_assoc ha.toWellFormed hb.toWellFormed hc.toWellFormed ha.distinctKeys hb.distinctKeys
      hc.distinctKeys

theorem key_withoutMethod (l : Line) : key l.withoutMethod = key l := rfl

/-- A method can be forgotten before or after merging. -/
theorem withoutMethod_merge (a b : Line) :
    (a.merge b).withoutMethod = a.withoutMethod.merge b.withoutMethod := rfl

/-- A regular line that belongs to no method. -/
structure Methodless (l : Line) : Prop extends l.Regular where
  method : l.method = none

theorem Regular.withoutMethod {l : Line} (h : l.Regular) : l.withoutMethod.Methodless where
  number_pos := h.number_pos
  jumps := h.jumps
  switches := h.switches
  even := h.even
  distinctKeys := h.distinctKeys
  method := rfl

theorem Methodless.withoutMethod_eq {l : Line} (h : l.Methodless) : l.withoutMethod = l := by
  rw [Line.withoutMethod, ← h.method]

theorem Methodless.merge {a b : Line} (ha : a.Methodless) (hb : b.Methodless) :
    (a.merge b).Methodless where
  toRegular := ha.toRegular.merge hb.toRegular
  method := by
    rw [Line.merge, ha.method, hb.method]
    rfl

/-- Lines without methods can be filed in any order. -/
theorem commutes_merge : Commutes Methodless merge where
  keepsKey := keepsKey_merge
  closed := fun _ _ ha hb => ha.merge hb
  assoc := fun a b c ha hb hc => joins_merge.assoc a b c ha.toRegular hb.toRegular hc.toRegular
  comm := fun a b ha hb hab => by
    have hcomm := merge_comm hab ha.toWellFormed hb.toWellFormed ha.distinctKeys hb.distinctKeys
    rw [(ha.merge hb).withoutMethod_eq, (hb.merge ha).withoutMethod_eq] at hcomm
    exact hcomm

end Line

/-! ## Classes -/

namespace Class

/-- A well-formed class whose switches repeat no key. -/
structure Regular (c : Class) : Prop extends c.WellFormed where
  distinctKeys : c.DistinctKeys

theorem Regular.of_lines {c : Class} (ha : Ascending c.lines) (hl : ∀ l ∈ c.lines, l.Regular) :
    c.Regular where
  ascending := ha
  lines := fun l hmem => (hl l hmem).toWellFormed
  distinctKeys := fun l hmem => (hl l hmem).distinctKeys

theorem Regular.line {c : Class} (h : c.Regular) : ∀ l ∈ c.lines, l.Regular := by
  intro l hl
  exact ⟨h.lines l hl, h.distinctKeys l hl⟩

theorem Regular.merge {a b : Class} (ha : a.Regular) (hb : b.Regular) : (a.merge b).Regular :=
  .of_lines (ha.ascending.merge Line.keepsKey_merge b.lines)
    (Line.joins_merge.forall_mem_merge ha.line hb.line)

/-- Regular classes can be filed in any grouping. -/
theorem joins_merge : Joins Regular merge where
  keepsKey := keepsKey_merge
  closed := fun _ _ ha hb => ha.merge hb
  assoc := fun _ _ _ ha hb hc _ _ =>
    merge_assoc ha.toWellFormed hb.toWellFormed hc.toWellFormed ha.distinctKeys hb.distinctKeys
      hc.distinctKeys

/-- The class without methods. -/
def forgetMethods (c : Class) : Class :=
  c.withoutMethods fun _ => true

theorem lines_forgetMethods (c : Class) :
    c.forgetMethods.lines = c.lines.map Line.withoutMethod := rfl

/-- Methods can be forgotten before or after merging. -/
theorem forgetMethods_merge (a b : Class) :
    (a.merge b).forgetMethods = a.forgetMethods.merge b.forgetMethods := by
  have hlines : (Shelf.merge Line.merge a.lines b.lines).map Line.withoutMethod =
      Shelf.merge Line.merge (a.lines.map Line.withoutMethod) (b.lines.map Line.withoutMethod) :=
    map_merge_hom Line.key_withoutMethod Line.withoutMethod_merge a.lines b.lines
  exact congrArg (Class.mk a.name) hlines

/-- A regular class none of whose lines belongs to a method. -/
structure Methodless (c : Class) : Prop extends c.Regular where
  method : ∀ l ∈ c.lines, l.method = none

theorem Methodless.line {c : Class} (h : c.Methodless) : ∀ l ∈ c.lines, l.Methodless := by
  intro l hl
  exact ⟨h.toRegular.line l hl, h.method l hl⟩

theorem Methodless.of_lines {c : Class} (ha : Ascending c.lines)
    (hl : ∀ l ∈ c.lines, l.Methodless) : c.Methodless where
  toRegular := .of_lines ha fun l hmem => (hl l hmem).toRegular
  method := fun l hmem => (hl l hmem).method

theorem Regular.forgetMethods {c : Class} (h : c.Regular) : c.forgetMethods.Methodless := by
  refine .of_lines (h.ascending.map Line.key_withoutMethod) ?_
  rw [lines_forgetMethods, List.forall_mem_map]
  exact fun l hl => (h.line l hl).withoutMethod

/-- Classes without methods can be filed in any order. -/
theorem commutes_merge : Commutes Methodless merge where
  keepsKey := keepsKey_merge
  closed := fun a b ha hb => .of_lines (ha.ascending.merge Line.keepsKey_merge b.lines)
    (Line.commutes_merge.forall_mem_merge ha.line hb.line)
  assoc := fun a b c ha hb hc => joins_merge.assoc a b c ha.toRegular hb.toRegular hc.toRegular
  comm := fun a b ha hb hab => by
    have hname : a.name = b.name := hab
    have hlines : Shelf.merge Line.merge a.lines b.lines =
        Shelf.merge Line.merge b.lines a.lines := by
      refine Shelf.merge_comm Line.keepsKey_merge ha.ascending hb.ascending ?_
      intro l hl m hm hlm
      exact Line.commutes_merge.comm l m (ha.line l hl) (hb.line m hm) hlm
    simp only [Class.merge, hname, hlines]

end Class

/-! ## Projects -/

namespace Project

/-- The project without methods. -/
def forgetMethods (p : Project) : Project :=
  p.withoutMethods fun _ _ => true

theorem classes_forgetMethods (p : Project) :
    p.forgetMethods.classes = p.classes.map Class.forgetMethods := rfl

end Project

end CoverageDiff
