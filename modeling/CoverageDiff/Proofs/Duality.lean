import CoverageDiff.Proofs.ReportOrder

/-!
# CoverageDiff.Proofs.Duality

Comparing the sides the other way round.  Seen from the other side, an element
keeps its place, an added one is a removed one, and the values before and
after change places (`Element.swap`).

* `Discrepancy.swap`: what is to be reported is so from both sides;
* `Report.Ordered.map_swap`: seen from the other side a report stays in order;
* `Report.between_swap`: so the comparison the other way round is the report
  seen from the other side, element by element.
-/

namespace CoverageDiff

/-! ## Elements from the other side -/

@[simp] theorem Kind.swap_swap (k : Kind) : k.swap.swap = k := by
  cases k <;> rfl

@[simp] theorem Element.swap_swap (e : Element) : e.swap.swap = e := by
  simp only [swap, Kind.swap_swap]

@[simp] theorem Element.position_swap (e : Element) : e.swap.position = e.position := rfl

/-- What is to be reported of two trees is, seen from the other side, what is to be reported of
them the other way round. -/
theorem Discrepancy.swap {a b : ProjectView} {level : Level} {e : Element}
    (h : Discrepancy a b level e) : Discrepancy b a level e.swap := by
  cases h with
  | classRemoved ha hb => exact .classAdded hb ha
  | classAdded ha hb => exact .classRemoved hb ha
  | lineRemoved hc ha hb => exact .lineAdded hc hb ha
  | lineAdded hc ha hb => exact .lineRemoved hc hb ha
  | lineChanged ha hb hne => exact .lineChanged hb ha hne.symm
  | jumpRemoved ha hb hja hjb => exact .jumpAdded hb ha hjb hja
  | jumpAdded ha hb hja hjb => exact .jumpRemoved hb ha hjb hja
  | jumpChanged ha hb hja hjb hne => exact .jumpChanged hb ha hjb hja hne.symm
  | switchRemoved ha hb hsa hsb hxs => exact .switchAdded hb ha hsb hsa hxs
  | switchAdded ha hb hsa hsb hxs => exact .switchRemoved hb ha hsb hsa hxs
  | switchChanged ha hb hsa hsb hne hxs hys => exact .switchChanged hb ha hsb hsa hne.symm hys hxs

/-! ## Reports from the other side -/

namespace Report

/-- The order of a report does not depend on the side it is seen from. -/
theorem Ordered.map_swap {r : Report} (h : r.Ordered) :
    (r.map (List.map Element.swap)).Ordered := by
  intro level
  rw [level_map, List.pairwise_map]
  refine (h level).imp ?_
  intro e f hlt
  simpa only [Element.Before, Element.position_swap] using hlt

/-- **Swap duality**: of projects that operations can give, their classes and lines held in any
order, the comparison the other way round has the same elements in the same order at every level,
each seen from the other side. -/
theorem between_swap {a b : Project} (ha : a.Stored) (hb : b.Stored) :
    between b a = (between a b).map (List.map Element.swap) := by
  have hmem : ∀ level e, e ∈ (between a b).level level ↔ Discrepancy a.view b.view level e :=
    fun _ _ => mem_level_iff_discrepancy ha.distinct hb.distinct
  refine (ordered_between b a).ext (ordered_between a b).map_swap ?_
  intro level e
  rw [mem_level_iff_discrepancy hb.distinct ha.distinct, level_map, List.mem_map]
  constructor
  · intro h
    exact ⟨e.swap, (hmem level e.swap).mpr h.swap, e.swap_swap⟩
  · rintro ⟨f, hf, rfl⟩
    exact ((hmem level f).mp hf).swap

end Report

/-- The samples compared the other way round: what is removed was added, what is added was
removed, and of a change before is after. -/
theorem Sample.between_later_earlier :
    (Report.between later earlier).classes =
        [{ className := "org.example.Bar", kind := .added },
          { className := "org.example.Baz", kind := .removed }] ∧
      (Report.between later earlier).jumps =
        [{ className := "org.example.Foo", kind := .changed, place := .branch 3 0,
           before := some (.outcome (true, true)), after := some (.outcome (true, false)) }] := by
  rw [Report.between_swap reachable_earlier.stored reachable_later.stored]
  decide +kernel

end CoverageDiff
