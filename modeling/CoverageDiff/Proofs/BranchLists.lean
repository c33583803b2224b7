import CoverageDiff.Proofs.Insertion
import CoverageDiff.Proofs.Overwriting

/-!
# CoverageDiff.Proofs.BranchLists

What calls on a line make of its lists of branches.

1. A call is one edit of a line.  One that is refused changes nothing
   (`Line.attempt`), so it counts as not made (`Line.attemptAll_filter_accepted`).
2. A call that sets a branch puts it into the list of its kind, and no other
   call touches this list: that is all that the two kinds of branches have to
   satisfy (`Line.Sets`, the step).
3. So a list that was empty is filled with the branches that the calls set
   (`Sets.attemptAll`, the run), and is the map in which the last writer of an
   index wins (`Line.branches_lastWins`).
-/

namespace CoverageDiff

open CoverageDiff.Shelf

/-! ## Calls -/

namespace Edit

/-- The jump that a call sets. -/
def asJump? : Edit → Option Jump
  | jump j => some j
  | _ => none

/-- The switch that a call sets; with keys and counts of different number it sets none. -/
def asSwitch? : Edit → Option Switch
  | switch index ks ns defaultHits =>
    if ks.length = ns.length then some ⟨index, ks, ns, defaultHits⟩ else none
  | _ => none

/-- The same calls in another order, in which those on one part of the line keep theirs. -/
structure Reordered (es es' : List Edit) : Prop where
  perm : es.Perm es'
  slots : ∀ k, (es.filter fun e => e.slot = k) = es'.filter fun e => e.slot = k

/-- Only the parts that calls are made on have to be compared. -/
theorem reordered_iff {es es' : List Edit} :
    Reordered es es' ↔ es.Perm es' ∧
      ∀ k ∈ es.map slot, (es.filter fun e => e.slot = k) = es'.filter fun e => e.slot = k := by
  constructor
  · exact fun h => ⟨h.perm, fun k _ => h.slots k⟩
  · rintro ⟨hperm, hslots⟩
    refine ⟨hperm, fun k => ?_⟩
    by_cases hk : k ∈ es.map slot
    · exact hslots k hk
    · have hnone : (es.filter fun e => decide (e.slot = k)) = [] := by
        refine List.filter_eq_nil_iff.mpr fun e he heq => ?_
        exact hk (List.mem_map.mpr ⟨e, he, of_decide_eq_true heq⟩)
      have hperm' := hperm.filter fun e => decide (e.slot = k)
      rw [hnone] at hperm' ⊢
      exact hperm'.nil_eq

instance (es es' : List Edit) : Decidable (Reordered es es') :=
  decidable_of_iff _ reordered_iff.symm

end Edit

namespace Line

/-- The line after a call; one that is refused changes nothing. -/
def attempt (l : Line) (e : Edit) : Line :=
  (l.apply [e]).1

/-- The line after calls one after another, refused or not. -/
def attemptAll (l : Line) (es : List Edit) : Line :=
  es.foldl attempt l

/-- A call is refused exactly if it sets a switch with keys and counts of different number. -/
theorem exists_edit_eq_error_iff {l : Line} {e : Edit} :
    (∃ err, l.edit e = .error err) ↔ ¬e.Accepted := by
  simp only [edit_eq_error_iff]
  cases e with
  | hits n => simp [Edit.Accepted]
  | jump j => simp [Edit.Accepted]
  | switch index ks ns defaultHits => simp [Edit.Accepted]

theorem attempt_of_not_accepted (l : Line) {e : Edit} (h : ¬e.Accepted) : l.attempt e = l := by
  obtain ⟨err, herr⟩ := (exists_edit_eq_error_iff (l := l)).mpr h
  simp [attempt, apply, herr]

/-- A call that is refused counts as not made. -/
theorem attemptAll_filter_accepted (l : Line) (es : List Edit) :
    l.attemptAll (es.filter fun e => e.Accepted) = l.attemptAll es := by
  induction es generalizing l with
  | nil => rfl
  | cons e es ih =>
      by_cases he : e.Accepted
      · rw [List.filter_cons_of_pos (by simpa using he)]
        exact ih (l.attempt e)
      · rw [List.filter_cons_of_neg (by simpa using he), ih, attemptAll, attemptAll,
          List.foldl_cons, l.attempt_of_not_accepted he]

/-! ## Lists of branches -/

/-- The branches of one kind.  A call that sets one puts it into their list, any other leaves the
list; `slot i` is the part of a line where the branch at `i` is. -/
structure Sets {α : Type} [Filed α Int] (branches : Line → List α) (set? : Edit → Option α)
    (slot : Int → Slot) : Prop where
  attempt : ∀ l e, branches (l.attempt e) =
    (set? e).elim (branches l) fun a => put a (branches l)
  slot_eq_iff : ∀ {e a}, set? e = some a → ∀ i, e.slot = slot i ↔ key a = i

theorem sets_jumps : Sets jumps Edit.asJump? .jump where
  attempt l e := by
    cases e with
    | hits n => rfl
    | jump j => rfl
    | switch index ks ns defaultHits =>
        by_cases hlen : ks.length = ns.length <;>
          simp [Line.attempt, apply, edit, Switch.make?, hlen, Edit.asJump?, setSwitch]
  slot_eq_iff {e a} h i := by
    cases e <;> cases h
    simp [Edit.slot]

theorem sets_switches : Sets switches Edit.asSwitch? .switch where
  attempt l e := by
    cases e with
    | hits n => rfl
    | jump j => rfl
    | switch index ks ns defaultHits =>
        by_cases hlen : ks.length = ns.length <;>
          simp [Line.attempt, apply, edit, Switch.make?, hlen, Edit.asSwitch?, setSwitch]
  slot_eq_iff {e a} h i := by
    cases e with
    | hits n => cases h
    | jump j => cases h
    | switch index ks ns defaultHits =>
        obtain ⟨_, ha⟩ := Option.ite_none_right_eq_some.mp h
        cases ha
        simp [Edit.slot]

namespace Sets

variable {α : Type} [Filed α Int] {branches : Line → List α} {set? : Edit → Option α}
  {slot : Int → Slot} (hs : Sets branches set? slot) {l : Line}
include hs

/-- **Run lemma**: the branches that calls set are filed one after another. -/
theorem attemptAll (l : Line) (es : List Edit) :
    branches (l.attemptAll es) =
      Shelf.merge (fun _ new => new) (branches l) (es.filterMap set?) := by
  induction es generalizing l with
  | nil => rfl
  | cons e es ih =>
      rw [Line.attemptAll, List.foldl_cons, ← Line.attemptAll, ih, hs.attempt]
      cases he : set? e with
      | none => rw [List.filterMap_cons_none he, Option.elim_none]
      | some a =>
          rw [List.filterMap_cons_some he, Option.elim_some]
          rfl

theorem attemptAll_of_nil (hl : branches l = []) (es : List Edit) :
    branches (l.attemptAll es) = ofList (es.filterMap set?) := by
  rw [hs.attemptAll, hl, ofList_eq_merge]

theorem lastWins (hl : branches l = []) (es : List Edit) :
    LastWins (branches (l.attemptAll es)) (fun i => find? i (branches (l.attemptAll es)))
      (es.filterMap set?) := by
  rw [hs.attemptAll_of_nil hl]
  exact lastWins_ofList _

theorem eq_scanAll (hl : branches l = []) (es : List Edit) :
    branches (l.attemptAll es) = scanAll (es.filterMap set?) := by
  rw [hs.attemptAll_of_nil hl, scanAll_eq_ofList]

/-- The branches that are set at an index come from the calls on this part of the line. -/
theorem filter_filterMap (es : List Edit) (i : Int) :
    ((es.filterMap set?).filter fun a => key a = i) =
      (es.filter fun e => e.slot = slot i).filterMap set? := by
  rw [List.filter_filterMap, List.filterMap_filter]
  refine List.filterMap_congr fun e _ => ?_
  cases he : set? e with
  | none => simp
  | some a => simp [hs.slot_eq_iff he, Option.filter_some]

/-- Calls on different parts of the line may change places. -/
theorem attemptAll_reordered (hl : branches l = []) {es es' : List Edit}
    (h : Edit.Reordered es es') : branches (l.attemptAll es') = branches (l.attemptAll es) := by
  rw [hs.attemptAll_of_nil hl, hs.attemptAll_of_nil hl]
  refine ofList_congr fun i => ?_
  rw [hs.filter_filterMap, hs.filter_filterMap, h.slots]

end Sets

/-- **Lists of branches are sorted maps in which the last writer wins.**  After calls on a line each
of its lists of branches that was empty is strictly ascending by index, holds for each index that
was set the branch set last and no other, and gives it when it is looked up; it is the list that
scanning and sorting makes.  Calls on different branches may change places.  Only a switch with keys
and counts of different number is refused, and such a call counts as not made. -/
theorem branches_lastWins (l : Line) (es : List Edit) :
    (l.jumps = [] →
      LastWins (l.attemptAll es).jumps (l.attemptAll es).jump? (es.filterMap Edit.asJump?) ∧
        (l.attemptAll es).jumps = scanAll (es.filterMap Edit.asJump?) ∧
        ∀ es', Edit.Reordered es es' → (l.attemptAll es').jumps = (l.attemptAll es).jumps) ∧
      (l.switches = [] →
        LastWins (l.attemptAll es).switches (l.attemptAll es).switch?
            (es.filterMap Edit.asSwitch?) ∧
          (l.attemptAll es).switches = scanAll (es.filterMap Edit.asSwitch?) ∧
          ∀ es', Edit.Reordered es es' →
            (l.attemptAll es').switches = (l.attemptAll es).switches) ∧
      (∀ e, (∃ err, l.edit e = .error err) ↔ ¬e.Accepted) ∧
      l.attemptAll (es.filter fun e => e.Accepted) = l.attemptAll es := by
  refine ⟨fun hl => ?_, fun hl => ?_, fun e => exists_edit_eq_error_iff,
    l.attemptAll_filter_accepted es⟩
  · exact ⟨sets_jumps.lastWins hl es, sets_jumps.eq_scanAll hl es,
      fun es' => sets_jumps.attemptAll_reordered hl⟩
  · exact ⟨sets_switches.lastWins hl es, sets_switches.eq_scanAll hl es,
      fun es' => sets_switches.attemptAll_reordered hl⟩

end Line

namespace Sample

/-- Calls on two jumps and two switches; the second one on the switch at 1 is refused. -/
def calls : List Edit :=
  [.jump ⟨2, 0, 1⟩, .switch 1 [7] [3] 0, .jump ⟨0, 1, 1⟩, .switch 1 [7, 2] [3] 0,
    .jump ⟨2, 4, 0⟩, .switch 0 [] [] 2, .switch 1 [7, 2] [5, 0] 1]

/-- The same calls, with those on one branch in their order. -/
def callsByBranch : List Edit :=
  [.switch 0 [] [] 2, .switch 1 [7] [3] 0, .switch 1 [7, 2] [3] 0, .switch 1 [7, 2] [5, 0] 1,
    .jump ⟨0, 1, 1⟩, .jump ⟨2, 0, 1⟩, .jump ⟨2, 4, 0⟩]

/-- A line without branches. -/
def bareLine : Line := { number := 3, hits := 2, method := some "run" }

/-- Both orders give the branches that were set last. -/
theorem lists_of_calls :
    bareLine.jumps = [] ∧ bareLine.switches = [] ∧ Edit.Reordered calls callsByBranch ∧
      (bareLine.attemptAll callsByBranch).jumps = [⟨0, 1, 1⟩, ⟨2, 4, 0⟩] ∧
      (bareLine.attemptAll callsByBranch).switches = [⟨0, [], [], 2⟩, ⟨1, [7, 2], [5, 0], 1⟩] ∧
      (bareLine.attemptAll calls).jump? 2 = some ⟨2, 4, 0⟩ ∧
      (bareLine.attemptAll calls).switch? 2 = none := by
  obtain ⟨hjumps, hswitches, -, -⟩ := Line.branches_lastWins bareLine calls
  obtain ⟨hj, -, hjumpsEq⟩ := hjumps rfl
  obtain ⟨hs, -, hswitchesEq⟩ := hswitches rfl
  have hreordered : Edit.Reordered calls callsByBranch := by decide
  have hlast : IsLast (⟨2, 4, 0⟩ : Jump) (calls.filterMap Edit.asJump?) :=
    ⟨[⟨2, 0, 1⟩, ⟨0, 1, 1⟩], [], rfl, List.not_mem_nil⟩
  refine ⟨rfl, rfl, hreordered, ?_, ?_, (hj.look_eq_some_iff _ _).mpr ⟨rfl, hlast⟩,
    (hs.look_eq_none_iff _).mpr (by decide)⟩
  · rw [hjumpsEq _ hreordered]
    decide
  · rw [hswitchesEq _ hreordered]
    decide

end Sample

end CoverageDiff
