import Mathlib.Algebra.BigOperators.Group.List.Basic
import Mathlib.Algebra.GroupWithZero.Nat
import CoverageDiff.Proofs.Discrepancy

/-!
# CoverageDiff.Proofs.Balance

The status counts of two projects balance with what is reported of them
(`Report.between_balances`).  Counts on both sides and in the report are sums
over the pairings of the two sides, and a sum balances if it does for each
pairing:

* `sum_first`, `sum_second`: a sum over one side is one over the pairings;
* `lineElements_balance`: the lines of two classes;
* `classes_balance`: one pairing of classes, with what is not looked into.
-/

namespace CoverageDiff

open CoverageDiff.Shelf

/-! ## Sums -/

section Sums

variable {α β : Type}

theorem countP_eq_sum (p : α → Bool) (xs : List α) :
    xs.countP p = (xs.map fun x => if p x then 1 else 0).sum := by
  induction xs with
  | nil => rfl
  | cons x xs ih => simp [List.countP_cons, ih, Nat.add_comm]

theorem sum_map_filter (p : α → Bool) (f : α → Nat) (xs : List α) :
    ((xs.filter p).map f).sum = (xs.map fun x => if p x then f x else 0).sum := by
  simp [List.sum_map_ite]

theorem sum_map_filterMap (g : β → Option α) (f : α → Nat) (xs : List β) :
    ((xs.filterMap g).map f).sum = (xs.map fun x => (g x).elim 0 f).sum := by
  induction xs with
  | nil => rfl
  | cons x xs ih => cases hx : g x <;> simp [hx, ih]

end Sums

/-! ## Sums over pairings -/

section Pairings

variable {α κ : Type} [Filed α κ]

variable [LinearOrder κ]

/-- A sum over the first side is a sum over the pairings. -/
theorem sum_first {xs : List α} (ys : List α) (hxs : (keys xs).Nodup) (f : α → Nat) :
    (xs.map f).sum = ((pair xs ys).map fun p => p.first?.elim 0 f).sum := by
  rw [← sum_map_filterMap]
  exact (((perm_first? hxs ys).map f).sum_nat).symm

/-- A sum over the second side is a sum over the pairings. -/
theorem sum_second (xs : List α) {ys : List α} (hys : (keys ys).Nodup) (f : α → Nat) :
    (ys.map f).sum = ((pair xs ys).map fun p => p.second?.elim 0 f).sum := by
  rw [← sum_map_filterMap]
  exact (((perm_second? xs hys).map f).sum_nat).symm

end Pairings

/-! ## Lines of two classes -/

namespace Element

/-- The status of a line on the first side. -/
def HadStatus (e : Element) (s : Status) : Prop :=
  e.before = some (.status s)

/-- The status of a line on the second side. -/
def HasStatus (e : Element) (s : Status) : Prop :=
  e.after = some (.status s)

instance (e : Element) (s : Status) : Decidable (e.HadStatus s) :=
  inferInstanceAs (Decidable (e.before = some (.status s)))

instance (e : Element) (s : Status) : Decidable (e.HasStatus s) :=
  inferInstanceAs (Decidable (e.after = some (.status s)))

end Element

theorem Class.count_statuses (c : Class) (s : Status) :
    c.statuses.count s = (c.lines.map fun l => if l.status = s then 1 else 0).sum := by
  rw [Class.statuses, List.count, List.countP_map, countP_eq_sum]
  simp

/-- The lines of two classes balance with what is reported of them. -/
theorem lineElements_balance {ca cb : Class} (ha : (keys ca.lines).Nodup)
    (hb : (keys cb.lines).Nodup) (s : Status) :
    ca.statuses.count s + (lineElements ca cb).countP (fun e => e.HasStatus s) =
      cb.statuses.count s + (lineElements ca cb).countP fun e => e.HadStatus s := by
  rw [ca.count_statuses, cb.count_statuses, sum_first cb.lines ha, sum_second ca.lines hb,
    countP_eq_sum, countP_eq_sum, lineElements, sum_map_filterMap, sum_map_filterMap,
    ← List.sum_map_add, ← List.sum_map_add]
  -- all four are sums over the pairings now
  congr 1
  refine List.map_congr_left fun p _ => ?_
  cases p with
  | onlyA l => simp [Pairing.element?, Element.HadStatus, Element.HasStatus, Line.value]
  | onlyB m => simp [Pairing.element?, Element.HadStatus, Element.HasStatus, Line.value]
  | both l m =>
      by_cases hlm : l.status = m.status
      · simp [Pairing.element?, Line.value, hlm]
      · simp [Pairing.element?, Element.HadStatus, Element.HasStatus, Line.value, hlm,
          Nat.add_comm]

/-! ## Lines of two projects -/

namespace StatusCounts

/-- The number of lines with a status. -/
def of (c : StatusCounts) : Status → Int
  | .none => c.none
  | .partly => c.partly
  | .full => c.full

theorem of_ofList (xs : List Status) (s : Status) : (ofList xs).of s = xs.count s := by
  cases s <;> rfl

end StatusCounts

theorem Project.of_statusCounts (p : Project) (s : Status) :
    p.statusCounts.of s = (p.classes.map fun c => c.statuses.count s).sum := by
  rw [statusCounts, StatusCounts.of_ofList, List.count_flatMap]
  rfl

theorem Project.of_statusCounts_filter (p : Project) (allow : String → Bool) (s : Status) :
    (p.filter allow).statusCounts.of s =
      (p.classes.map fun c => if allow c.name then c.statuses.count s else 0).sum := by
  rw [of_statusCounts, filter, sum_map_filter]

namespace Report

variable {a b : Project}

theorem countP_lines_between (q : Element → Bool) :
    (between a b).lines.countP q = ((pair a.classes b.classes).map fun p =>
      p.both?.elim 0 fun (ca, cb) => (lineElements ca cb).countP q).sum := by
  rw [between, List.countP_flatMap, shared]
  exact sum_map_filterMap _ _ _

/-- One pairing of classes balances: its lines count on one side only, or they are looked into. -/
theorem classes_balance (ha : a.Distinct) (hb : b.Distinct) (s : Status) {p : Pairing Class}
    (hp : p ∈ pair a.classes b.classes) :
    (p.first?.elim 0 fun c => c.statuses.count s) +
          (p.second?.elim 0 fun c =>
            if (between a b).HasClass .added c.name then c.statuses.count s else 0) +
        (p.both?.elim 0 fun (ca, cb) => (lineElements ca cb).countP fun e => e.HasStatus s) =
      (p.second?.elim 0 fun c => c.statuses.count s) +
          (p.first?.elim 0 fun c =>
            if (between a b).HasClass .removed c.name then c.statuses.count s else 0) +
        (p.both?.elim 0 fun (ca, cb) => (lineElements ca cb).countP fun e => e.HadStatus s) := by
  obtain ⟨name, hname⟩ : ∃ name, Pairing.of? (a.class? name) (b.class? name) = some p :=
    (mem_pair_iff ha.classes hb.classes).mp hp
  have hadded := hasClass_added_iff ha hb (c := name)
  have hremoved := hasClass_removed_iff ha hb (c := name)
  rw [Project.view_eq_none_iff, Project.isSome_view] at hadded hremoved
  cases p with
  | onlyA ca =>
      obtain ⟨hca, hcb⟩ := Pairing.of?_eq_onlyA_iff.mp hname
      have hkey : ca.name = name := key_of_find? hca
      have hrem := hremoved.mpr ⟨Option.isSome_of_eq_some hca, hcb⟩
      simp [Pairing.both?, hkey, hrem]
  | onlyB cb =>
      obtain ⟨hca, hcb⟩ := Pairing.of?_eq_onlyB_iff.mp hname
      have hkey : cb.name = name := key_of_find? hcb
      have hadd := hadded.mpr ⟨hca, Option.isSome_of_eq_some hcb⟩
      simp [Pairing.both?, hkey, hadd]
  | both ca cb =>
      obtain ⟨hca, hcb⟩ := Pairing.of?_eq_both_iff.mp hname
      have hkeya : ca.name = name := key_of_find? hca
      have hkeyb : cb.name = name := key_of_find? hcb
      have hadd : ¬(between a b).HasClass .added name := by
        rw [hadded, hca]
        simp
      have hrem : ¬(between a b).HasClass .removed name := by
        rw [hremoved, hcb]
        simp
      have hlines := lineElements_balance (ha.lines_of_class? hca) (hb.lines_of_class? hcb) s
      simpa [Pairing.both?, hkeya, hkeyb, hadd, hrem] using hlines

/-- **Balance**: of projects that operations can give, their classes and lines held in any order,
the number of lines with a status grows by what the reported lines gain and lose, by the lines of
added classes, less those of removed ones. -/
theorem between_balances {a b : Project} (ha : a.Stored) (hb : b.Stored) (s : Status) :
    b.statusCounts.of s - a.statusCounts.of s =
      ((between a b).lines.countP fun e => e.HasStatus s : Int) -
          ((between a b).lines.countP fun e => e.HadStatus s) +
        (b.filter fun c => (between a b).HasClass .added c).statusCounts.of s -
          (a.filter fun c => (between a b).HasClass .removed c).statusCounts.of s := by
  have hsum := congrArg List.sum (List.map_congr_left fun p hp =>
    classes_balance ha.distinct hb.distinct s hp)
  simp only [List.sum_map_add] at hsum
  -- bring each sum over the pairings back to the side or the report it is of
  rw [← sum_first _ ha.distinct.classes, ← sum_first _ ha.distinct.classes,
    ← sum_second _ hb.distinct.classes, ← sum_second _ hb.distinct.classes,
    ← countP_lines_between, ← countP_lines_between] at hsum
  rw [Project.of_statusCounts_filter, Project.of_statusCounts_filter, Project.of_statusCounts,
    Project.of_statusCounts]
  simp only [decide_eq_true_eq]
  omega

end Report

/-- The samples have three and two covered lines.  One covered line more is reported than is lost,
and one is in each class that only one side has. -/
theorem Sample.between_balances_full :
    later.statusCounts.of .full = 3 ∧ earlier.statusCounts.of .full = 2 ∧
      later.statusCounts.of .full - earlier.statusCounts.of .full =
        ((Report.between earlier later).lines.countP fun e => e.HasStatus .full : Int) -
            ((Report.between earlier later).lines.countP fun e => e.HadStatus .full) +
          (later.filter fun c => (Report.between earlier later).HasClass .added c).statusCounts.of
              .full -
            (earlier.filter fun c =>
              (Report.between earlier later).HasClass .removed c).statusCounts.of .full :=
  ⟨by decide +kernel, by decide +kernel,
    Report.between_balances reachable_earlier.stored reachable_later.stored .full⟩

end CoverageDiff
