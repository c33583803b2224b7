import CoverageDiff.Proofs.Grammar

/-!
# CoverageDiff.Proofs.Qualified

Documents whose elements are all in a namespace.

The outermost element is known by its local name, so a namespace does not hide
it (`isRoot_qualify`).  Class elements are known by their whole name, so every
namespace hides them (`classElements_qualify`).  Hence a report in a namespace
is read as a project without classes, and is read as before only if it had no
class elements (`read_qualify`).

`mapTags f` changes all names of a tree.  Its elements are those of the tree,
changed (`descendants_mapTags`), by mutual recursion over trees and lists of
trees.
-/

namespace CoverageDiff

/-! ## Trees with other names -/

namespace Markup.Node

variable (f : String → String)

theorem tag_mapTags (n : Node) : (n.mapTags f).tag = f n.tag := by
  cases n with
  | element t as cs => rfl

mutual

/-- **Renaming** changes each element of a tree. -/
theorem descendants_mapTags :
    ∀ n : Node, (n.mapTags f).descendants = n.descendants.map (mapTags f)
  | element t as cs => by
      rw [mapTags, descendants, descendants, List.map_cons, mapTags, descendantsOf_mapTagsOf cs]

theorem descendantsOf_mapTagsOf :
    ∀ cs : List Node, descendantsOf (mapTagsOf f cs) = (descendantsOf cs).map (mapTags f)
  | [] => rfl
  | c :: cs => by
      rw [mapTagsOf, descendantsOf, descendantsOf, List.map_append, descendants_mapTags c,
        descendantsOf_mapTagsOf cs]

end

/-- If no name becomes `name`, no element has it. -/
theorem descendantsNamed_mapTags {name : String} (h : ∀ t, f t ≠ name) (n : Node) :
    (n.mapTags f).descendantsNamed name = [] := by
  rw [descendantsNamed, descendants_mapTags, List.filter_eq_nil_iff, List.forall_mem_map]
  intro d _
  rw [tag_mapTags, beq_iff_eq]
  exact h d.tag

end Markup.Node

namespace Cobertura

open Markup
open CoverageDiff.Shelf

variable (address : String) (n : Node)

/-! ## What a namespace hides -/

theorem tag_qualify : (n.qualify address).tag = "\x7b" ++ address ++ "\x7d" ++ n.tag :=
  Node.tag_mapTags _ n

/-- A namespace leaves the local name as it is. -/
theorem localName_qualified (tag : String) :
    localName ("\x7b" ++ address ++ "\x7d" ++ tag) = localName tag := by
  have hsplit : ("\x7b" ++ address ++ "\x7d" ++ tag).toList.reverse =
      tag.toList.reverse ++ '\x7d' :: ("\x7b" ++ address).toList.reverse := by
    simp
  have hstop : ('\x7d' :: ("\x7b" ++ address).toList.reverse).takeWhile (· != '\x7d') = [] :=
    List.takeWhile_cons_of_neg (by decide)
  rw [localName, localName, hsplit, List.takeWhile_append]
  split
  · next hall => rw [hstop, List.append_nil, (List.takeWhile_prefix _).eq_of_length hall]
  · rfl

/-- **Roots** are not hidden by a namespace. -/
theorem isRoot_qualify : isRoot (n.qualify address) = isRoot n := by
  rw [isRoot, isRoot, tag_qualify, localName_qualified]

/-- **Class elements** are hidden by every namespace. -/
theorem classElements_qualify : classElements (n.qualify address) = [] := by
  refine Node.descendantsNamed_mapTags _ (fun t h => ?_) n
  have hfirst := congrArg (fun s => s.toList.head?) h
  simp at hfirst

/-- A document in a namespace is read as a project without classes if it is a report. -/
theorem project_qualify (source : String) :
    project source (n.qualify address) =
      if isRoot n then ([loadedEntry source .empty], .ok .empty)
      else ([], .error (.unexpectedRoot (n.qualify address).tag source)) := by
  have hclasses : (n.qualify address).descendantsNamed "class" = [] :=
    classElements_qualify address n
  rw [project, isRoot_qualify, hclasses, addClasses]
  rfl

/-! ## Documents in a namespace -/

/-- An error without the name of the element that its message shows. -/
def ReadError.untagged : ReadError → ReadError
  | missingAttribute _ name => missingAttribute "" name
  | notInteger _ name raw => notInteger "" name raw
  | negative _ name value => negative "" name value
  | notIntegers _ name raw => notIntegers "" name raw
  | unexpectedRoot _ source => unexpectedRoot "" source
  | e => e

/-- The same project, or failures that differ in the name of an element at most. -/
def SameUpToTag (a b : Except ReadError Project) : Prop :=
  a.mapError ReadError.untagged = b.mapError ReadError.untagged

/-- Only without class elements there are no classes. -/
theorem projectOf_eq_empty_iff {ns : List Node} : projectOf ns = .empty ↔ ns = [] := by
  constructor
  · intro h
    have hkeys : ∀ k, k ∉ keys (ns.map classOf) := by
      intro k hk
      have hmem : k ∈ keys (projectOf ns).classes :=
        (mem_keys_merge Class.keepsKey_merge).mpr (.inr hk)
      rw [h] at hmem
      cases hmem
    cases ns with
    | nil => rfl
    | cons n ns => exact absurd List.mem_cons_self (hkeys (key (classOf n)))
  · rintro rfl
    rfl

theorem project?_eq_empty_iff {source : String} :
    project? source n = .ok .empty ↔ isRoot n = true ∧ classElements n = [] := by
  rw [project?_eq_ok_iff, projectOf_eq_empty_iff]
  constructor
  · rintro ⟨hroot, _, hnone⟩
    exact ⟨hroot, hnone⟩
  · rintro ⟨hroot, hnone⟩
    exact ⟨hroot, by rw [hnone]; exact List.forall_mem_nil _, hnone⟩

/-- **Namespaces**: a document in a namespace is read as a project without classes, or refused for
its outermost element; that is as before exactly if the document is no report or has no class
elements. -/
theorem read_qualify (source : String) :
    project source (n.qualify address) =
        (if isRoot n then ([loadedEntry source .empty], .ok .empty)
        else ([], .error (.unexpectedRoot (n.qualify address).tag source))) ∧
      (SameUpToTag (project? source (n.qualify address)) (project? source n) ↔
        (isRoot n = true → classElements n = [])) := by
  have hqualified := project_qualify address n source
  refine ⟨hqualified, ?_⟩
  rw [project?, hqualified, SameUpToTag]
  by_cases hroot : isRoot n = true
  · rw [if_pos hroot, forall_prop_of_true hroot]
    have hempty : project? source n = .ok .empty ↔ classElements n = [] := by
      rw [project?_eq_empty_iff, and_iff_right hroot]
    rw [← hempty]
    cases project? source n with
    | error e => simp [Except.mapError]
    | ok p => simp [Except.mapError, eq_comm]
  · have hplain : project? source n = .error (.unexpectedRoot n.tag source) := by
      rw [project?, project, if_neg hroot]
    rw [if_neg hroot, hplain]
    simp [hroot, Except.mapError, ReadError.untagged]

end Cobertura

namespace Sample

open Markup Cobertura

/-- A report with a class without lines. -/
def classReport : Node :=
  .element "coverage" [] [.element "class" [("name", "A")] []]

/-- In a namespace it is read, but its class is not. -/
theorem qualified_class_unread :
    ¬SameUpToTag (project? "<xml>" (classReport.qualify "urn:x"))
      (project? "<xml>" classReport) := by
  have hqualified : project? "<xml>" (classReport.qualify "urn:x") = .ok .empty := by
    decide +kernel
  have hplain : project? "<xml>" classReport = .ok { classes := [{ name := "A" }] } := by
    decide +kernel
  rw [hqualified, hplain]
  intro h
  cases h

end Sample

end CoverageDiff
