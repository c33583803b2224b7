/-!
# CoverageDiff.Markup.Node

Element trees: what a reader of documents sees of one.

1. The name of an element or attribute in a namespace is the address of the
   namespace in braces, followed by the name itself.
2. Text between the elements is not kept.
-/

namespace CoverageDiff.Markup

/-- An element with its attributes and its child elements. -/
inductive Node where
  | element (tag : String) (attributes : List (String × String)) (children : List Node)

namespace Node

mutual

/-- Whether two elements are equal. -/
def decEq : (m n : Node) → Decidable (m = n)
  | element t as ms, element u bs ns =>
    have := decEqAll ms ns
    decidable_of_iff (t = u ∧ as = bs ∧ ms = ns) (by simp)

/-- Whether two lists of elements are equal. -/
def decEqAll : (ms ns : List Node) → Decidable (ms = ns)
  | [], [] => .isTrue rfl
  | [], _ :: _ => .isFalse (by simp)
  | _ :: _, [] => .isFalse (by simp)
  | m :: ms, n :: ns =>
    have := decEq m n
    have := decEqAll ms ns
    decidable_of_iff (m = n ∧ ms = ns) (by simp)

end

instance : DecidableEq Node := decEq

/-- The name of an element. -/
def tag : Node → String
  | element t _ _ => t

/-- The attributes of an element. -/
def attributes : Node → List (String × String)
  | element _ as _ => as

/-- The child elements. -/
def children : Node → List Node
  | element _ _ cs => cs

/-- The value of an attribute. -/
def attribute? (n : Node) (name : String) : Option String :=
  n.attributes.lookup name

/-- The child elements with a name. -/
def childrenNamed (n : Node) (name : String) : List Node :=
  n.children.filter fun c => c.tag == name

/-- The children with the second name of the children with the first. -/
def grandchildrenNamed (n : Node) (outer inner : String) : List Node :=
  (n.childrenNamed outer).flatMap fun c => c.childrenNamed inner

mutual

/-- The element itself and all elements inside it, in the order of their start tags. -/
def descendants : Node → List Node
  | element t as cs => element t as cs :: descendantsOf cs

/-- The elements of a list of trees. -/
def descendantsOf : List Node → List Node
  | [] => []
  | c :: cs => descendants c ++ descendantsOf cs

end

/-- The element itself and those inside it that have a name. -/
def descendantsNamed (n : Node) (name : String) : List Node :=
  n.descendants.filter fun d => d.tag == name

mutual

/-- The tree with every name of an element changed. -/
def mapTags (f : String → String) : Node → Node
  | element t as cs => element (f t) as (mapTagsOf f cs)

/-- The trees with every name of an element changed. -/
def mapTagsOf (f : String → String) : List Node → List Node
  | [] => []
  | c :: cs => mapTags f c :: mapTagsOf f cs

end

/-- The tree with every element in a namespace. -/
def qualify (address : String) (n : Node) : Node :=
  n.mapTags fun t => "\x7b" ++ address ++ "\x7d" ++ t

end Node

end CoverageDiff.Markup
