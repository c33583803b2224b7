import CoverageDiff.Markup.Token

/-!
# CoverageDiff.Markup.Namespace

Names in namespaces.

1. The attribute `xmlns` binds names of elements without prefix, `xmlns:p`
   binds the prefix `p`; a prefix cannot be unbound.
2. The prefixes `xml` and `xmlns` and their addresses belong to each other
   and to no other.
3. An address must not hold a closing brace, as that would end it in a
   qualified name.
4. Two attributes of an element must not have the same qualified name.
-/

namespace CoverageDiff.Markup

/-- What prefixes stand for, innermost binding first; the empty prefix is for names without. -/
abbrev Bindings := List (String × String)

/-- The address that the prefix `xml` always stands for. -/
def xmlAddress : String := "http://www.w3.org/XML/1998/namespace"

/-- The address that no prefix may stand for. -/
def xmlnsAddress : String := "http://www.w3.org/2000/xmlns/"

/-- The bindings outside all elements. -/
def outerBindings : Bindings := [("xml", xmlAddress)]

/-- A name as its prefix, empty if there is none, and the rest. -/
def splitPrefix (name : String) : String × String :=
  let cs := name.toList
  let front := cs.takeWhile (· != ':')
  match cs.dropWhile (· != ':') with
  | _ :: back => (String.ofList front, String.ofList back)
  | [] => ("", name)

/-- The prefix that an attribute binds, if it binds any. -/
def boundPrefix? (name : String) : Option String :=
  if name = "xmlns" then some ""
  else
    match splitPrefix name with
    | ("xmlns", p) => some p
    | _ => none

/-- The bindings after one more. -/
def bind? (bs : Bindings) (pre address : String) : Option Bindings :=
  if pre = "xmlns" then none
  else if (pre == "xml") != (address == xmlAddress) then none
  else if address = xmlnsAddress then none
  else if address = "" && pre != "" then none
  else if address.toList.contains '\x7d' then none
  else some ((pre, address) :: bs)

/-- The bindings inside an element with the given attributes. -/
def bindAll? (bs : Bindings) : List (String × String) → Option Bindings
  | [] => some bs
  | (name, value) :: attributes =>
    match boundPrefix? name with
    | none => bindAll? bs attributes
    | some pre =>
      match bind? bs pre value with
      | some bs' => bindAll? bs' attributes
      | none => none

/-- A name with the address of its namespace in braces before it. -/
def qualifiedName (address name : String) : String :=
  if address = "" then name else "\x7b" ++ address ++ "\x7d" ++ name

/-- The qualified name of an element. -/
def elementName? (bs : Bindings) (name : String) : Option String :=
  match splitPrefix name with
  | ("", n) => some (qualifiedName ((bs.lookup "").getD "") n)
  | (pre, n) => (bs.lookup pre).map fun address => qualifiedName address n

/-- The qualified name of an attribute. -/
def attributeName? (bs : Bindings) (name : String) : Option String :=
  match splitPrefix name with
  | ("", n) => some n
  | (pre, n) => (bs.lookup pre).map fun address => qualifiedName address n

/-- Whether no entry of a list occurs twice. -/
def allDistinct : List String → Bool
  | [] => true
  | x :: xs => !xs.contains x && allDistinct xs

/-- The attributes of an element with qualified names, without those that bind prefixes. -/
def qualifyAttributes? (bs : Bindings) (attributes : List (String × String)) :
    Option (List (String × String)) := do
  let kept := attributes.filter fun a => (boundPrefix? a.1).isNone
  let named ← kept.mapM fun (name, value) => do return (← attributeName? bs name, value)
  if allDistinct (named.map Prod.fst) then return named else none

end CoverageDiff.Markup
