import LowPowerPayload.Yaml.Graph
import LowPowerPayload.Yaml.Scalar
import LowPowerPayload.Yaml.Value
import LowPowerPayload.Yaml.SetOrder
/-!
# Loading a YAML document

`Yaml.load` builds the values of a YAML text's document into a heap. Each node is built once,
so an alias and its anchor give one value. A node's tag chooses how:

* `null`, `bool`, `int`, `float`, `binary`, `timestamp` and `str` read the node's scalar text
  at once (`Yaml.Scalar`). A mapping node stands for the scalar of its first entry whose key is
  tagged `value` (the key `=`); any other collection has no scalar text;
* `seq`, `map`, `set`, `omap` and `pairs` give an empty collection at once and fill it later,
  collections in the order they were met, so a collection may hold itself. A set's members
  take the order `SetOrder.arrange` gives them;
* any other tag fails.

A mapping is filled entry by entry: an equal key keeps its first place and takes the later
value, and a list, mapping or set cannot be a key. Before that, its merge keys `<<` are taken
out of its entry list in place, and the entries they bring are put in front of the rest: those
of a mapping, or of each mapping of a list, the later mappings first; a mapping brought is
flattened first. A key `=` is read as the text `=` from then on. `omap` and `pairs` fill a list
with the pairs of a sequence of one-entry mappings.

A text with no document loads as none.
-/

namespace LowPowerPayload.Yaml

/-- A collection still to fill: its node and its value. -/
inductive Fill where
  | list (node value : Nat)
  | dict (node value : Nat)
  | set (node value : Nat)
  | pairs (node value : Nat)

/-- The state of building: the node graph (whose entry lists and key tags building may
change), the values so far, the value built for each node, the collections still to fill,
first to fill first, and the one NaN value. -/
structure Builder where
  graph : Graph
  heap : Heap
  built : Array (Option Nat)
  pending : List Fill
  /-- The value of the NaN constant, once built. -/
  nan : Option Nat := none

/-- A step of building. -/
abbrev BuildM := StateT Builder (Except Failure)

namespace Build

/-- The node at an index. -/
def node (i : Nat) : BuildM Node := do return (← get).graph.node i

/-- The entry list at an index. -/
def entries (l : Nat) : BuildM (Array (Nat × Nat)) := do return (← get).graph.entries l

/-- Changes the graph. -/
def modifyGraph (f : Graph → Graph) : BuildM Unit :=
  modify (fun s => { s with graph := f s.graph })

/-- Adds a value to the heap and returns its index. -/
def alloc (v : Value) : BuildM Nat := do
  let s ← get
  set { s with heap := ⟨s.heap.values.push v⟩ }
  return s.heap.values.size

/-- Replaces the value at an index. -/
def store (i : Nat) (v : Value) : BuildM Unit :=
  modify (fun s => { s with heap := ⟨s.heap.values.set! i v⟩ })

/-- The scalar text of a node: its own, or for a mapping the scalar text of the value of its
first `value` key. At most `fuel - 1` mappings are passed through: a longer chain, or a cycle,
is endless recursion. -/
def scalarText : Nat → Nat → BuildM String
  | 0, _ => throw .endless
  | fuel + 1, i => do
    match (← node i).body with
    | .scalar t => return t
    | .sequence _ => throw (.malformed "expected a scalar node")
    | .mapping l =>
      let es ← entries l
      let g := (← get).graph
      match es.find? (fun (k, _) => (g.node k).tag == standardTag "value") with
      | some (_, v) => scalarText fuel v
      | none => throw (.malformed "expected a scalar node")

/-- The value of a scalar node under a standard scalar tag name, if the name is one. -/
def scalarValue (name text : String) : Option (Except Failure Datum) :=
  match name with
  | "null" => some (.ok .null)
  | "bool" => some ((boolOf text).map Datum.bool)
  | "int" => some ((intOf text).map Datum.int)
  | "float" => some ((floatOf text).map Datum.float)
  | "binary" => some ((bytesOf text).map Datum.bytes)
  | "timestamp" => some ((stampValueOf text).map Datum.stamp)
  | "str" => some (.ok (.text text))
  | _ => none

/-- One more than the most mappings a scalar text may be looked up through. -/
def valueChainBound : Nat := 986

/-- The value of the NaN constant: built the first time, the same value after. -/
def sharedNaN (d : Datum) : BuildM Nat := do
  match (← get).nan with
  | some v => return v
  | none =>
    let v ← alloc (.scalar d)
    modify (fun s => { s with nan := some v })
    return v

/-- The names of the standard scalar tags. -/
def scalarNames : List String := ["null", "bool", "int", "float", "binary", "timestamp", "str"]

/-- Builds the value of a node, or finds the one built before. A collection is left empty and
queued to be filled. -/
def construct (i : Nat) : BuildM Nat := do
  if let some v := ((← get).built.getD i none) then return v
  let n ← node i
  let named (name : String) : Bool := n.tag == standardTag name
  let queue (f : Fill) : BuildM Unit := modify (fun s => { s with pending := s.pending ++ [f] })
  let v ← match scalarNames.find? named with
    | some name =>
      let text ← scalarText valueChainBound i
      match scalarValue name text with
      | some (.ok d) =>
        if name == "float" && isSharedNaN text then sharedNaN d else alloc (.scalar d)
      | some (.error e) => throw e
      | none => throw (.malformed "could not determine a constructor for the tag")
    | none =>
      if named "seq" then do
        let v ← alloc (.list [])
        queue (.list i v)
        pure v
      else if named "map" then do
        let v ← alloc (.dict [])
        queue (.dict i v)
        pure v
      else if named "set" then do
        let v ← alloc (.set [])
        queue (.set i v)
        pure v
      else if named "omap" || named "pairs" then do
        let v ← alloc (.list [])
        queue (.pairs i v)
        pure v
      else throw (.malformed "could not determine a constructor for the tag")
  modify (fun s => { s with built := s.built.set! i (some v) })
  return v

/-- The current entry list of a mapping node. -/
def entryListOf (i : Nat) : BuildM (Option Nat) := do
  match (← node i).body with
  | .mapping l => return some l
  | _ => return none

mutual
/-- Flattens a mapping node's merge keys; `fuel` bounds the work. -/
def flatten : Nat → Nat → BuildM Unit
  | 0, _ => throw .endless
  | fuel + 1, i => do
    let merge ← mergeScan fuel i #[] 0
    if !merge.isEmpty then
      match ← entryListOf i with
      | some l =>
        let rest ← entries l
        let s ← get
        let (g, l') := s.graph.addEntries (merge ++ rest)
        set { s with graph := g.setMappingList i l' }
      | none => pure ()

/-- Walks a mapping node's current entry list from an index, taking merge keys out in place
and collecting the entries they bring after `merge`. -/
def mergeScan : Nat → Nat → Array (Nat × Nat) → Nat → BuildM (Array (Nat × Nat))
  | 0, _, _, _ => throw .endless
  | fuel + 1, i, merge, index => do
    let some l ← entryListOf i | return merge
    let es ← entries l
    match es[index]? with
    | none => return merge
    | some (k, v) =>
      let keyTag := (← node k).tag
      if keyTag == standardTag "merge" then
        modifyGraph (fun g => g.setEntries l (es.eraseIdxIfInBounds index))
        match (← node v).body with
        | .mapping _ =>
          flatten fuel v
          let some lv ← entryListOf v | return merge
          let brought ← entries lv
          mergeScan fuel i (merge ++ brought) index
        | .sequence items =>
          let lists ← mergeLists fuel items []
          let mut brought : Array (Nat × Nat) := #[]
          for sub in lists.reverse do
            brought := brought ++ (← entries sub)
          mergeScan fuel i (merge ++ brought) index
        | .scalar _ => throw (.malformed "expected a mapping or list of mappings for merging")
      else
        if keyTag == standardTag "value" then modifyGraph (fun g => g.setTag k (standardTag "str"))
        mergeScan fuel i merge (index + 1)

/-- Flattens each mapping of a merge list in order and returns their entry lists. -/
def mergeLists : Nat → List Nat → List Nat → BuildM (List Nat)
  | 0, _, _ => throw .endless
  | _ + 1, [], acc => return acc.reverse
  | fuel + 1, sub :: rest, acc => do
    match (← node sub).body with
    | .mapping _ =>
      flatten fuel sub
      let some l ← entryListOf sub | return acc.reverse
      mergeLists fuel rest (l :: acc)
    | _ => throw (.malformed "expected a mapping for merging")
end

/-- The entries of a mapping node as key and value, after flattening its merge keys; a key
that is a list, mapping or set fails. -/
def mappingEntries (fuel : Nat) (i : Nat) : BuildM (List (Nat × Nat)) := do
  let some _ ← entryListOf i | throw (.malformed "expected a mapping node")
  flatten fuel i
  let some l ← entryListOf i | throw (.malformed "expected a mapping node")
  let es ← entries l
  let mut acc : Heap.EntryTable := {}
  for (k, v) in es do
    let kv ← construct k
    if !(← get).heap.hashable kv then throw (.malformed "found unhashable key")
    let vv ← construct v
    acc := acc.insert (← get).heap kv vv
  return acc.entries.toList

/-- Fills a collection. -/
def fill (fuel : Nat) : Fill → BuildM Unit
  | .list i v => do
    let .sequence items := (← node i).body | throw (.malformed "expected a sequence node")
    let built ← items.mapM construct
    store v (.list built)
  | .dict i v => do
    let es ← mappingEntries fuel i
    store v (.dict es)
  | .set i v => do
    let es ← mappingEntries fuel i
    let h := (← get).heap
    store v (.set (SetOrder.arrange h.scalar? (es.map Prod.fst)))
  | .pairs i v => do
    let .sequence items := (← node i).body | throw (.malformed "expected a sequence")
    let mut acc : List Nat := []
    for sub in items do
      let some l ← entryListOf sub | throw (.malformed "expected a mapping of length 1")
      match (← entries l).toList with
      | [(k, val)] =>
        let kv ← construct k
        let vv ← construct val
        acc := acc ++ [← alloc (.pair kv vv)]
      | _ => throw (.malformed "expected a single mapping item")
    store v (.list acc)

/-- Fills the queued collections, first queued first, until none is left. -/
def drain (fuel : Nat) : Nat → BuildM Unit
  | 0 => throw .endless
  | steps + 1 => do
    match (← get).pending with
    | [] => pure ()
    | f :: rest =>
      modify (fun s => { s with pending := rest })
      fill fuel f
      drain fuel steps

end Build

/-- The values of a loaded document and the index of its value. -/
structure Document where
  heap : Heap
  root : Nat

/-- A bound on the steps of flattening merge keys along one chain of nested flattenings. Entry
lists may double with each merge, so the bound is far above the work any document asks for. -/
def flattenBudget : Nat := Nat.pow 2 62

/-- Loads a YAML text: the values of its document, or none for a text without one. -/
def load (text : String) : Except Failure Document := do
  let g ← Graph.ofText text
  match g.root with
  | none => return ⟨⟨#[.scalar .null]⟩, 0⟩
  | some r =>
    let run : BuildM Nat := do
      let v ← Build.construct r
      Build.drain flattenBudget (g.nodes.size + 1)
      return v
    let (v, s) ← run.run ⟨g, ⟨#[]⟩, Array.replicate g.nodes.size none, [], none⟩
    return ⟨s.heap, v⟩

end LowPowerPayload.Yaml
