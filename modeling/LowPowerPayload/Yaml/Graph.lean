import LowPowerPayload.Yaml.Lexer
import LowPowerPayload.Yaml.Resolve
/-!
# YAML node graphs

The parser turns tokens into the node graph of the text's single document. A node is a scalar,
a sequence or a mapping, with a tag. Nodes live in a table and refer to each other by index, so
an alias is the index of the node its anchor named: an anchored collection is named before its
items are read, and an alias inside it makes the collection hold itself.

A mapping does not hold its entries itself. It names an entry list of a second table, because
building a mapping may rewrite them: merge keys are taken out of the list in place, and the
mapping may then be given a new, longer list.

A node's tag is resolved when it is read: `!handle!suffix` through the handles the document
declares (`!` and `!!` by default), a plain scalar without a tag or a scalar tagged `!` by
`resolveScalar`, and any other node without a tag by its kind. A missing key or value is the
empty plain scalar, so null.

Reading descends one level for each node on the way from the root, and the levels are limited:
a node more than `maxNodeDepth` nodes deep stops reading as endless recursion, before anything
after it is read.
-/

namespace LowPowerPayload.Yaml

/-- What a node holds: a scalar's text, a sequence's items, or the index of a mapping's entry
list. -/
inductive Body where
  | scalar (text : String)
  | sequence (items : List Nat)
  | mapping (entries : Nat)
  deriving Repr, Inhabited

/-- A node of a YAML document. -/
structure Node where
  tag : String
  body : Body
  deriving Repr, Inhabited

/-- The nodes of a document: the node table, the table of mapping entry lists (each entry a key
node and a value node), and the root node when the text holds a document. -/
structure Graph where
  nodes : Array Node
  entryLists : Array (Array (Nat × Nat))
  root : Option Nat
  deriving Repr, Inhabited

namespace Graph

/-- The node at an index; an empty null scalar past the table. -/
def node (g : Graph) (i : Nat) : Node := g.nodes.getD i ⟨standardTag "null", .scalar ""⟩

/-- The entry list at an index; empty past the table. -/
def entries (g : Graph) (l : Nat) : Array (Nat × Nat) := g.entryLists.getD l #[]

/-- The graph with the tag of a node replaced. -/
def setTag (g : Graph) (i : Nat) (tag : String) : Graph :=
  { g with nodes := g.nodes.modify i (fun n => { n with tag := tag }) }

/-- The graph with an entry list replaced. -/
def setEntries (g : Graph) (l : Nat) (es : Array (Nat × Nat)) : Graph :=
  { g with entryLists := g.entryLists.set! l es }

/-- The graph with a mapping node given another entry list. -/
def setMappingList (g : Graph) (i : Nat) (l : Nat) : Graph :=
  { g with nodes := g.nodes.modify i (fun n => { n with body := .mapping l }) }

/-- The graph with a new entry list, and its index. -/
def addEntries (g : Graph) (es : Array (Nat × Nat)) : Graph × Nat :=
  ({ g with entryLists := g.entryLists.push es }, g.entryLists.size)

end Graph

/-- The handles every document knows: `!` for local tags and `!!` for the standard tag
space. -/
def defaultHandles : List (String × String) := [("!", "!"), ("!!", standardTag "")]

/-- The parser's state: the tokens, the index of the next one, why the token stream stops
early (if it does), the tag handles and anchors in force, and the graph built so far. -/
structure Composer where
  tokens : Array Token
  next : Nat
  stop : Option Failure
  handles : List (String × String)
  anchors : List (String × Nat)
  graph : Graph

/-- A step of the parser. -/
abbrev ComposeM := StateT Composer (Except Failure)

namespace Compose

/-- The next token, without taking it; past the tokens read, the failure that stopped the
token stream. -/
def peek : ComposeM Token := do
  let s ← get
  match s.tokens[s.next]? with
  | some t => return t
  | none => match s.stop with
    | some f => throw f
    | none => return .streamEnd

/-- Takes the next token. -/
def take : ComposeM Token := do
  let t ← peek
  modify (fun s => { s with next := s.next + 1 })
  return t

/-- Whether the next token is of one of the kinds. -/
def check (kinds : List Token) : ComposeM Bool := do return (← peek).isOneOf kinds

/-- Adds a node to the graph and returns its index. -/
def addNode (n : Node) : ComposeM Nat := do
  let s ← get
  set { s with graph := { s.graph with nodes := s.graph.nodes.push n } }
  return s.graph.nodes.size

/-- Sets what a node holds. -/
def setBody (i : Nat) (b : Body) : ComposeM Unit :=
  modify (fun s => { s with graph := { s.graph with
    nodes := s.graph.nodes.modify i (fun n => { n with body := b }) } })

/-- Adds an entry list to the graph and returns its index. -/
def addEntryList (es : Array (Nat × Nat)) : ComposeM Nat := do
  let s ← get
  let (g, l) := s.graph.addEntries es
  set { s with graph := g }
  return l

/-- Names a node by an anchor. -/
def register (anchor : Option String) (i : Nat) : ComposeM Unit :=
  match anchor with
  | some a => modify (fun s => { s with anchors := (a, i) :: s.anchors })
  | none => pure ()

/-- Fails when an anchor already names a node. -/
def checkAnchor (anchor : Option String) : ComposeM Unit := do
  match anchor with
  | some a =>
    if ((← get).anchors.lookup a).isSome then throw (.malformed "found duplicate anchor")
  | none => pure ()

/-- The tag a tag token spells: a handle's prefix and the suffix, or a verbatim suffix. -/
def fullTag (handle : Option String) (suffix : String) : ComposeM String := do
  match handle with
  | none => return suffix
  | some h => match (← get).handles.lookup h with
    | some pfx => return pfx ++ suffix
    | none => throw (.malformed "found undefined tag handle")

/-- Reads an anchor and a tag in either order. -/
def properties : ComposeM (Option String × Option (Option String × String)) := do
  let readTag : ComposeM (Option (Option String × String)) := do
    match ← peek with
    | .tag h s =>
      let _ ← take
      return some (h, s)
    | _ => return none
  let readAnchor : ComposeM (Option String) := do
    match ← peek with
    | .anchor a =>
      let _ ← take
      return some a
    | _ => return none
  match ← peek with
  | .anchor _ =>
    let a ← readAnchor
    let t ← readTag
    return (a, t)
  | .tag .. =>
    let t ← readTag
    let a ← readAnchor
    return (a, t)
  | _ => return (none, none)

/-- The most nodes a path from the root may hold, the root and the last node counted. -/
def maxNodeDepth : Nat := 492

/-- Stops reading as endless recursion when a node lies deeper than `maxNodeDepth`. -/
def guardDepth (depth : Nat) : ComposeM Unit :=
  if maxNodeDepth < depth then throw .endless else pure ()

/-- Adds the empty plain scalar, which stands for a missing node, at a depth. -/
def emptyAt (depth : Nat) : ComposeM Nat := do
  guardDepth depth
  addNode ⟨resolveScalar "", .scalar ""⟩

/-- The tag of a collection: its own, or the default of its kind. -/
def collectionTag (tag : Option String) (kind : String) : String :=
  match tag with
  | some t => if t == "!" then standardTag kind else t
  | none => standardTag kind

/-- Starts a collection node with an anchor: adds it, still empty, and names it. -/
def openCollection (anchor : Option String) (n : Node) : ComposeM Nat := do
  let i ← addNode n
  register anchor i
  return i

mutual
/-- Reads a node; `block` allows block collections, `indentless` a sequence of entries at
the indentation of its parent key; `depth` counts the nodes from the root to it. -/
def node : Nat → Nat → Bool → Bool → ComposeM Nat
  | 0, _, _, _ => throw (.malformed "nesting too deep")
  | fuel + 1, depth, block, indentless => do
    guardDepth depth
    match ← peek with
    | .alias name =>
      let _ ← take
      match (← get).anchors.lookup name with
      | some i => return i
      | none => throw (.malformed "found undefined alias")
    | _ =>
      let (anchor, written) ← properties
      let tag ← match written with
        | some (h, s) => some <$> fullTag h s
        | none => pure none
      let content ← peek
      checkAnchor anchor
      if indentless && content.isOneOf [.blockEntry] then
        let i ← openCollection anchor ⟨collectionTag tag "seq", .sequence []⟩
        let items ← indentlessSeq fuel depth []
        setBody i (.sequence items)
        return i
      else
        match content with
        | .scalar text plain =>
          let _ ← take
          let t := match tag with
            | none => if plain then resolveScalar text else standardTag "str"
            | some "!" => resolveScalar text
            | some t => t
          let i ← addNode ⟨t, .scalar text⟩
          register anchor i
          return i
        | .flowSequenceStart =>
          let _ ← take
          let i ← openCollection anchor ⟨collectionTag tag "seq", .sequence []⟩
          let items ← flowSeq fuel depth true []
          setBody i (.sequence items)
          return i
        | .flowMappingStart =>
          let _ ← take
          let l ← addEntryList #[]
          let i ← openCollection anchor ⟨collectionTag tag "map", .mapping l⟩
          let es ← flowMap fuel depth true []
          modify (fun s => { s with graph := s.graph.setEntries l es.toArray })
          return i
        | .blockSequenceStart =>
          if block then
            let _ ← take
            let i ← openCollection anchor ⟨collectionTag tag "seq", .sequence []⟩
            let items ← blockSeq fuel depth []
            setBody i (.sequence items)
            return i
          else throw (.malformed "expected the node content")
        | .blockMappingStart =>
          if block then
            let _ ← take
            let l ← addEntryList #[]
            let i ← openCollection anchor ⟨collectionTag tag "map", .mapping l⟩
            let es ← blockMap fuel depth []
            modify (fun s => { s with graph := s.graph.setEntries l es.toArray })
            return i
          else throw (.malformed "expected the node content")
        | _ =>
          if anchor.isSome || tag.isSome then
            let t := match tag with
              | none => resolveScalar ""
              | some "!" => resolveScalar ""
              | some t => t
            let i ← addNode ⟨t, .scalar ""⟩
            register anchor i
            return i
          else throw (.malformed "expected the node content")

/-- Reads the entries of a block sequence up to its end. -/
def blockSeq : Nat → Nat → List Nat → ComposeM (List Nat)
  | 0, _, _ => throw (.malformed "nesting too deep")
  | fuel + 1, depth, acc => do
    match ← peek with
    | .blockEntry =>
      let _ ← take
      if ← check [.blockEntry, .blockEnd] then
        blockSeq fuel depth ((← emptyAt (depth + 1)) :: acc)
      else
        let n ← node fuel (depth + 1) true false
        blockSeq fuel depth (n :: acc)
    | .blockEnd =>
      let _ ← take
      return acc.reverse
    | _ => throw (.malformed "expected <block end>")

/-- Reads `-` entries at the indentation of their parent key. -/
def indentlessSeq : Nat → Nat → List Nat → ComposeM (List Nat)
  | 0, _, _ => throw (.malformed "nesting too deep")
  | fuel + 1, depth, acc => do
    match ← peek with
    | .blockEntry =>
      let _ ← take
      if ← check [.blockEntry, .key, .value, .blockEnd] then
        indentlessSeq fuel depth ((← emptyAt (depth + 1)) :: acc)
      else
        let n ← node fuel (depth + 1) true false
        indentlessSeq fuel depth (n :: acc)
    | _ => return acc.reverse

/-- Reads the entries of a block mapping up to its end. -/
def blockMap : Nat → Nat → List (Nat × Nat) → ComposeM (List (Nat × Nat))
  | 0, _, _ => throw (.malformed "nesting too deep")
  | fuel + 1, depth, acc => do
    match ← peek with
    | .key =>
      let _ ← take
      let k ← if ← check [.key, .value, .blockEnd] then emptyAt (depth + 1)
        else node fuel (depth + 1) true true
      match ← peek with
      | .value =>
        let _ ← take
        let v ← if ← check [.key, .value, .blockEnd] then emptyAt (depth + 1)
          else node fuel (depth + 1) true true
        blockMap fuel depth ((k, v) :: acc)
      | _ => blockMap fuel depth ((k, ← emptyAt (depth + 1)) :: acc)
    | .blockEnd =>
      let _ ← take
      return acc.reverse
    | _ => throw (.malformed "expected <block end>")

/-- Reads the items of a flow sequence up to `]`; a `key: value` item is a one-entry
mapping. -/
def flowSeq : Nat → Nat → Bool → List Nat → ComposeM (List Nat)
  | 0, _, _, _ => throw (.malformed "nesting too deep")
  | fuel + 1, depth, first, acc => do
    if ← check [.flowSequenceEnd] then
      let _ ← take
      return acc.reverse
    if !first then
      if ← check [.flowEntry] then
        let _ ← take
      else throw (.malformed "expected ',' or ']'")
    if ← check [.key] then
      let _ ← take
      guardDepth (depth + 1)
      let l ← addEntryList #[]
      let pairNode ← addNode ⟨standardTag "map", .mapping l⟩
      let k ← if ← check [.value, .flowEntry, .flowSequenceEnd] then emptyAt (depth + 2)
        else node fuel (depth + 2) false false
      let v ← if ← check [.value] then do
          let _ ← take
          if ← check [.flowEntry, .flowSequenceEnd] then emptyAt (depth + 2)
          else node fuel (depth + 2) false false
        else emptyAt (depth + 2)
      modify (fun s => { s with graph := s.graph.setEntries l #[(k, v)] })
      flowSeq fuel depth false (pairNode :: acc)
    else if ← check [.flowSequenceEnd] then
      let _ ← take
      return acc.reverse
    else
      let n ← node fuel (depth + 1) false false
      flowSeq fuel depth false (n :: acc)

/-- Reads the entries of a flow mapping up to `}`; a key without `:` has an empty value. -/
def flowMap : Nat → Nat → Bool → List (Nat × Nat) → ComposeM (List (Nat × Nat))
  | 0, _, _, _ => throw (.malformed "nesting too deep")
  | fuel + 1, depth, first, acc => do
    if ← check [.flowMappingEnd] then
      let _ ← take
      return acc.reverse
    if !first then
      if ← check [.flowEntry] then
        let _ ← take
      else throw (.malformed "expected ',' or '\x7d'")
    if ← check [.key] then
      let _ ← take
      let k ← if ← check [.value, .flowEntry, .flowMappingEnd] then emptyAt (depth + 1)
        else node fuel (depth + 1) false false
      let v ← if ← check [.value] then do
          let _ ← take
          if ← check [.flowEntry, .flowMappingEnd] then emptyAt (depth + 1)
          else node fuel (depth + 1) false false
        else emptyAt (depth + 1)
      flowMap fuel depth false ((k, v) :: acc)
    else if ← check [.flowMappingEnd] then
      let _ ← take
      return acc.reverse
    else
      let k ← node fuel (depth + 1) false false
      flowMap fuel depth false ((k, ← emptyAt (depth + 1)) :: acc)
end

/-- Skips document end markers. -/
def skipDocumentEnds : Nat → ComposeM Unit
  | 0 => pure ()
  | fuel + 1 => do
    if ← check [.documentEnd] then
      let _ ← take
      skipDocumentEnds fuel

/-- Reads the directives before a document: at most one `%YAML`, of major version 1, and
`%TAG` handles declared once each; the default handles stay unless redeclared. -/
def directives : Nat → Option (Nat × Nat) → List (String × String) → ComposeM Unit
  | 0, _, _ => pure ()
  | fuel + 1, version, declared => do
    match ← peek with
    | .directive d =>
      let _ ← take
      match d with
      | .version major minor =>
        if version.isSome then throw (.malformed "found duplicate YAML directive")
        if major != 1 then throw (.malformed "found incompatible YAML document")
        directives fuel (some (major, minor)) declared
      | .tagHandle h p =>
        if (declared.lookup h).isSome then throw (.malformed "duplicate tag handle")
        directives fuel version (declared ++ [(h, p)])
      | .other => directives fuel version declared
    | _ =>
      let defaults := defaultHandles.filter (fun (h, _) => (declared.lookup h).isNone)
      modify (fun s => { s with handles := declared ++ defaults })

/-- Reads the stream: no document, or exactly one. -/
def stream (fuel : Nat) : ComposeM (Option Nat) := do
  if ← check [.streamEnd] then return none
  let doc ← if ← check [.directive .other, .documentStart] then do
      directives fuel none []
      if !(← check [.documentStart]) then throw (.malformed "expected '<document start>'")
      let _ ← take
      if ← check [.directive .other, .documentStart, .documentEnd, .streamEnd] then emptyAt 1
      else node fuel 1 true false
    else node fuel 1 true false
  skipDocumentEnds fuel
  if !(← check [.streamEnd]) then throw (.malformed "expected a single document in the stream")
  return some doc

end Compose

/-- The node graph of a YAML text's document. -/
def Graph.ofText (text : String) : Except Failure Graph := do
  let ts := tokenize text
  let start : Composer := ⟨ts.tokens.toArray, 0, ts.stop, defaultHandles, [], default⟩
  let (root, s) ← (Compose.stream (2 * ts.tokens.length + 4)).run start
  return { s.graph with root := root }

end LowPowerPayload.Yaml
