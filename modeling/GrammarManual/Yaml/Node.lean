import GrammarManual.Yaml.Token

/-!
# Yaml/Node: the tree of a YAML text

A `Node` is a text, a sequence or a mapping, each perhaps with a tag, or an alias. `Node.ofTokens?`
reads the tree from the tokens; a text holds at most one document. `Node.expand` puts what an anchor
names in the place of its aliases; an anchor has to come first and may be set only once.
-/

namespace GrammarManual.Yaml

/-- A node of a document. -/
inductive Node where
  /-- Whether the text is written plain tells what it may stand for. -/
  | text (anchor tag : Option (List Char)) (isPlain : Bool) (s : List Char)
  | sequence (anchor tag : Option (List Char)) (items : List Node)
  | mapping (anchor tag : Option (List Char)) (entries : List (Node × Node))
  | alias (name : List Char)
  deriving Repr, Inhabited

namespace Node

/-! ## 1. Nodes -/

/-- What is left out. -/
def absent : Node := .text none none true []

/-- What the handles of tags stand for. -/
abbrev Handles := List (List Char × List Char)

/-- Handles that need no directive. -/
def usualHandles : Handles := [(['!'], ['!']), (['!', '!'], "tag:yaml.org,2002:".toList)]

/-- A tag in full. -/
def fullTag? (handles : Handles) : Option (List Char) → List Char → Option (List Char)
  | none, name => some name
  | some handle, name => (handles.lookup handle).map (· ++ name)

/-- The anchor and the tag before a node, in either order. -/
def properties? (handles : Handles) :
    List Token → Option (Option (List Char) × Option (List Char) × List Token)
  | .anchor a :: .tag h n :: rest => (fullTag? handles h n).map fun t => (some a, some t, rest)
  | .tag h n :: .anchor a :: rest => (fullTag? handles h n).map fun t => (some a, some t, rest)
  | .anchor a :: rest => some (some a, none, rest)
  | .tag h n :: rest => (fullTag? handles h n).map fun t => (none, some t, rest)
  | rest => some (none, none, rest)

/-- Whether a token follows that satisfies `p`. -/
def ends (p : Token → Bool) (ts : List Token) : Bool := (ts.head?.map p).getD false

/-- What ends an entry of a block sequence. -/
def endsEntry : Token → Bool
  | .blockEntry | .blockEnd => true
  | _ => false

/-- What ends an entry of a block mapping, or its key. -/
def endsPair : Token → Bool
  | .key | .value | .blockEnd => true
  | _ => false

/-- What ends an entry of a sequence in brackets. -/
def endsItem : Token → Bool
  | .comma | .sequenceClose => true
  | _ => false

/-- What ends an entry of a mapping in braces. -/
def endsField : Token → Bool
  | .comma | .mappingClose => true
  | _ => false

mutual

/-- Reads a node. Blocks may begin only where `inBlock`; entries without a block of their own only
    where `bare`. `fuel` bounds the calls. -/
def node (handles : Handles) (inBlock bare : Bool) : Nat → List Token → Option (Node × List Token)
  | 0, _ => none
  | fuel + 1, ts =>
    match ts with
    | .alias name :: rest => some (.alias name, rest)
    | _ =>
      match properties? handles ts with
      | none => none
      | some (anchor, tag, rest) =>
        let sequence (r : Option (List Node × List Token)) : Option (Node × List Token) :=
          r.map fun (items, after) => (.sequence anchor tag items, after)
        let mapping (r : Option (List (Node × Node) × List Token)) : Option (Node × List Token) :=
          r.map fun (entries, after) => (.mapping anchor tag entries, after)
        let other : Option (Node × List Token) :=
          if anchor.isSome || tag.isSome then some (.text anchor tag true [], rest) else none
        match rest with
        | .blockEntry :: _ => if bare then sequence (bareEntries handles fuel rest) else other
        | .text isPlain s :: after => some (.text anchor tag isPlain s, after)
        | .sequenceOpen :: after => sequence (flowItems handles true fuel after)
        | .mappingOpen :: after => mapping (flowFields handles true fuel after)
        | .blockSequenceStart :: after =>
          if inBlock then sequence (blockEntries handles fuel after) else other
        | .blockMappingStart :: after =>
          if inBlock then mapping (blockPairs handles fuel after) else other
        | _ => other

/-- Reads entries up to the end of their block. -/
def blockEntries (handles : Handles) : Nat → List Token → Option (List Node × List Token)
  | 0, _ => none
  | fuel + 1, ts =>
    match ts with
    | .blockEnd :: rest => some ([], rest)
    | .blockEntry :: rest => do
      let (item, rest) ←
        if ends endsEntry rest then some (absent, rest)
        else node handles true false fuel rest
      let (items, rest) ← blockEntries handles fuel rest
      some (item :: items, rest)
    | _ => none

/-- Reads entries that have no block of their own. -/
def bareEntries (handles : Handles) : Nat → List Token → Option (List Node × List Token)
  | 0, _ => none
  | fuel + 1, ts =>
    match ts with
    | .blockEntry :: rest => do
      let (item, rest) ←
        if ends (fun t => endsEntry t || endsPair t) rest then some (absent, rest)
        else node handles true false fuel rest
      let (items, rest) ← bareEntries handles fuel rest
      some (item :: items, rest)
    | _ => some ([], ts)

/-- Reads keys and values up to the end of their block. -/
def blockPairs (handles : Handles) : Nat → List Token → Option (List (Node × Node) × List Token)
  | 0, _ => none
  | fuel + 1, ts =>
    match ts with
    | .blockEnd :: rest => some ([], rest)
    | .key :: rest => do
      let (k, rest) ←
        if ends endsPair rest then some (absent, rest)
        else node handles true true fuel rest
      let (v, rest) ←
        match rest with
        | .value :: rest =>
          if ends endsPair rest then some (absent, rest)
          else node handles true true fuel rest
        | _ => some (absent, rest)
      let (pairs, rest) ← blockPairs handles fuel rest
      some ((k, v) :: pairs, rest)
    | _ => none

/-- Reads items up to the closing bracket. Commas stand between them, and one may follow the
    last. -/
def flowItems (handles : Handles) (isFirst : Bool) : Nat → List Token → Option (List Node × List Token)
  | 0, _ => none
  | fuel + 1, ts =>
    match ts with
    | .sequenceClose :: rest => some ([], rest)
    | _ => do
      let ts ←
        match isFirst, ts with
        | true, _ => some ts
        | false, .comma :: rest => some rest
        | false, _ => none
      match ts with
      | .sequenceClose :: rest => some ([], rest)
      | .key :: rest =>
        let (k, rest) ←
          if ends (fun t => endsItem t || t = .value) rest then
            some (absent, rest)
          else node handles false false fuel rest
        let (v, rest) ←
          match rest with
          | .value :: rest =>
            if ends endsItem rest then some (absent, rest)
            else node handles false false fuel rest
          | _ => some (absent, rest)
        let (items, rest) ← flowItems handles false fuel rest
        some (.mapping none none [(k, v)] :: items, rest)
      | _ =>
        let (item, rest) ← node handles false false fuel ts
        let (items, rest) ← flowItems handles false fuel rest
        some (item :: items, rest)

/-- Reads fields up to the closing brace. A field without a key mark is a key alone. -/
def flowFields (handles : Handles) (isFirst : Bool) :
    Nat → List Token → Option (List (Node × Node) × List Token)
  | 0, _ => none
  | fuel + 1, ts =>
    match ts with
    | .mappingClose :: rest => some ([], rest)
    | _ => do
      let ts ←
        match isFirst, ts with
        | true, _ => some ts
        | false, .comma :: rest => some rest
        | false, _ => none
      match ts with
      | .mappingClose :: rest => some ([], rest)
      | .key :: rest =>
        let (k, rest) ←
          if ends (fun t => endsField t || t = .value) rest then
            some (absent, rest)
          else node handles false false fuel rest
        let (v, rest) ←
          match rest with
          | .value :: rest =>
            if ends endsField rest then some (absent, rest)
            else node handles false false fuel rest
          | _ => some (absent, rest)
        let (fields, rest) ← flowFields handles false fuel rest
        some ((k, v) :: fields, rest)
      | _ =>
        let (k, rest) ← node handles false false fuel ts
        let (fields, rest) ← flowFields handles false fuel rest
        some ((k, absent) :: fields, rest)

end

/-! ## 2. Documents -/

/-- The handles that directives define, and the tokens behind the directives. The version of the
    language is one, and neither the version nor a handle is given twice. -/
def directives? (versions : Nat) (handles : Handles) : List Token → Option (Handles × List Token)
  | .directive (.version major) :: rest =>
    if versions ≠ 0 || major ≠ 1 then none else directives? (versions + 1) handles rest
  | .directive (.handle name target) :: rest =>
    if handles.any (·.1 = name) then none
    else directives? versions ((name, target) :: handles) rest
  | .directive .other :: rest => directives? versions handles rest
  | rest => some (handles, rest)

/-- Whether a token stands between documents. -/
def isBorder : Token → Bool
  | .directive _ | .documentStart | .documentEnd => true
  | _ => false

/-- Handles with the usual ones, unless they are defined anew. -/
def withUsual (handles : Handles) : Handles := handles ++ usualHandles

/-- Reads the only document of a text from its tokens; a text without document has no node. -/
def ofTokens? (ts : List Token) : Option (Option Node) := do
  let fuel := 2 * ts.length + 2
  match ts with
  | [] => some none
  | first :: _ =>
    let (root, rest) ←
      if first = .documentStart || (first ≠ .documentEnd && isBorder first) then do
        let (handles, rest) ← directives? 0 [] ts
        match rest with
        | .documentStart :: rest =>
          if rest.isEmpty || ends isBorder rest then some (absent, rest)
          else node (withUsual handles) true false fuel rest
        | _ => none
      else node usualHandles true false fuel ts
    if rest.all (· = .documentEnd) then some (some root) else none

/-! ## 3. Aliases -/

/-- What anchors name; nothing while the node they stand before is still being read. -/
abbrev Anchors := List (List Char × Option Node)

/-- Sets an anchor. -/
def declare? (anchors : Anchors) : Option (List Char) → Option Anchors
  | none => some anchors
  | some name => if anchors.any (·.1 = name) then none else some ((name, none) :: anchors)

/-- Completes an anchor. -/
def complete (anchors : Anchors) (anchor : Option (List Char)) (n : Node) : Anchors :=
  match anchor with
  | none => anchors
  | some name => anchors.map fun (a, m) => (a, if a = name then some n else m)

mutual

/-- Puts what anchors name in the place of aliases. An alias inside of the node it names stays. -/
def expand (anchors : Anchors) : Node → Option (Node × Anchors)
  | .alias name =>
    match anchors.lookup name with
    | none => none
    | some found => some (found.getD (.alias name), anchors)
  | .text anchor tag isPlain s => do
    let n := Node.text none tag isPlain s
    let anchors ← declare? anchors anchor
    some (n, complete anchors anchor n)
  | .sequence anchor tag items => do
    let anchors ← declare? anchors anchor
    let (items, anchors) ← expandItems anchors items
    let n := Node.sequence none tag items
    some (n, complete anchors anchor n)
  | .mapping anchor tag entries => do
    let anchors ← declare? anchors anchor
    let (entries, anchors) ← expandEntries anchors entries
    let n := Node.mapping none tag entries
    some (n, complete anchors anchor n)

/-- Expands the items of a sequence in their order. -/
def expandItems (anchors : Anchors) : List Node → Option (List Node × Anchors)
  | [] => some ([], anchors)
  | n :: rest => do
    let (n, anchors) ← expand anchors n
    let (rest, anchors) ← expandItems anchors rest
    some (n :: rest, anchors)

/-- Expands the entries of a mapping in their order. -/
def expandEntries (anchors : Anchors) : List (Node × Node) → Option (List (Node × Node) × Anchors)
  | [] => some ([], anchors)
  | (k, v) :: rest => do
    let (k, anchors) ← expand anchors k
    let (v, anchors) ← expand anchors v
    let (rest, anchors) ← expandEntries anchors rest
    some ((k, v) :: rest, anchors)

end

end Node

/-- The tree of a text without aliases, or nothing for a text without document. -/
def tree? (s : List Char) : Option (Option Node) := do
  match ← Node.ofTokens? (← tokens? s) with
  | none => some none
  | some n =>
    let (n, _) ← n.expand []
    some (some n)

end GrammarManual.Yaml
