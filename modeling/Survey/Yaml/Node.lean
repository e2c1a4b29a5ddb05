import Survey.Yaml.Token

/-!
The tree of a YAML document. A reference stands for the node that its anchor names; a node that
refers to itself has no tree there.
-/
namespace Survey.Yaml

inductive Node where
  | scalar (text : String) (style : Style) (tag : Option String)
  | sequence (items : List Node)
  | mapping (entries : List (Node × Node))
  /-- A reference to a node around it. -/
  | endless

/-- The scalar where nothing is written. -/
def Node.empty (tag : Option String) : Node :=
  .scalar "" .plain tag

/-- The tokens not read yet, and what anchors and tag handles stand for. -/
structure Source where
  tokens : List Token
  anchors : List (String × Node) := []
  handles : List (String × String) := []

namespace Source

def drop (s : Source) : Source :=
  { s with tokens := s.tokens.drop 1 }

def sees (s : Source) (tokens : List Token) : Bool :=
  s.tokens.head?.any tokens.contains

def tag? (s : Source) (handle suffix : String) : Option String :=
  if handle = "" then some suffix
  else (s.handles.lookup handle).map (· ++ suffix)

/-- An anchor and a tag in any order, in front of a node. -/
def properties (s : Source) : Option (Option String × Option String × Source) :=
  match s.tokens with
  | .anchor a :: .tag h x :: rest => (s.tag? h x).map fun t => (some a, some t, { s with tokens := rest })
  | .tag h x :: .anchor a :: rest => (s.tag? h x).map fun t => (some a, some t, { s with tokens := rest })
  | .anchor a :: rest => some (some a, none, { s with tokens := rest })
  | .tag h x :: rest => (s.tag? h x).map fun t => (none, some t, { s with tokens := rest })
  | _ => some (none, none, s)

def define (s : Source) (anchor : Option String) (n : Node) : Source :=
  match anchor with
  | some a => { s with anchors := (a, n) :: s.anchors }
  | none => s

mutual
/-- A node. Block collections can begin outside brackets only, and a sequence without an
indentation of its own only as a part of a mapping. -/
def node (isBlock isPart : Bool) : Nat → Source → Option (Node × Source)
  | 0, _ => none
  | n + 1, s =>
    match s.tokens with
    | .reference name :: _ => (s.anchors.lookup name).map (·, s.drop)
    | _ => do
      let (anchor, tag, s) ← s.properties
      let isMarked := anchor.isSome || tag.isSome
      let s := s.define anchor .endless
      let bare : Option (Node × Source) := if isMarked then some (.empty tag, s) else none
      let ofItems : List Node × Source → Node × Source := fun (items, s) => (.sequence items, s)
      let ofEntries : List (Node × Node) × Source → Node × Source := fun (entries, s) =>
        (.mapping entries, s)
      let (result, after) ←
        match s.tokens with
        | .scalar text style :: _ => some (.scalar text style tag, s.drop)
        | .entry :: _ => if isPart then (flatSequence n s).map ofItems else bare
        | .flowSequence :: _ => (flowSequence true n s.drop).map ofItems
        | .flowMapping :: _ => (flowMapping true n s.drop).map ofEntries
        | .blockSequence :: _ => if isBlock then (blockSequence n s.drop).map ofItems else bare
        | .blockMapping :: _ => if isBlock then (blockMapping n s.drop).map ofEntries else bare
        | _ => bare
      return (result, after.define anchor result)

/-- The items of a block sequence, each behind its hyphen, up to the end of the block. -/
def blockSequence : Nat → Source → Option (List Node × Source)
  | 0, _ => none
  | n + 1, s =>
    match s.tokens with
    | .blockEnd :: _ => some ([], s.drop)
    | .entry :: _ => do
      let s := s.drop
      let (item, s) ←
        if s.sees [.entry, .blockEnd] then some (.empty none, s) else node true false n s
      let (items, s) ← blockSequence n s
      return (item :: items, s)
    | _ => none

/-- The items of a sequence at the indentation of the mapping around it. -/
def flatSequence : Nat → Source → Option (List Node × Source)
  | 0, _ => none
  | n + 1, s =>
    match s.tokens with
    | .entry :: _ => do
      let s := s.drop
      let (item, s) ←
        if s.sees [.entry, .key, .value, .blockEnd] then some (.empty none, s)
        else node true false n s
      let (items, s) ← flatSequence n s
      return (item :: items, s)
    | _ => some ([], s)

def blockMapping : Nat → Source → Option (List (Node × Node) × Source)
  | 0, _ => none
  | n + 1, s =>
    match s.tokens with
    | .blockEnd :: _ => some ([], s.drop)
    | .key :: _ => do
      let s := s.drop
      let (key, s) ←
        if s.sees [.key, .value, .blockEnd] then some (.empty none, s) else node true true n s
      let (value, s) ←
        if !s.sees [.value] then some (.empty none, s)
        else
          let s := s.drop
          if s.sees [.key, .value, .blockEnd] then some (.empty none, s) else node true true n s
      let (entries, s) ← blockMapping n s
      return ((key, value) :: entries, s)
    | _ => none

/-- The items of a sequence in brackets. A pair without braces is a mapping of its own. -/
def flowSequence (isFirst : Bool) : Nat → Source → Option (List Node × Source)
  | 0, _ => none
  | n + 1, s =>
    if s.sees [.flowSequenceEnd] then some ([], s.drop)
    else do
      let s ← if isFirst then some s else if s.sees [.flowEntry] then some s.drop else none
      if s.sees [.flowSequenceEnd] then return ([], s.drop)
      else
        let (item, s) ←
          if s.sees [.key] then do
            let s := s.drop
            let (key, s) ←
              if s.sees [.value, .flowEntry, .flowSequenceEnd] then some (.empty none, s.drop)
              else node false false n s
            let (value, s) ←
              if !s.sees [.value] then some (.empty none, s)
              else
                let s := s.drop
                if s.sees [.flowEntry, .flowSequenceEnd] then some (.empty none, s)
                else node false false n s
            some (.mapping [(key, value)], s)
          else node false false n s
        let (items, s) ← flowSequence false n s
        return (item :: items, s)

def flowMapping (isFirst : Bool) : Nat → Source → Option (List (Node × Node) × Source)
  | 0, _ => none
  | n + 1, s =>
    if s.sees [.flowMappingEnd] then some ([], s.drop)
    else do
      let s ← if isFirst then some s else if s.sees [.flowEntry] then some s.drop else none
      if s.sees [.flowMappingEnd] then return ([], s.drop)
      else
        let (entry, s) ←
          if s.sees [.key] then do
            let s := s.drop
            let (key, s) ←
              if s.sees [.value, .flowEntry, .flowMappingEnd] then some (.empty none, s)
              else node false false n s
            let (value, s) ←
              if !s.sees [.value] then some (.empty none, s)
              else
                let s := s.drop
                if s.sees [.flowEntry, .flowMappingEnd] then some (.empty none, s)
                else node false false n s
            some ((key, value), s)
          else do
            let (key, s) ← node false false n s
            some ((key, .empty none), s)
        let (entries, s) ← flowMapping false n s
        return (entry :: entries, s)
end

/-- The handles that every document knows. -/
def knownHandles : List (String × String) :=
  [("!", "!"), ("!!", "tag:yaml.org,2002:")]

/-- The directives in front of a document: at most one version, and each handle once. -/
def directives (hasVersion : Bool) (handles : List (String × String)) :
    List Token → Option (List (String × String) × List Token)
  | .version major minor :: rest =>
    if hasVersion || major ≠ 1 || (minor ≠ 1 && minor ≠ 2) then none
    else directives true handles rest
  | .tagHandle handle value :: rest =>
    if (handles.lookup handle).isSome then none
    else directives hasVersion ((handle, value) :: handles) rest
  | rest => some (handles, rest)

/-- The tokens behind a document are those that end it. -/
def isEnd (tokens : List Token) : Bool :=
  tokens.dropWhile (· = .documentEnd) = [.streamEnd]

end Source

/-- The single document of a text; nothing for a text without one. -/
def document? (text : String) : Option (Option Node) := do
  let tokens ← tokens? text
  if tokens = [.streamEnd] then return none
  else
    let (own, rest) ← Source.directives false [] tokens
    let isBare := rest.length = tokens.length && rest.head? ≠ some .documentStart
    let body := if isBare then rest else rest.drop 1
    if !isBare && rest.head? ≠ some .documentStart then none
    else
      let s : Source := { tokens := body, handles := own ++ Source.knownHandles }
      let (root, s) ←
        if !isBare && s.sees [.documentStart, .documentEnd, .streamEnd] then some (.empty none, s)
        else s.node true false (4 * tokens.length + 8)
      if Source.isEnd s.tokens then return some root else none

end Survey.Yaml
