/-
The document of a YAML text, from its tokens.

Each kind of collection has a function for what it holds, which answers what it read and the place after it, or the
mistake at which the text breaks off. A node that nothing stands for is an empty scalar.
-/
import LineTerminal.Yaml.Node
import LineTerminal.Yaml.Tokens

namespace LineTerminal.Yaml

/-- a place between tokens -/
structure Place where
  rest : List Token
  /-- what the handles of tags stand for -/
  handles : List (String × String)
  /-- the anchors by their names -/
  anchors : List (String × Nat)

/-- something read, and the place after it or the mistake at which it breaks off -/
abbrev Parsed (α : Type) := α × Except Mistake Place

namespace Place

/-- is there one of these tokens next -/
def sees (p : Place) (ts : List Token) : Bool := (p.rest.head?.map ts.contains).getD false

/-- the place in front of some tokens -/
def goTo (p : Place) (rest : List Token) : Place := { p with rest := rest }

/-- give a name to the next node: its number is how many names there are so far -/
def name (p : Place) (anchor : String) : Nat × Place :=
  let id := p.anchors.length
  (id, { p with anchors := (anchor, id) :: p.anchors.filter (·.1 != anchor) })

/-- what is said in front of a node: its anchor, its tag -/
def properties (p : Place) : Option String × Option (String × String) × Place :=
  match p.rest with
  | .anchor a :: .tag h s :: rest => (some a, some (h, s), p.goTo rest)
  | .anchor a :: rest => (some a, none, p.goTo rest)
  | .tag h s :: .anchor a :: rest => (some a, some (h, s), p.goTo rest)
  | .tag h s :: rest => (none, some (h, s), p.goTo rest)
  | _ => (none, none, p)

/-- a tag in full: without a handle it is complete, and an unknown handle is a mistake -/
def fullTag (p : Place) : Option (String × String) → Except Mistake (Option String)
  | none => .ok none
  | some (handle, rest) =>
    if handle.isEmpty then .ok (some rest)
    else match p.handles.lookup handle with
      | some start => .ok (some (start ++ rest))
      | none => .error .malformed

end Place

def brokenOff (m : Mistake) : Parsed Node := (.broken, .error m)

/-- an empty node, when the next token shows that there is no other -/
def emptyAt (p : Place) : Parsed Node := if p.rest.isEmpty then brokenOff .malformed else (.empty, .ok p)

/-- the tag of a scalar: the sign for no tag is none -/
def scalarTag (tag : Option String) : Option String := if tag = some "!" then none else tag

/-- continue after something was read -/
def Parsed.andThen {α β : Type} (first : Parsed α) (broken : α → β) (next : α → Place → Parsed β) : Parsed β :=
  match first with
  | (a, .ok p) => next a p
  | (a, .error m) => (broken a, .error m)

def Parsed.as {α β : Type} (first : Parsed α) (f : α → β) : Parsed β := (f first.1, first.2)

/-- the entries that begin with an entry -/
def entryAnd (key value : Node) (rest : Parsed (List (Node × Node))) : Parsed (List (Node × Node)) :=
  rest.as ((key, value) :: ·)

/-- an entry that breaks off after its key -/
def keyOnly (key : Node) : List (Node × Node) := [(key, .broken)]

mutual

/-- a node. `block` allows blocks, and `compact` a sequence of items no further to the right than the mapping around it -/
def node : Nat → (block compact : Bool) → Place → Parsed Node
  | 0, _, _, _ => brokenOff .malformed
  | fuel + 1, block, compact, p =>
    match p.rest with
    | .reference name :: rest =>
      match p.anchors.lookup name with
      | some id => (.reference id, .ok (p.goTo rest))
      | none => brokenOff .unknownAnchor
    | _ =>
      let (anchor, tag, p) := p.properties
      match p.fullTag tag, anchor with
      | .error m, _ => brokenOff m
      | .ok tag, none => content fuel block compact tag tag.isSome p
      | .ok tag, some a =>
        let (id, p) := p.name a
        (content fuel block compact tag true p).as
          (fun n => match n with | .broken => .broken | n => .anchored id n)

/-- a node after its anchor and its tag; only when it has one of them it may be empty -/
def content : Nat → (block compact : Bool) → Option String → (named : Bool) → Place → Parsed Node
  | 0, _, _, _, _, _ => brokenOff .malformed
  | fuel + 1, block, compact, tag, named, p =>
    let other := if named && !p.rest.isEmpty then (.scalar tag .plain "", .ok p) else brokenOff .malformed
    match p.rest with
    | .scalar style text :: rest => (.scalar (scalarTag tag) style text, .ok (p.goTo rest))
    | .flowSequence :: rest => (flowItems fuel true (p.goTo rest)).as (.sequence tag)
    | .flowMapping :: rest => (flowEntries fuel true (p.goTo rest)).as (.mapping tag)
    | .blockEntry :: _ => if compact then (compactItems fuel p).as (.sequence tag) else other
    | .blockSequence :: rest => if block then (blockItems fuel (p.goTo rest)).as (.sequence tag) else other
    | .blockMapping :: rest => if block then (blockEntries fuel (p.goTo rest)).as (.mapping tag) else other
    | _ => other

def blockItems : Nat → Place → Parsed (List Node)
  | 0, _ => ([.broken], .error .malformed)
  | fuel + 1, p =>
    match p.rest with
    | .blockEnd :: rest => ([], .ok (p.goTo rest))
    | .blockEntry :: rest =>
      let p := p.goTo rest
      let item : Parsed Node := if p.sees [.blockEntry, .blockEnd] then emptyAt p else node fuel true false p
      item.andThen (fun n => [n]) (fun n p => (blockItems fuel p).as (n :: ·))
    | _ => ([.broken], .error .malformed)

/-- the items of a sequence that is no further to the right than the mapping around it -/
def compactItems : Nat → Place → Parsed (List Node)
  | 0, _ => ([.broken], .error .malformed)
  | fuel + 1, p =>
    match p.rest with
    | [] => ([.broken], .error .malformed)
    | .blockEntry :: rest =>
      let p := p.goTo rest
      let item : Parsed Node :=
        if p.sees [.blockEntry, .key, .value, .blockEnd] then emptyAt p else node fuel true false p
      item.andThen (fun n => [n]) (fun n p => (compactItems fuel p).as (n :: ·))
    | _ => ([], .ok p)

def blockEntries : Nat → Place → Parsed (List (Node × Node))
  | 0, _ => (keyOnly .broken, .error .malformed)
  | fuel + 1, p =>
    match p.rest with
    | .blockEnd :: rest => ([], .ok (p.goTo rest))
    | .key :: rest =>
      let p := p.goTo rest
      let key : Parsed Node := if p.sees [.key, .value, .blockEnd] then emptyAt p else node fuel true true p
      key.andThen keyOnly (fun key p =>
        (blockValue fuel p).andThen (fun v => [(key, v)]) (fun v p => entryAnd key v (blockEntries fuel p)))
    | _ => (keyOnly .broken, .error .malformed)

def blockValue : Nat → Place → Parsed Node
  | 0, _ => brokenOff .malformed
  | fuel + 1, p =>
    match p.rest with
    | .value :: rest =>
      let p := p.goTo rest
      if p.sees [.key, .value, .blockEnd] then emptyAt p else node fuel true true p
    | _ => emptyAt p

def flowItems : Nat → (first : Bool) → Place → Parsed (List Node)
  | 0, _, _ => ([.broken], .error .malformed)
  | fuel + 1, first, p =>
    match p.rest with
    | .flowSequenceEnd :: rest => ([], .ok (p.goTo rest))
    | .flowEntry :: .flowSequenceEnd :: rest =>
      if first then ([.broken], .error .malformed) else ([], .ok (p.goTo rest))
    | .flowEntry :: rest =>
      if first then ([.broken], .error .malformed)
      else (flowItem fuel (p.goTo rest)).andThen (fun n => [n]) (fun n p => (flowItems fuel false p).as (n :: ·))
    | _ =>
      if first then (flowItem fuel p).andThen (fun n => [n]) (fun n p => (flowItems fuel false p).as (n :: ·))
      else ([.broken], .error .malformed)

/-- an item between brackets: a node, or a single entry of a mapping. Where the key of such an entry is missing, the token
after its sign is passed over -/
def flowItem : Nat → Place → Parsed Node
  | 0, _ => brokenOff .malformed
  | fuel + 1, p =>
    match p.rest with
    | .key :: rest =>
      let p := p.goTo rest
      let key : Parsed Node :=
        if p.sees [.value, .flowEntry, .flowSequenceEnd] then (.empty, .ok (p.goTo p.rest.tail))
        else node fuel false false p
      (key.andThen keyOnly (fun key p =>
        (flowValue fuel .flowSequenceEnd p).as (fun v => [(key, v)]))).as (.mapping none)
    | _ => node fuel false false p

def flowEntries : Nat → (first : Bool) → Place → Parsed (List (Node × Node))
  | 0, _, _ => (keyOnly .broken, .error .malformed)
  | fuel + 1, first, p =>
    match p.rest with
    | .flowMappingEnd :: rest => ([], .ok (p.goTo rest))
    | .flowEntry :: .flowMappingEnd :: rest =>
      if first then (keyOnly .broken, .error .malformed) else ([], .ok (p.goTo rest))
    | .flowEntry :: rest =>
      if first then (keyOnly .broken, .error .malformed) else flowEntry fuel (p.goTo rest)
    | _ => if first then flowEntry fuel p else (keyOnly .broken, .error .malformed)

/-- an entry between braces and those after it -/
def flowEntry : Nat → Place → Parsed (List (Node × Node))
  | 0, _ => (keyOnly .broken, .error .malformed)
  | fuel + 1, p =>
    match p.rest with
    | .key :: rest =>
      let p := p.goTo rest
      let key : Parsed Node := if p.sees [.value, .flowEntry, .flowMappingEnd] then emptyAt p else node fuel false false p
      key.andThen keyOnly (fun key p =>
        (flowValue fuel .flowMappingEnd p).andThen (fun v => [(key, v)])
          (fun v p => entryAnd key v (flowEntries fuel false p)))
    | _ =>
      (node fuel false false p).andThen keyOnly (fun key p =>
        (emptyAt p).andThen (fun v => [(key, v)]) (fun v p => entryAnd key v (flowEntries fuel false p)))

/-- the value of an entry in the flow context, with the token that closes its collection -/
def flowValue : Nat → (closing : Token) → Place → Parsed Node
  | 0, _, _ => brokenOff .malformed
  | fuel + 1, closing, p =>
    match p.rest with
    | .value :: rest =>
      let p := p.goTo rest
      if p.sees [.flowEntry, closing] then emptyAt p else node fuel false false p
    | _ => emptyAt p

end

/-- the handles that every document knows -/
def standardHandles : List (String × String) := [("!", "!"), ("!!", "tag:yaml.org,2002:")]

/-- the directives of a document: the handles that they give, and the tokens after them. A version may be given once, and
a handle once -/
def directives : (version : Bool) → List (String × String) → List Token → Option (List (String × String) × List Token)
  | version, handles, .version major minor :: rest =>
    if version || major != 1 || !(minor == 1 || minor == 2) then none else directives true handles rest
  | version, handles, .handle name target :: rest =>
    if (handles.lookup name).isSome then none else directives version ((name, target) :: handles) rest
  | _, handles, rest => some (handles, rest)

namespace Document

/-- what is wrong after the node of a document -/
def trailing (p : Place) : Option Mistake :=
  if p.rest.isEmpty then some .malformed
  else if (p.rest.dropWhile (· == .documentEnd)).head? == some .streamEnd then none
  else some .moreDocuments

/-- the document with a node that has been read -/
def ofParsed (parsed : Parsed Node) : Document :=
  match parsed with
  | (root, .ok p) => ⟨some root, trailing p⟩
  | (root, .error m) => ⟨some root, some m⟩

def ofTokens (ts : List Token) : Document :=
  let fuel := 8 * ts.length + 16
  match ts with
  | .streamEnd :: _ => ⟨none, none⟩
  | .version .. :: _ | .handle .. :: _ | .documentStart :: _ =>
    match directives false [] ts with
    | some (handles, .documentStart :: rest) =>
      let p : Place := ⟨rest, handles ++ standardHandles, []⟩
      match rest with
      | .version .. :: _ | .handle .. :: _ | .documentStart :: _ | .documentEnd :: _ | .streamEnd :: _ =>
        ofParsed (emptyAt p)
      | _ => ofParsed (node fuel true false p)
    | _ => ⟨some .broken, some .malformed⟩
  | _ => ofParsed (node fuel true false ⟨ts, standardHandles, []⟩)

def ofText (text : String) : Document := ofTokens (tokens text)

end Document

end LineTerminal.Yaml
