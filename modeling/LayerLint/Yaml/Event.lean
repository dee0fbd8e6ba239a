-- The events of a document: what its tokens say about nodes and collections, in their order.
import LayerLint.Yaml.Token.Stream

namespace LayerLint.Yaml

/-- What an event says. A tag is its full text, the handle replaced by its meaning. -/
inductive EventKind where
  | documentStart
  | documentEnd
  | alias (name : String)
  | scalar (anchor : Option String) (tag : Option TagText) (text : String) (style : ScalarStyle)
  | sequenceStart (anchor : Option String) (tag : Option TagText)
  | sequenceEnd
  | mappingStart (anchor : Option String) (tag : Option TagText)
  | mappingEnd
  deriving DecidableEq, Repr

/-- An event and where it begins. -/
structure Event where
  kind : EventKind
  mark : Mark
  deriving DecidableEq, Repr

/-- The events of a text up to its end or its first fault. -/
structure EventStream where
  events : List Event
  fault : Option Fault
  deriving Repr

/-! ## What is expected next -/

/-- A place of the grammar. The collections that are still open wait in a list of places. -/
inductive Expected where
  | documentStart (implicit : Bool)
  | documentContent
  | documentEnd
  | blockNode
  | blockSequenceEntry (first : Bool)
  | indentlessEntry
  | blockMappingKey (first : Bool)
  | blockMappingValue
  | flowSequenceEntry (first : Bool)
  | pairKey
  | pairValue
  | pairEnd
  | flowMappingKey (first : Bool)
  | flowMappingValue (empty : Bool)
  deriving DecidableEq, Repr

/-- The state of reading events: the tokens that are left, the fault after them, what is expected,
where the open collections began, and the handles of the document. -/
structure Grammar where
  tokens : List Token
  fault : Option Fault
  expected : List Expected
  starts : List Mark
  handles : List (String × TagText)
  deriving Repr

/-- A step of reading events. -/
abbrev Parse := StateT Grammar (Except Fault)

namespace Parse

/-- The handles that every document has. -/
def commonHandles : List (String × TagText) :=
  [("!", Text.encode "!"), ("!!", Text.encode "tag:yaml.org,2002:")]

def fail {α : Type} (problem : Problem) (mark : Mark) (context : Option (Context × Mark)) :
    Parse α :=
  throw (.grammar problem mark context)

/-- The next token, which stays in its place. -/
def peek : Parse Token := do
  let g ← get
  match g.tokens with
  | token :: _ => pure token
  | [] => throw (g.fault.getD .endOfDocument)

/-- Passes over the next token. -/
def skip : Parse Unit := do
  let _ ← peek
  modify fun g => { g with tokens := g.tokens.drop 1 }

/-- What is expected after the node that is being read. -/
def expect (e : Expected) : Parse Unit := modify fun g => { g with expected := e :: g.expected }

/-- Notes where a collection began. -/
def opened (mark : Mark) : Parse Unit := modify fun g => { g with starts := mark :: g.starts }

/-- Forgets where the innermost collection began. -/
def closed : Parse Unit := modify fun g => { g with starts := g.starts.drop 1 }

/-- Where the innermost collection began. -/
def innermost : Parse Mark := do pure ((← get).starts.head?.getD Mark.start)

def event (kind : EventKind) (mark : Mark) : Parse (Option Event) := pure (some ⟨kind, mark⟩)

/-- A node of which nothing is written. -/
def emptyScalar (mark : Mark) : Parse (Option Event) := event (.scalar none none "" .plain) mark

/-! ## Nodes -/

/-- The anchor and the tag in front of a node. -/
structure Properties where
  anchor : Option String
  tag : Option (String × TagText × Mark)
  start : Mark
  deriving Repr

/-- Reads an anchor, if one comes next. -/
def takeAnchor : Parse (Option String) := do
  match (← peek).kind with
  | .anchor name => skip; pure (some name)
  | _ => pure none

/-- Reads a tag, if one comes next. -/
def takeTag : Parse (Option (String × TagText × Mark)) := do
  let token ← peek
  match token.kind with
  | .tag handle suffix => skip; pure (some (handle, suffix, token.start))
  | _ => pure none

/-- Reads an anchor and a tag, in either order. -/
def takeProperties : Parse Properties := do
  let start := (← peek).start
  match ← takeAnchor with
  | some name => pure ⟨some name, ← takeTag, start⟩
  | none =>
    match ← takeTag with
    | some tag => pure ⟨← takeAnchor, some tag, start⟩
    | none => pure ⟨none, none, start⟩

/-- The full text of a tag. -/
def resolveTag (p : Properties) : Parse (Option TagText) := do
  match p.tag with
  | none => pure none
  | some (handle, suffix, mark) =>
    if handle = "" then pure (some suffix)
    else
      match (← get).handles.lookup handle with
      | some meaning => pure (some (meaning ++ suffix))
      | none => fail .unknownHandle mark (some (.node, p.start))

/-- The primary tag alone says no more about a scalar than no tag. -/
def scalarTag (tag : Option TagText) : Option TagText :=
  if tag = some (Text.encode "!") then none else tag

/-- Reads the beginning of a node: an alias, a scalar, or the start of a collection. -/
def takeNode (block indentless : Bool) : Parse (Option Event) := do
  let token ← peek
  match token.kind with
  | .alias name => skip; event (.alias name) token.start
  | _ =>
    let p ← takeProperties
    let tag ← resolveTag p
    let token ← peek
    match token.kind, block, indentless with
    | .blockEntry, _, true =>
      expect .indentlessEntry
      event (.sequenceStart p.anchor tag) p.start
    | .scalar text style, _, _ =>
      skip
      event (.scalar p.anchor (scalarTag tag) text style) p.start
    | .flowSequenceStart, _, _ =>
      expect (.flowSequenceEntry true)
      event (.sequenceStart p.anchor tag) p.start
    | .flowMappingStart, _, _ =>
      expect (.flowMappingKey true)
      event (.mappingStart p.anchor tag) p.start
    | .blockSequenceStart, true, _ =>
      expect (.blockSequenceEntry true)
      event (.sequenceStart p.anchor tag) p.start
    | .blockMappingStart, true, _ =>
      expect (.blockMappingKey true)
      event (.mappingStart p.anchor tag) p.start
    | _, _, _ =>
      if p.anchor.isSome || tag.isSome then event (.scalar p.anchor tag "" .plain) p.start
      else
        fail .noContent token.start
          (some (if block then .blockNode else .flowNode, p.start))

/-! ## Documents -/

/-- Reads the directives in front of a document. -/
def takeDirectives : Nat → Bool → Parse Unit
  | 0, _ => pure ()
  | fuel + 1, versioned => do
    let token ← peek
    match token.kind with
    | .version major minor =>
      if versioned then fail .duplicateVersion token.start none
      if major ≠ 1 ∨ (minor ≠ 1 ∧ minor ≠ 2) then fail .otherVersion token.start none
      skip
      takeDirectives fuel true
    | .handle name meaning =>
      if ((← get).handles.lookup name).isSome then fail .duplicateHandle token.start none
      modify fun g => { g with handles := g.handles ++ [(name, meaning)] }
      skip
      takeDirectives fuel versioned
    | _ =>
      modify fun g => { g with
        handles := g.handles ++ commonHandles.filter fun h => (g.handles.lookup h.1).isNone }

/-- Passes over the ends of documents. -/
def skipDocumentEnds : Nat → Parse Unit
  | 0 => pure ()
  | fuel + 1 => do
    if (← peek).kind = .documentEnd then
      skip
      skipDocumentEnds fuel

/-- Reads the start of a document. Only the first one may lack its own mark. -/
def takeDocumentStart (implicit : Bool) : Parse (Option Event) := do
  let fuel := (← get).tokens.length + 1
  if !implicit then skipDocumentEnds fuel
  let token ← peek
  let marked :=
    match token.kind with
    | .version _ _ | .handle _ _ | .documentStart => true
    | _ => false
  if token.kind = .streamEnd then pure none
  else if implicit && !marked then
    takeDirectives fuel false
    expect .documentEnd
    expect .blockNode
    event .documentStart token.start
  else
    takeDirectives fuel false
    let next ← peek
    if next.kind ≠ .documentStart then fail .noDocumentStart next.start none
    skip
    expect .documentEnd
    expect .documentContent
    event .documentStart token.start

def takeDocumentContent : Parse (Option Event) := do
  let token ← peek
  match token.kind with
  | .version _ _ | .handle _ _ | .documentStart | .documentEnd | .streamEnd =>
    emptyScalar token.start
  | _ => takeNode true false

def takeDocumentEnd : Parse (Option Event) := do
  let token ← peek
  if token.kind = .documentEnd then skip
  modify fun g => { g with handles := [] }
  expect (.documentStart false)
  event .documentEnd token.start

/-! ## Collections -/

/-- Passes over the token that opens a collection. -/
def takeOpening (first : Bool) : Parse Unit := do
  if first then
    opened (← peek).start
    skip

def takeBlockSequenceEntry (first : Bool) : Parse (Option Event) := do
  takeOpening first
  let token ← peek
  match token.kind with
  | .blockEntry =>
    skip
    expect (.blockSequenceEntry false)
    match (← peek).kind with
    | .blockEntry | .blockEnd => emptyScalar token.stop
    | _ => takeNode true false
  | .blockEnd =>
    skip
    closed
    event .sequenceEnd token.start
  | _ => fail .noEntry token.start (some (.blockSequence, ← innermost))

def takeIndentlessEntry : Parse (Option Event) := do
  let token ← peek
  match token.kind with
  | .blockEntry =>
    skip
    expect .indentlessEntry
    match (← peek).kind with
    | .blockEntry | .key | .value | .blockEnd => emptyScalar token.stop
    | _ => takeNode true false
  | _ => event .sequenceEnd token.start

def takeBlockMappingKey (first : Bool) : Parse (Option Event) := do
  takeOpening first
  let token ← peek
  match token.kind with
  | .key =>
    skip
    expect .blockMappingValue
    match (← peek).kind with
    | .key | .value | .blockEnd => emptyScalar token.stop
    | _ => takeNode true true
  | .blockEnd =>
    skip
    closed
    event .mappingEnd token.start
  | _ => fail .noKey token.start (some (.blockMapping, ← innermost))

def takeBlockMappingValue : Parse (Option Event) := do
  let token ← peek
  expect (.blockMappingKey false)
  match token.kind with
  | .value =>
    skip
    match (← peek).kind with
    | .key | .value | .blockEnd => emptyScalar token.stop
    | _ => takeNode true true
  | _ => emptyScalar token.start

/-- Ends a flow collection at its closing bracket. -/
def takeClosing (kind : EventKind) : Parse (Option Event) := do
  let token ← peek
  skip
  closed
  event kind token.start

/-- Passes over the comma between two entries of a flow collection. -/
def takeComma (first : Bool) (problem : Problem) (context : Context) : Parse Unit := do
  if !first then
    let token ← peek
    if token.kind = .flowEntry then skip
    else fail problem token.start (some (context, ← innermost))

def takeFlowSequenceEntry (first : Bool) : Parse (Option Event) := do
  takeOpening first
  if (← peek).kind = .flowSequenceEnd then takeClosing .sequenceEnd
  else
    takeComma first .noSequenceEnd .flowSequence
    let token ← peek
    match token.kind with
    | .key =>
      skip
      expect .pairKey
      event (.mappingStart none none) token.start
    | .flowSequenceEnd => takeClosing .sequenceEnd
    | _ =>
      expect (.flowSequenceEntry false)
      takeNode false false

/-- The key of a pair inside of a sequence. A key of which nothing is written takes the token
after it with it. -/
def takePairKey : Parse (Option Event) := do
  let token ← peek
  expect .pairValue
  match token.kind with
  | .value | .flowEntry | .flowSequenceEnd =>
    skip
    emptyScalar token.stop
  | _ => takeNode false false

def takePairValue : Parse (Option Event) := do
  expect .pairEnd
  if (← peek).kind = .value then
    skip
    let token ← peek
    match token.kind with
    | .flowEntry | .flowSequenceEnd => emptyScalar token.start
    | _ => takeNode false false
  else emptyScalar (← peek).start

def takePairEnd : Parse (Option Event) := do
  expect (.flowSequenceEntry false)
  event .mappingEnd (← peek).start

def takeFlowMappingKey (first : Bool) : Parse (Option Event) := do
  takeOpening first
  if (← peek).kind = .flowMappingEnd then takeClosing .mappingEnd
  else
    takeComma first .noMappingEnd .flowMapping
    match (← peek).kind with
    | .key =>
      skip
      expect (.flowMappingValue false)
      let token ← peek
      match token.kind with
      | .value | .flowEntry | .flowMappingEnd => emptyScalar token.start
      | _ => takeNode false false
    | .flowMappingEnd => takeClosing .mappingEnd
    | _ =>
      expect (.flowMappingValue true)
      takeNode false false

def takeFlowMappingValue (empty : Bool) : Parse (Option Event) := do
  expect (.flowMappingKey false)
  let token ← peek
  if !empty && token.kind = .value then
    skip
    let token ← peek
    match token.kind with
    | .flowEntry | .flowMappingEnd => emptyScalar token.start
    | _ => takeNode false false
  else emptyScalar token.start

/-! ## The stream -/

/-- Reads the next event; there is none after the last document. -/
def takeEvent : Parse (Option Event) := do
  let g ← get
  match g.expected with
  | [] => pure none
  | e :: rest =>
    set { g with expected := rest }
    match e with
    | .documentStart implicit => takeDocumentStart implicit
    | .documentContent => takeDocumentContent
    | .documentEnd => takeDocumentEnd
    | .blockNode => takeNode true false
    | .blockSequenceEntry first => takeBlockSequenceEntry first
    | .indentlessEntry => takeIndentlessEntry
    | .blockMappingKey first => takeBlockMappingKey first
    | .blockMappingValue => takeBlockMappingValue
    | .flowSequenceEntry first => takeFlowSequenceEntry first
    | .pairKey => takePairKey
    | .pairValue => takePairValue
    | .pairEnd => takePairEnd
    | .flowMappingKey first => takeFlowMappingKey first
    | .flowMappingValue empty => takeFlowMappingValue empty

/-- Delivers events until the stream ends. -/
def deliver : Nat → Grammar → EventStream
  | 0, _ => ⟨[], none⟩
  | fuel + 1, g =>
    match takeEvent.run g with
    | .error fault => ⟨[], some fault⟩
    | .ok (none, _) => ⟨[], none⟩
    | .ok (some e, g) =>
      let stream := deliver fuel g
      { stream with events := e :: stream.events }

end Parse

/-- The events of a stream of tokens, whose first token is the start of the stream. Between two
tokens stand at most three events of which nothing is written. -/
def EventStream.ofTokens (s : TokenStream) : EventStream :=
  Parse.deliver (4 * s.tokens.length + 8)
    ⟨s.tokens.drop 1, s.fault, [.documentStart true], [], []⟩

end LayerLint.Yaml
