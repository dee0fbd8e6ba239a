-- The tokens of a whole text. A key needs no indicator of its own: it is recognised by the colon
-- after it, so tokens wait until no possible key begins at them.
import LayerLint.Yaml.Token.Property
import LayerLint.Yaml.Token.Scalar

namespace LayerLint.Yaml

/-- The tokens of a text up to its end or its first fault. -/
structure TokenStream where
  tokens : List Token
  fault : Option Fault
  deriving Repr

namespace Scan

/-! ## Possible keys -/

/-- A key without indicator is shorter than this, and stands in one line. -/
def keyLimit : Nat := 1024

/-- Gives up a possible key. Where only a key could stand, that is a fault. -/
def giveUp (key : Option PendingKey) : Scan Unit :=
  match key with
  | some ⟨true, _, mark⟩ => fail .noColon (some (.simpleKey, mark))
  | _ => pure ()

/-- Whether a possible key is too far behind. -/
def PendingKey.isStale (key : PendingKey) (mark : Mark) : Bool :=
  key.mark.line < mark.line || key.mark.index + keyLimit < mark.index

/-- Gives up the possible keys that are too far behind, the outermost first. -/
def giveUpStale : Scan Unit := do
  let s ← get
  for key in s.keys.reverse do
    match key with
    | some k => if PendingKey.isStale k s.mark then giveUp key
    | none => pure ()
  let current (key : Option PendingKey) : Option PendingKey :=
    key.filter fun k => !PendingKey.isStale k s.mark
  set { s with keys := s.keys.map current }

/-- Gives up the possible key of the innermost level. -/
def giveUpInnermost : Scan Unit := do
  let s ← get
  giveUp (s.keys.head?.join)
  set { s with keys := none :: s.keys.drop 1 }

/-- Notes that a key may begin here. -/
def noteKey : Scan Unit := do
  let s ← get
  if s.keyAllowed then
    giveUpInnermost
    modify fun s => { s with
      keys := some ⟨!s.inFlow && s.indent = s.mark.column, s.delivered + s.queue.length, s.mark⟩ ::
        s.keys.drop 1 }

def allowKey (allowed : Bool) : Scan Unit := modify fun s => { s with keyAllowed := allowed }

/-! ## Indentation -/

/-- Adds a token to the queue, at the end or in front of the token of a given number. -/
def push (token : Token) (number : Option Nat) : Scan Unit :=
  modify fun s =>
    match number with
    | none => { s with queue := s.queue ++ [token] }
    | some n =>
      let place := n - s.delivered
      { s with queue := s.queue.take place ++ [token] ++ s.queue.drop place }

/-- Opens a block collection in a column that lies deeper than the present one. -/
def indentTo (column : Nat) (number : Option Nat) (kind : TokenKind) (mark : Mark) :
    Scan Unit := do
  let s ← get
  if !s.inFlow && s.indent < column then
    set { s with indents := s.indent :: s.indents, indent := column }
    push ⟨kind, mark, mark⟩ number

/-- Closes the block collections that lie deeper than a column. -/
def outdentTo (column : Int) : Scan Unit := do
  let s ← get
  if !s.inFlow then
    let closed := (s.indent :: s.indents).takeWhile (column < ·)
    let open_ := (s.indent :: s.indents).drop closed.length
    let bracket : Token := ⟨.blockEnd, s.mark, s.mark⟩
    set { s with
      queue := s.queue ++ closed.map fun _ => bracket
      indent := open_.head?.getD (-1)
      indents := open_.drop 1 }

/-! ## Tokens -/

/-- Passes over an indicator and adds its token. -/
def takeIndicator (width : Nat) (kind : TokenKind) : Scan Unit := do
  let start := (← get).mark
  advance width
  push ⟨kind, start, (← get).mark⟩ none

/-- Passes over blanks, comments and line breaks. A tab is no indentation, so it is passed over
only where no key may begin. After a line break a key may begin. -/
def skipToToken : Nat → Scan Unit
  | 0 => pure ()
  | fuel + 1 => do
    lookAhead 1
    if (← get).mark.index = 0 && (← get).looksAt 0 (· == '\uFEFF') then advance 1
    let s ← get
    skipWhile fun c => c == ' ' || ((s.inFlow || !s.keyAllowed) && c == '\t')
    skipComment
    let s ← get
    if s.atBreak then
      let _ ← takeBreak
      if !s.inFlow then allowKey true
      skipToToken fuel

/-- The end of the text is a new line of its own. -/
def takeEnd : Scan Unit := do
  modify fun s =>
    if s.mark.column = 0 then s
    else { s with mark := { s.mark with line := s.mark.line + 1, column := 0 } }
  outdentTo (-1)
  giveUpInnermost
  allowKey false
  let s ← get
  push ⟨.streamEnd, s.mark, s.mark⟩ none
  modify fun s => { s with ended := true }

/-- Whatever stands outside of documents closes all block collections. -/
def leaveDocument : Scan Unit := do
  outdentTo (-1)
  giveUpInnermost
  allowKey false

def takeFlowStart (kind : TokenKind) : Scan Unit := do
  noteKey
  modify fun s => { s with keys := none :: s.keys, flowLevel := s.flowLevel + 1 }
  allowKey true
  takeIndicator 1 kind

def takeFlowEnd (kind : TokenKind) : Scan Unit := do
  giveUpInnermost
  modify fun s =>
    if s.inFlow then { s with keys := s.keys.drop 1, flowLevel := s.flowLevel - 1 } else s
  allowKey false
  takeIndicator 1 kind

def takeFlowEntry : Scan Unit := do
  giveUpInnermost
  allowKey true
  takeIndicator 1 .flowEntry

def takeBlockEntry : Scan Unit := do
  let s ← get
  if !s.inFlow then
    if !s.keyAllowed then fail .entryNotAllowed none
    indentTo s.mark.column none .blockSequenceStart s.mark
  giveUpInnermost
  allowKey true
  takeIndicator 1 .blockEntry

def takeKey : Scan Unit := do
  let s ← get
  if !s.inFlow then
    if !s.keyAllowed then fail .keyNotAllowed none
    indentTo s.mark.column none .blockMappingStart s.mark
  giveUpInnermost
  allowKey (!s.inFlow)
  takeIndicator 1 .key

/-- A colon makes a key of what began at the possible key. -/
def takeValue : Scan Unit := do
  let s ← get
  match s.keys.head?.join with
  | some key =>
    push ⟨.key, key.mark, key.mark⟩ (some key.number)
    indentTo key.mark.column (some key.number) .blockMappingStart key.mark
    modify fun s => { s with keys := none :: s.keys.drop 1 }
    allowKey false
  | none =>
    if !s.inFlow then
      if !s.keyAllowed then fail .valueNotAllowed none
      indentTo s.mark.column none .blockMappingStart s.mark
    allowKey (!s.inFlow)
  takeIndicator 1 .value

/-- A node that may be a key. -/
def takeKeyLike (take : Scan Token) : Scan Unit := do
  noteKey
  allowKey false
  push (← take) none

def takeBlock (literal : Bool) : Scan Unit := do
  giveUpInnermost
  allowKey true
  push (← takeBlockScalar literal) none

/-- Characters with which a plain scalar does not begin. -/
def isIndicator (c : Char) : Bool :=
  ['-', '?', ':', ',', '[', ']', '\x7b', '\x7d', '#', '&', '*', '!', '|', '>', '\'', '"', '%',
    '@', Char.ofNat 0x60].contains c

/-- Whether a plain scalar begins here. -/
def startsPlain (s : Scanner) : Bool :=
  (!s.blankAt 0 && !s.looksAt 0 isIndicator) ||
    (s.looksAt 0 (· == '-') && !s.looksAt 1 isGap) ||
    (!s.inFlow && s.looksAt 0 (fun c => c == '?' || c == ':') && !s.blankAt 1)

/-- Reads the next token, and with it the brackets of the block collections that end or begin
before it. -/
def takeToken : Scan Unit := do
  lookAhead 1
  skipToToken ((← get).rest.length + 1)
  giveUpStale
  outdentTo (← get).mark.column
  lookAhead 4
  let s ← get
  match s.rest with
  | [] => takeEnd
  | c :: _ =>
    if s.mark.column = 0 && c == '%' then
      leaveDocument
      push (← takeDirective) none
    else if s.atDocumentIndicator then
      leaveDocument
      takeIndicator 3 (if c == '-' then .documentStart else .documentEnd)
    else if c == '[' then takeFlowStart .flowSequenceStart
    else if c == '\x7b' then takeFlowStart .flowMappingStart
    else if c == ']' then takeFlowEnd .flowSequenceEnd
    else if c == '\x7d' then takeFlowEnd .flowMappingEnd
    else if c == ',' then takeFlowEntry
    else if c == '-' && s.blankAt 1 then takeBlockEntry
    else if c == '?' && (s.inFlow || s.blankAt 1) then takeKey
    else if c == ':' && (s.inFlow || s.blankAt 1) then takeValue
    else if c == '*' then takeKeyLike (takeName .alias .alias)
    else if c == '&' then takeKeyLike (takeName .anchor .anchor)
    else if c == '!' then takeKeyLike takeTag
    else if c == '|' && !s.inFlow then takeBlock true
    else if c == '>' && !s.inFlow then takeBlock false
    else if c == '\'' then takeKeyLike (takeQuotedScalar true)
    else if c == '"' then takeKeyLike (takeQuotedScalar false)
    else if startsPlain s then takeKeyLike takePlainScalar
    else fail .noToken (some (.nextToken, s.mark))

/-! ## The stream -/

/-- Whether the first token of the queue has to wait: a key may begin at it. -/
def mustWait (s : Scanner) : Bool :=
  s.queue.isEmpty || s.keys.any fun key => key.any fun k => k.number == s.delivered

/-- Delivers tokens until the stream ends. -/
def deliver : Nat → Scanner → TokenStream
  | 0, _ => ⟨[], none⟩
  | fuel + 1, s =>
    match (if s.queue.isEmpty then pure () else giveUpStale).run s with
    | .error fault => ⟨[], some fault⟩
    | .ok (_, s) =>
      if mustWait s then
        if s.ended then ⟨[], none⟩
        else
          match takeToken.run s with
          | .error fault => ⟨[], some fault⟩
          | .ok (_, s) => deliver fuel s
      else
        match s.queue with
        | [] => ⟨[], none⟩
        | token :: queue =>
          let stream := deliver fuel { s with queue := queue, delivered := s.delivered + 1 }
          { stream with tokens := token :: stream.tokens }

end Scan

/-- The tokens of a text. Each step of reading passes over a character or ends the text, and
adds at most one bracket for each collection that is open. -/
def TokenStream.ofSource (s : Source) : TokenStream :=
  Scan.deliver (8 * s.characters.length + 16) (Scanner.ofSource s)

end LayerLint.Yaml
