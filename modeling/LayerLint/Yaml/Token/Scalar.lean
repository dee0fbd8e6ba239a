-- Scalars in their three ways of writing: as a block under an indicator, between quotes, and
-- plain. In each of them the breaks between lines are folded.
import LayerLint.Yaml.Token.Scanner

namespace LayerLint.Yaml

namespace Scan

/-! ## Folding -/

/-- The blank part between two pieces of a scalar: blanks of one line, or the first line break
and those after it. -/
structure Fold where
  spaces : List Char
  first : List Char
  further : List Char
  broken : Bool
  deriving Repr

namespace Fold

def empty : Fold := ⟨[], [], [], false⟩

/-- What the blank part becomes: one line break a space, more of them one less. -/
def text (f : Fold) : List Char :=
  if f.broken then
    if f.first.head? = some '\n' then (if f.further.isEmpty then [' '] else f.further)
    else f.first ++ f.further
  else f.spaces

end Fold

/-- Reads blanks and line breaks into a fold. Blanks after a break are indentation and are
dropped. In a plain scalar a tab may not stand in it. -/
def takeFold (tabLimit : Option (Int × Mark)) : Nat → Fold → Scan Fold
  | 0, f => pure f
  | fuel + 1, f => do
    lookAhead 1
    let s ← get
    match s.rest with
    | [] => pure f
    | c :: _ =>
      if isGap c then
        match tabLimit with
        | some (least, start) =>
          if f.broken && (s.mark.column : Int) < least && c == '\t' then
            fail .tabBelowIndentation (some (.plainScalar, start))
        | none => pure ()
        advance 1
        takeFold tabLimit fuel (if f.broken then f else { f with spaces := f.spaces ++ [c] })
      else if isBreak c then
        let line ← takeBreak
        takeFold tabLimit fuel
          (if f.broken then { f with further := f.further ++ line }
           else { f with spaces := [], first := line, broken := true })
      else pure f

/-! ## Block scalars -/

/-- What to do with the line breaks at the end of a block. -/
inductive Chomping where
  | strip
  | clip
  | keep
  deriving DecidableEq, Repr

/-- A chomping indicator, if one comes next. -/
def takeChomping : Scan (Option Chomping) := do
  lookAhead 1
  let s ← get
  if s.looksAt 0 (· == '+') then advance 1; pure (some .keep)
  else if s.looksAt 0 (· == '-') then advance 1; pure (some .strip)
  else pure none

/-- An indentation indicator, if one comes next. -/
def takeIndentation (start : Mark) : Scan (Option Nat) := do
  lookAhead 1
  match (← get).rest with
  | c :: _ =>
    if c == '0' then fail .zeroIndentation (some (.blockScalar, start))
    else if c.isDigit then advance 1; pure (some (c.toNat - '0'.toNat))
    else pure none
  | [] => pure none

/-- The two indicators of a block, in either order. -/
def takeHeader (start : Mark) : Scan (Option Chomping × Option Nat) := do
  match ← takeChomping with
  | some chomping => pure (some chomping, ← takeIndentation start)
  | none =>
    match ← takeIndentation start with
    | some increment => pure (← takeChomping, some increment)
    | none => pure (none, none)

/-- Reads empty lines of a block and the indentation after them. An indentation that is not yet
known lets all spaces pass; the widest run of them is returned. -/
def takeEmptyLines (indent : Nat) (start : Mark) :
    Nat → List Char → Nat → Mark → Scan (List Char × Nat × Mark)
  | 0, breaks, widest, stop => pure (breaks, widest, stop)
  | fuel + 1, breaks, widest, stop => do
    let s ← get
    let spaces := (s.rest.takeWhile (· == ' ')).length
    advance (if indent = 0 then spaces else min spaces (indent - s.mark.column))
    lookAhead 1
    let s ← get
    let widest := max widest s.mark.column
    if (indent = 0 || s.mark.column < indent) && s.looksAt 0 (· == '\t') then
      fail .tabInIndentation (some (.blockScalar, start))
    if s.atBreak then
      let line ← takeBreak
      takeEmptyLines indent start fuel (breaks ++ line) widest (← get).mark
    else pure (breaks, widest, stop)

/-- Empty lines of a block, and its indentation: that of the first line that is not empty, but
deeper than the collection around it. -/
def takeBlockBreaks (indent : Nat) (start : Mark) : Scan (List Char × Nat × Mark) := do
  let s ← get
  let (breaks, widest, stop) ← takeEmptyLines indent start (s.rest.length + 1) [] 0 s.mark
  if indent = 0 then
    pure (breaks, max (max widest (s.indent + 1).toNat) 1, stop)
  else pure (breaks, indent, stop)

/-- Reads the lines of a block. -/
def takeBlockLines (literal : Bool) (indent : Nat) (start : Mark) :
    Nat → List Char → List Char → List Char → Bool → Mark →
      Scan (List Char × List Char × List Char × Mark)
  | 0, text, lead, breaks, _, stop => pure (text, lead, breaks, stop)
  | fuel + 1, text, lead, breaks, afterBlank, stop => do
    lookAhead 1
    let s ← get
    if s.mark.column = indent && !s.rest.isEmpty then
      let blank := s.looksAt 0 isGap
      let join :=
        if !literal && lead.head? = some '\n' && !afterBlank && !blank then
          (if breaks.isEmpty then [' '] else [])
        else lead
      let line ← takeWhile (fun c => !isBreak c)
      let next ← takeBreak
      let (further, _, stop) ← takeBlockBreaks indent start
      takeBlockLines literal indent start fuel (text ++ join ++ breaks ++ line) next further blank stop
    else pure (text, lead, breaks, stop)

/-- Reads a block scalar after its indicator. -/
def takeBlockScalar (literal : Bool) : Scan Token := do
  let start := (← get).mark
  advance 1
  let (chomping, increment) ← takeHeader start
  lookAhead 1
  skipWhile isGap
  skipComment
  if !(← get).atLineEnd then fail .noLineEnd (some (.blockScalar, start))
  let _ ← takeBreak
  let s ← get
  let given :=
    match increment with
    | some n => if 0 ≤ s.indent then s.indent.toNat + n else n
    | none => 0
  let (breaks, indent, stop) ← takeBlockBreaks given start
  let (text, lead, breaks, stop) ←
    takeBlockLines literal indent start ((← get).rest.length + 1) [] [] breaks false stop
  let tail :=
    match chomping with
    | some .strip => []
    | some .keep => lead ++ breaks
    | _ => lead
  let style := if literal then ScalarStyle.literal else .quoted
  pure ⟨.scalar (String.ofList (text ++ tail)) style, start, stop⟩

/-! ## Quoted scalars -/

/-- The character that an escape of one letter stands for. -/
def shortEscape? : Char → Option Char
  | '0' => some (Char.ofNat 0x00)
  | 'a' => some (Char.ofNat 0x07)
  | 'b' => some (Char.ofNat 0x08)
  | 't' => some (Char.ofNat 0x09)
  | '\t' => some (Char.ofNat 0x09)
  | 'n' => some (Char.ofNat 0x0A)
  | 'v' => some (Char.ofNat 0x0B)
  | 'f' => some (Char.ofNat 0x0C)
  | 'r' => some (Char.ofNat 0x0D)
  | 'e' => some (Char.ofNat 0x1B)
  | ' ' => some ' '
  | '"' => some '"'
  | '/' => some '/'
  | '\\' => some '\\'
  | 'N' => some (Char.ofNat 0x85)
  | '_' => some (Char.ofNat 0xA0)
  | 'L' => some (Char.ofNat 0x2028)
  | 'P' => some (Char.ofNat 0x2029)
  | _ => none

/-- How many hexadecimal digits follow the letter of an escape. -/
def longEscape? : Char → Option Nat
  | 'x' => some 2
  | 'u' => some 4
  | 'U' => some 8
  | _ => none

/-- Reads an escape after the backslash, which comes next. -/
def takeEscape (start : Mark) : Scan Char := do
  match (← get).rest with
  | _ :: letter :: _ =>
    match shortEscape? letter, longEscape? letter with
    | some c, _ => advance 2; pure c
    | none, some width =>
      advance 2
      lookAhead width
      let digits := (← get).rest.take width
      match digits.mapM hexWorth? with
      | some worths =>
        if worths.length < width then fail .noHexadecimal (some (.escape, start))
        else
          let code := worths.foldl (fun n w => n * 16 + w) 0
          if code.isValidChar then advance width; pure (Char.ofNat code)
          else fail .badCodePoint (some (.escape, start))
      | none => fail .noHexadecimal (some (.escape, start))
    | none, none => fail .unknownEscape (some (.escape, start))
  | _ => fail .unknownEscape (some (.escape, start))

/-- Reads the characters between quotes up to a blank, a break or the closing quote. The second
result says that an escaped line break ended the piece. -/
def takeQuotedPiece (single : Bool) (start : Mark) : Nat → Scan (List Char × Bool)
  | 0 => pure ([], false)
  | fuel + 1 => do
    lookAhead 2
    let s ← get
    let goOn (c : Char) : Scan (List Char × Bool) := do
      let (piece, broken) ← takeQuotedPiece single start fuel
      pure (c :: piece, broken)
    match s.rest with
    | [] => pure ([], false)
    | c :: next =>
      if isGap c || isBreak c then pure ([], false)
      else if single then
        if c != '\'' then
          advance 1
          goOn c
        else if next.head? = some '\'' then
          advance 2
          goOn c
        else pure ([], false)
      else if c == '"' then pure ([], false)
      else if c != '\\' then
        advance 1
        goOn c
      else if s.looksAt 1 isBreak then
        lookAhead 3
        advance 1
        let _ ← takeBreak
        pure ([], true)
      else
        goOn (← takeEscape start)

/-- Reads the pieces between quotes and the blanks between them. -/
def takeQuotedPieces (single : Bool) (start : Mark) : Nat → List Char → Scan (List Char)
  | 0, text => pure text
  | fuel + 1, text => do
    lookAhead 4
    let s ← get
    if s.atDocumentIndicator then fail .documentIndicator (some (.quotedScalar, start))
    if s.rest.isEmpty then fail .endOfText (some (.quotedScalar, start))
    let (piece, broken) ← takeQuotedPiece single start (s.rest.length + 1)
    lookAhead 1
    let s ← get
    if s.looksAt 0 (· == (if single then '\'' else '"')) then pure (text ++ piece)
    else
      let fold ← takeFold none (s.rest.length + 1) { Fold.empty with broken := broken }
      takeQuotedPieces single start fuel (text ++ piece ++ fold.text)

/-- Reads a quoted scalar. -/
def takeQuotedScalar (single : Bool) : Scan Token := do
  let start := (← get).mark
  advance 1
  let text ← takeQuotedPieces single start ((← get).rest.length + 1) []
  advance 1
  pure ⟨.scalar (String.ofList text) .quoted, start, (← get).mark⟩

/-! ## Plain scalars -/

/-- Indicators that end a plain scalar in a flow collection. -/
def isFlowIndicator (c : Char) : Bool :=
  c == ',' || c == '[' || c == ']' || c == '\x7b' || c == '\x7d'

/-- Reads the characters of a plain scalar up to a blank or an indicator. -/
def takePlainPiece (start : Mark) : Nat → Scan (List Char)
  | 0 => pure []
  | fuel + 1 => do
    let s ← get
    match s.rest with
    | [] => pure []
    | c :: _ =>
      if isGap c || isBreak c then pure []
      else
        if s.inFlow && c == ':' && s.looksAt 1 (fun d => d == '?' || isFlowIndicator d) then
          fail .unexpectedColon (some (.plainScalar, start))
        if (c == ':' && s.blankAt 1) || (s.inFlow && isFlowIndicator c) then pure []
        else
          advance 1
          lookAhead 2
          pure (c :: (← takePlainPiece start fuel))

/-- Reads the pieces of a plain scalar and the blanks between them. Returns the text, the end of
the last piece, and whether a line break came after it. -/
def takePlainPieces (start : Mark) (least : Int) :
    Nat → List Char → Fold → Mark → Scan (List Char × Mark × Bool)
  | 0, text, fold, stop => pure (text, stop, fold.broken)
  | fuel + 1, text, fold, stop => do
    lookAhead 4
    let s ← get
    if s.atDocumentIndicator || s.looksAt 0 (· == '#') then pure (text, stop, fold.broken)
    else
      let piece ← takePlainPiece start (s.rest.length + 1)
      let joined := if piece.isEmpty then text else text ++ fold.text ++ piece
      let fold := if piece.isEmpty then fold else Fold.empty
      let s ← get
      let stop := if piece.isEmpty then stop else s.mark
      if !s.looksAt 0 (fun c => isGap c || isBreak c) then pure (joined, stop, fold.broken)
      else
        let fold ← takeFold (some (least, start)) (s.rest.length + 1) fold
        let s ← get
        if !s.inFlow && (s.mark.column : Int) < least then pure (joined, stop, fold.broken)
        else takePlainPieces start least fuel joined fold stop

/-- Reads a plain scalar. After a line break a key may begin again. -/
def takePlainScalar : Scan Token := do
  let s ← get
  let (text, stop, broken) ←
    takePlainPieces s.mark (s.indent + 1) (s.rest.length + 1) [] Fold.empty s.mark
  if broken then modify fun s => { s with keyAllowed := true }
  pure ⟨.scalar (String.ofList text) .plain, s.mark, stop⟩

end Scan

end LayerLint.Yaml
