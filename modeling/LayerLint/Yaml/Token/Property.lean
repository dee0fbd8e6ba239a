-- Anchors, aliases, tags and directives.
import LayerLint.Yaml.Token.Scanner

namespace LayerLint.Yaml

namespace Scan

/-! ## Anchors and aliases -/

/-- Characters that may follow the name of an anchor, next to blanks. -/
def endsName (c : Char) : Bool :=
  c == '?' || c == ':' || c == ',' || c == ']' || c == '\x7d' || c == '%' || c == '@' ||
    c == Char.ofNat 0x60

/-- Reads an anchor or an alias after its indicator. -/
def takeName (context : Context) (kind : String → TokenKind) : Scan Token := do
  let start := (← get).mark
  advance 1
  let name ← takeWhile isWord
  let s ← get
  if name.isEmpty || !(s.blankAt 0 || s.looksAt 0 endsName) then
    fail .noName (some (context, start))
  pure ⟨kind (String.ofList name), start, s.mark⟩

/-! ## Tags -/

/-- The octets of characters. -/
def octetsOf (cs : List Char) : TagText := Text.encode (String.ofList cs)

/-- Whether a tag is read in a directive, where messages name the directive. -/
def tagContext (directive : Bool) : Context := if directive then .handleDirectiveUri else .tagUri

/-- Reads further octets of an escaped character: each a percent sign and two digits. -/
def takeEscapedOctets (directive : Bool) (start : Mark) : Nat → Nat → Scan TagText
  | 0, _ => pure []
  | count + 1, read => do
    lookAhead 3
    match (← get).rest with
    | '%' :: high :: low :: _ =>
      match hexWorth? high, hexWorth? low with
      | some h, some l =>
        let octet := UInt8.ofNat (h * 16 + l)
        if read = 0 then
          match Text.leadingOctet octet with
          | none => fail .badLeadingOctet (some (tagContext directive, start))
          | some (width, _) =>
            advance 3
            pure (octet :: (← takeEscapedOctets directive start (min count (width - 1)) 1))
        else if octet.toNat < 0x80 || 0xC0 ≤ octet.toNat then
          fail .badTrailingOctet (some (tagContext directive, start))
        else
          advance 3
          pure (octet :: (← takeEscapedOctets directive start count (read + 1)))
      | _, _ => fail .noEscapedOctet (some (tagContext directive, start))
    | _ => fail .noEscapedOctet (some (tagContext directive, start))

/-- Characters of a tag. Between angle brackets, and in the meaning of a handle, three indicators
of flow collections may stand too. -/
def isTagCharacter (wide : Bool) (c : Char) : Bool :=
  isWord c || [';', '/', '?', ':', '@', '&', '=', '+', '$', '.', '!', '~', '*', '\'', '(', ')',
    '%'].contains c || (wide && (c == ',' || c == '[' || c == ']'))

/-- Reads the characters of a tag. -/
def takeTagCharacters (wide directive : Bool) (start : Mark) : Nat → Scan TagText
  | 0 => pure []
  | fuel + 1 => do
    lookAhead 1
    match (← get).rest with
    | c :: _ =>
      if !isTagCharacter wide c then pure []
      else if c == '%' then
        let octets ← takeEscapedOctets directive start 4 0
        pure (octets ++ (← takeTagCharacters wide directive start fuel))
      else
        advance 1
        pure (octetsOf [c] ++ (← takeTagCharacters wide directive start fuel))
    | [] => pure []

/-- Reads the rest of a tag whose first characters are already read. Its first character, a bang,
counts but is not part of the text. -/
def takeTagUri (wide directive : Bool) (head : List Char) (start : Mark) : Scan TagText := do
  let text ← takeTagCharacters wide directive start ((← get).rest.length + 1)
  if head.isEmpty && text.isEmpty then fail .noTagUri (some (tagContext directive, start))
  pure (octetsOf (head.drop 1) ++ text)

/-- Reads a handle: a bang, letters, and mostly a second bang. -/
def takeHandle (directive : Bool) (start : Mark) : Scan (List Char) := do
  lookAhead 1
  if !(← get).looksAt 0 (· == '!') then
    fail .noBang (some (if directive then .handleDirectiveStart else .tag, start))
  advance 1
  let name ← takeWhile isWord
  if (← get).looksAt 0 (· == '!') then
    advance 1
    pure ('!' :: name ++ ['!'])
  else
    if directive && !name.isEmpty then fail .noBang (some (.handleDirectiveEnd, start))
    pure ('!' :: name)

/-- Reads a tag: in angle brackets, with a handle, or with the primary handle. -/
def takeTag : Scan Token := do
  let start := (← get).mark
  lookAhead 2
  let (handle, suffix) ←
    if (← get).looksAt 1 (· == '<') then
      advance 2
      let suffix ← takeTagUri true false [] start
      if !(← get).looksAt 0 (· == '>') then fail .noVerbatimEnd (some (.tag, start))
      advance 1
      pure ("", suffix)
    else
      let head ← takeHandle false start
      if 1 < head.length && head.getLast? = some '!' then
        let suffix ← takeTagUri false false [] start
        pure (String.ofList head, suffix)
      else
        let suffix ← takeTagUri false false head start
        if suffix.isEmpty then pure ("", octetsOf ['!']) else pure ("!", suffix)
  lookAhead 1
  let s ← get
  if !(s.inFlow && s.looksAt 0 (· == ',')) && !s.blankAt 0 then
    fail .noSpaceOrBreak (some (.tag, start))
  pure ⟨.tag handle suffix, start, s.mark⟩

/-! ## Directives -/

/-- The longest version number, in digits. -/
def versionDigits : Nat := 9

/-- Reads a part of a version. -/
def takeVersionNumber (start : Mark) : Scan Nat := do
  lookAhead 1
  let digits := (← get).rest.takeWhile Char.isDigit
  if versionDigits < digits.length then
    advance versionDigits
    fail .longVersion (some (.versionDirective, start))
  advance digits.length
  lookAhead 1
  if digits.isEmpty then fail .noVersion (some (.versionDirective, start))
  pure (Decimal.ofDigits digits)

/-- Reads a version: two numbers and a point between them. -/
def takeVersion (start : Mark) : Scan TokenKind := do
  skipWhile isGap
  let major ← takeVersionNumber start
  if !(← get).looksAt 0 (· == '.') then fail .noVersionPoint (some (.versionDirective, start))
  advance 1
  pure (.version major (← takeVersionNumber start))

/-- Reads a handle and its meaning. -/
def takeHandleMeaning (start : Mark) : Scan TokenKind := do
  skipWhile isGap
  let handle ← takeHandle true start
  lookAhead 1
  if !(← get).looksAt 0 isGap then fail .noSpace (some (.handleDirective, start))
  skipWhile isGap
  let meaning ← takeTagUri true true [] start
  lookAhead 1
  if !(← get).blankAt 0 then fail .noSpaceOrBreak (some (.handleDirective, start))
  pure (.handle (String.ofList handle) meaning)

/-- Reads a directive and the rest of its line. -/
def takeDirective : Scan Token := do
  let start := (← get).mark
  advance 1
  lookAhead 1
  let name ← takeWhile isWord
  if name.isEmpty then fail .noDirectiveName (some (.directive, start))
  if !(← get).blankAt 0 then fail .badDirectiveName (some (.directive, start))
  let kind ←
    match String.ofList name with
    | "YAML" => takeVersion start
    | "TAG" => takeHandleMeaning start
    | _ => fail .unknownDirective (some (.directive, start))
  let stop := (← get).mark
  lookAhead 1
  skipWhile isGap
  skipComment
  if !(← get).atLineEnd then fail .noLineEnd (some (.directive, start))
  let _ ← takeBreak
  pure ⟨kind, start, stop⟩

end Scan

end LayerLint.Yaml
