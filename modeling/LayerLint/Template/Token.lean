-- The tokens inside of an action, and how one of them is read from the front of a text. Every
-- token is at least one character long.
import LayerLint.Text.Blank
import LayerLint.Text.Letter
import LayerLint.Text.Quoted

namespace LayerLint.Template

/-- The kinds of tokens. The chain of a field or a variable holds the names after its points. -/
inductive TokenKind where
  | field (chain : List String)
  | variable (name : String) (chain : List String)
  | identifier (name : String)
  | text (value : String)
  | number (spelling : String)
  | character (value : Char)
  | boolean (value : Bool)
  | nil
  | leftParen
  | rightParen
  | pipe
  | declare
  | assign
  | comma
  deriving DecidableEq, Repr

/-- A token, and whether a blank stands before it. -/
structure Token where
  kind : TokenKind
  spaced : Bool
  deriving DecidableEq, Repr

/-- What can be wrong with the characters of a template. -/
inductive LexProblem where
  | unclosedAction
  | unclosedComment
  | commentNotLast
  | loneColon
  | openText
  | openRawText
  | badCharacter
  | openCharacter
  | unknownEscape (c : Char)
  | openEscape
  | unexpected (c : Char)
  deriving DecidableEq, Repr

def LexProblem.message : LexProblem → String
  | .unclosedAction => "unclosed action"
  | .unclosedComment => "unclosed comment"
  | .commentNotLast => "comment ends before closing delimiter"
  | .loneColon => "expected :="
  | .openText => "unterminated quoted string"
  | .openRawText => "unterminated raw quoted string"
  | .badCharacter => "malformed character constant"
  | .openCharacter => "unterminated character constant"
  | .unknownEscape c => "unknown escape sequence \\" ++ String.singleton c
  | .openEscape => "unterminated escape sequence"
  | .unexpected c => "unexpected " ++ Text.quotedChar c ++ " in action"

/-- A problem and the text that was left when it showed. -/
structure LexFault where
  problem : LexProblem
  rest : List Char
  deriving DecidableEq, Repr

/-! ## Names -/

/-- A character with which a name begins. -/
def isNameStart (c : Char) : Bool := c == '_' || Text.isLetter c

/-- A character of a name. -/
def isNameChar (c : Char) : Bool := c == '_' || Text.isLetter c || Text.isNumber c

/-- Reads the rest of a chain whose first point and the letter after it are known to be there. The
letters of the present name stand in front, the last one first. -/
def takeNames (name : List Char) : List Char → List String × List Char
  | [] => ([String.ofList name.reverse], [])
  | c :: rest =>
    if isNameChar c then takeNames (c :: name) rest
    else if c = '.' ∧ rest.head?.any isNameStart then
      let (names, left) := takeNames [] rest
      (String.ofList name.reverse :: names, left)
    else ([String.ofList name.reverse], c :: rest)

/-- Reads a chain: points with a name after each. A point without a name is an empty chain, but
two points are none. -/
def takeChain : List Char → List String × List Char
  | '.' :: rest =>
    if rest.head?.any isNameStart then takeNames [] rest
    else if rest.head? = some '.' then ([], '.' :: rest)
    else ([], rest)
  | cs => ([], cs)

/-! ## Numbers -/

/-- Whether a sign may follow the characters of a number: it stands after an exponent mark. -/
def takesSign (number : List Char) : Bool :=
  (number.getLast?.any fun c => c == 'e' || c == 'E' || c == 'p' || c == 'P') &&
    !List.isPrefixOf ['0', 'x'] number

/-- Reads the characters of a number; those before stand in front. -/
def takeNumberTail (number : List Char) : List Char → List Char × List Char
  | [] => (number, [])
  | c :: rest =>
    if c.isAlphanum || c == '.' || c == '_' || ((c == '+' || c == '-') && takesSign number) then
      takeNumberTail (number ++ [c]) rest
    else (number, c :: rest)

/-- Reads a number: a sign, if there is one, and its characters. -/
def takeNumber : List Char → List Char × List Char
  | [] => ([], [])
  | c :: rest =>
    if c == '+' || c == '-' then takeNumberTail [c] rest else takeNumberTail [] (c :: rest)

/-! ## Quoted text and characters -/

/-- The character that an escape stands for. -/
def escaped? : Char → Option Char
  | 'n' => some '\n'
  | 't' => some '\t'
  | 'r' => some '\r'
  | '0' => some (Char.ofNat 0)
  | '\\' => some '\\'
  | '"' => some '"'
  | '\'' => some '\''
  | _ => none

/-- Reads an escape after its backslash. -/
def takeEscape : List Char → Except LexFault (Char × List Char)
  | [] => .error ⟨.openEscape, []⟩
  | c :: rest =>
    match escaped? c with
    | some d => .ok (d, rest)
    | none => .error ⟨.unknownEscape c, rest⟩

/-- Reads text up to its closing quote; it stands in one line. -/
def takeQuoted : List Char → Except LexFault (List Char × List Char)
  | [] => .error ⟨.openText, []⟩
  | '\\' :: [] => .error ⟨.openEscape, []⟩
  | '\\' :: c :: rest =>
    match escaped? c with
    | some d =>
      match takeQuoted rest with
      | .error fault => .error fault
      | .ok (cs, left) => .ok (d :: cs, left)
    | none => .error ⟨.unknownEscape c, rest⟩
  | c :: rest =>
    if c = '"' then .ok ([], rest)
    else if c = '\n' then .error ⟨.openText, rest⟩
    else
      match takeQuoted rest with
      | .error fault => .error fault
      | .ok (cs, left) => .ok (c :: cs, left)

/-- The mark around text in which a backslash is a backslash. -/
def rawQuote : Char := Char.ofNat 0x60

/-- Reads raw text up to its closing mark. -/
def takeRaw (cs : List Char) : Except LexFault (List Char × List Char) :=
  match cs.dropWhile (· != rawQuote) with
  | [] => .error ⟨.openRawText, cs⟩
  | _ :: rest => .ok (cs.takeWhile (· != rawQuote), rest)

/-- Reads the closing quote of a character. -/
def closeCharacter (c : Char) : List Char → Except LexFault (Char × List Char)
  | '\'' :: rest => .ok (c, rest)
  | cs => .error ⟨.openCharacter, cs.drop 1⟩

/-- Reads a character up to its closing quote. -/
def takeCharacter : List Char → Except LexFault (Char × List Char)
  | '\\' :: rest =>
    match takeEscape rest with
    | .error fault => .error fault
    | .ok (c, left) => closeCharacter c left
  | c :: rest =>
    if c = '\'' ∨ c = '\n' then .error ⟨.badCharacter, rest⟩ else closeCharacter c rest
  | [] => .error ⟨.badCharacter, []⟩

/-! ## One token -/

/-- The token of a name: three names stand for values. -/
def nameToken (name : List Char) : TokenKind :=
  match String.ofList name with
  | "true" => .boolean true
  | "false" => .boolean false
  | "nil" => .nil
  | s => .identifier s

/-- Reads a token that begins with a point: a number or a chain. Two points are a chain without a
name that takes nothing from the text, so that whoever reads on finds it again and again and never
comes to an answer. Here the answer is an error instead, as for anything else that begins no token;
the step that stays at two points is `Lexer.scanToken` in Proofs/Template/Progress. -/
def takePointed (rest : List Char) : Except LexFault (TokenKind × List Char) :=
  if rest.head?.any Char.isDigit then
    let (number, left) := takeNumber ('.' :: rest)
    .ok (.number (String.ofList number), left)
  else if rest.head? = some '.' then .error ⟨.unexpected '.', '.' :: rest⟩
  else
    let (chain, left) := takeChain ('.' :: rest)
    .ok (.field chain, left)

/-- Reads a variable after its mark. -/
def takeVariable (rest : List Char) : TokenKind × List Char :=
  let name := rest.takeWhile isNameChar
  let (chain, left) := takeChain (rest.dropWhile isNameChar)
  (.variable (String.ofList ('$' :: name)) chain, left)

/-- Reads a token that begins with a sign, a digit or a letter. -/
def takeWord (c : Char) (rest : List Char) : Except LexFault (TokenKind × List Char) :=
  let signed := (c == '+' || c == '-') && rest.head?.any fun d => d.isDigit || d == '.'
  if signed || c.isDigit then
    let (number, left) := takeNumber (c :: rest)
    .ok (.number (String.ofList number), left)
  else if isNameStart c then
    .ok (nameToken (c :: rest.takeWhile isNameChar), rest.dropWhile isNameChar)
  else .error ⟨.unexpected c, c :: rest⟩

/-- Reads the token at the front of a text that begins with no blank. -/
def takeToken : List Char → Except LexFault (TokenKind × List Char)
  | [] => .error ⟨.unclosedAction, []⟩
  | c :: rest =>
    if c = '|' then .ok (.pipe, rest)
    else if c = '(' then .ok (.leftParen, rest)
    else if c = ')' then .ok (.rightParen, rest)
    else if c = ',' then .ok (.comma, rest)
    else if c = '=' then .ok (.assign, rest)
    else if c = ':' then
      if rest.head? = some '=' then .ok (.declare, rest.drop 1)
      else .error ⟨.loneColon, rest.drop 1⟩
    else if c = '"' then
      match takeQuoted rest with
      | .error fault => .error fault
      | .ok (cs, left) => .ok (.text (String.ofList cs), left)
    else if c = rawQuote then
      match takeRaw rest with
      | .error fault => .error fault
      | .ok (cs, left) => .ok (.text (String.ofList cs), left)
    else if c = '\'' then
      match takeCharacter rest with
      | .error fault => .error fault
      | .ok (d, left) => .ok (.character d, left)
    else if c = '.' then takePointed rest
    else if c = '$' then .ok (takeVariable rest)
    else takeWord c rest

/-! ## What a token leaves of the text -/

theorem suffix_takeNames (name cs : List Char) : (takeNames name cs).2 <:+ cs := by
  induction cs generalizing name with
  | nil => exact List.suffix_rfl
  | cons c rest ih =>
    simp only [takeNames]
    split
    · exact (ih _).trans (List.suffix_cons c rest)
    · split
      · exact (ih _).trans (List.suffix_cons c rest)
      · exact List.suffix_rfl

theorem suffix_takeChain (cs : List Char) : (takeChain cs).2 <:+ cs := by
  unfold takeChain
  split
  · rename_i rest
    split
    · exact (suffix_takeNames _ _).trans (List.suffix_cons _ rest)
    · split
      · exact List.suffix_rfl
      · exact List.suffix_cons _ rest
  · exact List.suffix_rfl

theorem suffix_takeNumberTail (number cs : List Char) : (takeNumberTail number cs).2 <:+ cs := by
  induction cs generalizing number with
  | nil => exact List.suffix_rfl
  | cons c rest ih =>
    simp only [takeNumberTail]
    split
    · exact (ih _).trans (List.suffix_cons c rest)
    · exact List.suffix_rfl

/-- A number takes its first character at least, if this is a character of a number. -/
theorem suffix_takeNumber {c : Char} {rest : List Char}
    (h : c = '+' ∨ c = '-' ∨ c = '.' ∨ c.isAlphanum = true) :
    (takeNumber (c :: rest)).2 <:+ rest := by
  simp only [takeNumber]
  split
  · exact suffix_takeNumberTail _ _
  · rename_i hsign
    simp only [takeNumberTail]
    split
    · exact suffix_takeNumberTail _ _
    · rename_i hstop
      simp only [Bool.or_eq_true, beq_iff_eq, not_or] at hsign hstop
      rcases h with h | h | h | h
      · exact absurd h hsign.1
      · exact absurd h hsign.2
      · exact absurd h hstop.1.1.2
      · exact absurd h hstop.1.1.1

theorem suffix_takeQuoted {cs out left : List Char} (h : takeQuoted cs = .ok (out, left)) :
    left <:+ cs := by
  fun_induction takeQuoted cs generalizing out left with
  | case1 => cases h
  | case2 => cases h
  | case3 => simp_all
  | case4 c rest _ _ _ _ hrec ih =>
    cases h
    exact (ih hrec).trans ((List.suffix_cons c rest).trans (List.suffix_cons _ _))
  | case5 => cases h
  | case6 rest =>
    cases h
    exact List.suffix_cons _ rest
  | case7 => cases h
  | case8 => simp_all
  | case9 c rest _ _ _ _ _ _ hrec ih =>
    cases h
    exact (ih hrec).trans (List.suffix_cons c rest)

theorem suffix_takeRaw {cs out left : List Char} (h : takeRaw cs = .ok (out, left)) :
    left <:+ cs := by
  unfold takeRaw at h
  split at h
  · cases h
  · rename_i c rest hrest
    cases h
    have hdrop : c :: left <:+ cs := hrest ▸ List.dropWhile_suffix _
    exact (List.suffix_cons c left).trans hdrop

theorem suffix_closeCharacter {c d : Char} {cs left : List Char}
    (h : closeCharacter c cs = .ok (d, left)) : left <:+ cs := by
  unfold closeCharacter at h
  split at h
  · cases h
    exact List.suffix_cons _ _
  · cases h

theorem suffix_takeEscape {cs left : List Char} {c : Char} (h : takeEscape cs = .ok (c, left)) :
    left <:+ cs := by
  unfold takeEscape at h
  split at h
  · cases h
  · split at h
    · cases h
      exact List.suffix_cons _ _
    · cases h

theorem suffix_takeCharacter {cs left : List Char} {c : Char}
    (h : takeCharacter cs = .ok (c, left)) : left <:+ cs := by
  unfold takeCharacter at h
  split at h
  · split at h
    · cases h
    · rename_i hescape
      have hclose := (suffix_closeCharacter h).trans (suffix_takeEscape hescape)
      exact hclose.trans (List.suffix_cons _ _)
  · split at h
    · cases h
    · exact (suffix_closeCharacter h).trans (List.suffix_cons _ _)
  · cases h

theorem suffix_takePointed {rest left : List Char} {kind : TokenKind}
    (h : takePointed rest = .ok (kind, left)) : left <:+ rest := by
  unfold takePointed at h
  split at h
  · cases h
    exact suffix_takeNumber (.inr (.inr (.inl rfl)))
  · split at h
    · cases h
    · rename_i hpoints
      simp only [Except.ok.injEq, Prod.mk.injEq] at h
      rw [← h.2]
      simp only [takeChain, if_neg hpoints]
      split
      · exact suffix_takeNames _ _
      · exact List.suffix_rfl

theorem suffix_takeVariable (rest : List Char) : (takeVariable rest).2 <:+ rest :=
  (suffix_takeChain _).trans (List.dropWhile_suffix _)

theorem suffix_takeWord {c : Char} {rest left : List Char} {kind : TokenKind}
    (h : takeWord c rest = .ok (kind, left)) : left <:+ rest := by
  unfold takeWord at h
  simp only at h
  split at h
  · rename_i hnumber
    cases h
    apply suffix_takeNumber
    simp only [Bool.or_eq_true, Bool.and_eq_true, beq_iff_eq] at hnumber
    rcases hnumber with ⟨h | h, _⟩ | h
    · exact .inl h
    · exact .inr (.inl h)
    · exact .inr (.inr (.inr (by simp [Char.isAlphanum, h])))
  · split at h
    · cases h
      exact List.dropWhile_suffix _
    · cases h

/-- What a token at the front of a text can be, and the text after it. -/
inductive TokenRead (c : Char) (rest : List Char) : TokenKind → List Char → Prop
  | mark {kind : TokenKind} : kind ∈ [.pipe, .leftParen, .rightParen, .comma, .assign] →
      TokenRead c rest kind rest
  | declare : TokenRead c rest .declare (rest.drop 1)
  | quoted {cs left : List Char} : takeQuoted rest = .ok (cs, left) →
      TokenRead c rest (.text (String.ofList cs)) left
  | raw {cs left : List Char} : takeRaw rest = .ok (cs, left) →
      TokenRead c rest (.text (String.ofList cs)) left
  | character {d : Char} {left : List Char} : takeCharacter rest = .ok (d, left) →
      TokenRead c rest (.character d) left
  | pointed {kind : TokenKind} {left : List Char} : takePointed rest = .ok (kind, left) →
      TokenRead c rest kind left
  | dollar : TokenRead c rest (takeVariable rest).1 (takeVariable rest).2
  | word {kind : TokenKind} {left : List Char} : takeWord c rest = .ok (kind, left) →
      TokenRead c rest kind left

theorem tokenRead_of_takeToken {c : Char} {rest left : List Char} {kind : TokenKind}
    (h : takeToken (c :: rest) = .ok (kind, left)) : TokenRead c rest kind left := by
  rw [takeToken] at h
  by_cases hpipe : c = '|'
  · rw [if_pos hpipe] at h
    cases h
    exact .mark (by simp)
  rw [if_neg hpipe] at h
  by_cases hleft : c = '('
  · rw [if_pos hleft] at h
    cases h
    exact .mark (by simp)
  rw [if_neg hleft] at h
  by_cases hright : c = ')'
  · rw [if_pos hright] at h
    cases h
    exact .mark (by simp)
  rw [if_neg hright] at h
  by_cases hcomma : c = ','
  · rw [if_pos hcomma] at h
    cases h
    exact .mark (by simp)
  rw [if_neg hcomma] at h
  by_cases hassign : c = '='
  · rw [if_pos hassign] at h
    cases h
    exact .mark (by simp)
  rw [if_neg hassign] at h
  by_cases hcolon : c = ':'
  · rw [if_pos hcolon] at h
    split at h
    · cases h
      exact .declare
    · cases h
  rw [if_neg hcolon] at h
  by_cases hquote : c = '"'
  · rw [if_pos hquote] at h
    split at h
    · cases h
    · rename_i hread
      cases h
      exact .quoted hread
  rw [if_neg hquote] at h
  by_cases hraw : c = rawQuote
  · rw [if_pos hraw] at h
    split at h
    · cases h
    · rename_i hread
      cases h
      exact .raw hread
  rw [if_neg hraw] at h
  by_cases hsingle : c = '\''
  · rw [if_pos hsingle] at h
    split at h
    · cases h
    · rename_i hread
      cases h
      exact .character hread
  rw [if_neg hsingle] at h
  by_cases hpoint : c = '.'
  · rw [if_pos hpoint] at h
    exact .pointed h
  rw [if_neg hpoint] at h
  by_cases hdollar : c = '$'
  · rw [if_pos hdollar] at h
    cases h
    exact .dollar
  rw [if_neg hdollar] at h
  exact .word h

/-- Reading a token leaves what stands behind its first character, or less of it. -/
theorem suffix_takeToken {c : Char} {rest left : List Char} {kind : TokenKind}
    (h : takeToken (c :: rest) = .ok (kind, left)) : left <:+ rest := by
  cases tokenRead_of_takeToken h with
  | mark => exact List.suffix_rfl
  | declare => exact List.drop_suffix 1 rest
  | quoted hread => exact suffix_takeQuoted hread
  | raw hread => exact suffix_takeRaw hread
  | character hread => exact suffix_takeCharacter hread
  | pointed hread => exact suffix_takePointed hread
  | dollar => exact suffix_takeVariable rest
  | word hread => exact suffix_takeWord hread

/-- Reading a token leaves less text than there was. -/
theorem length_takeToken_lt {cs left : List Char} {kind : TokenKind}
    (h : takeToken cs = .ok (kind, left)) : left.length < cs.length := by
  cases cs with
  | nil => cases h
  | cons c rest => exact Nat.lt_succ_of_le (suffix_takeToken h).length_le

end LayerLint.Template
