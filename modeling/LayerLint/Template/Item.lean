-- The items of a template: literal texts and the actions between them. Comments leave no item, and
-- a dash beside a delimiter takes the blanks on its outer side away.
import LayerLint.Template.Token

namespace LayerLint.Template

/-- An item of a template. The line of an action is that of its opening delimiter. -/
inductive Item where
  | text (value : String)
  | action (tokens : List Token) (line : Nat)
  deriving DecidableEq, Repr

namespace Lexer

/-! ## Delimiters -/

/-- The text before the next opening delimiter, and what stands after the delimiter. -/
def takeText : List Char → List Char × Option (List Char)
  | [] => ([], none)
  | '\x7b' :: '\x7b' :: rest => ([], some rest)
  | c :: rest =>
    let (text, after) := takeText rest
    (c :: text, after)

/-- Whether the text after an opening delimiter begins with a dash and a blank. -/
def opensTrimmed : List Char → Bool
  | '-' :: c :: _ => Text.isBlank c
  | _ => false

/-- The text after a closing delimiter, if one comes next, and whether it has a dash. After
anything but a blank a dash is no part of the delimiter. -/
def close? (spaced : Bool) : List Char → Option (Bool × List Char)
  | '\x7d' :: '\x7d' :: rest => some (false, rest)
  | '-' :: '\x7d' :: '\x7d' :: rest => if spaced then some (true, rest) else none
  | _ => none

/-! ## Actions -/

/-- What an action leaves: its tokens, or nothing for a comment; whether it takes away the blanks
after it; and the text after it. -/
structure Action where
  tokens : Option (List Token)
  trims : Bool
  rest : List Char
  deriving Repr

/-- Reads tokens up to the closing delimiter. An action that is not closed is noted where it
begins. -/
def takeTokens (start : List Char) (spaced : Bool) (cs : List Char) :
    Except LexFault (List Token × Bool × List Char) :=
  match close? spaced cs with
  | some (trims, rest) => .ok ([], trims, rest)
  | none =>
    match cs with
    | [] => .error ⟨.unclosedAction, start⟩
    | c :: rest =>
      if Text.isBlank c then takeTokens start true rest
      else
        match _htoken : takeToken (c :: rest) with
        | .error fault => .error fault
        | .ok (kind, left) =>
          match takeTokens start false left with
          | .error fault => .error fault
          | .ok (tokens, trims, after) => .ok (⟨kind, spaced⟩ :: tokens, trims, after)
termination_by cs.length
decreasing_by
  · simp
  · exact length_takeToken_lt _htoken

/-- The text after the end of a comment. -/
def afterComment : List Char → Option (List Char)
  | [] => none
  | '*' :: '/' :: rest => some rest
  | _ :: rest => afterComment rest

/-- Reads a comment; nothing but blanks may stand between it and the closing delimiter. -/
def takeComment (cs : List Char) : Except LexFault Action :=
  match afterComment cs with
  | none => .error ⟨.unclosedComment, cs⟩
  | some after =>
    let rest := after.dropWhile Text.isBlank
    match close? (after.head?.any Text.isBlank) rest with
    | none => .error ⟨.commentNotLast, rest⟩
    | some (trims, left) => .ok ⟨none, trims, left⟩

/-- Reads an action after its opening delimiter. -/
def takeAction (cs : List Char) : Except LexFault Action :=
  let body := cs.dropWhile Text.isBlank
  if ['/', '*'].isPrefixOf body then takeComment body
  else
    match takeTokens cs true body with
    | .error fault => .error fault
    | .ok (tokens, trims, rest) => .ok ⟨some tokens, trims, rest⟩

/-! ## What each part leaves of the text -/

/-- A text, the opening delimiter after it and what is left make the whole again. -/
theorem eq_of_takeText {cs text rest : List Char} (h : takeText cs = (text, some rest)) :
    cs = text ++ '\x7b' :: '\x7b' :: rest := by
  fun_induction takeText cs generalizing text rest with
  | case1 => cases h
  | case2 =>
    cases h
    rfl
  | case3 c cs _ front after htext ih =>
    cases h
    rw [ih htext, List.cons_append]

/-- A closing delimiter, which may have a dash. -/
def closing (trims : Bool) : List Char :=
  if trims then ['-', '\x7d', '\x7d'] else ['\x7d', '\x7d']

/-- A closing delimiter comes next if it stands in front. One with a dash needs a blank before
it. -/
theorem close?_eq_some_iff {spaced trims : Bool} {cs rest : List Char} :
    close? spaced cs = some (trims, rest) ↔
      cs = closing trims ++ rest ∧ (trims = true → spaced = true) := by
  constructor
  · intro h
    unfold close? at h
    split at h
    · cases h
      exact ⟨rfl, nofun⟩
    · split at h
      · rename_i hspaced
        cases h
        exact ⟨rfl, fun _ => hspaced⟩
      · cases h
    · cases h
  · rintro ⟨rfl, htrims⟩
    cases trims with
    | false => rfl
    | true => simp [closing, close?, htrims rfl]

theorem suffix_close? {spaced trims : Bool} {cs rest : List Char}
    (h : close? spaced cs = some (trims, rest)) : rest <:+ cs :=
  ⟨closing trims, (close?_eq_some_iff.1 h).1.symm⟩

theorem suffix_takeTokens {start cs rest : List Char} {spaced trims : Bool} {tokens : List Token}
    (h : takeTokens start spaced cs = .ok (tokens, trims, rest)) : rest <:+ cs := by
  fun_induction takeTokens start spaced cs generalizing tokens trims rest with
  | case1 spaced cs _ _ hclose =>
    cases h
    exact suffix_close? hclose
  | case2 => cases h
  | case3 spaced c cs _ _ ih => exact (ih h).trans (List.suffix_cons c cs)
  | case4 => cases h
  | case5 => cases h
  | case6 =>
    rename_i htoken _ _ _ hrec _ ih
    cases h
    exact (ih hrec).trans ((suffix_takeToken htoken).trans (List.suffix_cons _ _))

theorem suffix_afterComment {cs rest : List Char} (h : afterComment cs = some rest) :
    rest <:+ cs := by
  fun_induction afterComment cs generalizing rest with
  | case1 => cases h
  | case2 rest =>
    cases h
    exact (List.suffix_cons _ rest).trans (List.suffix_cons _ _)
  | case3 c cs _ ih => exact (ih h).trans (List.suffix_cons c cs)

theorem suffix_takeComment {cs : List Char} {action : Action} (h : takeComment cs = .ok action) :
    action.rest <:+ cs := by
  unfold takeComment at h
  split at h
  · cases h
  · rename_i after hafter
    simp only at h
    split at h
    · cases h
    · rename_i hclose
      cases h
      have hblanks := (suffix_close? hclose).trans (List.dropWhile_suffix _)
      exact hblanks.trans (suffix_afterComment hafter)

/-- A comment leaves no tokens. -/
theorem tokens_takeComment {action : Action} (h : takeComment cs = .ok action) :
    action.tokens = none := by
  unfold takeComment at h
  split at h
  · cases h
  · simp only at h
    split at h
    · cases h
    · cases h
      rfl

theorem suffix_takeAction {cs : List Char} {action : Action} (h : takeAction cs = .ok action) :
    action.rest <:+ cs := by
  have hbody : cs.dropWhile Text.isBlank <:+ cs := List.dropWhile_suffix _
  unfold takeAction at h
  simp only at h
  split at h
  · exact (suffix_takeComment h).trans hbody
  · split at h
    · cases h
    · rename_i htokens
      cases h
      exact (suffix_takeTokens htokens).trans hbody

/-! ## All items -/

/-- A text without the blanks that the delimiters beside it take away; no item if it is empty. -/
def textItem (trimmedBefore trimmedAfter : Bool) (cs : List Char) : List Item :=
  let kept := if trimmedAfter then Text.trimEnd cs else cs
  let kept := if trimmedBefore then Text.trimStart kept else kept
  if kept.isEmpty then [] else [.text (String.ofList kept)]

/-- The line on which the rest of a text begins, if the whole text has so many line feeds. -/
def lineOf (lineFeeds : Nat) (rest : List Char) : Nat := lineFeeds - rest.count '\n' + 1

/-- Reads items to the end of the text. -/
def takeItems (lineFeeds : Nat) (trimmed : Bool) (cs : List Char) : Except LexFault (List Item) :=
  match _htext : takeText cs with
  | (text, none) => .ok (textItem trimmed false text)
  | (text, some rest) =>
    let body := if opensTrimmed rest then rest.drop 1 else rest
    match _haction : takeAction body with
    | .error fault => .error fault
    | .ok action =>
      match takeItems lineFeeds action.trims action.rest with
      | .error fault => .error fault
      | .ok items =>
        .ok (textItem trimmed (opensTrimmed rest) text ++
          (action.tokens.map fun tokens => Item.action tokens (lineOf lineFeeds body)).toList ++
          items)
termination_by cs.length
decreasing_by
  have htext := congrArg List.length (eq_of_takeText _htext)
  have haction := (suffix_takeAction _haction).length_le
  have hbody : body.length ≤ rest.length := by
    simp only [body]
    split
    · exact (List.drop_suffix 1 rest).length_le
    · exact Nat.le_refl _
  simp only [List.length_append, List.length_cons] at htext
  omega

/-- Without an opening delimiter the whole text is one item. -/
theorem takeItems_of_takeText_none {lineFeeds : Nat} {trimmed : Bool} {cs text : List Char}
    (h : takeText cs = (text, none)) :
    takeItems lineFeeds trimmed cs = .ok (textItem trimmed false text) := by
  rw [takeItems]
  split
  · rename_i heq
    rw [h] at heq
    cases heq
    rfl
  · rename_i heq
    rw [h] at heq
    cases heq

/-- The text of an action, from behind the opening delimiter and its dash. -/
def bodyOf (rest : List Char) : List Char := if opensTrimmed rest then rest.drop 1 else rest

theorem suffix_bodyOf (rest : List Char) : bodyOf rest <:+ rest := by
  unfold bodyOf
  split
  · exact List.drop_suffix 1 rest
  · exact List.suffix_rfl

/-- A text and the action after it are read, and then the rest. -/
theorem takeItems_of_takeText_some {lineFeeds : Nat} {trimmed : Bool} {cs text rest : List Char}
    (h : takeText cs = (text, some rest)) :
    takeItems lineFeeds trimmed cs =
      match takeAction (bodyOf rest) with
      | .error fault => .error fault
      | .ok action =>
        (takeItems lineFeeds action.trims action.rest).map fun items =>
          textItem trimmed (opensTrimmed rest) text ++
            (action.tokens.map fun tokens =>
              Item.action tokens (lineOf lineFeeds (bodyOf rest))).toList ++ items := by
  rw [takeItems]
  split
  · rename_i heq
    rw [h] at heq
    cases heq
  · rename_i heq
    rw [h] at heq
    cases heq
    simp only [bodyOf]
    split
    · rename_i haction
      rw [haction]
    · rename_i action haction
      rw [haction]
      dsimp only
      cases takeItems lineFeeds action.trims action.rest <;> rfl

end Lexer

/-- A problem in the characters of a template and its line. -/
structure LexError where
  problem : LexProblem
  line : Nat
  deriving DecidableEq, Repr

/-- The items of a template. -/
def Item.ofText (source : List Char) : Except LexError (List Item) :=
  let lineFeeds := source.count '\n'
  match Lexer.takeItems lineFeeds false source with
  | .error fault => .error ⟨fault.problem, Lexer.lineOf lineFeeds fault.rest⟩
  | .ok items => .ok items

end LayerLint.Template
