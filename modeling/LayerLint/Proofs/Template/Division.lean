-- A source that is read is divided into parts and a last gap: each part is a gap, an opening
-- delimiter, a body and the delimiter that closes it. The items are those of the parts, and blanks
-- are taken from a gap only where a dash beside it asks for it.
import LayerLint.Proofs.Template.Written
import Mathlib.Data.List.DropRight

namespace LayerLint.Template.Lexer

/-! ## Parts of a source -/

/-- A gap and the action or comment behind it, with what stands between its delimiters. A comment
has no tokens. -/
structure Part where
  gap : List Char
  body : List Char
  tokens : Option (List Token)
  trims : Bool
  deriving DecidableEq, Repr

/-- The text of a part. -/
def Part.source (p : Part) : List Char :=
  p.gap ++ '\x7b' :: '\x7b' :: (p.body ++ closing p.trims)

def sourceOf (parts : List Part) : List Char := parts.flatMap Part.source

/-- A closing delimiter stands in front. One with a dash closes only behind a blank. -/
def Closes (spaced : Bool) (cs : List Char) : Prop :=
  ∃ trims rest, cs = closing trims ++ rest ∧ (trims = true → spaced = true)

/-- Blanks and tokens up to the first delimiter that closes them, in front of a closing delimiter
and the rest of a source. At its beginning an action counts as being behind a blank. -/
inductive Inside (trims : Bool) (rest : List Char) : Bool → List Char → List Token → Prop
  | close {spaced : Bool} : (trims = true → spaced = true) → Inside trims rest spaced [] []
  | blank {spaced : Bool} {c : Char} {inner : List Char} {tokens : List Token} :
      Text.isBlank c = true → Inside trims rest true inner tokens →
      Inside trims rest spaced (c :: inner) tokens
  | token {spaced : Bool} {lexeme inner : List Char} {kind : TokenKind} {tokens : List Token} :
      ¬ Closes spaced (lexeme ++ (inner ++ (closing trims ++ rest))) →
      takeToken (lexeme ++ (inner ++ (closing trims ++ rest))) =
        .ok (kind, inner ++ (closing trims ++ rest)) →
      Inside trims rest false inner tokens →
      Inside trims rest spaced (lexeme ++ inner) (⟨kind, spaced⟩ :: tokens)

/-- A comment with nothing but blanks around it. It ends where its closing mark first stands. -/
def IsComment (trims : Bool) (inner : List Char) : Prop :=
  ∃ blanks comment after, inner = blanks ++ (comment ++ '*' :: '/' :: after) ∧
    (∀ c ∈ blanks, Text.isBlank c = true) ∧ ['/', '*'] <+: comment ++ ['*', '/'] ∧
    ¬ ['*', '/'] <:+: comment ++ ['*'] ∧ (∀ c ∈ after, Text.isBlank c = true) ∧
    (trims = true → after ≠ [])

/-- A part stands in front of the rest of a source. No opening delimiter begins in the gap, and a
dash closes only behind a blank or at the very beginning. -/
structure Part.StandsBefore (p : Part) (rest : List Char) : Prop where
  gap : ¬ ['\x7b', '\x7b'] <:+: p.gap ++ ['\x7b']
  dash : p.trims = true → ∀ c ∈ p.body.getLast?, Text.isBlank c = true
  action : ∀ tokens, p.tokens = some tokens → Inside p.trims rest true (bodyOf p.body) tokens
  comment : p.tokens = none → IsComment p.trims (bodyOf p.body)

/-- A source is parts and a last gap. -/
structure Divides (source : List Char) (parts : List Part) (last : List Char) : Prop where
  whole : source = sourceOf parts ++ last
  each : ∀ front p back, parts = front ++ p :: back → p.StandsBefore (sourceOf back ++ last)
  last : ¬ ['\x7b', '\x7b'] <:+: last

/-! ## Items of parts -/

/-- What is kept of a gap. -/
def keptOf (trimmedBefore trimmedAfter : Bool) (gap : List Char) : List Char :=
  let kept := if trimmedAfter then gap.rdropWhile Text.isBlank else gap
  if trimmedBefore then kept.dropWhile Text.isBlank else kept

/-- The item of a gap, if anything is kept of it. -/
def gapItem (trimmedBefore trimmedAfter : Bool) (gap : List Char) : List Item :=
  if (keptOf trimmedBefore trimmedAfter gap).isEmpty then []
  else [.text (String.ofList (keptOf trimmedBefore trimmedAfter gap))]

/-- Whether the last of some parts is closed with a dash. -/
def closedTrimmed (front : List Part) : Bool := front.getLast?.any Part.trims

/-- The items of parts and of the gap behind them, with the parts that stand in front. A part that
opens with a dash and a blank takes the blanks before it away, and an action is on the line of its
opening delimiter. -/
def itemsOf (front : List Part) : List Part → List Char → List Item
  | [], last => gapItem (closedTrimmed front) false last
  | p :: parts, last =>
    gapItem (closedTrimmed front) (opensTrimmed p.body) p.gap ++
      (p.tokens.map fun tokens =>
        Item.action tokens (1 + (sourceOf front ++ p.gap).count '\n')).toList ++
      itemsOf (front ++ [p]) parts last

/-! ## Gaps -/

theorem trimEnd_eq_rdropWhile (cs : List Char) :
    Text.trimEnd cs = cs.rdropWhile Text.isBlank := by
  induction cs with
  | nil => rfl
  | cons c rest ih =>
    have hreverse : (rest.reverse.dropWhile Text.isBlank).reverse = Text.trimEnd rest := ih.symm
    rw [List.rdropWhile, List.reverse_cons, List.dropWhile_append]
    cases hrest : rest.reverse.dropWhile Text.isBlank with
    | nil =>
      rw [hrest] at hreverse
      simp only [Text.trimEnd, ← hreverse, List.reverse_nil, List.isEmpty_nil, if_true]
      by_cases hc : Text.isBlank c = true
      · simp [hc]
      · simp [hc]
    | cons d kept =>
      rw [hrest] at hreverse
      have hne : Text.trimEnd rest ≠ [] := by simp [← hreverse]
      obtain ⟨k, ks, hkept⟩ := List.exists_cons_of_ne_nil hne
      rw [List.isEmpty_cons, if_neg Bool.false_ne_true, List.reverse_append, hreverse]
      simp only [Text.trimEnd, hkept]
      rfl

theorem textItem_eq_gapItem (trimmedBefore trimmedAfter : Bool) (cs : List Char) :
    textItem trimmedBefore trimmedAfter cs = gapItem trimmedBefore trimmedAfter cs := by
  unfold textItem gapItem keptOf
  rw [trimEnd_eq_rdropWhile]
  rfl

/-- Reading a text stops at the first opening delimiter. -/
theorem not_infix_of_takeText {cs text rest : List Char} (h : takeText cs = (text, some rest)) :
    ¬ ['\x7b', '\x7b'] <:+: text ++ ['\x7b'] := by
  fun_induction takeText cs generalizing text rest with
  | case1 => cases h
  | case2 =>
    cases h
    decide
  | case3 c cs hopen front after htext ih =>
    cases h
    have hcs := eq_of_takeText htext
    rw [List.cons_append, pair_infix_cons_iff, not_or]
    refine ⟨?_, ih htext⟩
    rintro ⟨hc, hhead⟩
    cases front with
    | nil => exact hopen _ hc hcs
    | cons d front =>
      simp only [List.cons_append, List.head?_cons, Option.some.injEq] at hhead
      rw [hhead] at hcs
      exact hopen _ hc hcs

theorem not_infix_of_takeText_none {cs text : List Char} (h : takeText cs = (text, none)) :
    text = cs ∧ ¬ ['\x7b', '\x7b'] <:+: cs := by
  fun_induction takeText cs generalizing text with
  | case1 =>
    cases h
    simp
  | case2 => cases h
  | case3 c cs hopen front after htext ih =>
    cases h
    obtain ⟨rfl, hnone⟩ := ih htext
    refine ⟨rfl, ?_⟩
    rw [pair_infix_cons_iff, not_or]
    refine ⟨?_, hnone⟩
    rintro ⟨hc, hhead⟩
    cases front with
    | nil => cases hhead
    | cons d front =>
      cases hhead
      exact hopen front hc rfl

/-! ## Tokens and comments -/

section Actions

variable {trims spaced : Bool} {cs inner rest : List Char} {tokens : List Token}

theorem closes_iff : Closes spaced cs ↔ close? spaced cs ≠ none := by
  rw [Option.ne_none_iff_exists']
  constructor
  · rintro ⟨trims, rest, h⟩
    exact ⟨(trims, rest), close?_eq_some_iff.2 h⟩
  · rintro ⟨⟨trims, rest⟩, h⟩
    exact ⟨trims, rest, close?_eq_some_iff.1 h⟩

/-- What is read as tokens stands inside of delimiters. The recursion is that of reading. -/
theorem inside_of_takeTokens {start : List Char}
    (h : takeTokens start spaced cs = .ok (tokens, trims, rest)) :
    ∃ inner, cs = inner ++ (closing trims ++ rest) ∧ Inside trims rest spaced inner tokens := by
  fun_induction takeTokens start spaced cs generalizing tokens trims rest with
  | case1 spaced cs _ _ hclose =>
    cases h
    obtain ⟨hcs, htrims⟩ := close?_eq_some_iff.1 hclose
    exact ⟨[], hcs, .close htrims⟩
  | case2 => cases h
  | case3 spaced c cs hblank _ ih =>
    obtain ⟨inner, hcs, hinside⟩ := ih h
    exact ⟨c :: inner, by rw [hcs, List.cons_append], .blank hblank hinside⟩
  | case4 => cases h
  | case5 => cases h
  | case6 spaced c cs _ kind left htoken _ _ _ hrec hclose ih =>
    cases h
    obtain ⟨inner, rfl, hinside⟩ := ih hrec
    obtain ⟨skipped, hskipped⟩ := (suffix_takeToken htoken).trans (List.suffix_cons c cs)
    rw [← hskipped] at hclose htoken
    refine ⟨skipped ++ inner, by rw [List.append_assoc, hskipped], .token ?_ htoken hinside⟩
    rw [closes_iff, not_not]
    exact hclose

theorem takeTokens_of_inside {start : List Char} (h : Inside trims rest spaced inner tokens) :
    takeTokens start spaced (inner ++ (closing trims ++ rest)) = .ok (tokens, trims, rest) := by
  induction h with
  | close htrims => exact takeTokens_of_close? (close?_eq_some_iff.2 ⟨rfl, htrims⟩)
  | blank hblank _ ih =>
    rw [List.cons_append, takeTokens_of_isBlank hblank]
    exact ih
  | token _ htoken _ ih =>
    rw [List.append_assoc]
    exact takeTokens_of_takeToken htoken ih

/-- A dash closes behind a blank, or at the beginning if this counts as one. -/
theorem Inside.dash (h : Inside true rest spaced inner tokens) :
    (inner = [] → spaced = true) ∧ ∀ c ∈ inner.getLast?, Text.isBlank c = true := by
  induction h with
  | close htrims => exact ⟨fun _ => htrims rfl, nofun⟩
  | @blank spaced c inner tokens hblank _ ih =>
    refine ⟨nofun, ?_⟩
    intro d hd
    cases inner with
    | nil =>
      cases hd
      exact hblank
    | cons => exact ih.2 d hd
  | @token spaced lexeme inner kind tokens _ _ _ ih =>
    have hne : inner ≠ [] := fun h => Bool.false_ne_true (ih.1 h)
    rw [List.getLast?_append_of_ne_nil _ hne]
    exact ⟨fun h => absurd (List.append_eq_nil_iff.1 h).2 hne, ih.2⟩

theorem IsComment.dash (h : IsComment true inner) :
    ∀ c ∈ inner.getLast?, Text.isBlank c = true := by
  obtain ⟨blanks, comment, after, rfl, -, -, -, hafter, hne⟩ := h
  have hsplit : blanks ++ (comment ++ '*' :: '/' :: after) =
      (blanks ++ comment ++ ['*', '/']) ++ after := by simp
  intro c hc
  rw [hsplit, List.getLast?_append_of_ne_nil _ (hne rfl)] at hc
  exact hafter c (List.mem_of_mem_getLast? hc)

theorem afterComment_append {comment : List Char} (h : ¬ ['*', '/'] <:+: comment ++ ['*']) :
    afterComment (comment ++ '*' :: '/' :: rest) = some rest := by
  induction comment with
  | nil => rfl
  | cons c comment ih =>
    rw [List.cons_append, pair_infix_cons_iff, not_or] at h
    rw [List.cons_append, afterComment, ih h.2]
    intro after hc hrest
    apply h.1
    refine ⟨hc, ?_⟩
    cases comment with
    | nil => simp at hrest
    | cons d comment => simp_all

theorem exists_comment_of_afterComment (h : afterComment cs = some rest) :
    ∃ comment, cs = comment ++ '*' :: '/' :: rest ∧ ¬ ['*', '/'] <:+: comment ++ ['*'] := by
  fun_induction afterComment cs generalizing rest with
  | case1 => cases h
  | case2 rest =>
    cases h
    exact ⟨[], rfl, by decide⟩
  | case3 c cs hopen ih =>
    obtain ⟨comment, rfl, hfirst⟩ := ih h
    refine ⟨c :: comment, rfl, ?_⟩
    rw [List.cons_append, pair_infix_cons_iff, not_or]
    refine ⟨?_, hfirst⟩
    rintro ⟨hc, hhead⟩
    cases comment with
    | nil => cases hhead
    | cons d comment =>
      cases hhead
      exact hopen _ hc rfl

/-- Blanks end before a closing delimiter. -/
theorem dropWhile_append_closing {blanks : List Char} (h : ∀ c ∈ blanks, Text.isBlank c = true) :
    (blanks ++ (closing trims ++ rest)).dropWhile Text.isBlank = closing trims ++ rest := by
  rw [List.dropWhile_append_of_pos h]
  cases trims <;> exact List.dropWhile_cons_of_neg (by decide)

theorem takeComment_append {comment after : List Char} (hfirst : ¬ ['*', '/'] <:+: comment ++ ['*'])
    (hafter : ∀ c ∈ after, Text.isBlank c = true) (hne : trims = true → after ≠ []) :
    takeComment (comment ++ '*' :: '/' :: (after ++ (closing trims ++ rest))) =
      .ok ⟨none, trims, rest⟩ := by
  have hclose : close? ((after ++ (closing trims ++ rest)).head?.any Text.isBlank)
      (closing trims ++ rest) = some (trims, rest) := by
    refine close?_eq_some_iff.2 ⟨rfl, ?_⟩
    intro htrims
    obtain ⟨c, after, rfl⟩ := List.exists_cons_of_ne_nil (hne htrims)
    exact hafter c List.mem_cons_self
  simp only [takeComment, afterComment_append hfirst, dropWhile_append_closing hafter, hclose]

theorem exists_comment_of_takeComment {action : Action} (h : takeComment cs = .ok action) :
    ∃ comment after,
      cs = comment ++ '*' :: '/' :: (after ++ (closing action.trims ++ action.rest)) ∧
      ¬ ['*', '/'] <:+: comment ++ ['*'] ∧ (∀ c ∈ after, Text.isBlank c = true) ∧
      (action.trims = true → after ≠ []) := by
  unfold takeComment at h
  split at h
  · cases h
  · rename_i behind hbehind
    simp only at h
    split at h
    · cases h
    · rename_i trims rest hclose
      cases h
      obtain ⟨hrest, htrims⟩ := close?_eq_some_iff.1 hclose
      obtain ⟨comment, hcs, hfirst⟩ := exists_comment_of_afterComment hbehind
      refine ⟨comment, behind.takeWhile Text.isBlank, ?_, hfirst, ?_, ?_⟩
      · rw [← hrest, List.takeWhile_append_dropWhile]
        exact hcs
      · intro c hc
        exact List.mem_takeWhile_imp hc
      · intro h hnil
        have hhead := htrims h
        cases behind with
        | nil => cases hhead
        | cons c behind =>
          have hblank : Text.isBlank c = true := hhead
          rw [List.takeWhile_cons_of_pos hblank] at hnil
          cases hnil

theorem takeAction_of_inside (h : Inside trims rest true inner tokens) :
    takeAction (inner ++ (closing trims ++ rest)) = .ok ⟨some tokens, trims, rest⟩ :=
  takeAction_of_takeTokens (takeTokens_of_inside h)

/-- Behind blanks and the opening mark of a comment the comment is read. -/
theorem takeAction_eq_takeComment {blanks comment : List Char}
    (hblanks : ∀ c ∈ blanks, Text.isBlank c = true) (hopen : ['/', '*'] <+: comment ++ ['*', '/']) :
    takeAction (blanks ++ (comment ++ '*' :: '/' :: rest)) =
      takeComment (comment ++ '*' :: '/' :: rest) := by
  have hprefix : List.isPrefixOf ['/', '*'] (comment ++ '*' :: '/' :: rest) = true := by
    rw [List.isPrefixOf_iff_prefix]
    refine hopen.trans ⟨rest, ?_⟩
    simp
  have hbody : (blanks ++ (comment ++ '*' :: '/' :: rest)).dropWhile Text.isBlank =
      comment ++ '*' :: '/' :: rest := by
    rw [List.dropWhile_append_of_pos hblanks]
    cases comment with
    | nil => exact List.dropWhile_cons_of_neg (by decide)
    | cons c comment =>
      cases (List.cons_prefix_cons.1 hopen).1
      exact List.dropWhile_cons_of_neg (by decide)
  simp only [takeAction, hbody, hprefix, if_true]

theorem takeAction_of_isComment (h : IsComment trims inner) :
    takeAction (inner ++ (closing trims ++ rest)) = .ok ⟨none, trims, rest⟩ := by
  obtain ⟨blanks, comment, after, rfl, hblanks, hopen, hfirst, hafter, hne⟩ := h
  have htext : blanks ++ (comment ++ '*' :: '/' :: after) ++ (closing trims ++ rest) =
      blanks ++ (comment ++ '*' :: '/' :: (after ++ (closing trims ++ rest))) := by simp
  rw [htext, takeAction_eq_takeComment hblanks hopen, takeComment_append hfirst hafter hne]

/-- What is read as an action stands before a closing delimiter, as tokens or as a comment. -/
theorem exists_inner_of_takeAction {action : Action} (h : takeAction cs = .ok action) :
    ∃ inner, cs = inner ++ (closing action.trims ++ action.rest) ∧
      (∀ tokens, action.tokens = some tokens → Inside action.trims action.rest true inner tokens) ∧
      (action.tokens = none → IsComment action.trims inner) := by
  unfold takeAction at h
  simp only at h
  split at h
  · rename_i hprefix
    obtain ⟨comment, after, hcs, hfirst, hafter, hne⟩ := exists_comment_of_takeComment h
    rw [List.isPrefixOf_iff_prefix, hcs] at hprefix
    refine ⟨cs.takeWhile Text.isBlank ++ (comment ++ '*' :: '/' :: after), ?_, ?_, ?_⟩
    · have hsplit := List.takeWhile_append_dropWhile (p := Text.isBlank) (l := cs)
      rw [hcs] at hsplit
      refine hsplit.symm.trans ?_
      simp
    · intro tokens htokens
      rw [tokens_takeComment h] at htokens
      cases htokens
    · intro _
      have hwhole : comment ++ ['*', '/'] <+:
          comment ++ '*' :: '/' :: (after ++ (closing action.trims ++ action.rest)) :=
        ⟨after ++ (closing action.trims ++ action.rest), by simp⟩
      have hopen := List.prefix_of_prefix_length_le hprefix hwhole (by simp)
      exact ⟨_, comment, after, rfl, fun c hc => List.mem_takeWhile_imp hc, hopen, hfirst, hafter,
        hne⟩
  · split at h
    · cases h
    · rename_i tokens trims rest htokens
      cases h
      rw [takeTokens_dropWhile] at htokens
      obtain ⟨inner, hcs, hinside⟩ := inside_of_takeTokens htokens
      refine ⟨inner, hcs, ?_, ?_⟩
      · intro tokens htokens
        cases htokens
        exact hinside
      · intro hnone
        cases hnone

end Actions

/-! ## Parts and their items -/

section Parts

variable {p : Part} {parts : List Part} {source cs last rest : List Char} {trims : Bool}

theorem sourceOf_cons (p : Part) (parts : List Part) :
    sourceOf (p :: parts) = p.source ++ sourceOf parts := List.flatMap_cons

theorem sourceOf_concat (parts : List Part) (p : Part) :
    sourceOf (parts ++ [p]) = sourceOf parts ++ p.source := by
  simp [sourceOf]

theorem closedTrimmed_concat (front : List Part) (p : Part) :
    closedTrimmed (front ++ [p]) = p.trims := by
  simp [closedTrimmed]

theorem opensTrimmed_of_ne {c : Char} (h : c ≠ '-') : opensTrimmed (c :: cs) = false := by
  unfold opensTrimmed
  split
  · rename_i heq
    cases heq
    contradiction
  · rfl

/-- The closing delimiter is no part of the opening one. -/
theorem opensTrimmed_append (body : List Char) (trims : Bool) (rest : List Char) :
    opensTrimmed (body ++ (closing trims ++ rest)) = opensTrimmed body := by
  cases body with
  | nil => cases trims <;> rfl
  | cons c body =>
    by_cases hc : c = '-'
    · subst hc
      cases body with
      | nil => cases trims <;> rfl
      | cons d body => rfl
    · rw [List.cons_append, opensTrimmed_of_ne hc, opensTrimmed_of_ne hc]

/-- What opens with a dash and a blank is a dash and then its body. -/
theorem eq_cons_bodyOf (h : opensTrimmed cs = true) : cs = '-' :: bodyOf cs := by
  have hbody : bodyOf cs = cs.drop 1 := by rw [bodyOf, if_pos h]
  cases cs with
  | nil => cases h
  | cons c cs =>
    by_cases hc : c = '-'
    · rw [hbody, hc]
      rfl
    · rw [opensTrimmed_of_ne hc] at h
      cases h

theorem bodyOf_of_not_opensTrimmed (h : ¬ opensTrimmed cs = true) : bodyOf cs = cs := by
  rw [bodyOf, if_neg h]

theorem bodyOf_append (body : List Char) (trims : Bool) (rest : List Char) :
    bodyOf (body ++ (closing trims ++ rest)) = bodyOf body ++ (closing trims ++ rest) := by
  simp only [bodyOf, opensTrimmed_append]
  split
  · cases body with
    | nil => rename_i h; cases h
    | cons c body => rfl
  · rfl

/-- The last character is a blank in a body as it is in the whole behind the delimiter. -/
theorem getLast?_bodyOf (cs : List Char) : (bodyOf cs).getLast? = cs.getLast? := by
  by_cases h : opensTrimmed cs = true
  · have hcs := eq_cons_bodyOf h
    cases hbody : bodyOf cs with
    | nil =>
      rw [hbody] at hcs
      subst hcs
      cases h
    | cons c body =>
      rw [hcs, hbody]
      rfl
  · rw [bodyOf_of_not_opensTrimmed h]

/-- No line ends before a body. -/
theorem count_bodyOf (cs : List Char) : (bodyOf cs).count '\n' = cs.count '\n' := by
  by_cases h : opensTrimmed cs = true
  · rw [eq_cons_bodyOf h, List.count_cons_of_ne (by decide), ← eq_cons_bodyOf h]
  · rw [bodyOf_of_not_opensTrimmed h]

/-- What is read as an action begins a part, in front of what it leaves. -/
theorem exists_standsBefore_of_takeAction {text : List Char} {action : Action}
    (htext : takeText cs = (text, some rest)) (h : takeAction (bodyOf rest) = .ok action) :
    ∃ body, cs = (Part.mk text body action.tokens action.trims).source ++ action.rest ∧
      rest = body ++ (closing action.trims ++ action.rest) ∧
      (Part.mk text body action.tokens action.trims).StandsBefore action.rest := by
  obtain ⟨inner, hbody, hinside, hcomment⟩ := exists_inner_of_takeAction h
  obtain ⟨body, hrest⟩ : closing action.trims ++ action.rest <:+ rest :=
    (List.suffix_append inner _).trans (hbody ▸ suffix_bodyOf rest)
  rw [← hrest, bodyOf_append, List.append_cancel_right_eq] at hbody
  subst hbody
  refine ⟨body, ?_, hrest.symm, not_infix_of_takeText htext, ?_, hinside, hcomment⟩
  · rw [eq_of_takeText htext, ← hrest]
    simp [Part.source]
  · intro (htrims : action.trims = true) c hc
    rw [← getLast?_bodyOf] at hc
    cases htokens : action.tokens with
    | some tokens =>
      have hdash := hinside tokens htokens
      rw [htrims] at hdash
      exact hdash.dash.2 c hc
    | none =>
      have hdash := hcomment htokens
      rw [htrims] at hdash
      exact hdash.dash c hc

theorem takeAction_of_standsBefore (h : p.StandsBefore rest) :
    takeAction (bodyOf p.body ++ (closing p.trims ++ rest)) = .ok ⟨p.tokens, p.trims, rest⟩ := by
  cases htokens : p.tokens with
  | some tokens => exact takeAction_of_inside (h.action tokens htokens)
  | none => exact takeAction_of_isComment (h.comment htokens)

/-- The line of an action is that of its opening delimiter. -/
theorem lineOf_bodyOf {text : List Char} (front : List Char)
    (h : cs = text ++ '\x7b' :: '\x7b' :: rest) :
    lineOf ((front ++ cs).count '\n') (bodyOf rest) = 1 + (front ++ text).count '\n' := by
  have hcs : cs.count '\n' = text.count '\n' + rest.count '\n' := by simp [h]
  rw [lineOf, count_bodyOf, List.count_append, List.count_append, hcs]
  omega

/-- The items that a gap and its action add in front of the others. -/
theorem itemsOf_cons (front : List Part) (p : Part) (parts : List Part) (last : List Char) :
    itemsOf front (p :: parts) last =
      gapItem (closedTrimmed front) (opensTrimmed p.body) p.gap ++
        (p.tokens.map fun tokens =>
          Item.action tokens (1 + (sourceOf front ++ p.gap).count '\n')).toList ++
        itemsOf (front ++ [p]) parts last := rfl

/-- A part is read in front of the rest, with the parts before it already read. -/
theorem takeItems_of_standsBefore (front : List Part) (h : p.StandsBefore rest) :
    takeItems ((sourceOf front ++ (p.source ++ rest)).count '\n') (closedTrimmed front)
        (p.source ++ rest) =
      (takeItems ((sourceOf (front ++ [p]) ++ rest).count '\n') (closedTrimmed (front ++ [p]))
          rest).map fun items =>
        gapItem (closedTrimmed front) (opensTrimmed p.body) p.gap ++
          (p.tokens.map fun tokens =>
            Item.action tokens (1 + (sourceOf front ++ p.gap).count '\n')).toList ++ items := by
  have hsource : p.source ++ rest =
      p.gap ++ '\x7b' :: '\x7b' :: (p.body ++ (closing p.trims ++ rest)) := by
    simp [Part.source]
  have hline := lineOf_bodyOf (sourceOf front) hsource
  rw [sourceOf_concat, List.append_assoc, closedTrimmed_concat]
  rw [hsource] at hline ⊢
  rw [takeItems_of_takeText_some (takeText_append h.gap), hline, bodyOf_append,
    takeAction_of_standsBefore h, opensTrimmed_append, textItem_eq_gapItem]

theorem Divides.cons (hp : p.StandsBefore rest) (h : Divides rest parts last) :
    Divides (p.source ++ rest) (p :: parts) last := by
  refine ⟨?_, ?_, h.last⟩
  · rw [sourceOf_cons, List.append_assoc, ← h.whole]
  · intro front q back hsplit
    cases front with
    | nil =>
      cases hsplit
      rw [← h.whole]
      exact hp
    | cons r front =>
      rw [List.cons_append, List.cons.injEq] at hsplit
      exact h.each front q back hsplit.2

theorem Divides.tail (h : Divides source (p :: parts) last) :
    Divides (sourceOf parts ++ last) parts last := by
  refine ⟨rfl, ?_, h.last⟩
  intro front q back hsplit
  exact h.each (p :: front) q back (congrArg (p :: ·) hsplit)

/-- What is read divides the source. The recursion is on what is left behind an action. -/
theorem exists_divides_of_takeItems (front : List Part) (cs : List Char) {items : List Item}
    (h : takeItems ((sourceOf front ++ cs).count '\n') (closedTrimmed front) cs = .ok items) :
    ∃ parts last, Divides cs parts last ∧ items = itemsOf front parts last := by
  match htext : takeText cs with
  | (text, none) =>
    obtain ⟨rfl, hlast⟩ := not_infix_of_takeText_none htext
    rw [takeItems_of_takeText_none htext, textItem_eq_gapItem] at h
    cases h
    refine ⟨[], text, ⟨rfl, ?_, hlast⟩, rfl⟩
    intro front p back hsplit
    simp at hsplit
  | (text, some rest) =>
    cases haction : takeAction (bodyOf rest) with
    | error fault =>
      rw [takeItems_of_takeText_some htext, haction] at h
      cases h
    | ok action =>
      obtain ⟨body, hcs, hrest, hstands⟩ := exists_standsBefore_of_takeAction htext haction
      have hlt : action.rest.length < cs.length := by
        rw [hcs]
        simp [Part.source]
        omega
      rw [hcs, takeItems_of_standsBefore front hstands] at h
      generalize hnext : front ++ [Part.mk text body action.tokens action.trims] = next at h
      cases hmore : takeItems ((sourceOf next ++ action.rest).count '\n') (closedTrimmed next)
          action.rest with
      | error fault =>
        rw [hmore] at h
        cases h
      | ok more =>
        rw [hmore] at h
        cases h
        obtain ⟨parts, last, hdivides, rfl⟩ := exists_divides_of_takeItems next _ hmore
        subst hnext
        exact ⟨_ :: parts, last, hcs ▸ hdivides.cons hstands, rfl⟩
termination_by cs.length

/-- What is divided is read as the items of the parts. -/
theorem takeItems_of_divides (front : List Part) (h : Divides cs parts last) :
    takeItems ((sourceOf front ++ cs).count '\n') (closedTrimmed front) cs =
      .ok (itemsOf front parts last) := by
  induction parts generalizing front cs with
  | nil =>
    have hcs : cs = last := h.whole
    rw [hcs, takeItems_of_takeText_none (takeText_eq_none h.last), textItem_eq_gapItem]
    rfl
  | cons p parts ih =>
    have hcs : cs = p.source ++ (sourceOf parts ++ last) := by
      rw [h.whole, sourceOf_cons, List.append_assoc]
    rw [hcs, takeItems_of_standsBefore front (h.each [] p parts rfl), ih _ h.tail, itemsOf_cons]
    rfl

end Parts

end LayerLint.Template.Lexer

namespace LayerLint.Template

open Lexer in
/-- A source is read just if it divides into parts, each a gap, an opening delimiter, a body and
the delimiter that closes it, and a last gap. Its items are those of the parts in their order. -/
theorem a_source_is_read_as_the_items_of_its_parts (source : List Char) (items : List Item) :
    Item.ofText source = .ok items ↔
      ∃ parts last, Divides source parts last ∧ items = itemsOf [] parts last := by
  have htake : Item.ofText source = .ok items ↔
      takeItems (source.count '\n') false source = .ok items := by
    unfold Item.ofText
    simp only
    cases takeItems (source.count '\n') false source with
    | error fault => simp
    | ok read => simp
  rw [htake]
  constructor
  · intro h
    exact exists_divides_of_takeItems [] source h
  · rintro ⟨parts, last, hdivides, rfl⟩
    exact takeItems_of_divides [] hdivides

end LayerLint.Template
