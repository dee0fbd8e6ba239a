-- Where a source goes wrong that is not read as items. The line that is named is the one behind all
-- that was read: the line of the token at fault, or one more if the character that shows the fault
-- ends this line. An action that is not closed is named by the line of its opening delimiter.
import LayerLint.Proofs.Template.Division

namespace LayerLint.Template.Lexer

/-! ## Lines -/

/-- The line on which a source goes on behind some text. -/
def lineAfter (cs : List Char) : Nat := 1 + cs.count '\n'

/-- The line of the last character of a text. -/
def lineOfLast (cs : List Char) : Nat := lineAfter cs.dropLast

theorem lineAfter_append (cs ds : List Char) :
    lineAfter (cs ++ ds) = lineAfter cs + ds.count '\n' := by
  rw [lineAfter, lineAfter, List.count_append]
  omega

theorem lineOf_eq_lineAfter (front rest : List Char) :
    lineOf ((front ++ rest).count '\n') rest = lineAfter front := by
  have hline := lineOf_append 0 front rest
  rwa [Nat.zero_add, Nat.zero_add, Nat.add_comm] at hline

/-- A text with no line feed but at its end. -/
theorem count_of_not_mem_dropLast {cs : List Char} (h : '\n' ∉ cs.dropLast) :
    cs.count '\n' = if cs.getLast? = some '\n' then 1 else 0 := by
  cases hlast : cs.getLast? with
  | none =>
    rw [List.getLast?_eq_none_iff.1 hlast]
    rfl
  | some c =>
    have hcs := List.dropLast_append_getLast? c hlast
    rw [← hcs, List.count_append, List.count_eq_zero.2 h, List.count_singleton]
    simp

/-- The line behind a text is that of its last character, unless this ends it. With a character
that is looked at behind the text it is the line of this one. -/
theorem lineAfter_eq {cs : List Char} (hne : cs ≠ []) {looked : List Char}
    (hlooked : looked.length ≤ 1) :
    lineAfter cs = lineOfLast (cs ++ looked) +
      if looked = [] ∧ cs.getLast? = some '\n' then 1 else 0 := by
  cases looked with
  | nil =>
    obtain ⟨front, c, rfl⟩ := List.eq_nil_or_concat cs |>.resolve_left hne
    simp [lineOfLast, lineAfter_append, List.count_singleton]
  | cons d looked =>
    have hnil : looked = [] := by
      rw [← List.length_eq_zero_iff]
      simp only [List.length_cons] at hlooked
      omega
    simp [hnil, lineOfLast]

/-! ## Tokens at fault -/

/-- What is read of a token at fault ends where the fault shows: only its last character may be a
line feed. -/
structure BreaksOff (cs : List Char) (fault : LexFault) : Prop where
  split : ∃ token, cs = token ++ fault.rest ∧ '\n' ∉ token.dropLast
  problem : fault.problem ≠ .unclosedAction

namespace BreaksOff

variable {c : Char} {cs : List Char} {fault : LexFault} {problem : LexProblem}

theorem here (h : problem ≠ .unclosedAction) : BreaksOff cs ⟨problem, cs⟩ :=
  ⟨⟨[], rfl, nofun⟩, h⟩

theorem behind (h : problem ≠ .unclosedAction) : BreaksOff (c :: cs) ⟨problem, cs⟩ :=
  ⟨⟨[c], rfl, nofun⟩, h⟩

theorem cons (h : BreaksOff cs fault) (hc : c ≠ '\n') : BreaksOff (c :: cs) fault := by
  obtain ⟨⟨token, hcs, htoken⟩, hproblem⟩ := h
  refine ⟨⟨c :: token, by rw [hcs, List.cons_append], ?_⟩, hproblem⟩
  cases token with
  | nil => nofun
  | cons d token =>
    rw [List.dropLast_cons_cons, List.mem_cons, not_or]
    exact ⟨hc.symm, htoken⟩

end BreaksOff

section Tokens

variable {c : Char} {cs rest : List Char} {fault : LexFault}

theorem ne_of_escaped? {d : Char} (h : escaped? c = some d) : c ≠ '\n' := by
  rintro rfl
  cases h

theorem breaksOff_takeQuoted (h : takeQuoted cs = .error fault) : BreaksOff cs fault := by
  fun_induction takeQuoted cs with
  | case1 =>
    cases h
    exact .here (by simp)
  | case2 =>
    cases h
    exact .behind (by simp)
  | case3 c rest d hescape fault' hrec ih =>
    cases h
    exact ((ih hrec).cons (ne_of_escaped? hescape)).cons (by decide)
  | case4 => cases h
  | case5 c rest hescape =>
    cases h
    exact (BreaksOff.behind (by simp)).cons (by decide)
  | case6 => cases h
  | case7 =>
    cases h
    exact .behind (by simp)
  | case8 c rest _ _ _ hfeed fault' hrec ih =>
    cases h
    exact (ih hrec).cons hfeed
  | case9 => cases h

theorem breaksOff_takeRaw (h : takeRaw cs = .error fault) : BreaksOff cs fault := by
  unfold takeRaw at h
  split at h
  · cases h
    exact .here (by simp)
  · cases h

theorem breaksOff_closeCharacter (h : closeCharacter c cs = .error fault) :
    BreaksOff cs fault := by
  unfold closeCharacter at h
  split at h
  · cases h
  · cases h
    cases cs with
    | nil => exact .here (by simp)
    | cons d rest => exact .behind (by simp)

theorem breaksOff_takeEscape (h : takeEscape cs = .error fault) : BreaksOff cs fault := by
  unfold takeEscape at h
  split at h
  · cases h
    exact .here (by simp)
  · split at h
    · cases h
    · cases h
      exact .behind (by simp)

theorem exists_cons_of_takeEscape {d : Char} (h : takeEscape cs = .ok (d, rest)) :
    ∃ c, cs = c :: rest ∧ c ≠ '\n' := by
  unfold takeEscape at h
  split at h
  · cases h
  · split at h
    · rename_i hescape
      cases h
      exact ⟨_, rfl, ne_of_escaped? hescape⟩
    · cases h

theorem breaksOff_takeCharacter (h : takeCharacter cs = .error fault) : BreaksOff cs fault := by
  unfold takeCharacter at h
  split at h
  · rename_i rest
    split at h
    · rename_i hescape
      cases h
      exact (breaksOff_takeEscape hescape).cons (by decide)
    · rename_i hescape
      obtain ⟨c, rfl, hc⟩ := exists_cons_of_takeEscape hescape
      exact ((breaksOff_closeCharacter h).cons hc).cons (by decide)
  · rename_i c rest _
    split at h
    · cases h
      exact .behind (by simp)
    · rename_i hc
      exact (breaksOff_closeCharacter h).cons fun hfeed => hc (.inr hfeed)
  · cases h
    exact .here (by simp)

theorem breaksOff_takePointed (h : takePointed rest = .error fault) :
    BreaksOff ('.' :: rest) fault := by
  unfold takePointed at h
  split at h
  · cases h
  · split at h
    · cases h
      exact .here (by simp)
    · cases h

theorem breaksOff_takeWord (h : takeWord c rest = .error fault) : BreaksOff (c :: rest) fault := by
  unfold takeWord at h
  simp only at h
  split at h
  · cases h
  · split at h
    · cases h
    · cases h
      exact .here (by simp)

/-- What is read of a token at fault. The cases are the characters that begin a token by themselves;
all others begin a word. -/
theorem breaksOff_takeToken (h : takeToken (c :: rest) = .error fault) :
    BreaksOff (c :: rest) fault := by
  by_cases hmarks : c ∈ marks
  · simp only [marks, List.mem_cons, List.not_mem_nil, or_false] at hmarks
    obtain rfl | rfl | rfl | rfl | rfl | rfl | rfl | rfl | rfl | rfl | rfl := hmarks
    · cases h
    · cases h
    · cases h
    · cases h
    · cases h
    · have hread : (if rest.head? = some '=' then .ok (TokenKind.declare, rest.drop 1)
          else .error ⟨.loneColon, rest.drop 1⟩) = Except.error fault := h
      split at hread
      · cases hread
      · cases hread
        cases rest with
        | nil => exact .behind (by simp)
        | cons d rest => exact (BreaksOff.behind (by simp)).cons (by decide)
    · cases hread : takeQuoted rest with
      | ok read => simp [takeToken, hread] at h
      | error read =>
        have hfault : read = fault := by simpa [takeToken, hread] using h
        exact hfault ▸ (breaksOff_takeQuoted hread).cons (by decide)
    · cases hread : takeRaw rest with
      | ok read => simp [takeToken, rawQuote, hread] at h
      | error read =>
        have hfault : read = fault := by simpa [takeToken, rawQuote, hread] using h
        exact hfault ▸ (breaksOff_takeRaw hread).cons (by decide)
    · cases hread : takeCharacter rest with
      | ok read => simp [takeToken, rawQuote, hread] at h
      | error read =>
        have hfault : read = fault := by simpa [takeToken, rawQuote, hread] using h
        exact hfault ▸ (breaksOff_takeCharacter hread).cons (by decide)
    · exact breaksOff_takePointed h
    · cases h
  · rw [takeToken_of_not_mem_marks hmarks] at h
    exact breaksOff_takeWord h

end Tokens

/-! ## Actions at fault -/

/-- Blanks and tokens up to where the next token fails: what is read before this token, what is read
of it, and what is left. An action that is not closed is read to the end of the source. -/
inductive Stops : Bool → LexProblem → List Char → List Char → List Char → Prop
  | unclosed {spaced : Bool} : Stops spaced .unclosedAction [] [] []
  | token {spaced : Bool} {problem : LexProblem} {c : Char} {cs token rest : List Char} :
      token ++ rest = c :: cs → Text.isBlank c = false → ¬ Closes spaced (c :: cs) →
      takeToken (c :: cs) = .error ⟨problem, rest⟩ → Stops spaced problem [] token rest
  | blank {spaced : Bool} {problem : LexProblem} {c : Char} {before token rest : List Char} :
      Text.isBlank c = true → Stops true problem before token rest →
      Stops spaced problem (c :: before) token rest
  | next {spaced : Bool} {problem : LexProblem} {kind : TokenKind}
      {lexeme before token rest : List Char} :
      takeToken (lexeme ++ (before ++ (token ++ rest))) = .ok (kind, before ++ (token ++ rest)) →
      Stops false problem before token rest → Stops spaced problem (lexeme ++ before) token rest

/-- How an action fails behind its opening delimiter and dash: at a token, in a comment that does
not end, or behind a comment that is not the last of the action. -/
inductive Fails : LexProblem → List Char → List Char → List Char → Prop
  | tokens {problem : LexProblem} {before token rest : List Char} :
      ¬ ['/', '*'] <+: (before ++ (token ++ rest)).dropWhile Text.isBlank →
      Stops true problem before token rest → Fails problem before token rest
  | openComment {blanks rest : List Char} : (∀ c ∈ blanks, Text.isBlank c = true) →
      ['/', '*'] <+: rest → ¬ ['*', '/'] <:+: rest → Fails .unclosedComment blanks [] rest
  | behindComment {blanks comment after rest : List Char} :
      (∀ c ∈ blanks, Text.isBlank c = true) → ['/', '*'] <+: comment ++ ['*', '/'] →
      ¬ ['*', '/'] <:+: comment ++ ['*'] → (∀ c ∈ after, Text.isBlank c = true) →
      (∀ c ∈ rest.head?, Text.isBlank c = false) → ¬ Closes (after.head?.any Text.isBlank) rest →
      Fails .commentNotLast (blanks ++ (comment ++ '*' :: '/' :: after)) [] rest

/-- The text that is left at a fault. One in an action that is not closed is noted where the action
begins. -/
def leftAt (problem : LexProblem) (start rest : List Char) : List Char :=
  if problem = .unclosedAction then start else rest

section Actions

variable {start cs : List Char} {spaced : Bool} {fault : LexFault}

theorem stops_of_takeTokens (h : takeTokens start spaced cs = .error fault) :
    ∃ before token rest, cs = before ++ (token ++ rest) ∧
      Stops spaced fault.problem before token rest ∧
      fault.rest = leftAt fault.problem start rest := by
  fun_induction takeTokens start spaced cs with
  | case1 => cases h
  | case2 =>
    cases h
    exact ⟨[], [], [], rfl, .unclosed, rfl⟩
  | case3 spaced c cs hblank _ ih =>
    obtain ⟨before, token, rest, rfl, hstops, hleft⟩ := ih h
    exact ⟨c :: before, token, rest, rfl, .blank hblank hstops, hleft⟩
  | case4 spaced c cs hblank fault htoken hclose =>
    cases h
    obtain ⟨⟨token, hsplit, _⟩, hproblem⟩ := breaksOff_takeToken htoken
    have hcloses : ¬ Closes spaced (c :: cs) := by
      rw [closes_iff, not_not]
      exact hclose
    refine ⟨[], token, fault.rest, hsplit, .token hsplit.symm ?_ hcloses htoken, ?_⟩
    · exact Bool.eq_false_iff.2 hblank
    · rw [leftAt, if_neg hproblem]
  | case5 spaced c cs _ kind left htoken fault hrec hclose ih =>
    cases h
    obtain ⟨before, token, rest, rfl, hstops, hleft⟩ := ih hrec
    obtain ⟨lexeme, hlexeme⟩ := (suffix_takeToken htoken).trans (List.suffix_cons c cs)
    rw [← hlexeme] at htoken ⊢
    exact ⟨lexeme ++ before, token, rest, (List.append_assoc _ _ _).symm, .next htoken hstops,
      hleft⟩
  | case6 => cases h

theorem takeTokens_of_stops {problem : LexProblem} {before token rest : List Char}
    (h : Stops spaced problem before token rest) :
    takeTokens start spaced (before ++ (token ++ rest)) =
      .error ⟨problem, leftAt problem start rest⟩ := by
  induction h with
  | unclosed =>
    rw [List.nil_append, List.nil_append, takeTokens]
    rfl
  | token hsplit hblank hcloses htoken =>
    rw [closes_iff, not_not] at hcloses
    have hproblem := (breaksOff_takeToken htoken).problem
    rw [List.nil_append, hsplit, takeTokens_of_fault hcloses hblank htoken, leftAt,
      if_neg hproblem]
  | blank hblank _ ih => rw [List.cons_append, takeTokens_of_isBlank hblank, ih]
  | next htoken _ ih =>
    rw [List.append_assoc, takeTokens_eq_map htoken, ih]
    rfl

theorem afterComment_eq_none_iff : afterComment cs = none ↔ ¬ ['*', '/'] <:+: cs := by
  constructor
  · intro hnone hinfix
    fun_induction afterComment cs with
    | case1 => simp at hinfix
    | case2 => cases hnone
    | case3 c cs hopen ih =>
      rw [pair_infix_cons_iff] at hinfix
      obtain ⟨rfl, hhead⟩ | hinfix := hinfix
      · cases cs with
        | nil => cases hhead
        | cons d cs =>
          cases hhead
          exact hopen cs rfl rfl
      · exact ih hnone hinfix
  · intro hinfix
    cases hafter : afterComment cs with
    | none => rfl
    | some rest =>
      obtain ⟨comment, rfl, _⟩ := exists_comment_of_afterComment hafter
      exact absurd ⟨comment, rest, by simp⟩ hinfix

/-- Blanks in front of something else are all that is blank in front. -/
theorem head?_any_takeWhile (cs : List Char) :
    (cs.takeWhile Text.isBlank).head?.any Text.isBlank = cs.head?.any Text.isBlank := by
  cases cs with
  | nil => rfl
  | cons c cs =>
    by_cases hc : Text.isBlank c = true
    · rw [List.takeWhile_cons_of_pos hc]
      rfl
    · rw [List.takeWhile_cons_of_neg hc]
      simp [hc]

theorem dropWhile_of_head? {rest : List Char} (h : ∀ c ∈ rest.head?, Text.isBlank c = false) :
    rest.dropWhile Text.isBlank = rest := by
  cases rest with
  | nil => rfl
  | cons c rest => exact List.dropWhile_cons_of_neg (by simp [h c rfl])

theorem fails_of_takeComment {blanks : List Char} (hblanks : ∀ c ∈ blanks, Text.isBlank c = true)
    (hopen : ['/', '*'] <+: cs) (h : takeComment cs = .error fault) :
    ∃ before rest, blanks ++ cs = before ++ rest ∧ Fails fault.problem before [] rest ∧
      fault.problem ≠ .unclosedAction ∧ fault.rest = rest := by
  unfold takeComment at h
  split at h
  · rename_i hnone
    cases h
    exact ⟨blanks, cs, rfl, .openComment hblanks hopen (afterComment_eq_none_iff.1 hnone),
      by simp, rfl⟩
  · rename_i behind hbehind
    simp only at h
    split at h
    · rename_i hclose
      cases h
      obtain ⟨comment, hcs, hfirst⟩ := exists_comment_of_afterComment hbehind
      have hwhole : comment ++ ['*', '/'] <+: comment ++ '*' :: '/' :: behind :=
        ⟨behind, by simp⟩
      refine ⟨blanks ++ (comment ++ '*' :: '/' :: behind.takeWhile Text.isBlank),
        behind.dropWhile Text.isBlank, ?_, ?_, by simp, rfl⟩
      · rw [hcs]
        simp [List.takeWhile_append_dropWhile]
      · refine .behindComment hblanks ?_ hfirst (fun c hc => List.mem_takeWhile_imp hc) ?_ ?_
        · exact List.prefix_of_prefix_length_le (hcs ▸ hopen) hwhole (by simp)
        · intro c hc
          have hnot := List.head?_dropWhile_not Text.isBlank behind
          rw [hc] at hnot
          simpa using hnot
        · rw [closes_iff, not_not, head?_any_takeWhile]
          exact hclose
    · cases h

theorem fails_of_takeAction (h : takeAction cs = .error fault) :
    ∃ before token rest, cs = before ++ (token ++ rest) ∧
      Fails fault.problem before token rest ∧ fault.rest = leftAt fault.problem cs rest := by
  unfold takeAction at h
  simp only at h
  split at h
  · rename_i hprefix
    have hblanks : ∀ c ∈ cs.takeWhile Text.isBlank, Text.isBlank c = true :=
      fun c hc => List.mem_takeWhile_imp hc
    obtain ⟨before, rest, hsplit, hfails, hproblem, hrest⟩ :=
      fails_of_takeComment hblanks (List.isPrefixOf_iff_prefix.1 hprefix) h
    rw [List.takeWhile_append_dropWhile] at hsplit
    exact ⟨before, [], rest, hsplit, hfails, by rw [leftAt, if_neg hproblem, hrest]⟩
  · rename_i hprefix
    rw [List.isPrefixOf_iff_prefix] at hprefix
    split at h
    · rename_i htokens
      cases h
      rw [takeTokens_dropWhile] at htokens
      obtain ⟨before, token, rest, hcs, hstops, hleft⟩ := stops_of_takeTokens htokens
      exact ⟨before, token, rest, hcs, .tokens (hcs ▸ hprefix) hstops, hleft⟩
    · cases h

theorem takeAction_of_fails {problem : LexProblem} {before token rest : List Char}
    (h : Fails problem before token rest) :
    takeAction (before ++ (token ++ rest)) =
      .error ⟨problem, leftAt problem (before ++ (token ++ rest)) rest⟩ := by
  cases h with
  | tokens hprefix hstops =>
    rw [← List.isPrefixOf_iff_prefix] at hprefix
    simp only [takeAction, if_neg hprefix, takeTokens_dropWhile, takeTokens_of_stops hstops]
  | openComment hblanks hopen hnone =>
    have hbody : (before ++ rest).dropWhile Text.isBlank = rest := by
      rw [List.dropWhile_append_of_pos hblanks]
      obtain ⟨after, rfl⟩ := hopen
      exact List.dropWhile_cons_of_neg (by decide)
    simp only [takeAction, List.nil_append, hbody, List.isPrefixOf_iff_prefix.2 hopen, if_true,
      takeComment, afterComment_eq_none_iff.2 hnone]
    rfl
  | @behindComment blanks comment after _ hblanks hopen hfirst hafter hrest hcloses =>
    have htext : blanks ++ (comment ++ '*' :: '/' :: after) ++ ([] ++ rest) =
        blanks ++ (comment ++ '*' :: '/' :: (after ++ rest)) := by simp
    have hdrop : (after ++ rest).dropWhile Text.isBlank = rest := by
      rw [List.dropWhile_append_of_pos hafter, dropWhile_of_head? hrest]
    have hhead : (after ++ rest).head?.any Text.isBlank = after.head?.any Text.isBlank := by
      cases after with
      | nil =>
        cases rest with
        | nil => rfl
        | cons c rest => exact hrest c rfl
      | cons c after => rfl
    rw [closes_iff, not_not, ← hhead] at hcloses
    rw [htext, takeAction_eq_takeComment hblanks hopen]
    simp only [takeComment, afterComment_append hfirst, hdrop, hcloses]
    rfl

end Actions

/-- Only the last character that is read of a token at fault may be a line feed. -/
theorem Stops.not_mem_dropLast {spaced : Bool} {problem : LexProblem}
    {before token rest : List Char} (h : Stops spaced problem before token rest) :
    '\n' ∉ token.dropLast := by
  induction h with
  | unclosed => nofun
  | token hsplit _ _ htoken =>
    obtain ⟨other, hother, hfeed⟩ := (breaksOff_takeToken htoken).split
    rw [← hsplit] at hother
    rw [List.append_cancel_right hother]
    exact hfeed
  | blank _ _ ih => exact ih
  | next _ _ ih => exact ih

theorem Fails.not_mem_dropLast {problem : LexProblem} {before token rest : List Char}
    (h : Fails problem before token rest) : '\n' ∉ token.dropLast := by
  cases h with
  | tokens _ hstops => exact hstops.not_mem_dropLast
  | openComment => nofun
  | behindComment => nofun

/-! ## Sources at fault -/

/-- A source that goes wrong: the parts that are read, the gap in front of the action at fault, what
is read behind its opening delimiter and before the token at fault, what is read of this token, and
what is left. -/
structure Broken where
  parts : List Part
  gap : List Char
  before : List Char
  token : List Char
  rest : List Char
  deriving DecidableEq, Repr

namespace Broken

/-- What stands in front of the action at fault. -/
def opening (b : Broken) : List Char := sourceOf b.parts ++ b.gap

/-- What stands behind its opening delimiter. -/
def behind (b : Broken) : List Char := b.before ++ (b.token ++ b.rest)

def beforeToken (b : Broken) : List Char := b.opening ++ '\x7b' :: '\x7b' :: b.before

/-- What is read. -/
def consumed (b : Broken) : List Char := b.beforeToken ++ b.token

/-- The line that is named for a problem. -/
def line (problem : LexProblem) (b : Broken) : Nat :=
  if problem = .unclosedAction then lineAfter b.opening else lineAfter b.consumed

/-- A source goes wrong in this way: the parts and the gap are read as in a source without fault, and
the action fails. -/
structure Shows (b : Broken) (source : List Char) (problem : LexProblem) : Prop where
  whole : source = b.consumed ++ b.rest
  each : ∀ front p back, b.parts = front ++ p :: back →
    p.StandsBefore (sourceOf back ++ (b.gap ++ '\x7b' :: '\x7b' :: b.behind))
  gap : ¬ ['\x7b', '\x7b'] <:+: b.gap ++ ['\x7b']
  fails : ∃ inner, bodyOf b.behind = inner ++ (b.token ++ b.rest) ∧
    Fails problem inner b.token b.rest

variable {b : Broken} {source cs : List Char} {problem : LexProblem} {fault : LexFault}

theorem consumed_append (b : Broken) :
    b.consumed ++ b.rest =
      sourceOf b.parts ++ (b.gap ++ '\x7b' :: '\x7b' :: b.behind) := by
  simp [consumed, beforeToken, opening, behind]

theorem Shows.cons {p : Part} (hp : p.StandsBefore cs) (h : b.Shows cs problem) :
    Shows { b with parts := p :: b.parts } (p.source ++ cs) problem := by
  have hcs := h.whole.trans b.consumed_append
  refine ⟨?_, ?_, h.gap, h.fails⟩
  · rw [consumed_append, sourceOf_cons, List.append_assoc, hcs]
    rfl
  · intro front q back hsplit
    cases front with
    | nil =>
      cases hsplit
      rw [hcs] at hp
      exact hp
    | cons r front =>
      rw [List.cons_append, List.cons.injEq] at hsplit
      exact h.each front q back hsplit.2

/-- What is not read goes wrong. The recursion is on what is left behind an action. -/
theorem exists_shows_of_takeItems {lineFeeds : Nat} (trimmed : Bool) (cs : List Char)
    (h : takeItems lineFeeds trimmed cs = .error fault) :
    ∃ b : Broken, b.Shows cs fault.problem ∧
      fault.rest = leftAt fault.problem (bodyOf b.behind) b.rest := by
  match htext : takeText cs with
  | (text, none) =>
    rw [takeItems_of_takeText_none htext] at h
    cases h
  | (text, some rest) =>
    rw [takeItems_of_takeText_some htext] at h
    cases haction : takeAction (bodyOf rest) with
    | error fault' =>
      rw [haction] at h
      cases h
      obtain ⟨inner, token, left, hbody, hfails, hrest⟩ := fails_of_takeAction haction
      obtain ⟨dash, hdash⟩ := suffix_bodyOf rest
      -- the dash, if there is one, belongs to what is read before the token at fault
      rw [hbody, ← List.append_assoc] at hdash
      refine ⟨⟨[], text, dash ++ inner, token, left⟩, ⟨?_, ?_, not_infix_of_takeText htext, ?_⟩, ?_⟩
      · rw [consumed_append, eq_of_takeText htext, ← hdash]
        rfl
      · intro front p back hsplit
        simp at hsplit
      · refine ⟨inner, ?_, hfails⟩
        rw [behind, hdash, hbody]
      · rw [behind, hdash, hrest]
    | ok action =>
      rw [haction] at h
      dsimp only at h
      obtain ⟨body, hcs, _, hstands⟩ := exists_standsBefore_of_takeAction htext haction
      have hlt : action.rest.length < cs.length := by
        rw [hcs]
        simp [Part.source]
        omega
      cases hmore : takeItems lineFeeds action.trims action.rest with
      | ok items =>
        rw [hmore] at h
        cases h
      | error fault' =>
        rw [hmore] at h
        cases h
        obtain ⟨b, hshows, hrest⟩ := exists_shows_of_takeItems action.trims action.rest hmore
        exact ⟨{ b with parts := ⟨text, body, action.tokens, action.trims⟩ :: b.parts },
          hcs ▸ hshows.cons hstands, hrest⟩
termination_by cs.length

/-- A fault behind parts that are read is that of the whole. -/
theorem takeItems_behind_parts {parts : List Part} {lineFeeds : Nat} (trimmed : Bool)
    (heach : ∀ front p back, parts = front ++ p :: back → p.StandsBefore (sourceOf back ++ cs))
    (h : ∀ trimmed, takeItems lineFeeds trimmed cs = .error fault) :
    takeItems lineFeeds trimmed (sourceOf parts ++ cs) = .error fault := by
  induction parts generalizing trimmed with
  | nil => exact h trimmed
  | cons p parts ih =>
    have hstands := heach [] p parts rfl
    have hsource : sourceOf (p :: parts) ++ cs =
        p.gap ++ '\x7b' :: '\x7b' :: (p.body ++ (closing p.trims ++ (sourceOf parts ++ cs))) := by
      simp [sourceOf_cons, Part.source]
    have hrest : takeItems lineFeeds p.trims (sourceOf parts ++ cs) = .error fault := by
      apply ih
      intro front q back hsplit
      exact heach (p :: front) q back (congrArg (p :: ·) hsplit)
    rw [hsource, takeItems_of_takeText_some (takeText_append hstands.gap), bodyOf_append,
      takeAction_of_standsBefore hstands]
    dsimp only
    rw [hrest]
    rfl

/-- What goes wrong is not read. -/
theorem Shows.takeItems_eq (h : b.Shows source problem) (lineFeeds : Nat) (trimmed : Bool) :
    takeItems lineFeeds trimmed source =
      .error ⟨problem, leftAt problem (bodyOf b.behind) b.rest⟩ := by
  obtain ⟨inner, hbody, hfails⟩ := h.fails
  rw [h.whole, consumed_append]
  apply takeItems_behind_parts trimmed h.each
  intro trimmed
  rw [takeItems_of_takeText_some (takeText_append h.gap), hbody, takeAction_of_fails hfails]

/-- The text that is left says the line that is named. -/
theorem Shows.lineOf_eq (h : b.Shows source problem) :
    lineOf (source.count '\n') (leftAt problem (bodyOf b.behind) b.rest) = b.line problem := by
  unfold leftAt line
  split
  · rw [h.whole, consumed_append, lineOf_bodyOf (sourceOf b.parts) rfl]
    rfl
  · rw [h.whole, lineOf_eq_lineAfter]

/-! ## Lines of faults -/

theorem lineAfter_opening_le (problem : LexProblem) (b : Broken) :
    lineAfter b.opening ≤ b.line problem := by
  unfold line
  split
  · exact Nat.le_refl _
  · rw [consumed, beforeToken, lineAfter_append, lineAfter_append]
    omega

/-- The line that is named is that of the token at fault, unless what is read of the token ends this
line. -/
theorem Shows.line_eq (h : b.Shows source problem) (hproblem : problem ≠ .unclosedAction) :
    b.line problem =
      lineAfter b.beforeToken + if b.token.getLast? = some '\n' then 1 else 0 := by
  obtain ⟨inner, _, hfails⟩ := h.fails
  rw [line, if_neg hproblem, consumed, lineAfter_append,
    count_of_not_mem_dropLast hfails.not_mem_dropLast]

theorem consumed_ne_nil (b : Broken) : b.consumed ≠ [] := by
  simp [consumed, beforeToken]

theorem lineAfter_opening_le_lineOfLast (b : Broken) (looked : List Char) :
    lineAfter b.opening ≤ lineOfLast (b.consumed ++ looked) := by
  have hread : b.consumed ++ looked =
      b.opening ++ '\x7b' :: '\x7b' :: (b.before ++ (b.token ++ looked)) := by
    simp [consumed, beforeToken]
  rw [hread, lineOfLast, List.dropLast_append_of_ne_nil (by simp), lineAfter_append]
  omega

/-- The line that is named is that of the last character that is read or looked at, unless this is a
line feed that is read. -/
theorem line_eq_lineOfLast (b : Broken) {looked : List Char} (hlooked : looked.length ≤ 1)
    (hproblem : problem ≠ .unclosedAction) :
    b.line problem = lineOfLast (b.consumed ++ looked) +
      if looked = [] ∧ b.consumed.getLast? = some '\n' then 1 else 0 := by
  rw [line, if_neg hproblem, lineAfter_eq b.consumed_ne_nil hlooked]

/-! ## Lines of problems -/

/-- Whether a problem shows at a character that is looked at and not read. -/
def looksAhead : LexProblem → Bool
  | .unclosedComment => true
  | .commentNotLast => true
  | .openRawText => true
  | .unexpected _ => true
  | .unclosedAction => false
  | .loneColon => false
  | .openText => false
  | .badCharacter => false
  | .openCharacter => false
  | .unknownEscape _ => false
  | .openEscape => false

/-- The next character, if it is looked at. -/
def looked (problem : LexProblem) (b : Broken) : List Char :=
  if looksAhead problem then b.rest.take 1 else []

theorem length_looked_le (problem : LexProblem) (b : Broken) :
    (b.looked problem).length ≤ 1 := by
  unfold looked
  split
  · exact List.length_take_le 1 b.rest
  · exact Nat.zero_le 1

theorem lineOfLast_lt_line_iff (problem : LexProblem) (b : Broken) :
    lineOfLast (b.consumed ++ b.looked problem) < b.line problem ↔
      problem ≠ .unclosedAction ∧ b.looked problem = [] ∧ b.consumed.getLast? = some '\n' := by
  by_cases hproblem : problem = .unclosedAction
  · have hopening := b.lineAfter_opening_le_lineOfLast (b.looked problem)
    rw [line, if_pos hproblem]
    exact iff_of_false (Nat.not_lt.2 hopening) fun h => h.1 hproblem
  · rw [b.line_eq_lineOfLast (length_looked_le problem b) hproblem, and_iff_right hproblem]
    split
    · rename_i hfeed
      exact iff_of_true (Nat.lt_succ_self _) hfeed
    · rename_i hfeed
      exact iff_of_false (Nat.lt_irrefl _) hfeed

theorem line_le (problem : LexProblem) (b : Broken) :
    b.line problem ≤ lineOfLast (b.consumed ++ b.looked problem) + 1 := by
  by_cases hproblem : problem = .unclosedAction
  · have hopening := b.lineAfter_opening_le_lineOfLast (b.looked problem)
    rw [line, if_pos hproblem]
    omega
  · rw [b.line_eq_lineOfLast (length_looked_le problem b) hproblem]
    split <;> omega

end Broken

end LayerLint.Template.Lexer

namespace LayerLint.Template

open Lexer

/-- A source is rejected just if it goes wrong in one of the ways that are known, on the line that is
named for this way. This is no line before that of the opening delimiter of the action at fault, and
for an action that is not closed it is this one. It is at most one line behind that of the last
character that is read or looked at; and it is behind it just if this character is a line feed that
is read, with nothing looked at behind it. A token at fault is on the line that is named, but for
such a line feed at its end. -/
theorem a_fault_is_named_by_the_line_behind_what_is_read (source : List Char) (e : LexError) :
    (Item.ofText source = .error e ↔
      ∃ b : Broken, b.Shows source e.problem ∧ e.line = b.line e.problem) ∧
    ∀ b : Broken, b.Shows source e.problem →
      lineAfter b.opening ≤ b.line e.problem ∧
      (e.problem = .unclosedAction → b.line e.problem = lineAfter b.opening) ∧
      b.line e.problem ≤ lineOfLast (b.consumed ++ b.looked e.problem) + 1 ∧
      (lineOfLast (b.consumed ++ b.looked e.problem) < b.line e.problem ↔
        e.problem ≠ .unclosedAction ∧ b.looked e.problem = [] ∧
          b.consumed.getLast? = some '\n') ∧
      (e.problem ≠ .unclosedAction → b.line e.problem =
        lineAfter b.beforeToken + if b.token.getLast? = some '\n' then 1 else 0) := by
  obtain ⟨problem, line⟩ := e
  refine ⟨⟨?_, ?_⟩, ?_⟩
  · intro h
    unfold Item.ofText at h
    simp only at h
    split at h
    · rename_i fault htake
      cases h
      obtain ⟨b, hshows, hrest⟩ := Broken.exists_shows_of_takeItems false source htake
      exact ⟨b, hshows, by rw [hrest, hshows.lineOf_eq]⟩
    · cases h
  · rintro ⟨b, hshows, hline⟩
    simp only [Item.ofText, hshows.takeItems_eq, hshows.lineOf_eq]
    rw [← hline]
  · intro b hshows
    exact ⟨b.lineAfter_opening_le problem, fun hproblem => if_pos hproblem, b.line_le problem,
      b.lineOfLast_lt_line_iff problem, hshows.line_eq⟩

/-- An open text behind other text, with its line feed and what is left. -/
def openTextFault : Broken where
  parts := []
  gap := ['a', ' ']
  before := [' ']
  token := ['"', 'x', '\n']
  rest := ['"', '\x7d', '\x7d']

/-- The text is on the first line, as all that is read, and the second line is named. -/
theorem the_open_text_is_named_by_the_line_behind_it :
    openTextFault.Shows "a \x7b\x7b \"x\n\"\x7d\x7d".toList .openText ∧
      Item.ofText "a \x7b\x7b \"x\n\"\x7d\x7d".toList = .error ⟨.openText, 2⟩ ∧
      lineAfter openTextFault.opening ≤ 2 ∧ lineAfter openTextFault.beforeToken = 1 ∧
      lineOfLast (openTextFault.consumed ++ openTextFault.looked .openText) < 2 := by
  have hshows : openTextFault.Shows "a \x7b\x7b \"x\n\"\x7d\x7d".toList .openText := by
    refine ⟨rfl, ?_, by decide, [' '], by decide, ?_⟩
    · intro front p back hsplit
      simp [openTextFault] at hsplit
    · have hcloses : ¬ Closes true ['"', 'x', '\n', '"', '\x7d', '\x7d'] := by
        rw [closes_iff, not_not]
        rfl
      exact .tokens (by decide) (.blank rfl (.token rfl (by decide +kernel) hcloses rfl))
  have hline : openTextFault.line .openText = 2 := by decide
  obtain ⟨hread, hlines⟩ :=
    a_fault_is_named_by_the_line_behind_what_is_read "a \x7b\x7b \"x\n\"\x7d\x7d".toList
      ⟨.openText, 2⟩
  obtain ⟨hopening, _, _, hlast, _⟩ := hlines openTextFault hshows
  rw [hline] at hopening hlast
  exact ⟨hshows, hread.2 ⟨openTextFault, hshows, hline.symm⟩, hopening, by decide,
    hlast.2 ⟨by decide, rfl, by decide⟩⟩

/-- Sources of one line, its line feed included, and what is wrong with each: an open text, escapes,
characters that are none, a colon alone, and a comment that nothing closes. -/
def sourcesOfOneLine : List (String × LexProblem) :=
  [("\x7b\x7b \"\n", .openText), ("\x7b\x7b \"\\\n", .unknownEscape '\n'),
   ("\x7b\x7b \x27\n", .badCharacter), ("\x7b\x7b \x27a\n", .openCharacter),
   ("\x7b\x7b \x27\\\n", .unknownEscape '\n'), ("\x7b\x7b :\n", .loneColon),
   ("\x7b\x7b/**/\n", .commentNotLast)]

/-- The second line is named for each of them, although no character is on it. -/
theorem a_line_feed_is_named_by_the_line_behind_it :
    sourcesOfOneLine.map (fun p => lineOfLast p.1.toList) = [1, 1, 1, 1, 1, 1, 1] ∧
      sourcesOfOneLine.map (fun p => Item.ofText p.1.toList) =
        sourcesOfOneLine.map (fun p => .error ⟨p.2, 2⟩) := by
  decide +kernel

end LayerLint.Template
