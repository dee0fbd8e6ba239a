-- Reading a template step by step. Away from two points in a row a step inside of an action ends
-- it, fails or leaves less text, and a pass from one text to the next takes a delimiter. So reading
-- comes to an end unless a token begins at two points, and it ends with what is read in one go.
import LayerLint.Proofs.Template.Written
import Mathlib.Logic.Function.Iterate

namespace LayerLint.Template.Lexer

/-! ## Steps -/

/-- Where reading stands, with the items before it and the text that is left: in the text between
actions, inside of an action that was opened in front of `opened`, or at the end. -/
inductive State where
  | between (items : List Item) (trimmed : Bool) (rest : List Char)
  | inside (items : List Item) (opened : List Char) (tokens : List Token) (spaced : Bool)
      (rest : List Char)
  | ended (items : List Item)
  | failed (fault : LexFault)
  deriving DecidableEq, Repr

/-- What is read of a token. At two points a chain is read, which takes neither of them. -/
def scanToken (cs : List Char) : Except LexFault (TokenKind × List Char) :=
  if ['.', '.'].isPrefixOf cs then .ok (.field (takeChain cs).1, (takeChain cs).2)
  else takeToken cs

/-- Where reading stands behind an opening delimiter and its dash. A comment is read to its end. -/
def State.enter (items : List Item) (cs : List Char) : State :=
  let body := cs.dropWhile Text.isBlank
  if ['/', '*'].isPrefixOf body then
    match takeComment body with
    | .error fault => .failed fault
    | .ok action => .between items action.trims action.rest
  else .inside items cs [] true body

/-- One step: a text and the opening delimiter after it, or blanks, a token or the closing
delimiter inside of an action. -/
def State.step (lineFeeds : Nat) : State → State
  | .between items trimmed cs =>
    match takeText cs with
    | (text, none) => .ended (items ++ textItem trimmed false text)
    | (text, some rest) =>
      .enter (items ++ textItem trimmed (opensTrimmed rest) text) (bodyOf rest)
  | .inside items opened tokens spaced cs =>
    match close? spaced cs with
    | some (trims, rest) =>
      .between (items ++ [.action tokens (lineOf lineFeeds opened)]) trims rest
    | none =>
      match cs with
      | [] => .failed ⟨.unclosedAction, opened⟩
      | c :: rest =>
        if Text.isBlank c then
          .inside items opened tokens true ((c :: rest).dropWhile Text.isBlank)
        else
          match scanToken (c :: rest) with
          | .error fault => .failed fault
          | .ok (kind, left) => .inside items opened (tokens ++ [⟨kind, spaced⟩]) false left
  | s => s

/-- Where reading begins. -/
def State.start (source : List Char) : State := .between [] false source

/-- The text that is left. -/
def State.rest : State → List Char
  | .between _ _ cs => cs
  | .inside _ _ _ _ cs => cs
  | .ended _ => []
  | .failed _ => []

/-- Inside of an action, with two points in front of what is left. -/
def State.AtTwoPoints : State → Prop
  | .inside _ _ _ _ cs => ['.', '.'] <+: cs
  | _ => False

/-- The answer, once reading has come to an end. -/
def State.answer? (lineFeeds : Nat) : State → Option (Except LexError (List Item))
  | .ended items => some (.ok items)
  | .failed fault => some (.error ⟨fault.problem, lineOf lineFeeds fault.rest⟩)
  | _ => none

variable {lineFeeds : Nat} {s : State} {items : List Item} {opened cs : List Char}
  {tokens : List Token} {trimmed spaced : Bool}

theorem step_between_of_none {text : List Char} (h : takeText cs = (text, none)) :
    (State.between items trimmed cs).step lineFeeds =
      .ended (items ++ textItem trimmed false text) := by
  simp only [State.step, h]

theorem step_between_of_some {text rest : List Char} (h : takeText cs = (text, some rest)) :
    (State.between items trimmed cs).step lineFeeds =
      .enter (items ++ textItem trimmed (opensTrimmed rest) text) (bodyOf rest) := by
  simp only [State.step, h]

theorem step_inside_of_close? {trims : Bool} {rest : List Char}
    (h : close? spaced cs = some (trims, rest)) :
    (State.inside items opened tokens spaced cs).step lineFeeds =
      .between (items ++ [.action tokens (lineOf lineFeeds opened)]) trims rest := by
  simp only [State.step, h]

theorem step_inside_of_isBlank {c : Char} (h : Text.isBlank c = true) :
    (State.inside items opened tokens spaced (c :: cs)).step lineFeeds =
      .inside items opened tokens true ((c :: cs).dropWhile Text.isBlank) := by
  simp only [State.step, close?_of_isBlank h, h, if_true]

theorem step_inside_of_fault {c : Char} {fault : LexFault}
    (hclose : close? spaced (c :: cs) = none) (hblank : Text.isBlank c = false)
    (h : scanToken (c :: cs) = .error fault) :
    (State.inside items opened tokens spaced (c :: cs)).step lineFeeds = .failed fault := by
  simp only [State.step, hclose, hblank, h, Bool.false_eq_true, if_false]

theorem step_inside_of_token {c : Char} {kind : TokenKind} {left : List Char}
    (hclose : close? spaced (c :: cs) = none) (hblank : Text.isBlank c = false)
    (h : scanToken (c :: cs) = .ok (kind, left)) :
    (State.inside items opened tokens spaced (c :: cs)).step lineFeeds =
      .inside items opened (tokens ++ [⟨kind, spaced⟩]) false left := by
  simp only [State.step, hclose, hblank, h, Bool.false_eq_true, if_false]

/-! ## What a step leaves of the text -/

/-- A step inside of an action ends the action, fails or leaves less of the text. -/
inductive Advances (lineFeeds : Nat) (items : List Item) (opened : List Char)
    (tokens : List Token) (cs : List Char) : State → Prop
  | closes {trims : Bool} {rest : List Char} : rest <:+ cs → rest.length < cs.length →
      Advances lineFeeds items opened tokens cs
        (.between (items ++ [.action tokens (lineOf lineFeeds opened)]) trims rest)
  | fails {fault : LexFault} : Advances lineFeeds items opened tokens cs (.failed fault)
  | shortens {more : List Token} {spaced : Bool} {rest : List Char} : rest <:+ cs →
      rest.length < cs.length →
      Advances lineFeeds items opened tokens cs
        (.inside items opened (tokens ++ more) spaced rest)

theorem Advances.suffix_rest (h : Advances lineFeeds items opened tokens cs s) :
    s.rest <:+ cs := by
  cases h with
  | closes hrest => exact hrest
  | fails => exact List.nil_suffix
  | shortens hrest => exact hrest

theorem Advances.ends_or_shortens (h : Advances lineFeeds items opened tokens cs s) :
    (∃ answer, s.answer? lineFeeds = some answer) ∨ s.rest.length < cs.length := by
  cases h with
  | closes _ hlt => exact .inr hlt
  | fails => exact .inl ⟨_, rfl⟩
  | shortens _ hlt => exact .inr hlt

theorem scanToken_eq_takeToken (h : ¬ ['.', '.'] <+: cs) : scanToken cs = takeToken cs := by
  rw [← List.isPrefixOf_iff_prefix] at h
  simp only [scanToken, h, Bool.false_eq_true, if_false]

theorem length_close?_lt {trims : Bool} {rest : List Char}
    (h : close? spaced cs = some (trims, rest)) : rest.length < cs.length := by
  rw [(close?_eq_some_iff.1 h).1]
  cases trims <;> simp only [closing, Bool.false_eq_true, if_true, if_false, List.length_append,
    List.length_cons, List.length_nil] <;> omega

/-- The step lemma for the inside of an action. -/
theorem advances_step_inside (lineFeeds : Nat) (items : List Item) (opened : List Char)
    (tokens : List Token) (spaced : Bool) (h : ¬ ['.', '.'] <+: cs) :
    Advances lineFeeds items opened tokens cs
      ((State.inside items opened tokens spaced cs).step lineFeeds) := by
  cases hclose : close? spaced cs with
  | some closed =>
    rw [step_inside_of_close? hclose]
    exact .closes (suffix_close? hclose) (length_close?_lt hclose)
  | none =>
    cases cs with
    | nil =>
      simp only [State.step, hclose]
      exact .fails
    | cons c rest =>
      cases hblank : Text.isBlank c with
      | true =>
        have hdrop : rest.dropWhile Text.isBlank <:+ rest := List.dropWhile_suffix _
        have hskip : Advances lineFeeds items opened tokens (c :: rest)
            (.inside items opened (tokens ++ []) true (rest.dropWhile Text.isBlank)) :=
          .shortens (hdrop.trans (List.suffix_cons c rest)) (Nat.lt_succ_of_le hdrop.length_le)
        rw [List.append_nil] at hskip
        rw [step_inside_of_isBlank hblank, List.dropWhile_cons_of_pos hblank]
        exact hskip
      | false =>
        cases hscan : scanToken (c :: rest) with
        | error fault =>
          rw [step_inside_of_fault hclose hblank hscan]
          exact .fails
        | ok read =>
          rw [step_inside_of_token hclose hblank hscan]
          rw [scanToken_eq_takeToken h] at hscan
          have hleft := suffix_takeToken hscan
          exact .shortens (hleft.trans (List.suffix_cons c rest))
            (Nat.lt_succ_of_le hleft.length_le)

theorem suffix_rest_enter (items : List Item) (cs : List Char) :
    (State.enter items cs).rest <:+ cs := by
  have hbody : cs.dropWhile Text.isBlank <:+ cs := List.dropWhile_suffix _
  simp only [State.enter]
  split
  · split
    · exact List.nil_suffix
    · rename_i hcomment
      exact (suffix_takeComment hcomment).trans hbody
  · exact hbody

/-- A step between actions goes to the end of the text or takes an opening delimiter. -/
theorem step_between_cases (lineFeeds : Nat) (items : List Item) (trimmed : Bool)
    (cs : List Char) :
    (∃ items', (State.between items trimmed cs).step lineFeeds = .ended items') ∨
      ∃ text rest, cs = text ++ '\x7b' :: '\x7b' :: rest ∧
        ((State.between items trimmed cs).step lineFeeds).rest <:+ rest := by
  match htext : takeText cs with
  | (text, none) => exact .inl ⟨_, step_between_of_none htext⟩
  | (text, some rest) =>
    refine .inr ⟨text, rest, eq_of_takeText htext, ?_⟩
    rw [step_between_of_some htext]
    exact (suffix_rest_enter _ _).trans (suffix_bodyOf rest)

/-- At two points a step goes nowhere. -/
theorem step_inside_at_two_points (h : ['.', '.'] <+: cs) :
    (State.inside items opened tokens spaced cs).step lineFeeds =
      .inside items opened (tokens ++ [⟨.field [], spaced⟩]) false cs := by
  obtain ⟨rest, rfl⟩ := h
  have hname : isNameStart '.' = false := by decide +kernel
  apply step_inside_of_token
  · rfl
  · decide
  · simp [scanToken, takeChain, hname]

theorem suffix_rest_step (lineFeeds : Nat) (s : State) :
    (s.step lineFeeds).rest <:+ s.rest := by
  cases s with
  | between items trimmed cs =>
    rcases step_between_cases lineFeeds items trimmed cs with ⟨items', h⟩ | ⟨text, rest, h, hrest⟩
    · rw [h]
      exact List.nil_suffix
    · have hcs : rest <:+ cs := ⟨text ++ ['\x7b', '\x7b'], by simp [h]⟩
      exact hrest.trans hcs
  | inside items opened tokens spaced cs =>
    by_cases h : ['.', '.'] <+: cs
    · rw [step_inside_at_two_points h]
      exact List.suffix_rfl
    · exact (advances_step_inside lineFeeds items opened tokens spaced h).suffix_rest
  | ended items => exact List.suffix_rfl
  | failed fault => exact List.suffix_rfl

/-- The run lemma: the text that is left is always an end of the text there was. -/
theorem suffix_rest_iterate (lineFeeds n : Nat) (s : State) :
    ((State.step lineFeeds)^[n] s).rest <:+ s.rest := by
  induction n generalizing s with
  | zero => exact List.suffix_rfl
  | succ n ih =>
    rw [Function.iterate_succ_apply]
    exact (ih _).trans (suffix_rest_step lineFeeds s)

/-- Between two texts an opening delimiter is taken, and what stands before it. -/
theorem exists_delimiter_of_iterate {n : Nat} {items' : List Item} {trimmed' : Bool}
    {cs' : List Char}
    (h : (State.step lineFeeds)^[n + 1] (.between items trimmed cs) =
      .between items' trimmed' cs') :
    ∃ text after, cs = text ++ '\x7b' :: '\x7b' :: after ∧ cs' <:+ after := by
  rw [Function.iterate_succ_apply] at h
  rcases step_between_cases lineFeeds items trimmed cs with
    ⟨all, hend⟩ | ⟨text, after, hcs, hafter⟩
  · rw [hend, Function.iterate_fixed (show (State.ended all).step lineFeeds = _ from rfl)] at h
    cases h
  · have hrest := suffix_rest_iterate lineFeeds n ((State.between items trimmed cs).step lineFeeds)
    rw [h] at hrest
    exact ⟨text, after, hcs, hrest.trans hafter⟩

/-! ## The end -/

theorem step_of_answer? {answer : Except LexError (List Item)}
    (h : s.answer? lineFeeds = some answer) : s.step lineFeeds = s := by
  cases s with
  | between => cases h
  | inside => cases h
  | ended => rfl
  | failed => rfl

/-- Where reading has not ended and is not at two points, a step ends it or leaves less text. -/
theorem step_ends_or_shortens (h : ¬ s.AtTwoPoints) (hopen : s.answer? lineFeeds = none) :
    (∃ answer, (s.step lineFeeds).answer? lineFeeds = some answer) ∨
      (s.step lineFeeds).rest.length < s.rest.length := by
  cases s with
  | between items trimmed cs =>
    rcases step_between_cases lineFeeds items trimmed cs with
      ⟨all, hend⟩ | ⟨text, rest, hcs, hrest⟩
    · exact .inl ⟨.ok all, by rw [hend]; rfl⟩
    · right
      have hle := hrest.length_le
      have hlen := congrArg List.length hcs
      simp only [List.length_append, List.length_cons] at hlen
      simp only [State.rest] at hle ⊢
      omega
  | inside items opened tokens spaced cs =>
    exact (advances_step_inside lineFeeds items opened tokens spaced h).ends_or_shortens
  | ended => cases hopen
  | failed => cases hopen

/-- If reading never comes to two points it ends. The induction is on the text that is left. -/
theorem exists_answer_of_not_atTwoPoints (lineFeeds : Nat) (s : State)
    (h : ∀ n, ¬ ((State.step lineFeeds)^[n] s).AtTwoPoints) :
    ∃ n answer, ((State.step lineFeeds)^[n] s).answer? lineFeeds = some answer := by
  match hanswer : s.answer? lineFeeds with
  | some answer => exact ⟨0, answer, hanswer⟩
  | none =>
    rcases step_ends_or_shortens (h 0) hanswer with ⟨answer, hend⟩ | hlt
    · exact ⟨1, answer, hend⟩
    · have hstep := fun n => h (n + 1)
      simp only [Function.iterate_succ_apply] at hstep
      obtain ⟨n, answer, hend⟩ :=
        exists_answer_of_not_atTwoPoints lineFeeds (s.step lineFeeds) hstep
      exact ⟨n + 1, answer, hend⟩
termination_by s.rest.length

theorem AtTwoPoints.step (h : s.AtTwoPoints) : (s.step lineFeeds).AtTwoPoints := by
  cases s with
  | inside items opened tokens spaced cs =>
    rw [step_inside_at_two_points h]
    exact h
  | between => exact h.elim
  | ended => exact h.elim
  | failed => exact h.elim

/-- Who is at two points stays there and gets no answer. -/
theorem answer?_of_atTwoPoints (lineFeeds : Nat) (h : s.AtTwoPoints) (n : Nat) :
    ((State.step lineFeeds)^[n] s).answer? lineFeeds = none := by
  induction n generalizing s with
  | zero =>
    cases s with
    | inside => rfl
    | between => rfl
    | ended => exact h.elim
    | failed => exact h.elim
  | succ n ih => exact ih (AtTwoPoints.step h)

/-! ## The answer -/

/-- What is read from here on in one go. -/
def State.result (lineFeeds : Nat) : State → Except LexFault (List Item)
  | .between items trimmed cs => (takeItems lineFeeds trimmed cs).map (items ++ ·)
  | .inside items opened tokens spaced cs =>
    match takeTokens opened spaced cs with
    | .error fault => .error fault
    | .ok (more, trims, rest) =>
      (takeItems lineFeeds trims rest).map
        (items ++ [.action (tokens ++ more) (lineOf lineFeeds opened)] ++ ·)
  | .ended items => .ok items
  | .failed fault => .error fault

/-- What is read behind an opening delimiter: an action and then the rest. -/
theorem result_enter (items : List Item) (cs : List Char) :
    (State.enter items cs).result lineFeeds =
      match takeAction cs with
      | .error fault => .error fault
      | .ok action =>
        (takeItems lineFeeds action.trims action.rest).map fun more => items ++
          (action.tokens.map fun tokens => Item.action tokens (lineOf lineFeeds cs)).toList ++
            more := by
  simp only [State.enter, takeAction]
  split
  · split
    · rename_i hcomment
      simp only [State.result]
    · rename_i hcomment
      simp only [State.result, tokens_takeComment hcomment, Option.map_none,
        Option.toList_none, List.append_nil]
  · simp only [State.result, List.nil_append]
    cases takeTokens cs true (cs.dropWhile Text.isBlank) <;> rfl

theorem result_step_between (items : List Item) (trimmed : Bool) (cs : List Char) :
    ((State.between items trimmed cs).step lineFeeds).result lineFeeds =
      (State.between items trimmed cs).result lineFeeds := by
  match htext : takeText cs with
  | (text, none) =>
    rw [step_between_of_none htext]
    simp only [State.result, takeItems_of_takeText_none htext, Except.map]
  | (text, some rest) =>
    rw [step_between_of_some htext, result_enter]
    simp only [State.result, takeItems_of_takeText_some htext]
    cases takeAction (bodyOf rest) with
    | error fault => rfl
    | ok action =>
      dsimp only
      cases takeItems lineFeeds action.trims action.rest with
      | error fault => rfl
      | ok more => simp only [Except.map, List.append_assoc]

theorem result_step_inside (items : List Item) (opened : List Char) (tokens : List Token)
    (spaced : Bool) (h : ¬ ['.', '.'] <+: cs) :
    ((State.inside items opened tokens spaced cs).step lineFeeds).result lineFeeds =
      (State.inside items opened tokens spaced cs).result lineFeeds := by
  cases hclose : close? spaced cs with
  | some closed =>
    rw [step_inside_of_close? hclose]
    simp only [State.result, takeTokens_of_close? hclose, List.append_nil]
  | none =>
    cases cs with
    | nil =>
      simp only [State.step, hclose, State.result]
      rw [takeTokens, hclose]
    | cons c rest =>
      cases hblank : Text.isBlank c with
      | true =>
        rw [step_inside_of_isBlank hblank]
        simp only [State.result, takeTokens_dropWhile, takeTokens_of_isBlank hblank]
      | false =>
        have hscan := scanToken_eq_takeToken h
        cases htoken : takeToken (c :: rest) with
        | error fault =>
          rw [step_inside_of_fault hclose hblank (hscan.trans htoken)]
          simp only [State.result, takeTokens_of_fault hclose hblank htoken]
        | ok read =>
          rw [step_inside_of_token hclose hblank (hscan.trans htoken)]
          simp only [State.result, takeTokens_eq_map htoken]
          cases takeTokens opened false read.2 with
          | error fault => rfl
          | ok more => simp only [Except.map, List.append_assoc, List.cons_append, List.nil_append]

/-- Away from two points a step changes nothing about what is read in the end. -/
theorem result_step (h : ¬ s.AtTwoPoints) :
    (s.step lineFeeds).result lineFeeds = s.result lineFeeds := by
  cases s with
  | between items trimmed cs => exact result_step_between items trimmed cs
  | inside items opened tokens spaced cs => exact result_step_inside items opened tokens spaced h
  | ended => rfl
  | failed => rfl

/-- The run lemma: where reading never was at two points it still reads the same in the end. -/
theorem result_iterate (s : State) (n : Nat)
    (h : ∀ m, ¬ ((State.step lineFeeds)^[m] s).AtTwoPoints) :
    ((State.step lineFeeds)^[n] s).result lineFeeds = s.result lineFeeds := by
  induction n with
  | zero => rfl
  | succ n ih => rw [Function.iterate_succ_apply', result_step (h n), ih]

/-- Where reading stands after so many steps. -/
def readingAfter (n : Nat) (source : List Char) : State :=
  (State.step (source.count '\n'))^[n] (.start source)

theorem result_start (source : List Char) :
    (State.start source).result lineFeeds = takeItems lineFeeds false source := by
  simp only [State.start, State.result]
  cases takeItems lineFeeds false source <;> rfl

/-- An answer that is given without coming to two points is what is read in one go. -/
theorem eq_ofText_of_answer? {source : List Char} {n : Nat}
    {answer : Except LexError (List Item)}
    (hpoints : ∀ m, ¬ (readingAfter m source).AtTwoPoints)
    (h : (readingAfter n source).answer? (source.count '\n') = some answer) :
    answer = Item.ofText source := by
  have hresult := (result_iterate (.start source) n hpoints).trans (result_start source)
  unfold readingAfter at h
  cases hs : (State.step (source.count '\n'))^[n] (.start source) with
  | between => simp [hs, State.answer?] at h
  | inside => simp [hs, State.answer?] at h
  | ended items =>
    simp only [hs, State.answer?, Option.some.injEq, State.result] at h hresult
    simp only [← h, Item.ofText, ← hresult]
  | failed fault =>
    simp only [hs, State.answer?, Option.some.injEq, State.result] at h hresult
    simp only [← h, Item.ofText, ← hresult]

/-- Reading that comes to two points never gives an answer, before or after. -/
theorem not_atTwoPoints_of_answer? {source : List Char} {m n : Nat}
    {answer : Except LexError (List Item)}
    (h : (readingAfter n source).answer? (source.count '\n') = some answer) :
    ¬ (readingAfter m source).AtTwoPoints := by
  intro hpoints
  rcases Nat.le_total n m with hle | hle
  · -- An answer stays, and it is not at two points.
    have hstay := Function.iterate_fixed (step_of_answer? h) (m - n)
    unfold readingAfter at hstay hpoints h
    rw [← Function.iterate_add_apply, Nat.sub_add_cancel hle] at hstay
    have hnone := answer?_of_atTwoPoints (source.count '\n') hpoints 0
    rw [Function.iterate_zero_apply, hstay, h] at hnone
    cases hnone
  · have hnone := answer?_of_atTwoPoints (source.count '\n') hpoints (n - m)
    unfold readingAfter at hnone h
    rw [← Function.iterate_add_apply, Nat.sub_add_cancel hle, h] at hnone
    cases hnone

/-- Without two points in the text reading never comes to them. -/
theorem never_atTwoPoints {source : List Char} (h : ¬ ['.', '.'] <:+: source) (n : Nat) :
    ¬ (readingAfter n source).AtTwoPoints := by
  intro hpoints
  have hrest := suffix_rest_iterate (source.count '\n') n (.start source)
  unfold readingAfter at hpoints
  cases hs : (State.step (source.count '\n'))^[n] (.start source) with
  | inside items opened tokens spaced cs =>
    rw [hs] at hpoints hrest
    exact h (hpoints.isInfix.trans hrest.isInfix)
  | between => simp [hs, State.AtTwoPoints] at hpoints
  | ended => simp [hs, State.AtTwoPoints] at hpoints
  | failed => simp [hs, State.AtTwoPoints] at hpoints

/-- Reading ends, with what is read in one go, just if no token ever begins at two points. -/
theorem exists_answer_iff (source : List Char) :
    (∃ n, (readingAfter n source).answer? (source.count '\n') = some (Item.ofText source)) ↔
      ∀ n, ¬ (readingAfter n source).AtTwoPoints := by
  constructor
  · rintro ⟨n, hanswer⟩ m
    exact not_atTwoPoints_of_answer? hanswer
  · intro h
    obtain ⟨n, answer, hanswer⟩ :=
      exists_answer_of_not_atTwoPoints (source.count '\n') (.start source) h
    have heq := eq_ofText_of_answer? h hanswer
    exact ⟨n, heq ▸ hanswer⟩

/-- A step inside of an action advances away from two points, and every pass from one text to the
next takes an opening delimiter. So reading ends, with items or an error, just if no token begins
at two points, and always if no two points are in the source. -/
theorem reading_comes_to_an_end_unless_a_token_begins_at_two_points (source : List Char) :
    (∀ items opened tokens spaced cs, ¬ ['.', '.'] <+: cs →
      Advances (source.count '\n') items opened tokens cs
        ((State.inside items opened tokens spaced cs).step (source.count '\n'))) ∧
    (∀ n items trimmed cs items' trimmed' cs',
      (State.step (source.count '\n'))^[n + 1] (.between items trimmed cs) =
          .between items' trimmed' cs' →
        ∃ text after, cs = text ++ '\x7b' :: '\x7b' :: after ∧ cs' <:+ after) ∧
    ((∃ n, (readingAfter n source).answer? (source.count '\n') = some (Item.ofText source)) ↔
      ∀ n, ¬ (readingAfter n source).AtTwoPoints) ∧
    (¬ ['.', '.'] <:+: source →
      ∃ n, (readingAfter n source).answer? (source.count '\n') = some (Item.ofText source)) := by
  refine ⟨?_, ?_, exists_answer_iff source, ?_⟩
  · intro items opened tokens spaced cs h
    exact advances_step_inside _ items opened tokens spaced h
  · intro n items trimmed cs items' trimmed' cs' h
    exact exists_delimiter_of_iterate h
  · intro h
    exact (exists_answer_iff source).2 (never_atTwoPoints h)

/-- A text, an action with a chain, a number and a dash, and a comment. -/
theorem a_template_without_two_points_is_read_to_its_end :
    ¬ ['.', '.'] <+: ".b 1.5 -\x7d\x7d".toList ∧
    Advances 1 [] [] [] ".b 1.5 -\x7d\x7d".toList
      ((State.inside [] [] [] true ".b 1.5 -\x7d\x7d".toList).step 1) ∧
    (State.step 1)^[4] (.between [] false "a \x7b\x7b.b -\x7d\x7d\nc".toList) =
      .between [.text "a ", .action [⟨.field ["b"], true⟩] 1] true "\nc".toList ∧
    (∃ text after, "a \x7b\x7b.b -\x7d\x7d\nc".toList = text ++ '\x7b' :: '\x7b' :: after ∧
      "\nc".toList <:+ after) ∧
    ¬ ['.', '.'] <:+: "a \x7b\x7b.b 1.5 -\x7d\x7d\n\x7b\x7b/* . */\x7d\x7d".toList ∧
    ∃ n, (readingAfter n "a \x7b\x7b.b 1.5 -\x7d\x7d\n\x7b\x7b/* . */\x7d\x7d".toList).answer? 1 =
      some (Item.ofText "a \x7b\x7b.b 1.5 -\x7d\x7d\n\x7b\x7b/* . */\x7d\x7d".toList) := by
  have hpoints : ¬ ['.', '.'] <+: ".b 1.5 -\x7d\x7d".toList := by decide +kernel
  have hpass : (State.step 1)^[4] (.between [] false "a \x7b\x7b.b -\x7d\x7d\nc".toList) =
      .between [.text "a ", .action [⟨.field ["b"], true⟩] 1] true "\nc".toList := by
    decide +kernel
  have hpair : ¬ ['.', '.'] <:+:
      "a \x7b\x7b.b 1.5 -\x7d\x7d\n\x7b\x7b/* . */\x7d\x7d".toList := by
    decide +kernel
  obtain ⟨hstep, hdelimiter, -, hend⟩ :=
    reading_comes_to_an_end_unless_a_token_begins_at_two_points
      "a \x7b\x7b.b 1.5 -\x7d\x7d\n\x7b\x7b/* . */\x7d\x7d".toList
  exact ⟨hpoints, hstep [] [] [] true _ hpoints, hpass,
    hdelimiter 3 [] false _ _ true _ hpass, hpair, hend hpair⟩

end LayerLint.Template.Lexer
