-- Where a stage and a group end. Both searches count the parentheses that are open, and what they
-- find is said here by the parentheses of the tokens alone.
import LayerLint.Proofs.Template.Stage

namespace LayerLint.Template

/-! ## Parentheses of tokens -/

def openings (tokens : List Token) : Nat := tokens.countP (·.kind = .leftParen)

def closings (tokens : List Token) : Nat := tokens.countP (·.kind = .rightParen)

/-- No parenthesis closes that was not opened, if so many are open before. -/
def ClosesOpened (depth : Nat) (tokens : List Token) : Prop :=
  ∀ front, front <+: tokens → closings front ≤ depth + openings front

/-- Every parenthesis is opened before it is closed, and closed. -/
structure Balanced (tokens : List Token) : Prop where
  closesOpened : ClosesOpened 0 tokens
  closesAll : closings tokens = openings tokens

/-- Every pipe stands in parentheses, if so many are open before. -/
def PipesInside (depth : Nat) (tokens : List Token) : Prop :=
  ∀ front bar rest, tokens = front ++ bar :: rest → bar.kind = .pipe →
    closings front < depth + openings front

/-- Stages with a pipe between each two. -/
inductive Joined : List (List Token) → List Token → Prop
  | last (stage : List Token) : Joined [stage] stage
  | piped {stage rest : List Token} {bar : Token} {stages : List (List Token)} :
      bar.kind = .pipe → Joined stages rest → Joined (stage :: stages) (stage ++ bar :: rest)

/-- Tokens are cut at the pipes outside of parentheses. In the last stage parentheses may be left
open. -/
structure IsCut (tokens : List Token) (stages : List (List Token)) : Prop where
  joined : Joined stages tokens
  balanced : ∀ stage ∈ stages.dropLast, Balanced stage
  inside : ∀ stage ∈ stages, PipesInside 0 stage

/-- The tokens between two places. -/
def between (tokens : List Token) (opening closing : Nat) : List Token :=
  (tokens.take closing).drop (opening + 1)

/-- At a later place a parenthesis closes, and the tokens between are balanced. -/
structure Closes (tokens : List Token) (opening closing : Nat) : Prop where
  later : opening < closing
  closes : ∃ token, tokens[closing]? = some token ∧ token.kind = .rightParen
  balanced : Balanced (between tokens opening closing)

/-! ## The count along tokens -/

/-- How many parentheses are open after some tokens, if none closes that was not opened. -/
def openAfter (depth : Nat) : List Token → Option Nat
  | [] => some depth
  | token :: rest => (depthAfter depth token.kind).bind fun inner => openAfter inner rest

theorem openAfter_append (depth : Nat) (front rest : List Token) :
    openAfter depth (front ++ rest) = (openAfter depth front).bind (openAfter · rest) := by
  induction front generalizing depth with
  | nil => rfl
  | cons token front ih =>
    rw [List.cons_append, openAfter, openAfter, Option.bind_assoc]
    congr 1
    funext inner
    exact ih inner

theorem openings_cons (token : Token) (rest : List Token) :
    openings (token :: rest) = openings [token] + openings rest := by
  rw [← List.singleton_append]
  exact List.countP_append

theorem closings_cons (token : Token) (rest : List Token) :
    closings (token :: rest) = closings [token] + closings rest := by
  rw [← List.singleton_append]
  exact List.countP_append

theorem depthAfter_eq_some_iff {depth inner : Nat} {token : Token} :
    depthAfter depth token.kind = some inner ↔
      inner + closings [token] = depth + openings [token] := by
  rcases token with ⟨kind, spaced⟩
  cases kind <;> simp [depthAfter, openings, closings] <;> omega

/-- The count goes through some tokens if none of them closes what was not opened, and tells how
many are open then. -/
theorem openAfter_eq_some_iff {depth inner : Nat} {tokens : List Token} :
    openAfter depth tokens = some inner ↔
      ClosesOpened depth tokens ∧ inner + closings tokens = depth + openings tokens := by
  induction tokens generalizing depth with
  | nil =>
    have hnil : ClosesOpened depth [] := by
      intro front hfront
      rw [List.prefix_nil.1 hfront]
      exact Nat.zero_le _
    simp [openAfter, hnil, openings, closings, eq_comm]
  | cons token rest ih =>
    rw [openAfter, Option.bind_eq_some_iff, openings_cons, closings_cons]
    constructor
    · rintro ⟨middle, hmiddle, hafter⟩
      rw [depthAfter_eq_some_iff] at hmiddle
      obtain ⟨hrest, hcount⟩ := ih.1 hafter
      refine ⟨fun front hfront => ?_, by omega⟩
      -- a longer beginning is the token and a beginning of the rest, counted from the new depth
      rcases List.prefix_cons_iff.1 hfront with rfl | ⟨later, rfl, hlater⟩
      · exact Nat.zero_le _
      · have hle := hrest later hlater
        rw [openings_cons, closings_cons]
        omega
    · rintro ⟨hfronts, hcount⟩
      have hfirst := hfronts [token] (List.prefix_append [token] rest)
      refine ⟨depth + openings [token] - closings [token], ?_, ih.2 ⟨fun front hfront => ?_, ?_⟩⟩
      · rw [depthAfter_eq_some_iff]
        omega
      · have hle := hfronts (token :: front) (List.cons_prefix_cons.2 ⟨rfl, hfront⟩)
        rw [openings_cons, closings_cons] at hle
        omega
      · omega

theorem exists_openAfter_iff {depth : Nat} {tokens : List Token} :
    (∃ inner, openAfter depth tokens = some inner) ↔ ClosesOpened depth tokens := by
  simp only [openAfter_eq_some_iff]
  constructor
  · rintro ⟨_, hfronts, _⟩
    exact hfronts
  · intro hfronts
    have hall := hfronts tokens List.prefix_rfl
    exact ⟨depth + openings tokens - closings tokens, hfronts, by omega⟩

theorem openAfter_eq_zero_iff {tokens : List Token} :
    openAfter 0 tokens = some 0 ↔ Balanced tokens := by
  rw [openAfter_eq_some_iff, Nat.zero_add, Nat.zero_add]
  exact ⟨fun ⟨hfronts, hcount⟩ => ⟨hfronts, hcount⟩, fun ⟨hfronts, hcount⟩ => ⟨hfronts, hcount⟩⟩

/-! ## The search for the end of a group -/

theorem takeGroup_append {depth inner : Nat} {front : List Token}
    (h : openAfter depth front = some inner) (rest : List Token) :
    takeGroup depth (front ++ rest) =
      (takeGroup inner rest).map fun (inside, after) => (front ++ inside, after) := by
  induction front generalizing depth with
  | nil =>
    cases h
    cases hgroup : takeGroup inner rest <;> simp [hgroup]
  | cons token front ih =>
    obtain ⟨middle, hmiddle, hfront⟩ := Option.bind_eq_some_iff.1 h
    rw [List.cons_append, takeGroup_cons, hmiddle]
    simp only [ih hfront, Option.map_map]
    rfl

/-- A group ends at the parenthesis that closes when no other is open. -/
theorem takeGroup_eq_some_iff {depth : Nat} {tokens inside after : List Token} :
    takeGroup depth tokens = some (inside, after) ↔ openAfter depth inside = some 0 ∧
      ∃ closing : Token, closing.kind = .rightParen ∧ tokens = inside ++ closing :: after := by
  constructor
  · intro h
    refine ⟨?_, exists_closing_of_takeGroup h⟩
    induction tokens generalizing depth inside with
    | nil => cases h
    | cons token rest ih =>
      rw [takeGroup_cons] at h
      split at h
      · rename_i hclose
        cases h
        rw [(depthAfter_eq_none_iff.1 hclose).2]
        rfl
      · rename_i inner hinner
        obtain ⟨⟨others, left⟩, hrest, heq⟩ := Option.map_eq_some_iff.1 h
        cases heq
        rw [openAfter, hinner]
        exact ih hrest
  · rintro ⟨hinside, closing, hclosing, rfl⟩
    rw [takeGroup_append hinside, takeGroup_cons, hclosing]
    simp [depthAfter]

/-- Where a group has no end, no parenthesis closes that was not opened. -/
theorem closesOpened_of_takeGroup_eq_none {depth : Nat} {tokens : List Token}
    (h : takeGroup depth tokens = none) : ClosesOpened depth tokens := by
  refine exists_openAfter_iff.1 ?_
  induction tokens generalizing depth with
  | nil => exact ⟨depth, rfl⟩
  | cons token rest ih =>
    rw [takeGroup_cons] at h
    split at h
    · cases h
    · rename_i inner hinner
      rw [openAfter, hinner]
      exact ih (Option.map_eq_none_iff.1 h)

/-! ## Places of a group -/

section Places

variable {tokens : List Token} {opening closing : Nat}

theorem drop_eq_between_append {token : Token} (hlater : opening < closing)
    (htoken : tokens[closing]? = some token) :
    tokens.drop (opening + 1) = between tokens opening closing ++ token :: tokens.drop (closing + 1)
    := by
  obtain ⟨hlength, rfl⟩ := List.getElem?_eq_some_iff.1 htoken
  have hle : opening + 1 ≤ (tokens.take closing).length := by
    rw [List.length_take]
    omega
  rw [between, ← List.drop_append_of_le_length hle, ← List.drop_eq_getElem_cons hlength,
    List.take_append_drop]

theorem between_eq_take (tokens : List Token) (opening closing : Nat) :
    between tokens opening closing =
      (tokens.drop (opening + 1)).take (closing - (opening + 1)) := by
  rw [between, List.drop_take]

theorem drop_take_eq_cons_between {token : Token} {place : Nat} (hlater : opening < place)
    (htoken : tokens[opening]? = some token) :
    (tokens.take place).drop opening = token :: between tokens opening place := by
  obtain ⟨hlength, rfl⟩ := List.getElem?_eq_some_iff.1 htoken
  have hshort : opening < (tokens.take place).length := by
    rw [List.length_take]
    omega
  rw [between, List.drop_eq_getElem_cons hshort, List.getElem_take]

/-- A group is taken up to the first place at which it is closed. There is no second one. -/
theorem takeGroup_drop_eq_some_iff {inside after : List Token} :
    takeGroup 0 (tokens.drop (opening + 1)) = some (inside, after) ↔
      ∃ closing, Closes tokens opening closing ∧ inside = between tokens opening closing ∧
        after = tokens.drop (closing + 1) := by
  rw [takeGroup_eq_some_iff, openAfter_eq_zero_iff]
  constructor
  · rintro ⟨hbalanced, token, htoken, hdrop⟩
    have hbetween : between tokens opening (opening + 1 + inside.length) = inside := by
      rw [between_eq_take, Nat.add_sub_cancel_left, hdrop, List.take_left]
    refine ⟨opening + 1 + inside.length, ⟨by omega, ⟨token, ?_, htoken⟩, ?_⟩, hbetween.symm, ?_⟩
    · rw [← List.getElem?_drop, hdrop]
      simp
    · rwa [hbetween]
    · rw [Nat.add_assoc (opening + 1), ← List.drop_drop, hdrop]
      simp
  · rintro ⟨closing, ⟨hlater, ⟨token, hplace, htoken⟩, hbalanced⟩, rfl, rfl⟩
    exact ⟨hbalanced, token, htoken, drop_eq_between_append hlater hplace⟩

theorem Closes.lt_length (h : Closes tokens opening closing) : closing < tokens.length := by
  obtain ⟨token, hplace, _⟩ := h.closes
  exact (List.getElem?_eq_some_iff.1 hplace).1

theorem Closes.eq {other : Nat} (h : Closes tokens opening closing)
    (hother : Closes tokens opening other) : closing = other := by
  -- the search gives one answer, and the tokens that it leaves tell the place
  have hsome := takeGroup_drop_eq_some_iff.2 ⟨closing, h, rfl, rfl⟩
  rw [takeGroup_drop_eq_some_iff.2 ⟨other, hother, rfl, rfl⟩] at hsome
  have hlength := congrArg List.length (congrArg Prod.snd (Option.some.inj hsome))
  simp only [List.length_drop] at hlength
  have hlt := h.lt_length
  have hlt' := hother.lt_length
  omega

theorem takeGroup_drop_eq_none_iff :
    takeGroup 0 (tokens.drop (opening + 1)) = none ↔ ∀ closing, ¬Closes tokens opening closing := by
  constructor
  · intro hnone closing hcloses
    rw [takeGroup_drop_eq_some_iff.2 ⟨closing, hcloses, rfl, rfl⟩] at hnone
    cases hnone
  · intro hnone
    refine Option.eq_none_iff_forall_ne_some.2 fun ⟨inside, after⟩ hsome => ?_
    obtain ⟨closing, hcloses, _, _⟩ := takeGroup_drop_eq_some_iff.1 hsome
    exact hnone closing hcloses

/-- Up to the end of a group no parenthesis closes that was not opened in the group. -/
theorem closesOpened_between {place : Nat}
    (hplace : ∀ closing, Closes tokens opening closing → place ≤ closing) :
    ClosesOpened 0 (between tokens opening place) := by
  cases hgroup : takeGroup 0 (tokens.drop (opening + 1)) with
  | none =>
    intro front hfront
    rw [between_eq_take] at hfront
    exact closesOpened_of_takeGroup_eq_none hgroup front (hfront.trans (List.take_prefix _ _))
  | some group =>
    obtain ⟨closing, hcloses, _, _⟩ := takeGroup_drop_eq_some_iff.1 hgroup
    intro front hfront
    refine hcloses.balanced.closesOpened front (hfront.trans ?_)
    rw [between_eq_take, between_eq_take]
    exact List.take_prefix_take_left (Nat.sub_le_sub_right (hplace closing hcloses) _)

end Places

/-! ## The search for the ends of stages -/

theorem PipesInside.first {depth : Nat} {token : Token} {rest : List Token}
    (h : PipesInside depth (token :: rest)) : ¬(token.kind = .pipe ∧ depth = 0) := by
  rintro ⟨hpipe, rfl⟩
  exact absurd (h [] token rest rfl hpipe) (Nat.lt_irrefl 0)

theorem PipesInside.rest {depth inner : Nat} {token : Token} {rest : List Token}
    (h : PipesInside depth (token :: rest)) (hinner : depthAfter depth token.kind = some inner) :
    PipesInside inner rest := by
  intro front bar after hrest hpipe
  have hlt := h (token :: front) bar after (by rw [hrest, List.cons_append]) hpipe
  rw [openings_cons, closings_cons] at hlt
  have hcount := depthAfter_eq_some_iff.1 hinner
  omega

theorem PipesInside.cons {depth inner : Nat} {token : Token} {rest : List Token}
    (hfirst : ¬(token.kind = .pipe ∧ depth = 0))
    (hinner : depthAfter depth token.kind = some inner) (h : PipesInside inner rest) :
    PipesInside depth (token :: rest) := by
  intro front bar after heq hpipe
  rcases List.cons_eq_append_iff.1 heq with ⟨rfl, hbar⟩ | ⟨front, rfl, hrest⟩
  · cases hbar
    have hdepth : depth ≠ 0 := fun hzero => hfirst ⟨hpipe, hzero⟩
    simp only [closings, openings, List.countP_nil]
    omega
  · have hlt := h front bar after hrest hpipe
    rw [openings_cons, closings_cons]
    have hcount := depthAfter_eq_some_iff.1 hinner
    omega

theorem cutStages_append {depth inner : Nat} {front : List Token}
    (h : openAfter depth front = some inner) (hpipes : PipesInside depth front)
    (rest : List Token) :
    cutStages depth (front ++ rest) = (cutStages inner rest).map (addToFirst front) := by
  induction front generalizing depth with
  | nil =>
    cases h
    rcases hcut : cutStages inner rest with _ | _ | ⟨stage, stages⟩ <;> simp [hcut, addToFirst]
  | cons token front ih =>
    obtain ⟨middle, hmiddle, hfront⟩ := Option.bind_eq_some_iff.1 h
    rw [List.cons_append, cutStages_cons, if_neg hpipes.first, hmiddle]
    simp only [ih hfront (hpipes.rest hmiddle), Option.map_map]
    congr 1
    funext stages
    exact (addToFirst_append [token] front stages).symm

theorem isSome_cutStages (depth : Nat) (tokens : List Token) :
    (cutStages depth tokens).isSome = (openAfter depth tokens).isSome := by
  induction tokens generalizing depth with
  | nil => rfl
  | cons token rest ih =>
    rw [cutStages_cons, openAfter]
    split
    · rename_i hpipe
      rw [Option.isSome_map, ih, hpipe.1, hpipe.2]
      rfl
    · cases depthAfter depth token.kind with
      | none => rfl
      | some inner => rw [Option.isSome_map, ih, Option.bind_some]

/-- There is a cut if no parenthesis closes that was not opened. -/
theorem exists_cutStages_iff {depth : Nat} {tokens : List Token} :
    (∃ stages, cutStages depth tokens = some stages) ↔ ClosesOpened depth tokens := by
  rw [← exists_openAfter_iff, ← Option.isSome_iff_exists, ← Option.isSome_iff_exists,
    isSome_cutStages]

/-- The first stage has no pipe outside of parentheses, and is balanced if another one follows. -/
theorem first_of_cutStages {depth : Nat} {tokens stage : List Token} {stages : List (List Token)}
    (h : cutStages depth tokens = some (stage :: stages)) :
    PipesInside depth stage ∧ (stages ≠ [] → openAfter depth stage = some 0) := by
  have hnil : ∀ depth, PipesInside depth [] := by
    intro depth front bar rest heq
    cases front <;> cases heq
  induction tokens generalizing depth stage with
  | nil =>
    cases h
    exact ⟨hnil depth, fun hne => absurd rfl hne⟩
  | cons token rest ih =>
    rw [cutStages_cons] at h
    split at h
    · rename_i hpipe
      obtain ⟨others, hrest, heq⟩ := Option.map_eq_some_iff.1 h
      cases heq
      rw [hpipe.2]
      exact ⟨hnil 0, fun _ => rfl⟩
    · rename_i hfirst
      split at h
      · cases h
      · rename_i inner hinner
        obtain ⟨_ | ⟨first, others⟩, hrest, heq⟩ := Option.map_eq_some_iff.1 h
        · cases heq
        · cases heq
          obtain ⟨hpipes, hclosed⟩ := ih hrest
          refine ⟨hpipes.cons hfirst hinner, fun hne => ?_⟩
          rw [List.singleton_append, openAfter, hinner]
          exact hclosed hne

theorem isCut_of_cutStages {tokens : List Token} {stages : List (List Token)}
    (h : cutStages 0 tokens = some stages) : IsCut tokens stages := by
  induction stages generalizing tokens with
  | nil => exact absurd h (cutStages_ne_nil 0 tokens)
  | cons stage stages ih =>
    obtain ⟨hpipes, hclosed⟩ := first_of_cutStages h
    rcases eq_of_cutStages h with ⟨rfl, rfl⟩ | ⟨bar, rest, hbar, rfl, hrest⟩
    · refine ⟨.last tokens, nofun, fun other hother => ?_⟩
      rwa [List.mem_singleton.1 hother]
    · have hne : stages ≠ [] := by
        rintro rfl
        exact cutStages_ne_nil 0 rest hrest
      obtain ⟨hjoined, hbalanced, hinside⟩ := ih hrest
      refine ⟨.piped hbar hjoined, fun other hother => ?_, fun other hother => ?_⟩
      · rw [List.dropLast_cons_of_ne_nil hne] at hother
        rcases List.mem_cons.1 hother with rfl | hother
        · exact openAfter_eq_zero_iff.1 (hclosed hne)
        · exact hbalanced other hother
      · rcases List.mem_cons.1 hother with rfl | hother
        · exact hpipes
        · exact hinside other hother

theorem Joined.ne_nil {stages : List (List Token)} {tokens : List Token}
    (h : Joined stages tokens) : stages ≠ [] := by
  cases h <;> exact List.cons_ne_nil _ _

/-- Tokens are cut in one way only. -/
theorem cutStages_eq_some_iff {tokens : List Token} {stages : List (List Token)} :
    cutStages 0 tokens = some stages ↔ ClosesOpened 0 tokens ∧ IsCut tokens stages := by
  refine ⟨fun h => ⟨exists_cutStages_iff.1 ⟨stages, h⟩, isCut_of_cutStages h⟩, ?_⟩
  rintro ⟨hcloses, hjoined, hbalanced, hinside⟩
  induction hjoined with
  | last stage =>
    -- nothing is asked of the last stage but that the count goes through it
    obtain ⟨inner, hinner⟩ := exists_openAfter_iff.2 hcloses
    have hcut := cutStages_append hinner (hinside stage List.mem_cons_self) []
    simpa [cutStages, addToFirst] using hcut
  | @piped stage rest bar stages hbar hjoined ih =>
    rw [List.dropLast_cons_of_ne_nil hjoined.ne_nil] at hbalanced
    have hstage := openAfter_eq_zero_iff.2 (hbalanced stage List.mem_cons_self)
    have hrest : ClosesOpened 0 rest := by
      obtain ⟨inner, hinner⟩ := exists_openAfter_iff.2 hcloses
      rw [openAfter_append, hstage] at hinner
      refine exists_openAfter_iff.1 ⟨inner, ?_⟩
      simpa [openAfter, hbar, depthAfter] using hinner
    have hothers := ih hrest (fun other hother => hbalanced other (List.mem_cons_of_mem _ hother))
      fun other hother => hinside other (List.mem_cons_of_mem _ hother)
    rw [cutStages_append hstage (hinside stage List.mem_cons_self), cutStages_cons,
      if_pos ⟨hbar, rfl⟩, hothers]
    simp [addToFirst]

/-! ## Both searches -/

/-- Tokens are cut just if no parenthesis closes that was not opened, and into the only stages that
are a cut of them: with a pipe between each two they are the tokens, all but the last are balanced,
and none has a pipe outside of its parentheses. The group that a parenthesis opens is taken up to the
first later place at which one closes behind balanced tokens, and not at all if there is none. On the
way to this place more parentheses are opened than closed before each token, so the count of those
that are open is never lowered below nought. -/
theorem stages_and_groups_end_where_their_parentheses_do (tokens : List Token) :
    ((∃ stages, cutStages 0 tokens = some stages) ↔
      ∀ front, front <+: tokens → closings front ≤ openings front) ∧
    (∀ stages, cutStages 0 tokens = some stages ↔
      (∀ front, front <+: tokens → closings front ≤ openings front) ∧ IsCut tokens stages) ∧
    ∀ opening, (∃ token, tokens[opening]? = some token ∧ token.kind = .leftParen) →
      (∀ inside after, takeGroup 0 (tokens.drop (opening + 1)) = some (inside, after) ↔
        ∃ closing, Closes tokens opening closing ∧
          (∀ other, Closes tokens opening other → closing ≤ other) ∧
          inside = between tokens opening closing ∧ after = tokens.drop (closing + 1)) ∧
      (takeGroup 0 (tokens.drop (opening + 1)) = none ↔
        ∀ closing, ¬Closes tokens opening closing) ∧
      ∀ place, opening < place → (∀ closing, Closes tokens opening closing → place ≤ closing) →
        closings ((tokens.take place).drop opening) <
          openings ((tokens.take place).drop opening) := by
  have hcloses : ClosesOpened 0 tokens ↔
      ∀ front, front <+: tokens → closings front ≤ openings front := by
    simp only [ClosesOpened, Nat.zero_add]
  refine ⟨exists_cutStages_iff.trans hcloses,
    fun stages => cutStages_eq_some_iff.trans (and_congr_left' hcloses), ?_⟩
  rintro opening ⟨token, htoken, hopen⟩
  refine ⟨fun inside after => ?_, takeGroup_drop_eq_none_iff, fun place hlater hplace => ?_⟩
  · rw [takeGroup_drop_eq_some_iff]
    constructor
    · rintro ⟨closing, h, hinside, hafter⟩
      exact ⟨closing, h, fun other hother => Nat.le_of_eq (h.eq hother), hinside, hafter⟩
    · rintro ⟨closing, h, _, hinside, hafter⟩
      exact ⟨closing, h, hinside, hafter⟩
  · have hslice := drop_take_eq_cons_between hlater htoken
    have hle := closesOpened_between hplace (between tokens opening place) List.prefix_rfl
    have hone : openings [token] = 1 ∧ closings [token] = 0 := by
      simp [openings, closings, hopen]
    rw [hslice, openings_cons, closings_cons]
    omega

/-- A group in a group with a pipe, and behind another pipe a group that is not closed. -/
def nestedTokens : List Token :=
  [⟨.leftParen, true⟩, ⟨.leftParen, false⟩, ⟨.field ["a"], false⟩, ⟨.pipe, true⟩,
   ⟨.identifier "len", true⟩, ⟨.rightParen, false⟩, ⟨.rightParen, false⟩, ⟨.pipe, true⟩,
   ⟨.leftParen, true⟩, ⟨.identifier "len", false⟩]

theorem the_outer_group_ends_before_the_second_stage :
    (∃ token, nestedTokens[0]? = some token ∧ token.kind = .leftParen) ∧
      (∃ token, nestedTokens[8]? = some token ∧ token.kind = .leftParen) ∧
      IsCut nestedTokens [nestedTokens.take 7, nestedTokens.drop 8] ∧
      (∃ closing, Closes nestedTokens 0 closing ∧
        nestedTokens.drop (closing + 1) = nestedTokens.drop 7) ∧
      ∀ closing, ¬Closes nestedTokens 8 closing := by
  obtain ⟨_, hcut, hgroups⟩ := stages_and_groups_end_where_their_parentheses_do nestedTokens
  have hfirst : ∃ token, nestedTokens[0]? = some token ∧ token.kind = .leftParen := ⟨_, rfl, rfl⟩
  have hlast : ∃ token, nestedTokens[8]? = some token ∧ token.kind = .leftParen := ⟨_, rfl, rfl⟩
  obtain ⟨hend, _, _⟩ := hgroups 0 hfirst
  obtain ⟨_, hopen, _⟩ := hgroups 8 hlast
  obtain ⟨closing, hcloses, _, _, hafter⟩ := (hend _ (nestedTokens.drop 7)).1 rfl
  exact ⟨hfirst, hlast, ((hcut _).1 rfl).2, ⟨closing, hcloses, hafter.symm⟩, hopen.1 rfl⟩

end LayerLint.Template
