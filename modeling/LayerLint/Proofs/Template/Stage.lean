-- The tokens that are read as a pipeline are those that the grammar calls a pipeline. Where a group
-- ends and where a stage ends is found by counting parentheses; tokens that the grammar derives are
-- passed over by this count as a whole.
import LayerLint.Proofs.Template.Grammar

namespace LayerLint.Template

/-! ## Counting parentheses -/

/-- How many parentheses are open after a token, if it does not close one that was not opened. -/
def depthAfter (depth : Nat) : TokenKind → Option Nat
  | .leftParen => some (depth + 1)
  | .rightParen => if depth = 0 then none else some (depth - 1)
  | _ => some depth

theorem depthAfter_eq_none_iff {depth : Nat} {kind : TokenKind} :
    depthAfter depth kind = none ↔ kind = .rightParen ∧ depth = 0 := by
  cases kind <;> simp [depthAfter]

/-- Puts tokens in front of the first stage. -/
def addToFirst (tokens : List Token) : List (List Token) → List (List Token)
  | [] => []
  | stage :: stages => (tokens ++ stage) :: stages

theorem addToFirst_append (front tokens : List Token) (stages : List (List Token)) :
    addToFirst (front ++ tokens) stages = addToFirst front (addToFirst tokens stages) := by
  cases stages <;> simp [addToFirst]

theorem takeGroup_cons (depth : Nat) (token : Token) (rest : List Token) :
    takeGroup depth (token :: rest) =
      match depthAfter depth token.kind with
      | none => some ([], rest)
      | some inner =>
        (takeGroup inner rest).map fun (inside, after) => (token :: inside, after) := by
  rcases token with ⟨kind, spaced⟩
  cases kind <;> cases depth <;> rfl

/-- Keeps a token in the first stage, if there are stages. -/
def keepToken (token : Token) : Option (List (List Token)) → Option (List (List Token))
  | some (stage :: stages) => some ((token :: stage) :: stages)
  | _ => none

theorem keepToken_eq {token : Token} {stages : Option (List (List Token))} (h : stages ≠ some []) :
    keepToken token stages = stages.map (addToFirst [token]) := by
  rcases stages with _ | _ | ⟨stage, stages⟩
  · rfl
  · exact absurd rfl h
  · rfl

theorem keepToken_ne_nil (token : Token) (stages : Option (List (List Token))) :
    keepToken token stages ≠ some [] := by
  rcases stages with _ | _ | ⟨stage, stages⟩ <;> simp [keepToken]

theorem cutStages_cons_eq_keepToken (depth : Nat) (token : Token) (rest : List Token) :
    cutStages depth (token :: rest) =
      if token.kind = .pipe ∧ depth = 0 then (cutStages 0 rest).map ([] :: ·)
      else
        match depthAfter depth token.kind with
        | none => none
        | some inner => keepToken token (cutStages inner rest) := by
  rcases token with ⟨kind, spaced⟩
  cases kind <;> cases depth <;> rfl

theorem cutStages_ne_nil (depth : Nat) (tokens : List Token) :
    cutStages depth tokens ≠ some [] := by
  cases tokens with
  | nil => simp [cutStages]
  | cons token rest =>
    rw [cutStages_cons_eq_keepToken]
    split
    · simp
    · split
      · simp
      · exact keepToken_ne_nil token _

theorem cutStages_cons (depth : Nat) (token : Token) (rest : List Token) :
    cutStages depth (token :: rest) =
      if token.kind = .pipe ∧ depth = 0 then (cutStages 0 rest).map ([] :: ·)
      else
        match depthAfter depth token.kind with
        | none => none
        | some inner => (cutStages inner rest).map (addToFirst [token]) := by
  simp only [cutStages_cons_eq_keepToken, keepToken_eq (cutStages_ne_nil _ rest)]

/-! ## Ends that are found -/

/-- A group ends at a parenthesis that closes. -/
theorem exists_closing_of_takeGroup {depth : Nat} {tokens inside after : List Token}
    (h : takeGroup depth tokens = some (inside, after)) :
    ∃ closing : Token, closing.kind = .rightParen ∧ tokens = inside ++ closing :: after := by
  induction tokens generalizing depth inside with
  | nil => cases h
  | cons token rest ih =>
    rw [takeGroup_cons] at h
    split at h
    · rename_i hclose
      cases h
      exact ⟨token, (depthAfter_eq_none_iff.1 hclose).1, rfl⟩
    · obtain ⟨⟨others, left⟩, hrest, heq⟩ := Option.map_eq_some_iff.1 h
      cases heq
      obtain ⟨closing, hclosing, rfl⟩ := ih hrest
      exact ⟨closing, hclosing, rfl⟩

/-- Stages are cut at pipes, and what is after the first cut is cut on its own. -/
theorem eq_of_cutStages {depth : Nat} {tokens stage : List Token} {stages : List (List Token)}
    (h : cutStages depth tokens = some (stage :: stages)) :
    (stages = [] ∧ tokens = stage) ∨ ∃ bar rest, bar.kind = .pipe ∧ tokens = stage ++ bar :: rest ∧
      cutStages 0 rest = some stages := by
  induction tokens generalizing depth stage with
  | nil =>
    cases h
    exact .inl ⟨rfl, rfl⟩
  | cons token rest ih =>
    rw [cutStages_cons] at h
    split at h
    · rename_i hpipe
      obtain ⟨others, hrest, heq⟩ := Option.map_eq_some_iff.1 h
      cases heq
      exact .inr ⟨token, rest, hpipe.1, rfl, hrest⟩
    · split at h
      · cases h
      · obtain ⟨_ | ⟨first, others⟩, hrest, heq⟩ := Option.map_eq_some_iff.1 h
        · cases heq
        · cases heq
          rcases ih hrest with ⟨rfl, rfl⟩ | ⟨bar, after, hbar, rfl, hafter⟩
          · exact .inl ⟨rfl, rfl⟩
          · exact .inr ⟨bar, after, hbar, rfl, hafter⟩

/-! ## Tokens that are passed over -/

/-- Among some tokens no group ends that began before them, and from some depth on no stage. -/
structure PassedOver (least : Nat) (tokens : List Token) : Prop where
  group : ∀ depth rest, takeGroup depth (tokens ++ rest) =
    (takeGroup depth rest).map fun (inside, after) => (tokens ++ inside, after)
  stages : ∀ depth, least ≤ depth → ∀ rest, cutStages depth (tokens ++ rest) =
    (cutStages depth rest).map (addToFirst tokens)

namespace PassedOver

theorem nil (least : Nat) : PassedOver least [] where
  group depth rest := by
    cases h : takeGroup depth rest <;> simp [h]
  stages depth _ rest := by
    rcases h : cutStages depth rest with _ | _ | ⟨stage, stages⟩ <;> simp [h, addToFirst]

theorem append {least : Nat} {front tokens : List Token} (hfront : PassedOver least front)
    (htokens : PassedOver least tokens) : PassedOver least (front ++ tokens) where
  group depth rest := by
    rw [List.append_assoc, hfront.group depth, htokens.group depth, Option.map_map]
    congr 1
    funext ⟨inside, after⟩
    simp
  stages depth hdepth rest := by
    rw [List.append_assoc, hfront.stages depth hdepth, htokens.stages depth hdepth, Option.map_map]
    congr 1
    funext stages
    exact (addToFirst_append front tokens stages).symm

theorem mono {least more : Nat} {tokens : List Token} (h : PassedOver least tokens)
    (hle : least ≤ more) : PassedOver more tokens where
  group := h.group
  stages depth hdepth := h.stages depth (Nat.le_trans hle hdepth)

/-- A token that is no parenthesis is passed over, a pipe only inside of parentheses. -/
theorem singleton {least : Nat} {token : Token} (hopen : token.kind ≠ .leftParen)
    (hclose : token.kind ≠ .rightParen) (hpipe : token.kind = .pipe → 0 < least) :
    PassedOver least [token] := by
  have hdepth : ∀ depth, depthAfter depth token.kind = some depth := by
    intro depth
    unfold depthAfter
    split
    · exact absurd ‹_› hopen
    · exact absurd ‹_› hclose
    · rfl
  refine ⟨fun depth rest => ?_, fun depth hle rest => ?_⟩
  · rw [List.singleton_append, takeGroup_cons, hdepth]
    rfl
  · have hcut : ¬(token.kind = .pipe ∧ depth = 0) := fun h => by
      have := hpipe h.1
      omega
    rw [List.singleton_append, cutStages_cons, if_neg hcut, hdepth]

/-- A group is passed over, if what is inside of it is passed over there. -/
theorem enclosed {opening closing : Token} {inside : List Token} (hopen : opening.kind = .leftParen)
    (hclose : closing.kind = .rightParen) (h : PassedOver 1 inside) :
    PassedOver 0 (opening :: (inside ++ [closing])) := by
  have hin : ∀ depth, depthAfter depth opening.kind = some (depth + 1) := by
    simp [hopen, depthAfter]
  have hout : ∀ depth, depthAfter (depth + 1) closing.kind = some depth := by
    simp [hclose, depthAfter]
  refine ⟨fun depth rest => ?_, fun depth _ rest => ?_⟩
  · rw [List.cons_append, List.append_assoc, List.singleton_append, takeGroup_cons, hin]
    simp only
    rw [h.group, takeGroup_cons, hout]
    simp only [Option.map_map]
    congr 1
    funext ⟨others, after⟩
    simp
  · have hne : opening.kind ≠ .pipe ∧ closing.kind ≠ .pipe := by simp [hopen, hclose]
    rw [List.cons_append, List.append_assoc, List.singleton_append, cutStages_cons,
      if_neg fun hpipe => hne.1 hpipe.1, hin]
    simp only
    rw [h.stages _ (Nat.le_add_left 1 depth), cutStages_cons, if_neg fun hpipe => hne.2 hpipe.1,
      hout]
    simp only [Option.map_map]
    congr 1
    funext stages
    simp only [Function.comp_apply, ← addToFirst_append]
    simp

/-- A group ends at the parenthesis after tokens that are passed over. -/
theorem takeGroup_eq {least : Nat} {inside : List Token} (h : PassedOver least inside)
    {closing : Token} (hclose : closing.kind = .rightParen) (after : List Token) :
    takeGroup 0 (inside ++ closing :: after) = some (inside, after) := by
  rw [h.group, takeGroup_cons, hclose]
  simp [depthAfter]

/-- Tokens that are passed over everywhere are one stage. -/
theorem cutStages_eq {tokens : List Token} (h : PassedOver 0 tokens) :
    cutStages 0 tokens = some [tokens] := by
  have hcut := h.stages 0 (Nat.le_refl 0) []
  simpa [cutStages, addToFirst] using hcut

/-- Tokens that are passed over everywhere are the first stage before a pipe. -/
theorem cutStages_pipe {tokens : List Token} (h : PassedOver 0 tokens) {bar : Token}
    (hbar : bar.kind = .pipe) {rest : List Token} {stages : List (List Token)}
    (hrest : cutStages 0 rest = some stages) :
    cutStages 0 (tokens ++ bar :: rest) = some (tokens :: stages) := by
  rw [h.stages 0 (Nat.le_refl 0), cutStages_cons, if_pos ⟨hbar, rfl⟩, hrest]
  simp [addToFirst]

end PassedOver

/-! ## What the grammar derives -/

/-- Signs give values to names; they stand in no operand. -/
def HasNoSign (tokens : List Token) : Prop :=
  ∀ token ∈ tokens, token.kind ≠ .declare ∧ token.kind ≠ .assign ∧ token.kind ≠ .comma

theorem HasNoSign.append {front tokens : List Token} (hfront : HasNoSign front)
    (htokens : HasNoSign tokens) : HasNoSign (front ++ tokens) :=
  fun token h => (List.mem_append.1 h).elim (hfront token) (htokens token)

variable {names : Names}

theorem Atom.hasNoSign {token : Token} {operand : Operand} (h : Atom names token.kind operand) :
    HasNoSign [token] := by
  intro other hother
  obtain rfl := List.mem_singleton.1 hother
  generalize other.kind = kind at h
  cases h <;> simp

theorem Atom.passedOver {token : Token} {operand : Operand} (h : Atom names token.kind operand) :
    PassedOver 0 [token] := by
  generalize hkind : token.kind = kind at h
  apply PassedOver.singleton <;> rw [hkind] <;> cases h <;> simp

theorem hasNoSign_attached (chains : List (List String)) : HasNoSign (chains.map attached) := by
  intro token h
  obtain ⟨chain, _, rfl⟩ := List.mem_map.1 h
  simp [attached]

theorem passedOver_attached (chains : List (List String)) :
    PassedOver 0 (chains.map attached) := by
  induction chains with
  | nil => exact .nil 0
  | cons chain chains ih =>
    have hone : PassedOver 0 [attached chain] :=
      .singleton (by simp [attached]) (by simp [attached]) (by simp [attached])
    exact hone.append ih

mutual

theorem Operands.hasNoSign {tokens : List Token} {operands : List Operand} :
    Operands names tokens operands → HasNoSign tokens
  | .none => fun _ h => absurd h List.not_mem_nil
  | .atom hatom hrest => HasNoSign.append hatom.hasNoSign hrest.hasNoSign
  | @Operands.group _ opening closing inside rest stages chains _ hopen hinside hclose _ hrest => by
    have hends : HasNoSign [opening] ∧ HasNoSign [closing] := by
      simp [HasNoSign, hopen, hclose]
    rw [List.append_cons]
    exact hends.1.append ((hinside.hasNoSign.append hends.2).append
      ((hasNoSign_attached chains).append hrest.hasNoSign))

theorem Stages.hasNoSign {later : Bool} {tokens : List Token} {commands : List Command} :
    Stages names later tokens commands → HasNoSign tokens
  | .last hoperands _ => hoperands.hasNoSign
  | @Stages.piped _ _ front rest bar _ _ hoperands _ hbar hrest => by
    have hmiddle : HasNoSign [bar] := by simp [HasNoSign, hbar]
    exact hoperands.hasNoSign.append (hmiddle.append hrest.hasNoSign)

end

mutual

/-- Operands are passed over everywhere. -/
theorem Operands.passedOver {tokens : List Token} {operands : List Operand} :
    Operands names tokens operands → PassedOver 0 tokens
  | .none => .nil 0
  | .atom hatom hrest => hatom.passedOver.append hrest.passedOver
  | @Operands.group _ opening closing inside rest stages chains _ hopen hinside hclose _ hrest => by
    rw [List.append_cons, ← List.cons_append]
    exact (PassedOver.enclosed hopen hclose hinside.passedOver).append
      ((passedOver_attached chains).append hrest.passedOver)

/-- Stages are passed over inside of parentheses. -/
theorem Stages.passedOver {later : Bool} {tokens : List Token} {commands : List Command} :
    Stages names later tokens commands → PassedOver 1 tokens
  | .last hoperands _ => hoperands.passedOver.mono (Nat.zero_le 1)
  | @Stages.piped _ _ front rest bar _ _ hoperands _ hbar hrest => by
    have hmiddle : PassedOver 1 [bar] :=
      .singleton (by simp [hbar]) (by simp [hbar]) fun _ => Nat.one_pos
    exact (hoperands.passedOver.mono (Nat.zero_le 1)).append (hmiddle.append hrest.passedOver)

end

theorem Operands.eq_nil_iff {tokens : List Token} {operands : List Operand}
    (h : Operands names tokens operands) : tokens = [] ↔ operands = [] := by
  cases h <;> simp

theorem Stages.tokens_ne_nil {later : Bool} {tokens : List Token} {commands : List Command}
    (h : Stages names later tokens commands) : tokens ≠ [] := by
  cases h with
  | last hoperands hcommand => exact fun hnil => hcommand.notEmpty (hoperands.eq_nil_iff.1 hnil)
  | piped => simp

/-! ## Operands that are read -/

theorem chainOf_attached {chains : List (List String)} {rest : List Token}
    (h : ∀ chain after, rest ≠ attached chain :: after) :
    chainOf (chains.map attached ++ rest) = chains := by
  induction chains with
  | nil =>
    simp only [List.map_nil, List.nil_append]
    unfold chainOf
    split
    · rename_i chain after
      exact absurd rfl (h chain after)
    · rfl
  | cons chain chains ih =>
    simp only [List.map_cons, List.cons_append, attached, chainOf] at ih ⊢
    rw [ih]

/-- The chains that follow a group are all that are attached to it. -/
theorem exists_rest_of_chainOf (tokens : List Token) :
    ∃ rest, tokens = (chainOf tokens).map attached ++ rest ∧
      ∀ chain after, rest ≠ attached chain :: after := by
  fun_induction chainOf tokens with
  | case1 chain rest ih =>
    obtain ⟨after, hrest, hafter⟩ := ih
    refine ⟨after, ?_, hafter⟩
    rw [List.map_cons, List.cons_append, ← hrest]
    rfl
  | case2 tokens h => exact ⟨tokens, rfl, fun chain after heq => h chain after heq⟩

section Reading

variable {group : List Token → Except ParseProblem (List Command)}

/-- Tokens that are passed over do not count. -/
theorem parseOperands_skip (skipped : Nat) (tokens : List Token) :
    parseOperands names group skipped tokens =
      parseOperands names group 0 (tokens.drop skipped) := by
  induction tokens generalizing skipped with
  | nil => simp [parseOperands]
  | cons token rest ih =>
    cases skipped with
    | zero => rfl
    | succ skipped =>
      rw [parseOperands, ih, List.drop_succ_cons]

/-- What is left after a group and the chains that are attached to it. -/
theorem drop_group (inside rest : List Token) (closing : Token) (chains : List (List String)) :
    (inside ++ closing :: (chains.map attached ++ rest)).drop
      (inside.length + 1 + chains.length) = rest := by
  rw [List.append_cons, ← List.append_assoc]
  refine List.drop_left' ?_
  simp only [List.length_append, List.length_map, List.length_singleton]

theorem parseOperands_atom {token : Token} {operand : Operand} {rest : List Token}
    {operands : List Operand} (h : Atom names token.kind operand)
    (hrest : parseOperands names group 0 rest = .ok operands) :
    parseOperands names group 0 (token :: rest) = .ok (operand :: operands) := by
  rcases token with ⟨kind, spaced⟩
  cases h with
  | boundVariable chain hbound => simp [parseOperands, hbound, hrest]
  | knownFunction hknown => simp [parseOperands, hknown, hrest]
  | _ => simp [parseOperands, hrest]

theorem parseOperands_group {opening closing : Token} {inside rest : List Token}
    {chains : List (List String)} {stages : List Command} {operands : List Operand}
    (hopen : opening.kind = .leftParen)
    (htake : takeGroup 0 (inside ++ closing :: (chains.map attached ++ rest)) =
      some (inside, chains.map attached ++ rest))
    (hmaximal : ∀ chain after, rest ≠ attached chain :: after) (hstages : group inside = .ok stages)
    (hrest : parseOperands names group 0 rest = .ok operands) :
    parseOperands names group 0 (opening :: (inside ++ closing :: (chains.map attached ++ rest))) =
      .ok (.group stages chains.flatten :: operands) := by
  rcases opening with ⟨kind, spaced⟩
  cases hopen
  simp only [parseOperands, htake, hstages, chainOf_attached hmaximal]
  rw [parseOperands_skip, drop_group, hrest]

/-- An operand by itself is in front of the operands that are read after it. -/
theorem front_of_atom {token : Token} {rest : List Token} {operand : Operand}
    {operands : List Operand} (hatom : Atom names token.kind operand)
    (h : (match parseOperands names group 0 rest with
      | .error problem => .error problem
      | .ok others => .ok (operand :: others)) =
        (.ok operands : Except ParseProblem (List Operand))) :
    ∃ operand others, Atom names token.kind operand ∧
      parseOperands names group 0 rest = .ok others ∧ operands = operand :: others := by
  split at h
  · cases h
  · rename_i others hothers
    cases h
    exact ⟨operand, others, hatom, hothers, rfl⟩

/-- What stands at the front of operands: an operand by itself, or a group. -/
theorem cases_of_parseOperands {token : Token} {rest : List Token} {operands : List Operand}
    (h : parseOperands names group 0 (token :: rest) = .ok operands) :
    (∃ operand others, Atom names token.kind operand ∧
      parseOperands names group 0 rest = .ok others ∧ operands = operand :: others) ∨
    ∃ inside after stages others, token.kind = .leftParen ∧
      takeGroup 0 rest = some (inside, after) ∧ group inside = .ok stages ∧
      parseOperands names group (inside.length + 1 + (chainOf after).length) rest = .ok others ∧
      operands = .group stages (chainOf after).flatten :: others := by
  rcases token with ⟨kind, spaced⟩
  simp only [parseOperands] at h
  split at h
  · split at h
    · cases h
    · rename_i inside after hgroup
      split at h
      · cases h
      · rename_i stages hstages
        split at h
        · cases h
        · rename_i others hothers
          cases h
          exact .inr ⟨inside, after, stages, others, rfl, hgroup, hstages, hothers, rfl⟩
  · cases h
  · exact .inl (front_of_atom (.field _) h)
  · split at h
    · rename_i hbound
      exact .inl (front_of_atom (.boundVariable _ (by simpa using hbound)) h)
    · cases h
  · split at h
    · rename_i hknown
      exact .inl (front_of_atom (.knownFunction hknown) h)
    · cases h
  · exact .inl (front_of_atom (.text _) h)
  · exact .inl (front_of_atom (.number _) h)
  · exact .inl (front_of_atom (.character _) h)
  · exact .inl (front_of_atom (.boolean _) h)
  · exact .inl (front_of_atom .nil h)
  all_goals cases h

/-- Operands that are read are those of the grammar, if groups are. -/
theorem operands_of_parseOperands
    (hgroup : ∀ inside stages, group inside = .ok stages → Stages names false inside stages)
    {tokens : List Token} {operands : List Operand}
    (h : parseOperands names group 0 tokens = .ok operands) : Operands names tokens operands := by
  -- A group takes several tokens at once, so the induction is on the number of tokens.
  induction hlength : tokens.length using Nat.strongRecOn generalizing tokens operands with
  | ind length ih =>
    subst hlength
    cases tokens with
    | nil =>
      cases h
      exact .none
    | cons token rest =>
      rcases cases_of_parseOperands h with ⟨operand, others, hatom, hothers, rfl⟩ |
        ⟨inside, after, stages, others, hopen, htake, hstages, hothers, rfl⟩
      · exact .atom hatom (ih rest.length (by simp) hothers rfl)
      · obtain ⟨closing, hclose, rfl⟩ := exists_closing_of_takeGroup htake
        obtain ⟨left, hafter, hmaximal⟩ := exists_rest_of_chainOf after
        have hdrop := drop_group inside left closing (chainOf after)
        rw [← hafter] at hdrop
        rw [parseOperands_skip, hdrop] at hothers
        have hleft : left.length < (token :: (inside ++ closing :: after)).length := by
          rw [← hdrop, List.length_drop, List.length_cons]
          omega
        have hrest := ih left.length hleft hothers rfl
        have hread : Operands names
            (token :: (inside ++ closing :: ((chainOf after).map attached ++ left)))
            (.group stages (chainOf after).flatten :: others) :=
          .group hopen (hgroup inside stages hstages) hclose hmaximal hrest
        rwa [← hafter] at hread

/-! ## Stages that are read -/

theorem isNilAlone_iff {command : Command} : isNilAlone command = true ↔ command = [.nil] := by
  unfold isNilAlone
  split <;> simp_all

theorem isExecutable_eq_false_iff {operand : Operand} :
    isExecutable operand = false ↔ Literal operand := by
  constructor
  · intro h
    cases operand with
    | text value => exact .text value
    | number spelling => exact .number spelling
    | character value => exact .character value
    | boolean value => exact .boolean value
    | nil => exact .nil
    | _ => cases h
  · intro h
    cases h <;> rfl

/-- Whether the first operand of a later stage can take a value. -/
theorem not_literal_iff {stage : Nat} {command : Command} :
    ¬(0 < stage ∧ (!command.head?.all isExecutable) = true) ↔
      (decide (0 < stage) = true → ∀ first ∈ command.head?, ¬Literal first) := by
  cases command with
  | nil => simp
  | cons first rest => simp [← isExecutable_eq_false_iff]

theorem parseCommand_eq_ok_iff {tokens : List Token} {command : Command} :
    parseCommand names group tokens = .ok command ↔
      tokens ≠ [] ∧ parseOperands names group 0 tokens = .ok command ∧ command ≠ [.nil] := by
  unfold parseCommand
  by_cases hempty : tokens = []
  · simp [hempty]
  · simp only [List.isEmpty_iff, hempty, if_false, ne_eq, not_false_eq_true, true_and]
    cases parseOperands names group 0 tokens with
    | error problem => simp
    | ok operands =>
      simp only
      by_cases hnil : operands = [.nil]
      · rw [if_pos (isNilAlone_iff.2 hnil)]
        refine ⟨nofun, fun ⟨heq, hne⟩ => ?_⟩
        cases heq
        exact absurd hnil hne
      · rw [if_neg fun h => hnil (isNilAlone_iff.1 h)]
        simp only [Except.ok.injEq, iff_self_and]
        exact fun heq => heq ▸ hnil

theorem parseCommands_cons_eq_ok_iff {stage : Nat} {tokens : List Token}
    {rest : List (List Token)} {commands : List Command} :
    parseCommands names group stage (tokens :: rest) = .ok commands ↔
      ∃ command others, parseCommand names group tokens = .ok command ∧
        (decide (0 < stage) = true → ∀ first ∈ command.head?, ¬Literal first) ∧
        parseCommands names group (stage + 1) rest = .ok others ∧
        commands = command :: others := by
  simp only [parseCommands]
  cases parseCommand names group tokens with
  | error problem => simp
  | ok command =>
    by_cases hliteral : 0 < stage ∧ (!command.head?.all isExecutable) = true
    · simp only [if_pos hliteral, reduceCtorEq, false_iff, not_exists, not_and]
      rintro _ _ heq htakes
      cases heq
      exact absurd hliteral (not_literal_iff.2 htakes)
    · have htakes := not_literal_iff.1 hliteral
      simp only [if_neg hliteral]
      cases parseCommands names group (stage + 1) rest with
      | error problem => simp
      | ok others =>
        constructor
        · intro h
          cases h
          exact ⟨command, others, rfl, htakes, rfl, rfl⟩
        · rintro ⟨_, _, heq, _, hrest, rfl⟩
          cases heq
          cases hrest
          rfl

/-- Stages that are read are those of the grammar, if groups are. -/
theorem stages_of_parseCommands
    (hgroup : ∀ inside stages, group inside = .ok stages → Stages names false inside stages)
    {stages : List (List Token)} {tokens : List Token} {stage : Nat} {commands : List Command}
    (hcut : cutStages 0 tokens = some stages)
    (h : parseCommands names group stage stages = .ok commands) :
    Stages names (decide (0 < stage)) tokens commands := by
  induction stages generalizing tokens stage commands with
  | nil => exact absurd hcut (cutStages_ne_nil 0 tokens)
  | cons first rest ih =>
    obtain ⟨command, others, hcommand, htakes, hothers, rfl⟩ := parseCommands_cons_eq_ok_iff.1 h
    obtain ⟨hne, hoperands, hnil⟩ := parseCommand_eq_ok_iff.1 hcommand
    have hread := operands_of_parseOperands hgroup hoperands
    have hmay : IsCommand (decide (0 < stage)) command :=
      ⟨fun hempty => hne (hread.eq_nil_iff.2 hempty), hnil, htakes⟩
    rcases eq_of_cutStages hcut with ⟨rfl, rfl⟩ | ⟨bar, after, hbar, rfl, hafter⟩
    · cases hothers
      exact .last hread hmay
    · have hlater := ih hafter hothers
      rw [decide_eq_true (Nat.succ_pos stage)] at hlater
      exact .piped hread hmay hbar hlater

end Reading

/-! ## Names in front -/

theorem Given.length_pos {front : List Token} {given : List String} {assigns : Bool}
    (h : Given front given assigns) : 0 < given.length := by
  cases h <;> simp

theorem bareName_eq_some_iff {token : Option Token} {name : String} :
    bareName token = some name ↔ ∃ t, token = some t ∧ t.kind = .variable name [] := by
  unfold bareName
  split
  · simp
  · rename_i h
    simp only [reduceCtorEq, false_iff, not_exists, not_and]
    rintro ⟨kind, spaced⟩ rfl rfl
    exact h name spaced rfl

theorem assignment_eq_some_iff {token : Option Token} {assigns : Bool} :
    assignment token = some assigns ↔ ∃ t, token = some t ∧ t.kind = signOf assigns := by
  unfold assignment
  split
  · cases assigns <;> simp [signOf]
  · cases assigns <;> simp [signOf]
  · rename_i hdeclare hassign
    simp only [reduceCtorEq, false_iff, not_exists, not_and]
    rintro ⟨kind, spaced⟩ rfl hkind
    cases assigns
    · exact hdeclare spaced (by rw [show kind = _ from hkind]; rfl)
    · exact hassign spaced (by rw [show kind = _ from hkind]; rfl)

theorem isComma_iff {token : Option Token} :
    isComma token = true ↔ ∃ t, token = some t ∧ t.kind = .comma := by
  cases token <;> simp [isComma]

/-- No names are taken where no sign is. -/
theorem takeNamesGiven_of_hasNoSign {most : Nat} {tokens : List Token} (h : HasNoSign tokens) :
    takeNamesGiven most tokens = .ok ([], false, tokens) := by
  have hsign : assignment tokens[1]? = none := by
    rw [Option.eq_none_iff_forall_not_mem]
    intro assigns hassigns
    obtain ⟨token, htoken, hkind⟩ := assignment_eq_some_iff.1 hassigns
    have hno := h token (List.mem_of_getElem? htoken)
    cases assigns
    · exact hno.1 hkind
    · exact hno.2.1 hkind
  have hcomma : isComma tokens[1]? = false := by
    rw [← Bool.not_eq_true, isComma_iff]
    rintro ⟨token, htoken, hkind⟩
    exact (h token (List.mem_of_getElem? htoken)).2.2 hkind
  unfold takeNamesGiven
  split
  · rfl
  · simp [hsign, hcomma]

theorem takeNamesGiven_of_given {most : Nat} {front rest : List Token} {given : List String}
    {assigns : Bool} (h : Given front given assigns) (hmost : given.length ≤ most) :
    takeNamesGiven most (front ++ rest) = .ok (given, assigns, rest) := by
  cases h with
  | @one first sign name _ hfirst hsign =>
    have hname : bareName (some first) = some name := bareName_eq_some_iff.2 ⟨first, rfl, hfirst⟩
    have hassigns : assignment (some sign) = some assigns :=
      assignment_eq_some_iff.2 ⟨sign, rfl, hsign⟩
    simp only [List.length_singleton] at hmost
    simp [takeNamesGiven, hname, hassigns, hmost]
  | @two first comma second sign name other _ hfirst hcomma hsecond hsign =>
    have hname : bareName (some first) = some name := bareName_eq_some_iff.2 ⟨first, rfl, hfirst⟩
    have hother : bareName (some second) = some other :=
      bareName_eq_some_iff.2 ⟨second, rfl, hsecond⟩
    have hassigns : assignment (some sign) = some assigns :=
      assignment_eq_some_iff.2 ⟨sign, rfl, hsign⟩
    have hnone : assignment (some comma) = none := by
      rcases comma with ⟨kind, spaced⟩
      cases hcomma
      rfl
    have hiscomma : isComma (some comma) = true := isComma_iff.2 ⟨comma, rfl, hcomma⟩
    simp only [List.length_cons, List.length_nil] at hmost
    simp [takeNamesGiven, hname, hother, hassigns, hnone, hiscomma, hmost]

/-- Either no names are taken, or those that the grammar has in front. -/
theorem cases_of_takeNamesGiven {most : Nat} {tokens rest : List Token} {given : List String}
    {assigns : Bool} (h : takeNamesGiven most tokens = .ok (given, assigns, rest)) :
    (given = [] ∧ assigns = false ∧ rest = tokens) ∨
      ∃ front, tokens = front ++ rest ∧ Given front given assigns ∧ given.length ≤ most := by
  unfold takeNamesGiven at h
  split at h
  · cases h
    exact .inl ⟨rfl, rfl, rfl⟩
  · rename_i name hname
    obtain ⟨first, hfirst, hkind⟩ := bareName_eq_some_iff.1 hname
    split at h
    · rename_i sets hsets
      obtain ⟨sign, hsign, hset⟩ := assignment_eq_some_iff.1 hsets
      split at h
      · rename_i hmost
        cases h
        have htokens : tokens = [first, sign] ++ tokens.drop 2 := by
          rcases tokens with _ | ⟨_, _ | ⟨_, rest⟩⟩ <;> simp_all
        exact .inr ⟨[first, sign], htokens, .one hkind hset, hmost⟩
      · cases h
    · split at h
      · rename_i hiscomma
        obtain ⟨comma, hcomma, hbetween⟩ := isComma_iff.1 hiscomma
        split at h
        · rename_i other sets hother hsets
          obtain ⟨second, hsecond, hkind'⟩ := bareName_eq_some_iff.1 hother
          obtain ⟨sign, hsign, hset⟩ := assignment_eq_some_iff.1 hsets
          split at h
          · rename_i hmost
            cases h
            have htokens : tokens = [first, comma, second, sign] ++ tokens.drop 4 := by
              rcases tokens with _ | ⟨_, _ | ⟨_, _ | ⟨_, _ | ⟨_, rest⟩⟩⟩⟩ <;> simp_all
            exact .inr ⟨_, htokens, .two hkind hbetween hkind' hset, hmost⟩
          · cases h
        · cases h
      · cases h
        exact .inl ⟨rfl, rfl, rfl⟩

theorem checkAssigned_eq_ok_iff {given : List String} :
    checkAssigned names given = .ok () ↔ ∀ name ∈ given, name ∈ names.bound := by
  unfold checkAssigned
  split
  · rename_i name hname
    have hfound := List.find?_some hname
    refine ⟨nofun, fun hbound => ?_⟩
    have hmem := hbound name (List.mem_of_find?_eq_some hname)
    simp [hmem] at hfound
  · rename_i hnone
    simpa using hnone

theorem parseGiven_of_hasNoSign {most : Nat} {tokens : List Token} (h : HasNoSign tokens) :
    parseGiven names most tokens = .ok ([], false, tokens) := by
  simp [parseGiven, takeNamesGiven_of_hasNoSign h]

theorem parseGiven_of_given {most : Nat} {front rest : List Token} {given : List String}
    {assigns : Bool} (h : Given front given assigns) (hmost : given.length ≤ most)
    (hbound : assigns = true → ∀ name ∈ given, name ∈ names.bound) :
    parseGiven names most (front ++ rest) = .ok (given, assigns, rest) := by
  unfold parseGiven
  rw [takeNamesGiven_of_given h hmost]
  cases assigns with
  | false => rfl
  | true => simp [checkAssigned_eq_ok_iff.2 (hbound rfl)]

theorem cases_of_parseGiven {most : Nat} {tokens rest : List Token} {given : List String}
    {assigns : Bool} (h : parseGiven names most tokens = .ok (given, assigns, rest)) :
    (given = [] ∧ assigns = false ∧ rest = tokens) ∨
      ∃ front, tokens = front ++ rest ∧ Given front given assigns ∧ given.length ≤ most ∧
        (assigns = true → ∀ name ∈ given, name ∈ names.bound) := by
  unfold parseGiven at h
  split at h
  · cases h
  · rename_i taken hassigned htake
    split at h
    · cases h
    · rename_i hcheck
      cases h
      rcases cases_of_takeNamesGiven htake with hnone | ⟨front, htokens, hgiven, hmost⟩
      · exact .inl hnone
      · refine .inr ⟨front, htokens, hgiven, hmost, ?_⟩
        rintro rfl
        exact checkAssigned_eq_ok_iff.1 hcheck

/-! ## Pipelines that are read -/

/-- What reads the stages of a group in which parentheses are nested less deep than a bound. -/
def parseGroup (names : Names) (depth : Nat) (inside : List Token) :
    Except ParseProblem (List Command) :=
  match parseGiven names 0 inside with
  | .error problem => .error problem
  | .ok (_, _, rest) => parseStages names depth rest

theorem parseStages_succ {depth : Nat} {tokens : List Token} :
    parseStages names (depth + 1) tokens =
      if tokens.isEmpty then .error .missingValue
      else
        match cutStages 0 tokens with
        | none => .error .unexpectedParen
        | some stages => parseCommands names (parseGroup names depth) 0 stages := rfl

theorem parseStages_succ_eq_ok_iff {depth : Nat} {tokens : List Token} {commands : List Command} :
    parseStages names (depth + 1) tokens = .ok commands ↔
      tokens ≠ [] ∧ ∃ stages, cutStages 0 tokens = some stages ∧
        parseCommands names (parseGroup names depth) 0 stages = .ok commands := by
  rw [parseStages_succ]
  by_cases hempty : tokens = []
  · simp [hempty]
  · cases cutStages 0 tokens <;> simp [hempty]

/-- A group gives its value to no names. -/
theorem parseStages_of_parseGroup {depth : Nat} {inside : List Token} {stages : List Command}
    (h : parseGroup names depth inside = .ok stages) :
    parseStages names depth inside = .ok stages := by
  unfold parseGroup at h
  split at h
  · cases h
  · rename_i given assigns rest hgiven
    rcases cases_of_parseGiven hgiven with ⟨_, _, rfl⟩ | ⟨front, _, hfront, hnone, _⟩
    · exact h
    · exact absurd hfront.length_pos (Nat.not_lt.2 hnone)

/-- Stages that are read are those of the grammar. -/
theorem stages_of_parseStages {depth : Nat} {tokens : List Token} {commands : List Command}
    (h : parseStages names depth tokens = .ok commands) : Stages names false tokens commands := by
  induction depth generalizing tokens commands with
  | zero => cases h
  | succ depth ih =>
    obtain ⟨_, stages, hcut, hcommands⟩ := parseStages_succ_eq_ok_iff.1 h
    exact stages_of_parseCommands (fun _ _ hgroup => ih (parseStages_of_parseGroup hgroup)) hcut
      hcommands

mutual

/-- Operands of the grammar are read, if the bound is that of their number. -/
theorem Operands.parsed {tokens : List Token} {operands : List Operand}
    (h : Operands names tokens operands) {depth : Nat} (hdepth : tokens.length ≤ depth) :
    parseOperands names (parseGroup names depth) 0 tokens = .ok operands := by
  cases h with
  | none => rfl
  | atom hatom hrest => exact parseOperands_atom hatom (hrest.parsed (Nat.le_of_succ_le hdepth))
  | @group opening closing inside rest stages chains _ hopen hinside hclose hmaximal hrest =>
    simp only [List.length_cons, List.length_append, List.length_map] at hdepth
    have hgroup : parseGroup names depth inside = .ok stages := by
      obtain ⟨inner, rfl⟩ : ∃ inner, depth = inner + 1 := ⟨depth - 1, by omega⟩
      have hinner : inside.length ≤ inner := by omega
      obtain ⟨cut, hcut, hcommands⟩ := hinside.parsed hinner (Eq.refl (decide (0 < 0)))
      unfold parseGroup
      rw [parseGiven_of_hasNoSign hinside.hasNoSign]
      exact parseStages_succ_eq_ok_iff.2 ⟨hinside.tokens_ne_nil, cut, hcut, hcommands⟩
    exact parseOperands_group hopen (hinside.passedOver.takeGroup_eq hclose _) hmaximal hgroup
      (hrest.parsed (by omega))

/-- Stages of the grammar are cut and read, if the bound is that of their tokens. -/
theorem Stages.parsed {later : Bool} {tokens : List Token} {commands : List Command}
    (h : Stages names later tokens commands) {depth stage : Nat} (hdepth : tokens.length ≤ depth)
    (hstage : decide (0 < stage) = later) : ∃ stages, cutStages 0 tokens = some stages ∧
      parseCommands names (parseGroup names depth) stage stages = .ok commands := by
  cases h with
  | @last _ _ command hoperands hcommand =>
    have hread : parseCommand names (parseGroup names depth) tokens = .ok command :=
      parseCommand_eq_ok_iff.2 ⟨fun hnil => hcommand.notEmpty (hoperands.eq_nil_iff.1 hnil),
        hoperands.parsed hdepth, hcommand.notNil⟩
    refine ⟨[tokens], hoperands.passedOver.cutStages_eq, ?_⟩
    refine parseCommands_cons_eq_ok_iff.2 ⟨command, [], hread, ?_, rfl, rfl⟩
    exact fun hlater => hcommand.takesValue (hstage ▸ hlater)
  | @piped _ front rest bar command _ hoperands hcommand hbar hrest =>
    simp only [List.length_append, List.length_cons] at hdepth
    have hlater : rest.length ≤ depth := by omega
    have hread : parseCommand names (parseGroup names depth) front = .ok command :=
      parseCommand_eq_ok_iff.2 ⟨fun hnil => hcommand.notEmpty (hoperands.eq_nil_iff.1 hnil),
        hoperands.parsed (by omega), hcommand.notNil⟩
    have hnext : decide (0 < stage + 1) = true := decide_eq_true (Nat.succ_pos stage)
    obtain ⟨stages, hcut, hothers⟩ := hrest.parsed hlater hnext
    refine ⟨front :: stages, hoperands.passedOver.cutStages_pipe hbar hcut, ?_⟩
    refine parseCommands_cons_eq_ok_iff.2 ⟨command, _, hread, ?_, hothers, rfl⟩
    exact fun hlater => hcommand.takesValue (hstage ▸ hlater)

end

/-- The pipelines that are read are those of the grammar. -/
theorem parsePipeline_eq_ok_iff {most line : Nat} {tokens : List Token} {pipeline : Pipeline} :
    parsePipeline names most tokens line = .ok pipeline ↔
      IsPipeline names most line tokens pipeline := by
  have hstages : ∀ {rest : List Token} {stages : List Command}, Stages names false rest stages →
      parseStages names (rest.length + 1) rest = .ok stages := by
    intro rest stages hrest
    obtain ⟨cut, hcut, hcommands⟩ := hrest.parsed (Nat.le_refl _) (Eq.refl (decide (0 < 0)))
    exact parseStages_succ_eq_ok_iff.2 ⟨hrest.tokens_ne_nil, cut, hcut, hcommands⟩
  unfold parsePipeline
  constructor
  · intro h
    split at h
    · cases h
    · rename_i given assigns rest hgiven
      split at h
      · cases h
      · rename_i stages hread
        cases h
        have hrest := stages_of_parseStages hread
        rcases cases_of_parseGiven hgiven with ⟨rfl, rfl, rfl⟩ |
          ⟨front, rfl, hfront, hmost, hbound⟩
        · exact .plain hrest
        · exact .given hfront hmost hbound hrest
  · intro h
    cases h with
    | plain hrest => simp [parseGiven_of_hasNoSign hrest.hasNoSign, hstages hrest]
    | given hfront hmost hbound hrest =>
      simp [parseGiven_of_given hfront hmost hbound, hstages hrest]

end LayerLint.Template
