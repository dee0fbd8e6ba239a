-- Where a template brings fragments in. In its source this is where a command begins with the name
-- that brings a fragment in and the text that says which one; the tree holds the same fragments, in
-- the order of the source.
import LayerLint.Proofs.Template.Parser
import LayerLint.Template.Reference

namespace LayerLint.Template

/-! ## Calls in tokens -/

/-- Whether a command begins behind a token. -/
def TokenKind.opensCommand : TokenKind → Bool
  | .leftParen => true
  | .pipe => true
  | .declare => true
  | .assign => true
  | _ => false

/-- The fragment that a command brings in which begins with some tokens. -/
def callAt : List Token → List String
  | first :: second :: _ =>
    match first.kind, second.kind with
    | .identifier name, .text fragment =>
      if name = includeName then [(LayoutFile.fragment fragment).path] else []
    | _, _ => []
  | _ => []

/-- The fragments that the commands among tokens bring in, in their order. It is said whether the
first token begins a command. -/
def callsIn (begins : Bool) : List Token → List String
  | [] => []
  | token :: rest =>
    (if begins then callAt (token :: rest) else []) ++ callsIn token.kind.opensCommand rest

/-- The tokens of an action behind the words that say what it is. -/
def behindWords (tokens : List Token) : List Token :=
  match Builder.wordOf tokens with
  | some word =>
    if word ∈ ["if", "range", "with"] then tokens.drop 1
    else if word = "else" then tokens.drop 2
    else tokens
  | none => tokens

/-- The fragments that an item brings in. -/
def Item.calls : Item → List String
  | .text _ => []
  | .action tokens _ => callsIn true (behindWords tokens)

/-! ## Calls of pipelines -/

/-- No text comes next, so that a function at the end of a command gets no operand from there. -/
def NoTextNext (tail : List Token) : Prop := ∀ token ∈ tail.head?, ∀ value, token.kind ≠ .text value

theorem callsIn_true (tokens : List Token) :
    callsIn true tokens = callAt tokens ++ callsIn false tokens := by
  cases tokens with
  | nil => rfl
  | cons token rest => rfl

theorem callsIn_cons_of_opens {token : Token} (h : token.kind.opensCommand = true)
    (rest : List Token) : callsIn false (token :: rest) = callsIn true rest := by
  simp [callsIn, h]

theorem callsIn_cons_of_not_opens {token : Token} (h : token.kind.opensCommand = false)
    (rest : List Token) : callsIn false (token :: rest) = callsIn false rest := by
  simp [callsIn, h]

theorem callsIn_attached (chains : List (List String)) (rest : List Token) :
    callsIn false (chains.map attached ++ rest) = callsIn false rest := by
  induction chains with
  | nil => rfl
  | cons chain chains ih =>
    rw [List.map_cons, List.cons_append, callsIn_cons_of_not_opens rfl, ih]

variable {names : Names}

theorem Atom.not_opens {kind : TokenKind} {operand : Operand} (h : Atom names kind operand) :
    kind.opensCommand = false := by
  cases h <;> rfl

theorem Atom.includes_eq {kind : TokenKind} {operand : Operand} (h : Atom names kind operand) :
    operand.includes = [] := by
  cases h <;> rfl

theorem callAt_of_no_name {first : Token} (h : ∀ name, first.kind ≠ .identifier name)
    (rest : List Token) : callAt (first :: rest) = [] := by
  unfold callAt
  split
  · rename_i heq
    cases heq
    split
    · exact absurd ‹_› (h _)
    · rfl
  · rfl

theorem callAt_of_no_text {rest : List Token} (h : NoTextNext rest) (first : Token) :
    callAt (first :: rest) = [] := by
  unfold callAt
  split
  · rename_i second _ heq
    cases heq
    split
    · exact absurd ‹_› (h second rfl _)
    · rfl
  · rfl

theorem noTextNext_cons {first : Token} (h : ∀ value, first.kind ≠ .text value)
    (rest : List Token) : NoTextNext (first :: rest) := by
  intro token htoken
  cases htoken
  exact h

/-- A function before operands brings in what its first operand says, if this is a text. -/
theorem callAt_function {name : String} {spaced : Bool} {tokens : List Token}
    {operands : List Operand} (h : Operands names tokens operands) {tail : List Token}
    (htail : NoTextNext tail) :
    callAt (⟨.identifier name, spaced⟩ :: (tokens ++ tail)) =
      ownInclude (.function name :: operands) := by
  cases h with
  | none => exact callAt_of_no_text htail _
  | @atom second operand rest others hatom _ =>
    obtain ⟨kind, spaced⟩ := second
    cases hatom with
    | text value => rfl
    | _ => exact callAt_of_no_text (noTextNext_cons (by simp) _) _
  | group hopen _ _ _ _ =>
    exact callAt_of_no_text (noTextNext_cons (by simp [hopen]) _) _

/-- A command that begins with tokens that are operands brings in what these bring in. -/
theorem callAt_append {tokens : List Token} {operands : List Operand}
    (h : Operands names tokens operands) (hne : operands ≠ []) {tail : List Token}
    (htail : NoTextNext tail) : callAt (tokens ++ tail) = ownInclude operands := by
  cases h with
  | none => exact absurd rfl hne
  | @atom first operand rest others hatom hrest =>
    obtain ⟨kind, spaced⟩ := first
    cases hatom with
    | knownFunction _ => exact callAt_function hrest htail
    | _ => exact callAt_of_no_name (by simp) _
  | group hopen _ _ _ _ => exact callAt_of_no_name (by simp [hopen]) _

mutual

theorem Operands.callsIn_eq {tokens : List Token} {operands : List Operand} :
    Operands names tokens operands → ∀ tail : List Token,
      callsIn false (tokens ++ tail) = includesOfOperands operands ++ callsIn false tail
  | .none, _ => rfl
  | .atom hatom hrest, tail => by
    rw [List.cons_append, callsIn_cons_of_not_opens hatom.not_opens, hrest.callsIn_eq tail,
      includesOfOperands, hatom.includes_eq, List.nil_append]
  | @Operands.group _ opening closing inside rest stages chains operands hopen hinside hclose _
      hrest, tail => by
    have hnext : NoTextNext (closing :: (chains.map attached ++ (rest ++ tail))) :=
      noTextNext_cons (by simp [hclose]) _
    have htokens : opening :: (inside ++ closing :: (chains.map attached ++ rest)) ++ tail =
        opening :: (inside ++ closing :: (chains.map attached ++ (rest ++ tail))) := by
      simp
    rw [htokens, callsIn_cons_of_opens (by rw [hopen]; rfl), hinside.callsIn_eq hnext,
      callsIn_cons_of_not_opens (by rw [hclose]; rfl), callsIn_attached, hrest.callsIn_eq tail,
      includesOfOperands, Operand.includes, List.append_assoc]

theorem Stages.callsIn_eq {later : Bool} {tokens : List Token} {commands : List Command} :
    Stages names later tokens commands → ∀ {tail : List Token}, NoTextNext tail →
      callsIn true (tokens ++ tail) = includesOfStages commands ++ callsIn false tail
  | .last hoperands hcommand, tail, htail => by
    rw [callsIn_true, callAt_append hoperands hcommand.notEmpty htail, hoperands.callsIn_eq tail,
      includesOfStages, includesOfStages, List.append_nil, List.append_assoc]
  | @Stages.piped _ _ front rest bar command commands hoperands hcommand hbar hrest, tail,
      htail => by
    have hnext : NoTextNext (bar :: (rest ++ tail)) := noTextNext_cons (by simp [hbar]) _
    rw [List.append_assoc, List.cons_append, callsIn_true,
      callAt_append hoperands hcommand.notEmpty hnext, hoperands.callsIn_eq,
      callsIn_cons_of_opens (by rw [hbar]; rfl), hrest.callsIn_eq htail, includesOfStages,
      List.append_assoc, List.append_assoc]

end

theorem noTextNext_nil : NoTextNext [] := by
  intro token htoken
  cases htoken

/-- The names that get a value bring nothing in, and a command begins behind their sign. -/
theorem Given.callsIn_append {front : List Token} {given : List String} {assigns : Bool}
    (h : Given front given assigns) (tokens : List Token) :
    callsIn true (front ++ tokens) = callsIn true tokens := by
  have hsigns : ∀ {sign : Token}, sign.kind = signOf assigns →
      sign.kind.opensCommand = true := by
    intro sign hsign
    rw [hsign]
    cases assigns <;> rfl
  cases h with
  | one hfirst hsign =>
    rw [List.cons_append, List.cons_append, List.nil_append, callsIn_true,
      callAt_of_no_name (by simp [hfirst]), callsIn_cons_of_not_opens (by rw [hfirst]; rfl),
      callsIn_cons_of_opens (hsigns hsign), List.nil_append]
  | two hfirst hcomma hsecond hsign =>
    rw [List.cons_append, List.cons_append, List.cons_append, List.cons_append, List.nil_append,
      callsIn_true, callAt_of_no_name (by simp [hfirst]),
      callsIn_cons_of_not_opens (by rw [hfirst]; rfl),
      callsIn_cons_of_not_opens (by rw [hcomma]; rfl),
      callsIn_cons_of_not_opens (by rw [hsecond]; rfl), callsIn_cons_of_opens (hsigns hsign),
      List.nil_append]

theorem Stages.callsIn_all {later : Bool} {tokens : List Token} {commands : List Command}
    (h : Stages names later tokens commands) :
    callsIn true tokens = includesOfStages commands := by
  have hcalls := h.callsIn_eq noTextNext_nil
  rwa [List.append_nil, callsIn, List.append_nil] at hcalls

theorem IsPipeline.callsIn_eq {most line : Nat} {tokens : List Token} {pipeline : Pipeline}
    (h : IsPipeline names most line tokens pipeline) :
    callsIn true tokens = includesOfStages pipeline.stages := by
  cases h with
  | plain hstages => exact hstages.callsIn_all
  | given hgiven _ _ hstages => rw [hgiven.callsIn_append, hstages.callsIn_all]

/-! ## Calls of items -/

theorem calls_action_of_word {word : Token} {name : String}
    (hword : word.kind = .identifier name) (hmem : name ∈ ["if", "range", "with"])
    (header : List Token) (line : Nat) :
    (Item.action (word :: header) line).calls = callsIn true header := by
  rw [Item.calls, behindWords, Builder.wordOf_of_kind hword]
  simp only [if_pos hmem, List.drop_succ_cons, List.drop_zero]

theorem calls_action_of_else {word : Token} (hword : word.kind = .identifier "else") (line : Nat) :
    (Item.action [word] line).calls = [] := by
  rw [Item.calls, behindWords, Builder.wordOf_of_kind hword]
  rfl

theorem calls_action_of_again {word : Token} (hword : word.kind = .identifier "else")
    (same : Token) (header : List Token) (line : Nat) :
    (Item.action (word :: same :: header) line).calls = callsIn true header := by
  rw [Item.calls, behindWords, Builder.wordOf_of_kind hword]
  rfl

/-- A word that stands alone, such as that which closes a block, brings nothing in. -/
theorem calls_action_of_lone {word : Token} {name : String} (hword : word.kind = .identifier name)
    (hne : name ≠ "else") (line : Nat) : (Item.action [word] line).calls = [] := by
  rw [Item.calls, behindWords, Builder.wordOf_of_kind hword]
  simp only [if_neg hne]
  split
  · rfl
  · rw [callsIn_true, callAt_of_no_text noTextNext_nil,
      callsIn_cons_of_not_opens (by rw [hword]; rfl)]
    rfl

theorem calls_action_of_not_startsWith {tokens : List Token}
    (h : ∀ word ∈ keywords, ¬StartsWith word tokens) (line : Nat) :
    (Item.action tokens line).calls = callsIn true tokens := by
  have hword : ∀ word ∈ keywords, Builder.wordOf tokens ≠ some word :=
    fun word hmem heq => h word hmem (Builder.wordOf_eq_some_iff.1 heq)
  rw [Item.calls, behindWords]
  split
  · rename_i word heq
    have hopens : word ∉ ["if", "range", "with"] := by
      intro hmem
      exact hword word (List.mem_append_left _ hmem) heq
    have helse : word ≠ "else" := by
      rintro rfl
      exact hword "else" (by decide) heq
    rw [if_neg hopens, if_neg helse]
  · rfl

theorem control_word_mem (control : Control) : control.word ∈ ["if", "range", "with"] := by
  cases control <;> decide

variable {vocabulary : Vocabulary}

mutual

theorem IsNodes.calls_eq {repeats : Bool} {bound after : List String} {items : List Item}
    {nodes : List Node} : IsNodes vocabulary repeats bound items nodes after →
    includesOfNodes nodes = items.flatMap Item.calls
  | .none => rfl
  | .text hrest => by
    rw [includesOfNodes, List.flatMap_cons, hrest.calls_eq]
    rfl
  | .action hwords hpipeline hrest => by
    rw [includesOfNodes, List.flatMap_cons, hrest.calls_eq,
      calls_action_of_not_startsWith hwords, hpipeline.callsIn_eq, Node.includes]
  | .leave hword hrest => by
    rw [includesOfNodes, List.flatMap_cons, hrest.calls_eq,
      calls_action_of_lone hword (by decide), Node.includes]
  | .next hword hrest => by
    rw [includesOfNodes, List.flatMap_cons, hrest.calls_eq,
      calls_action_of_lone hword (by decide), Node.includes]
  | @IsNodes.block _ _ _ _ control _ header line _ _ _ _ hword hblock hrest => by
    rw [includesOfNodes, List.flatMap_cons, List.flatMap_append, hblock.calls_eq, hrest.calls_eq,
      calls_action_of_word hword (control_word_mem control), List.append_assoc]

theorem IsBlock.calls_eq {repeats : Bool} {bound : List String} {control : Control}
    {header : List Token} {line : Nat} {items : List Item} {node : Node} :
    IsBlock vocabulary repeats bound control header line items node →
    node.includes = callsIn true header ++ items.flatMap Item.calls
  | .mk hpipeline hbody hending => by
    rw [Node.includes, hpipeline.callsIn_eq, hbody.calls_eq, hending.calls_eq,
      List.flatMap_append]

theorem IsEnding.calls_eq {repeats : Bool} {inside : List String} {control : Control}
    {items : List Item} {otherwise : List Node} :
    IsEnding vocabulary repeats inside control items otherwise →
    includesOfNodes otherwise = items.flatMap Item.calls
  | .closed hword => by
    rw [List.flatMap_cons, calls_action_of_lone hword (by decide)]
    rfl
  | .otherwise hword hnodes hending => by
    rw [List.flatMap_cons, List.flatMap_append, List.flatMap_cons, calls_action_of_else hword,
      calls_action_of_lone hending (by decide), hnodes.calls_eq]
    simp
  | .again hword _ _ hblock => by
    rw [List.flatMap_cons, calls_action_of_again hword, includesOfNodes, includesOfNodes,
      hblock.calls_eq, List.append_nil]

end

end LayerLint.Template
