-- What is written in a template stands in its tree, in the same order: texts, the lines of actions,
-- and all that stands in the actions but the words that end a block or turn to its other part.
import LayerLint.Proofs.Template.Parser

namespace LayerLint.Template

/-! ## Pieces -/

/-- A piece of what is written. The names of a chain are pieces of their own, since a chain after a
group may be written in parts; a point without a name is no piece. -/
inductive Piece where
  | text (value : String)
  | line (line : Nat)
  | token (kind : TokenKind)
  | name (name : String)
  deriving DecidableEq, Repr

def piecesOfChain (chain : List String) : List Piece := chain.map .name

def TokenKind.pieces : TokenKind → List Piece
  | .field chain => piecesOfChain chain
  | .variable name chain => .token (.variable name []) :: piecesOfChain chain
  | kind => [.token kind]

def piecesOfTokens (tokens : List Token) : List Piece := tokens.flatMap fun t => t.kind.pieces

/-- The pieces of an item. The words that end a block or turn to its other part leave no node, but
what is written after such a word does. -/
def Item.pieces : Item → List Piece
  | .text value => [.text value]
  | .action tokens line =>
    if Builder.wordOf tokens = some "end" then []
    else if Builder.wordOf tokens = some "else" then
      if tokens.length = 1 then [] else .line line :: piecesOfTokens (tokens.drop 1)
    else .line line :: piecesOfTokens tokens

def piecesOfItems (items : List Item) : List Piece := items.flatMap Item.pieces

mutual

/-- The pieces of an operand. -/
def Operand.pieces : Operand → List Piece
  | .field chain => piecesOfChain chain
  | .variable name chain => .token (.variable name []) :: piecesOfChain chain
  | .function name => [.token (.identifier name)]
  | .group stages chain =>
    .token .leftParen :: (piecesOfStages stages ++ .token .rightParen :: piecesOfChain chain)
  | .text value => [.token (.text value)]
  | .number spelling => [.token (.number spelling)]
  | .character value => [.token (.character value)]
  | .boolean value => [.token (.boolean value)]
  | .nil => [.token .nil]

def piecesOfCommand : List Operand → List Piece
  | [] => []
  | first :: rest => first.pieces ++ piecesOfCommand rest

/-- The pieces of stages, with a pipe between each two. -/
def piecesOfStages : List (List Operand) → List Piece
  | [] => []
  | [command] => piecesOfCommand command
  | command :: next :: rest =>
    piecesOfCommand command ++ .token .pipe :: piecesOfStages (next :: rest)

end

/-- The pieces of names that get a value, with a comma between each two and the sign after them. -/
def piecesOfNames (assigns : Bool) : List String → List Piece
  | [] => []
  | [name] => [.token (.variable name []), .token (signOf assigns)]
  | name :: next :: rest =>
    .token (.variable name []) :: .token .comma :: piecesOfNames assigns (next :: rest)

def Pipeline.pieces (p : Pipeline) : List Piece :=
  piecesOfNames p.assigns p.names ++ piecesOfStages p.stages

mutual

/-- The pieces of a node. -/
def Node.pieces : Node → List Piece
  | .text value => [.text value]
  | .action p => .line p.line :: p.pieces
  | .block control p body otherwise =>
    .line p.line :: .token (.identifier control.word) ::
      (p.pieces ++ (piecesOfNodes body ++ piecesOfNodes otherwise))
  | .leave line => [.line line, .token (.identifier "break")]
  | .next line => [.line line, .token (.identifier "continue")]

def piecesOfNodes : List Node → List Piece
  | [] => []
  | first :: rest => first.pieces ++ piecesOfNodes rest

end

/-! ## Pieces of pipelines -/

variable {names : Names}

@[simp] theorem piecesOfTokens_nil : piecesOfTokens [] = [] := rfl

@[simp] theorem piecesOfTokens_cons (token : Token) (rest : List Token) :
    piecesOfTokens (token :: rest) = token.kind.pieces ++ piecesOfTokens rest := by
  simp [piecesOfTokens]

@[simp] theorem piecesOfTokens_append (front rest : List Token) :
    piecesOfTokens (front ++ rest) = piecesOfTokens front ++ piecesOfTokens rest := by
  simp [piecesOfTokens]

theorem piecesOfTokens_attached (chains : List (List String)) :
    piecesOfTokens (chains.map attached) = piecesOfChain chains.flatten := by
  induction chains with
  | nil => rfl
  | cons chain chains ih =>
    simp only [List.map_cons, piecesOfTokens_cons, ih, List.flatten_cons, piecesOfChain,
      List.map_append, attached, TokenKind.pieces]

theorem Atom.pieces_eq {kind : TokenKind} {operand : Operand} (h : Atom names kind operand) :
    operand.pieces = kind.pieces := by
  cases h <;> simp [Operand.pieces, TokenKind.pieces]

mutual

theorem Operands.pieces_eq {tokens : List Token} {operands : List Operand} :
    Operands names tokens operands → piecesOfCommand operands = piecesOfTokens tokens
  | .none => by simp [piecesOfCommand]
  | .atom hatom hrest => by
    rw [piecesOfCommand, piecesOfTokens_cons, hatom.pieces_eq, hrest.pieces_eq]
  | @Operands.group _ opening closing inside rest stages chains operands hopen hinside hclose _
      hrest => by
    simp only [piecesOfCommand, Operand.pieces, piecesOfTokens_cons, piecesOfTokens_append,
      piecesOfTokens_attached, hopen, hclose, hinside.pieces_eq, hrest.pieces_eq,
      TokenKind.pieces, List.append_assoc, List.cons_append, List.nil_append]

theorem Stages.pieces_eq {later : Bool} {tokens : List Token} {commands : List Command} :
    Stages names later tokens commands → piecesOfStages commands = piecesOfTokens tokens
  | .last hoperands _ => by rw [piecesOfStages, hoperands.pieces_eq]
  | @Stages.piped _ _ front rest bar command commands hoperands _ hbar hrest => by
    have hstages : piecesOfStages (command :: commands) =
        piecesOfCommand command ++ .token .pipe :: piecesOfStages commands := by
      cases hrest <;> rfl
    simp only [hstages, hoperands.pieces_eq, hrest.pieces_eq, piecesOfTokens_append,
      piecesOfTokens_cons, hbar, TokenKind.pieces, List.cons_append, List.nil_append]

end

theorem Given.pieces_eq {front : List Token} {given : List String} {assigns : Bool}
    (h : Given front given assigns) : piecesOfNames assigns given = piecesOfTokens front := by
  cases h with
  | one hfirst hsign =>
    cases assigns <;>
      simp [piecesOfNames, hfirst, hsign, signOf, TokenKind.pieces, piecesOfChain]
  | two hfirst hcomma hsecond hsign =>
    cases assigns <;>
      simp [piecesOfNames, hfirst, hcomma, hsecond, hsign, signOf, TokenKind.pieces, piecesOfChain]

theorem IsPipeline.pieces_eq {most line : Nat} {tokens : List Token} {pipeline : Pipeline}
    (h : IsPipeline names most line tokens pipeline) :
    pipeline.line = line ∧ pipeline.pieces = piecesOfTokens tokens := by
  cases h with
  | plain hstages => exact ⟨rfl, hstages.pieces_eq⟩
  | given hgiven _ _ hstages =>
    refine ⟨rfl, ?_⟩
    simp only [Pipeline.pieces, hgiven.pieces_eq, hstages.pieces_eq, piecesOfTokens_append]

/-! ## Pieces of items -/

theorem pieces_action_of_word {word : Token} {name : String} {tokens : List Token} {line : Nat}
    (hword : word.kind = .identifier name) (hend : name ≠ "end") (helse : name ≠ "else") :
    (Item.action (word :: tokens) line).pieces =
      .line line :: .token (.identifier name) :: piecesOfTokens tokens := by
  simp [Item.pieces, Builder.wordOf_of_kind hword, hend, helse, hword, TokenKind.pieces]

theorem pieces_action_of_end {word : Token} {line : Nat} (hword : word.kind = .identifier "end") :
    (Item.action [word] line).pieces = [] := by
  simp [Item.pieces, Builder.wordOf_of_kind hword]

theorem pieces_action_of_else {word : Token} {line : Nat}
    (hword : word.kind = .identifier "else") : (Item.action [word] line).pieces = [] := by
  simp [Item.pieces, Builder.wordOf_of_kind hword]

theorem pieces_action_of_again {word same : Token} {header : List Token} {line : Nat}
    (hword : word.kind = .identifier "else") {name : String}
    (hsame : same.kind = .identifier name) :
    (Item.action (word :: same :: header) line).pieces =
      .line line :: .token (.identifier name) :: piecesOfTokens header := by
  simp [Item.pieces, Builder.wordOf_of_kind hword, hsame, TokenKind.pieces]

theorem pieces_action_of_not_startsWith {tokens : List Token} {line : Nat}
    (h : ∀ word ∈ keywords, ¬StartsWith word tokens) :
    (Item.action tokens line).pieces = .line line :: piecesOfTokens tokens := by
  have hend : Builder.wordOf tokens ≠ some "end" :=
    fun hword => h "end" (by decide) (Builder.wordOf_eq_some_iff.1 hword)
  have helse : Builder.wordOf tokens ≠ some "else" :=
    fun hword => h "else" (by decide) (Builder.wordOf_eq_some_iff.1 hword)
  simp [Item.pieces, hend, helse]

theorem control_word_ne (control : Control) : control.word ≠ "end" ∧ control.word ≠ "else" := by
  cases control <;> decide

variable {vocabulary : Vocabulary}

@[simp] theorem piecesOfItems_nil : piecesOfItems [] = [] := rfl

@[simp] theorem piecesOfItems_cons (item : Item) (items : List Item) :
    piecesOfItems (item :: items) = item.pieces ++ piecesOfItems items := by
  simp [piecesOfItems]

@[simp] theorem piecesOfItems_append (front items : List Item) :
    piecesOfItems (front ++ items) = piecesOfItems front ++ piecesOfItems items := by
  simp [piecesOfItems]

mutual

theorem IsNodes.pieces_eq {repeats : Bool} {bound after : List String} {items : List Item}
    {nodes : List Node} : IsNodes vocabulary repeats bound items nodes after →
    piecesOfNodes nodes = piecesOfItems items
  | .none => by simp [piecesOfNodes]
  | .text hrest => by
    simp [piecesOfNodes, Node.pieces, Item.pieces, hrest.pieces_eq]
  | .action hwords hpipeline hrest => by
    obtain ⟨hline, hpieces⟩ := hpipeline.pieces_eq
    simp [piecesOfNodes, Node.pieces, pieces_action_of_not_startsWith hwords, hline, hpieces,
      hrest.pieces_eq]
  | .leave hword hrest => by
    simp [piecesOfNodes, Node.pieces, pieces_action_of_word hword (by decide) (by decide),
      hrest.pieces_eq]
  | .next hword hrest => by
    simp [piecesOfNodes, Node.pieces, pieces_action_of_word hword (by decide) (by decide),
      hrest.pieces_eq]
  | @IsNodes.block _ _ _ _ control _ _ _ _ _ _ _ hword hblock hrest => by
    obtain ⟨hend, helse⟩ := control_word_ne control
    simp [piecesOfNodes, pieces_action_of_word hword hend helse, hblock.pieces_eq,
      hrest.pieces_eq]

theorem IsBlock.pieces_eq {repeats : Bool} {bound : List String} {control : Control}
    {header : List Token} {line : Nat} {items : List Item} {node : Node} :
    IsBlock vocabulary repeats bound control header line items node →
    node.pieces = .line line :: .token (.identifier control.word) ::
      (piecesOfTokens header ++ piecesOfItems items)
  | .mk hpipeline hbody hending => by
    obtain ⟨hline, hpieces⟩ := hpipeline.pieces_eq
    simp [Node.pieces, hline, hpieces, hbody.pieces_eq, hending.pieces_eq]

theorem IsEnding.pieces_eq {repeats : Bool} {inside : List String} {control : Control}
    {items : List Item} {otherwise : List Node} :
    IsEnding vocabulary repeats inside control items otherwise →
    piecesOfNodes otherwise = piecesOfItems items
  | .closed hword => by simp [piecesOfNodes, pieces_action_of_end hword]
  | .otherwise hword hnodes hending => by
    simp [pieces_action_of_else hword, pieces_action_of_end hending, hnodes.pieces_eq]
  | .again hword _ hsame hblock => by
    simp [piecesOfNodes, pieces_action_of_again hword hsame, hblock.pieces_eq]

end

/-! ## The grammar and the tree -/

/-- Items are parsed exactly if the grammar derives them, and the tree is the one that it derives
with them. All that is written in the items stands in the tree, in the same order. -/
theorem the_parser_accepts_what_the_grammar_derives_and_loses_nothing (vocabulary : Vocabulary)
    (items : List Item) (tree : List Node) :
    (parse vocabulary items = .ok tree ↔ IsTemplate vocabulary items tree) ∧
      (parse vocabulary items = .ok tree → piecesOfNodes tree = piecesOfItems items) := by
  refine ⟨parse_eq_ok_iff, fun h => ?_⟩
  obtain ⟨after, hnodes⟩ := parse_eq_ok_iff.1 h
  exact hnodes.pieces_eq

/-- A branch whose other part is a branch again, in the body of a repetition. -/
def chainedItems : List Item :=
  [.action [⟨.identifier "range", true⟩, ⟨.variable "$x" [], true⟩, ⟨.declare, true⟩,
      ⟨.field ["a"], true⟩] 1,
   .action [⟨.identifier "if", true⟩, ⟨.leftParen, true⟩, ⟨.field ["b"], false⟩,
      ⟨.rightParen, false⟩, ⟨.field ["c"], false⟩, ⟨.field ["d"], false⟩] 1,
   .text "x",
   .action [⟨.identifier "else", true⟩, ⟨.identifier "if", true⟩, ⟨.variable "$x" [], true⟩] 2,
   .action [⟨.identifier "break", true⟩] 3,
   .action [⟨.identifier "end", true⟩] 4,
   .action [⟨.identifier "end", true⟩] 4]

/-- The tree of these items holds both branches, and the chain after the group as one. -/
theorem the_chained_items_are_a_template :
    ∃ tree, parse .empty chainedItems = .ok tree ∧ IsTemplate .empty chainedItems tree ∧
      piecesOfNodes tree =
        [.line 1, .token (.identifier "range"), .token (.variable "$x" []), .token .declare,
         .name "a", .line 1, .token (.identifier "if"), .token .leftParen, .name "b",
         .token .rightParen, .name "c", .name "d", .text "x", .line 2, .token (.identifier "if"),
         .token (.variable "$x" []), .line 3, .token (.identifier "break")] := by
  have hparse : ∃ tree, parse .empty chainedItems = .ok tree := ⟨_, rfl⟩
  obtain ⟨tree, htree⟩ := hparse
  obtain ⟨hiff, hpieces⟩ :=
    the_parser_accepts_what_the_grammar_derives_and_loses_nothing .empty chainedItems tree
  refine ⟨tree, htree, hiff.1 htree, ?_⟩
  rw [hpieces htree]
  decide

end LayerLint.Template
