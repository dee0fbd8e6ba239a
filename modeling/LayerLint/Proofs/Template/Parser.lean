-- The items that are parsed are those that the grammar derives, and the tree is the one that it
-- derives with them. What one item does to a builder is said once; a list of nodes leaves the open
-- blocks as they were, and a block ends with one more node in the list around it.
import LayerLint.Proofs.Template.Stage

namespace LayerLint.Template

namespace Builder

variable {vocabulary : Vocabulary} {b : Builder}

/-! ## Builders -/

/-- Adds nodes to the innermost list, after which other variables are bound. -/
def addAll (b : Builder) (nodes : List Node) (bound : List String) : Builder :=
  { b with nodes := b.nodes ++ nodes, bound := bound }

theorem addAll_nil : b.addAll [] b.bound = b := by
  simp [addAll]

theorem addAll_addAll (nodes others : List Node) (bound after : List String) :
    (b.addAll nodes bound).addAll others after = b.addAll (nodes ++ others) after := by
  simp [addAll]

/-- A block that is opened in the innermost list. -/
def blockOf (b : Builder) (control : Control) (chained : Bool) (pipeline : Pipeline)
    (body : Option (List Node)) : OpenBlock where
  control := control
  pipeline := pipeline
  outside := b.bound
  inside := pipeline.boundAfter b.bound
  before := b.nodes
  body := body
  chained := chained

/-- A builder inside of a block: in its body, or in the other part once the body is complete. -/
def within (b : Builder) (control : Control) (chained : Bool) (pipeline : Pipeline)
    (body : Option (List Node)) (nodes : List Node) (bound : List String) : Builder where
  blocks := b.blockOf control chained pipeline body :: b.blocks
  nodes := nodes
  bound := bound

/-- A builder at the beginning of a body. -/
def opened (b : Builder) (control : Control) (chained : Bool) (pipeline : Pipeline) : Builder :=
  b.within control chained pipeline none [] (pipeline.boundAfter b.bound)

/-- A builder at the beginning of the other part. -/
def afterElse (b : Builder) (control : Control) (chained : Bool) (pipeline : Pipeline)
    (body : List Node) : Builder :=
  b.within control chained pipeline (some body) [] (pipeline.boundAfter b.bound)

/-- A builder after the turn to the other part of its innermost block. -/
def turned (b : Builder) (block : OpenBlock) (blocks : List OpenBlock) : Builder where
  blocks := { block with body := some b.nodes } :: blocks
  nodes := []
  bound := block.inside

/-- What is left when a block is complete: its node is added, or ends the block that it began in. -/
def closing (b : Builder) (chained : Bool) (node : Node) : Except ParseProblem Builder :=
  if chained then close b.blocks (b.nodes ++ [node]) else .ok (b.add node)

theorem inRepetition_opened (control : Control) (chained : Bool) (pipeline : Pipeline) :
    (b.opened control chained pipeline).inRepetition =
      (b.inRepetition || control = .repetition) := by
  simp [inRepetition, opened, within, blockOf, Bool.or_comm]

theorem inRepetition_afterElse (control : Control) (chained : Bool) (pipeline : Pipeline)
    (body : List Node) :
    (b.afterElse control chained pipeline body).inRepetition = b.inRepetition := by
  simp [inRepetition, afterElse, within, blockOf]

theorem turned_within (control : Control) (chained : Bool) (pipeline : Pipeline)
    (body : List Node) (bound : List String) :
    (b.within control chained pipeline none body bound).turned
        (b.blockOf control chained pipeline none) b.blocks =
      b.afterElse control chained pipeline body := rfl

/-- A block that ends with the one around it is the other part of this one. -/
theorem closing_afterElse (control : Control) (chained : Bool) (pipeline : Pipeline)
    (body : List Node) (node : Node) :
    (b.afterElse control chained pipeline body).closing true node =
      b.closing chained (.block control pipeline body [node]) := rfl

/-! ## What one item does -/

/-- What an item does to a builder that takes it. -/
inductive Takes (vocabulary : Vocabulary) (b : Builder) : Item → Builder → Prop
  | text (value : String) : Takes vocabulary b (.text value) (b.add (.text value))
  | action {tokens : List Token} {line : Nat} {pipeline : Pipeline} :
      (∀ word ∈ keywords, ¬StartsWith word tokens) →
      IsPipeline ⟨vocabulary, b.bound⟩ 1 line tokens pipeline →
      Takes vocabulary b (.action tokens line)
        (b.addAll [.action pipeline] (pipeline.boundAfter b.bound))
  | leave {word : Token} {line : Nat} : word.kind = .identifier "break" → b.inRepetition = true →
      Takes vocabulary b (.action [word] line) (b.add (.leave line))
  | next {word : Token} {line : Nat} : word.kind = .identifier "continue" →
      b.inRepetition = true → Takes vocabulary b (.action [word] line) (b.add (.next line))
  | opens {control : Control} {word : Token} {header : List Token} {line : Nat}
      {pipeline : Pipeline} : word.kind = .identifier control.word →
      IsPipeline ⟨vocabulary, b.bound⟩ control.mostNames line header pipeline →
      Takes vocabulary b (.action (word :: header) line) (b.opened control false pipeline)
  | closes {word : Token} {line : Nat} {c : Builder} : word.kind = .identifier "end" →
      close b.blocks b.nodes = .ok c → Takes vocabulary b (.action [word] line) c
  | turns {word : Token} {line : Nat} {block : OpenBlock} {blocks : List OpenBlock} :
      word.kind = .identifier "else" → b.blocks = block :: blocks → block.body = none →
      Takes vocabulary b (.action [word] line) (b.turned block blocks)
  | chains {word same : Token} {header : List Token} {line : Nat} {block : OpenBlock}
      {blocks : List OpenBlock} {pipeline : Pipeline} : word.kind = .identifier "else" →
      b.blocks = block :: blocks → block.body = none → block.control ≠ .repetition →
      same.kind = .identifier block.control.word →
      IsPipeline ⟨vocabulary, block.inside⟩ block.control.mostNames line header pipeline →
      Takes vocabulary b (.action (word :: same :: header) line)
        ((b.turned block blocks).opened block.control true pipeline)

theorem openBlock_eq {control : Control} {chained : Bool} {tokens : List Token} {line : Nat} :
    b.openBlock vocabulary control chained tokens line =
      match parsePipeline ⟨vocabulary, b.bound⟩ control.mostNames tokens line with
      | .error problem => .error problem
      | .ok pipeline => .ok (b.opened control chained pipeline) := rfl

theorem openBlock_eq_ok_iff {control : Control} {chained : Bool} {tokens : List Token}
    {line : Nat} {c : Builder} : b.openBlock vocabulary control chained tokens line = .ok c ↔
      ∃ pipeline, IsPipeline ⟨vocabulary, b.bound⟩ control.mostNames line tokens pipeline ∧
        c = b.opened control chained pipeline := by
  rw [openBlock_eq]
  simp only [← parsePipeline_eq_ok_iff]
  cases parsePipeline ⟨vocabulary, b.bound⟩ control.mostNames tokens line with
  | error problem => simp
  | ok pipeline => simp [eq_comm]

theorem addAction_eq_ok_iff {tokens : List Token} {line : Nat} {c : Builder} :
    b.addAction vocabulary tokens line = .ok c ↔
      ∃ pipeline, IsPipeline ⟨vocabulary, b.bound⟩ 1 line tokens pipeline ∧
        c = b.addAll [.action pipeline] (pipeline.boundAfter b.bound) := by
  unfold addAction
  simp only [← parsePipeline_eq_ok_iff]
  cases parsePipeline ⟨vocabulary, b.bound⟩ 1 tokens line with
  | error problem => simp
  | ok pipeline =>
    have hadd : (if pipeline.assigns then b.add (.action pipeline)
        else { b.add (.action pipeline) with bound := b.bound ++ pipeline.names }) =
        b.addAll [.action pipeline] (pipeline.boundAfter b.bound) := by
      unfold Pipeline.boundAfter
      split <;> rfl
    constructor
    · intro h
      cases h
      exact ⟨pipeline, rfl, hadd⟩
    · rintro ⟨_, heq, rfl⟩
      cases heq
      exact congrArg _ hadd

theorem turn_eq_ok_iff {tokens : List Token} {line : Nat} {c : Builder} :
    b.turn vocabulary tokens line = .ok c ↔
      ∃ block blocks, b.blocks = block :: blocks ∧ block.body = none ∧
        ((tokens = [] ∧ c = b.turned block blocks) ∨
          ∃ same header pipeline, tokens = same :: header ∧ block.control ≠ .repetition ∧
            same.kind = .identifier block.control.word ∧
            IsPipeline ⟨vocabulary, block.inside⟩ block.control.mostNames line header pipeline ∧
            c = (b.turned block blocks).opened block.control true pipeline) := by
  unfold turn
  constructor
  · intro h
    split at h
    · cases h
    · rename_i block blocks hblocks
      split at h
      · cases h
      · rename_i hbody
        have hbody : block.body = none := by simpa using hbody
        refine ⟨block, blocks, hblocks, hbody, ?_⟩
        simp only at h
        split at h
        · cases h
          exact .inl ⟨rfl, rfl⟩
        · rename_i first rest
          split at h
          · rename_i hsame
            obtain ⟨pipeline, hpipeline, hc⟩ := openBlock_eq_ok_iff.1 h
            exact .inr ⟨first, rest, pipeline, rfl, hsame.1, hsame.2, hpipeline, hc⟩
          · cases h
  · rintro ⟨block, blocks, hblocks, hbody, ⟨rfl, rfl⟩ |
      ⟨same, header, pipeline, rfl, hcontrol, hsame, hpipeline, rfl⟩⟩
    · simp [hblocks, hbody, turned]
    · simp only [hblocks, hbody, Option.isSome_none, Bool.false_eq_true, if_false,
        if_pos (And.intro hcontrol hsame)]
      exact openBlock_eq_ok_iff.2 ⟨pipeline, hpipeline, rfl⟩

theorem alone_eq_ok_iff {word : String} {tokens : List Token} {result : Except ParseProblem Builder}
    {c : Builder} : alone word tokens result = .ok c ↔ tokens = [] ∧ result = .ok c := by
  cases tokens <;> simp [alone]

theorem addJump_eq_ok_iff {word : String} {node : Node} {c : Builder} :
    b.addJump word node = .ok c ↔ b.inRepetition = true ∧ c = b.add node := by
  unfold addJump
  cases b.inRepetition <;> simp [eq_comm]

theorem wordOf_eq_some_iff {tokens : List Token} {word : String} :
    wordOf tokens = some word ↔ StartsWith word tokens := by
  unfold wordOf StartsWith
  split
  · simp
  · rename_i h
    simp only [reduceCtorEq, false_iff, not_exists, not_and]
    rintro ⟨kind, spaced⟩ rest rfl rfl
    exact h word spaced rest rfl

theorem takes_of_takeAction {tokens : List Token} {line : Nat} {c : Builder}
    (h : b.takeAction vocabulary tokens line = .ok c) :
    Takes vocabulary b (.action tokens line) c := by
  have hopens : ∀ control : Control, wordOf tokens = some control.word →
      b.openBlock vocabulary control false (tokens.drop 1) line = .ok c →
      Takes vocabulary b (.action tokens line) c := by
    intro control hword hopen
    obtain ⟨word, rest, rfl, hkind⟩ := wordOf_eq_some_iff.1 hword
    obtain ⟨pipeline, hpipeline, rfl⟩ := openBlock_eq_ok_iff.1 hopen
    exact .opens hkind hpipeline
  unfold takeAction at h
  simp only at h
  split at h
  · exact hopens .branch ‹_› h
  · exact hopens .repetition ‹_› h
  · exact hopens .scope ‹_› h
  · rename_i hword
    obtain ⟨word, rest, rfl, hkind⟩ := wordOf_eq_some_iff.1 hword
    obtain ⟨hrest, hclose⟩ := alone_eq_ok_iff.1 h
    cases hrest
    exact .closes hkind hclose
  · rename_i hword
    obtain ⟨word, rest, rfl, hkind⟩ := wordOf_eq_some_iff.1 hword
    obtain ⟨block, blocks, hblocks, hbody, ⟨hrest, rfl⟩ |
      ⟨same, header, pipeline, hrest, hcontrol, hsame, hpipeline, rfl⟩⟩ := turn_eq_ok_iff.1 h
    · cases hrest
      exact .turns hkind hblocks hbody
    · cases hrest
      exact .chains hkind hblocks hbody hcontrol hsame hpipeline
  · rename_i hword
    obtain ⟨word, rest, rfl, hkind⟩ := wordOf_eq_some_iff.1 hword
    obtain ⟨hrest, hjump⟩ := alone_eq_ok_iff.1 h
    obtain ⟨hrepeats, rfl⟩ := addJump_eq_ok_iff.1 hjump
    cases hrest
    exact .leave hkind hrepeats
  · rename_i hword
    obtain ⟨word, rest, rfl, hkind⟩ := wordOf_eq_some_iff.1 hword
    obtain ⟨hrest, hjump⟩ := alone_eq_ok_iff.1 h
    obtain ⟨hrepeats, rfl⟩ := addJump_eq_ok_iff.1 hjump
    cases hrest
    exact .next hkind hrepeats
  · cases h
  · cases h
  · cases h
  · obtain ⟨pipeline, hpipeline, rfl⟩ := addAction_eq_ok_iff.1 h
    refine .action (fun word hword hstarts => ?_) hpipeline
    have hword' := wordOf_eq_some_iff.2 hstarts
    simp only [keywords, List.mem_cons, List.not_mem_nil, or_false] at hword
    rcases hword with rfl | rfl | rfl | rfl | rfl | rfl | rfl | rfl | rfl | rfl <;>
      contradiction

theorem wordOf_of_kind {word : Token} {name : String} {rest : List Token}
    (h : word.kind = .identifier name) : wordOf (word :: rest) = some name :=
  wordOf_eq_some_iff.2 ⟨word, rest, rfl, h⟩

/-- An item is taken exactly if it does one of these things. -/
theorem take_eq_ok_iff {item : Item} {c : Builder} :
    take vocabulary b item = .ok c ↔ Takes vocabulary b item c := by
  have haction : ∀ tokens line, take vocabulary b (.action tokens line) = .ok c ↔
      b.takeAction vocabulary tokens line = .ok c := by
    intro tokens line
    simp only [take]
    cases b.takeAction vocabulary tokens line <;> simp
  constructor
  · intro h
    cases item with
    | text value =>
      cases h
      exact .text value
    | action tokens line => exact takes_of_takeAction ((haction tokens line).1 h)
  · intro h
    cases h with
    | text value => rfl
    | @action tokens line pipeline hwords hpipeline =>
      have hword : ∀ word ∈ keywords, wordOf tokens ≠ some word :=
        fun word hmem heq => hwords word hmem (wordOf_eq_some_iff.1 heq)
      simp only [keywords, List.forall_mem_cons] at hword
      refine (haction tokens line).2 ?_
      have haddition := addAction_eq_ok_iff.2 ⟨pipeline, hpipeline, rfl⟩
      simp only [takeAction]
      split <;> first | exact haddition | simp_all
    | @leave word line hword hrepeats =>
      refine (haction _ line).2 ?_
      simp only [takeAction, wordOf_of_kind hword]
      exact alone_eq_ok_iff.2 ⟨rfl, addJump_eq_ok_iff.2 ⟨hrepeats, rfl⟩⟩
    | @next word line hword hrepeats =>
      refine (haction _ line).2 ?_
      simp only [takeAction, wordOf_of_kind hword]
      exact alone_eq_ok_iff.2 ⟨rfl, addJump_eq_ok_iff.2 ⟨hrepeats, rfl⟩⟩
    | @opens control word header line pipeline hword hpipeline =>
      refine (haction _ line).2 ?_
      have hopen : b.openBlock vocabulary control false header line =
          .ok (b.opened control false pipeline) :=
        openBlock_eq_ok_iff.2 ⟨pipeline, hpipeline, rfl⟩
      cases control <;> simp only [takeAction, wordOf_of_kind hword, Control.word] <;>
        exact hopen
    | @closes word line _ hword hclose =>
      refine (haction _ line).2 ?_
      simp only [takeAction, wordOf_of_kind hword]
      exact alone_eq_ok_iff.2 ⟨rfl, hclose⟩
    | @turns word line block blocks hword hblocks hbody =>
      refine (haction _ line).2 ?_
      simp only [takeAction, wordOf_of_kind hword]
      exact turn_eq_ok_iff.2 ⟨block, blocks, hblocks, hbody, .inl ⟨rfl, rfl⟩⟩
    | @chains word same header line block blocks pipeline hword hblocks hbody hcontrol hsame
        hpipeline =>
      refine (haction _ line).2 ?_
      simp only [takeAction, wordOf_of_kind hword]
      exact turn_eq_ok_iff.2 ⟨block, blocks, hblocks, hbody,
        .inr ⟨same, header, pipeline, rfl, hcontrol, hsame, hpipeline, rfl⟩⟩

/-! ## What a run of items does -/

/-- A builder takes items in, one after the other. -/
inductive Runs (vocabulary : Vocabulary) : Builder → List Item → Builder → Prop
  | none {b : Builder} : Runs vocabulary b [] b
  | step {b c d : Builder} {item : Item} {items : List Item} : Takes vocabulary b item c →
      Runs vocabulary c items d → Runs vocabulary b (item :: items) d

theorem foldlM_take_eq_ok_iff {items : List Item} {c : Builder} :
    items.foldlM (take vocabulary) b = .ok c ↔ Runs vocabulary b items c := by
  induction items generalizing b with
  | nil =>
    constructor
    · intro h
      cases h
      exact .none
    · rintro ⟨⟩
      rfl
  | cons item items ih =>
    rw [List.foldlM_cons]
    constructor
    · intro h
      cases htake : take vocabulary b item with
      | error e =>
        rw [htake] at h
        cases h
      | ok d =>
        rw [htake] at h
        exact .step (take_eq_ok_iff.1 htake) (ih.1 h)
    · intro h
      cases h with
      | step htakes hruns =>
        rw [take_eq_ok_iff.2 htakes]
        exact ih.2 hruns

theorem Runs.append {c d : Builder} {items others : List Item} (h : Runs vocabulary b items c)
    (hothers : Runs vocabulary c others d) : Runs vocabulary b (items ++ others) d := by
  induction h with
  | none => exact hothers
  | step htakes _ ih => exact .step htakes (ih hothers)

/-- A run of one item. -/
theorem Takes.runs {c : Builder} {item : Item} (h : Takes vocabulary b item c) :
    Runs vocabulary b [item] c := .step h .none

/-- A node is added before others. -/
theorem Runs.addAll_cons {items others : List Item} {node : Node} {nodes : List Node}
    {bound after : List String} (h : Runs vocabulary b items (b.addAll [node] bound))
    (hothers : Runs vocabulary (b.addAll [node] bound) others
      ((b.addAll [node] bound).addAll nodes after)) :
    Runs vocabulary b (items ++ others) (b.addAll (node :: nodes) after) := by
  rw [addAll_addAll, List.singleton_append] at hothers
  exact h.append hothers

mutual

/-- Nodes of the grammar are added to the innermost list. -/
theorem runs_of_isNodes {repeats : Bool} {bound after : List String} {items : List Item}
    {nodes : List Node} : IsNodes vocabulary repeats bound items nodes after →
    ∀ b : Builder, b.bound = bound → b.inRepetition = repeats →
      Runs vocabulary b items (b.addAll nodes after)
  | .none, b, hbound, _ => by
    rw [← hbound, addAll_nil]
    exact .none
  | @IsNodes.text _ _ _ _ value _ _ hrest, b, hbound, hrepeats => by
    have htakes : Takes vocabulary b (.text value) (b.addAll [.text value] b.bound) := .text value
    exact htakes.runs.addAll_cons (runs_of_isNodes hrest _ hbound hrepeats)
  | @IsNodes.action _ _ _ _ _ _ pipeline _ _ hwords hpipeline hrest, b, hbound, hrepeats => by
    rw [← hbound] at hpipeline
    have hafter := congrArg pipeline.boundAfter hbound
    exact (Takes.action hwords hpipeline).runs.addAll_cons
      (runs_of_isNodes hrest _ hafter hrepeats)
  | @IsNodes.leave _ _ _ word line _ _ hword hrest, b, hbound, hrepeats => by
    have htakes : Takes vocabulary b (.action [word] line) (b.addAll [.leave line] b.bound) :=
      .leave hword hrepeats
    exact htakes.runs.addAll_cons (runs_of_isNodes hrest _ hbound hrepeats)
  | @IsNodes.next _ _ _ word line _ _ hword hrest, b, hbound, hrepeats => by
    have htakes : Takes vocabulary b (.action [word] line) (b.addAll [.next line] b.bound) :=
      .next hword hrepeats
    exact htakes.runs.addAll_cons (runs_of_isNodes hrest _ hbound hrepeats)
  | @IsNodes.block _ _ _ _ _ word header line inner _ node _ hword hblock hrest, b, hbound,
      hrepeats => by
    have hclosing : b.closing false node = .ok (b.addAll [node] b.bound) := rfl
    obtain ⟨pipeline, hpipeline, hinner⟩ :=
      runs_of_isBlock hblock b _ false hbound hrepeats hclosing
    rw [← hbound] at hpipeline
    have hblock : Runs vocabulary b (.action (word :: header) line :: inner)
        (b.addAll [node] b.bound) := .step (.opens hword hpipeline) hinner
    exact hblock.addAll_cons (runs_of_isNodes hrest _ hbound hrepeats)

/-- A block of the grammar is opened by its header and closed by its end. -/
theorem runs_of_isBlock {repeats : Bool} {bound : List String} {control : Control}
    {header : List Token} {line : Nat} {items : List Item} {node : Node} :
    IsBlock vocabulary repeats bound control header line items node →
    ∀ (b c : Builder) (chained : Bool), b.bound = bound → b.inRepetition = repeats →
      b.closing chained node = .ok c →
      ∃ pipeline, IsPipeline ⟨vocabulary, bound⟩ control.mostNames line header pipeline ∧
        Runs vocabulary (b.opened control chained pipeline) items c
  | @IsBlock.mk _ _ _ after _ _ _ pipeline _ _ body _ hpipeline hbody hending, b, c, chained,
      hbound, hrepeats, hclosing => by
    refine ⟨pipeline, hpipeline, ?_⟩
    have hinside := congrArg pipeline.boundAfter hbound
    have hruns := runs_of_isNodes hbody (b.opened control chained pipeline) hinside
      (by rw [inRepetition_opened, hrepeats])
    exact hruns.append (runs_of_isEnding hending b c chained pipeline body after hinside hrepeats
      hclosing)

/-- An ending of the grammar closes a block whose body is complete. -/
theorem runs_of_isEnding {repeats : Bool} {inside : List String} {control : Control}
    {items : List Item} {otherwise : List Node} :
    IsEnding vocabulary repeats inside control items otherwise →
    ∀ (b c : Builder) (chained : Bool) (pipeline : Pipeline) (body : List Node)
      (bound : List String), pipeline.boundAfter b.bound = inside → b.inRepetition = repeats →
      b.closing chained (.block control pipeline body otherwise) = .ok c →
      Runs vocabulary (b.within control chained pipeline none body bound) items c
  | @IsEnding.closed _ _ _ _ line word hword, b, c, chained, pipeline, body, bound, _, _,
      hclosing => by
    have htakes : Takes vocabulary (b.within control chained pipeline none body bound)
        (.action [word] line) c := .closes hword hclosing
    exact htakes.runs
  | @IsEnding.otherwise _ _ _ after _ turn line items _ word ending hword hnodes hending, b, c,
      chained, pipeline, body, bound, hinside, hrepeats, hclosing => by
    have hturns : Takes vocabulary (b.within control chained pipeline none body bound)
        (.action [word] turn) (b.afterElse control chained pipeline body) := by
      rw [← turned_within control chained pipeline body bound]
      exact .turns hword rfl rfl
    have hruns := runs_of_isNodes hnodes (b.afterElse control chained pipeline body) hinside
      ((inRepetition_afterElse control chained pipeline body).trans hrepeats)
    have hcloses : Takes vocabulary
        ((b.afterElse control chained pipeline body).addAll otherwise after)
        (.action [ending] line) c := .closes hending hclosing
    exact .step hturns (hruns.append hcloses.runs)
  | @IsEnding.again _ _ _ _ header line items node word same hword hcontrol hsame hblock, b, c,
      chained, pipeline, body, bound, hinside, hrepeats, hclosing => by
    obtain ⟨second, hsecond, hruns⟩ := runs_of_isBlock hblock
      (b.afterElse control chained pipeline body) c true hinside
      ((inRepetition_afterElse control chained pipeline body).trans hrepeats)
      ((closing_afterElse control chained pipeline body node).trans hclosing)
    rw [← hinside] at hsecond
    have hchains : Takes vocabulary (b.within control chained pipeline none body bound)
        (.action (word :: same :: header) line)
        ((b.afterElse control chained pipeline body).opened control true second) := by
      rw [← turned_within control chained pipeline body bound]
      exact .chains hword rfl rfl hcontrol hsame hsecond
    exact .step hchains hruns

end

/-! ## What is found in a run -/

/-- Items before which a list of nodes ends: none, or a word that ends it. -/
inductive EndsList : List Item → Prop
  | none : EndsList []
  | word {word : Token} {tokens : List Token} {line : Nat} {rest : List Item} :
      word.kind = .identifier "end" ∨ word.kind = .identifier "else" →
      EndsList (.action (word :: tokens) line :: rest)

/-- A run begins with nodes of the grammar, as many as there are. -/
def NodesFirst (vocabulary : Vocabulary) (b : Builder) (items : List Item) (c : Builder) : Prop :=
  ∃ own rest nodes after, items = own ++ rest ∧ EndsList rest ∧
    IsNodes vocabulary b.inRepetition b.bound own nodes after ∧
    Runs vocabulary (b.addAll nodes after) rest c

/-- A run from inside of a block begins with the rest of a block of the grammar. -/
def BlockFirst (vocabulary : Vocabulary) (b : Builder) (control : Control) (chained : Bool)
    (header : List Token) (line : Nat) (items : List Item) (c : Builder) : Prop :=
  ∃ own rest node d, items = own ++ rest ∧
    IsBlock vocabulary b.inRepetition b.bound control header line own node ∧
    b.closing chained node = .ok d ∧ Runs vocabulary d rest c

/-- What is found in the runs of some items to the end of a template. -/
structure Found (vocabulary : Vocabulary) (items : List Item) : Prop where
  nodes : ∀ b c, Runs vocabulary b items c → c.blocks = [] → NodesFirst vocabulary b items c
  block : ∀ b c control chained header line pipeline,
    IsPipeline ⟨vocabulary, b.bound⟩ control.mostNames line header pipeline →
    Runs vocabulary (b.opened control chained pipeline) items c → c.blocks = [] →
    BlockFirst vocabulary b control chained header line items c

/-- A list of nodes may be empty. -/
theorem nodesFirst_of_endsList {items : List Item} {c : Builder} (h : EndsList items)
    (hruns : Runs vocabulary b items c) : NodesFirst vocabulary b items c :=
  ⟨[], items, [], b.bound, rfl, h, .none, by rwa [addAll_nil]⟩

/-- A node in front belongs to the list. -/
theorem NodesFirst.cons {items : List Item} (front : List Item) {node : Node} {bound : List String}
    {c : Builder} (h : NodesFirst vocabulary (b.addAll [node] bound) items c)
    (hnode : ∀ {rest nodes after}, IsNodes vocabulary b.inRepetition bound rest nodes after →
      IsNodes vocabulary b.inRepetition b.bound (front ++ rest) (node :: nodes) after) :
    NodesFirst vocabulary b (front ++ items) c := by
  obtain ⟨own, rest, nodes, after, rfl, hends, hnodes, hruns⟩ := h
  rw [addAll_addAll, List.singleton_append] at hruns
  exact ⟨front ++ own, rest, node :: nodes, after, (List.append_assoc ..).symm, hends,
    hnode hnodes, hruns⟩

theorem nodesFirst_of_runs {items : List Item} {c : Builder} (hc : c.blocks = [])
    (ih : ∀ others : List Item, others.length < items.length → Found vocabulary others)
    (h : Runs vocabulary b items c) : NodesFirst vocabulary b items c := by
  cases h with
  | none => exact nodesFirst_of_endsList .none .none
  | @step _ d _ item items htakes hruns =>
    have hrest : NodesFirst vocabulary d items c :=
      (ih items (Nat.lt_succ_self _)).nodes d c hruns hc
    cases htakes with
    | text value => exact NodesFirst.cons [.text value] hrest .text
    | action hwords hpipeline =>
      exact NodesFirst.cons [.action _ _] hrest (.action hwords hpipeline)
    | leave hword hrepeats =>
      refine NodesFirst.cons [.action [_] _] hrest fun hnodes => ?_
      rw [hrepeats] at hnodes ⊢
      exact .leave hword hnodes
    | next hword hrepeats =>
      refine NodesFirst.cons [.action [_] _] hrest fun hnodes => ?_
      rw [hrepeats] at hnodes ⊢
      exact .next hword hnodes
    | @opens control word header line pipeline hword hpipeline =>
      obtain ⟨own, rest, node, _, rfl, hblock, hclosing, hafter⟩ :=
        (ih items (Nat.lt_succ_self _)).block b c control false header line pipeline hpipeline
          hruns hc
      cases hclosing
      have hshorter :
          rest.length < (Item.action (word :: header) line :: (own ++ rest)).length := by
        rw [List.length_cons, List.length_append]
        omega
      have hlater : NodesFirst vocabulary (b.addAll [node] b.bound) rest c :=
        (ih rest hshorter).nodes _ c hafter hc
      exact NodesFirst.cons (.action (word :: header) line :: own) hlater
        (.block hword hblock)
    | closes hword hclose =>
      exact nodesFirst_of_endsList (.word (.inl hword)) (.step (.closes hword hclose) hruns)
    | turns hword hblocks hbody =>
      exact nodesFirst_of_endsList (.word (.inr hword)) (.step (.turns hword hblocks hbody) hruns)
    | chains hword hblocks hbody hcontrol hsame hpipeline =>
      exact nodesFirst_of_endsList (.word (.inr hword))
        (.step (.chains hword hblocks hbody hcontrol hsame hpipeline) hruns)

/-- What the word does that ends a list of nodes. -/
theorem Takes.cases_of_endsList {item : Item} {items : List Item} {c : Builder}
    (h : Takes vocabulary b item c) (hends : EndsList (item :: items)) :
    (∃ word line, item = .action [word] line ∧ word.kind = .identifier "end" ∧
      close b.blocks b.nodes = .ok c) ∨
    ∃ word block blocks, word.kind = .identifier "else" ∧ b.blocks = block :: blocks ∧
      block.body = none ∧
      ((∃ line, item = .action [word] line ∧ c = b.turned block blocks) ∨
        ∃ same header line pipeline, item = .action (word :: same :: header) line ∧
          block.control ≠ .repetition ∧ same.kind = .identifier block.control.word ∧
          IsPipeline ⟨vocabulary, block.inside⟩ block.control.mostNames line header pipeline ∧
          c = (b.turned block blocks).opened block.control true pipeline) := by
  have hother : ∀ {word : Token} {name : String}, word.kind = .identifier name →
      (word.kind = .identifier "end" ∨ word.kind = .identifier "else") →
      name = "end" ∨ name = "else" := by
    intro word name hkind hword
    rcases hword with hword | hword
    · exact .inl (TokenKind.identifier.inj (hkind.symm.trans hword))
    · exact .inr (TokenKind.identifier.inj (hkind.symm.trans hword))
  cases hends with
  | @word word tokens line _ hword =>
    cases h with
    | action hwords _ =>
      have hstarts : ∀ name, word.kind = .identifier name → StartsWith name (word :: tokens) :=
        fun name hkind => ⟨word, tokens, rfl, hkind⟩
      rcases hword with hword | hword
      · exact absurd (hstarts _ hword) (hwords _ (by decide))
      · exact absurd (hstarts _ hword) (hwords _ (by decide))
    | leave hkind => exact absurd (hother hkind hword) (by decide)
    | next hkind => exact absurd (hother hkind hword) (by decide)
    | @opens control _ _ _ _ hkind _ =>
      exact absurd (hother hkind hword) (by cases control <;> decide)
    | closes hkind hclose => exact .inl ⟨word, line, rfl, hkind, hclose⟩
    | turns hkind hblocks hbody =>
      exact .inr ⟨word, _, _, hkind, hblocks, hbody, .inl ⟨line, rfl, rfl⟩⟩
    | chains hkind hblocks hbody hcontrol hsame hpipeline =>
      exact .inr ⟨word, _, _, hkind, hblocks, hbody,
        .inr ⟨_, _, line, _, rfl, hcontrol, hsame, hpipeline, rfl⟩⟩

theorem blockFirst_of_runs {items : List Item} {c : Builder} (hc : c.blocks = [])
    (hitems : ∀ d, Runs vocabulary d items c → NodesFirst vocabulary d items c)
    (ih : ∀ others : List Item, others.length < items.length → Found vocabulary others)
    {control : Control} {chained : Bool} {header : List Token} {line : Nat} {pipeline : Pipeline}
    (hpipeline : IsPipeline ⟨vocabulary, b.bound⟩ control.mostNames line header pipeline)
    (h : Runs vocabulary (b.opened control chained pipeline) items c) :
    BlockFirst vocabulary b control chained header line items c := by
  obtain ⟨own, rest, body, after, rfl, hends, hbody, hruns⟩ := hitems _ h
  rw [inRepetition_opened] at hbody
  cases hruns with
  | none => cases hc
  | @step _ d _ item items htakes hruns =>
    have hlength : items.length < (own ++ item :: items).length := by
      simp only [List.length_append, List.length_cons]
      omega
    -- The list that ends is the body, so its word closes the block or turns to the other part.
    rcases htakes.cases_of_endsList hends with ⟨word, last, rfl, hword, hclose⟩ |
      ⟨word, block, blocks, hword, hblocks, _, ⟨turn, rfl, rfl⟩ |
        ⟨same, second, turn, next, rfl, hcontrol, hsame, hnext, rfl⟩⟩
    · refine ⟨own ++ [.action [word] last], items, .block control pipeline body [], d, by simp, ?_,
        hclose, hruns⟩
      exact .mk hpipeline hbody (.closed hword)
    · cases hblocks
      obtain ⟨others, rest, otherwise, afterElse, rfl, hends, hothers, hruns⟩ :=
        (ih items hlength).nodes (b.afterElse control chained pipeline body) c hruns hc
      rw [inRepetition_afterElse] at hothers
      cases hruns with
      | none => cases hc
      | @step _ e _ item rest htakes hlater =>
        rcases htakes.cases_of_endsList hends with ⟨ending, last, rfl, hending, hclose⟩ |
          ⟨_, _, _, _, hblocks, hopen, _⟩
        · refine ⟨own ++ .action [word] turn :: (others ++ [.action [ending] last]), rest,
            .block control pipeline body otherwise, e, by simp, ?_, hclose, hlater⟩
          exact .mk hpipeline hbody (.otherwise hword hothers hending)
        · cases hblocks
          cases hopen
    · cases hblocks
      obtain ⟨others, rest, node, e, rfl, hblock, hclosing, hruns⟩ :=
        (ih items hlength).block (b.afterElse control chained pipeline body) c control true second
          turn next hnext hruns hc
      rw [inRepetition_afterElse] at hblock
      refine ⟨own ++ .action (word :: same :: second) turn :: others, rest,
        .block control pipeline body [node], e, by simp, ?_, hclosing, hruns⟩
      exact .mk hpipeline hbody (.again hword hcontrol hsame hblock)

theorem found (items : List Item) : Found vocabulary items := by
  induction hlength : items.length using Nat.strongRecOn generalizing items with
  | ind length ih =>
    subst hlength
    have hearlier : ∀ others : List Item, others.length < items.length → Found vocabulary others :=
      fun others hless => ih others.length hless others rfl
    have hnodes : ∀ b c, Runs vocabulary b items c → c.blocks = [] →
        NodesFirst vocabulary b items c := fun _ _ h hc => nodesFirst_of_runs hc hearlier h
    exact ⟨hnodes, fun _ c _ _ _ _ _ hpipeline h hc =>
      blockFirst_of_runs hc (fun d hd => hnodes d c hd hc) hearlier hpipeline h⟩

theorem finish_eq_ok_iff {nodes : List Node} :
    b.finish = .ok nodes ↔ b.blocks = [] ∧ b.nodes = nodes := by
  unfold finish
  cases b.blocks <;> simp

/-- Nothing is open at the end of items after which a list of nodes would end. -/
theorem eq_nil_of_runs_start {items : List Item} {nodes : List Node} {after : List String}
    {c : Builder} (hends : EndsList items)
    (h : Runs vocabulary (start.addAll nodes after) items c) : items = [] := by
  cases h with
  | none => rfl
  | step htakes _ =>
    rcases htakes.cases_of_endsList hends with ⟨_, _, _, _, hclose⟩ | ⟨_, _, _, _, hblocks, _⟩
    · cases hclose
    · cases hblocks

end Builder

open Builder

/-! ## Templates -/

/-- The items that are parsed are the templates of the grammar, and the tree is the one that the
grammar gives them. -/
theorem parse_eq_ok_iff {vocabulary : Vocabulary} {items : List Item} {tree : List Node} :
    parse vocabulary items = .ok tree ↔ IsTemplate vocabulary items tree := by
  have hparse : parse vocabulary items = .ok tree ↔
      ∃ c, Runs vocabulary start items c ∧ c.blocks = [] ∧ c.nodes = tree := by
    unfold parse
    simp only [← foldlM_take_eq_ok_iff]
    cases items.foldlM (take vocabulary) start with
    | error e => simp
    | ok c => simp [finish_eq_ok_iff]
  rw [hparse]
  constructor
  · rintro ⟨c, hruns, hc, rfl⟩
    obtain ⟨own, rest, nodes, after, rfl, hends, hnodes, hrest⟩ :=
      (found items).nodes start c hruns hc
    cases eq_nil_of_runs_start hends hrest
    cases hrest
    rw [List.append_nil]
    exact ⟨after, hnodes⟩
  · rintro ⟨after, hnodes⟩
    exact ⟨start.addAll tree after, runs_of_isNodes hnodes start rfl rfl, rfl, rfl⟩

end LayerLint.Template
