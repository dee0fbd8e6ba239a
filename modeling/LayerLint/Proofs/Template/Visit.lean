-- Every operand of a template counts once, in whichever part of a block it stands. A chain on the
-- root counts under its own path, a chain on the present value does so outside of the bodies of
-- scopes and repetitions, and nothing else is counted where no scope holds a chain.
import LayerLint.Proofs.Template.Calls
import LayerLint.Proofs.Template.Count

namespace LayerLint.Template

/-! ## Operands and their places -/

mutual

/-- The commands in the groups of an operand. -/
def Operand.commands : Operand → List Command
  | .group stages _ => commandsOfStages stages
  | .field _ => []
  | .variable _ _ => []
  | .function _ => []
  | .text _ => []
  | .number _ => []
  | .character _ => []
  | .boolean _ => []
  | .nil => []

def commandsInOperands : List Operand → List Command
  | [] => []
  | first :: rest => first.commands ++ commandsInOperands rest

/-- The commands of stages, in front of those in its groups each. -/
def commandsOfStages : List (List Operand) → List Command
  | [] => []
  | first :: rest => first :: (commandsInOperands first ++ commandsOfStages rest)

end

/-- A command, and the kinds of the blocks in whose bodies it stands, the innermost first. The header
of a block and its other part are not in its body. -/
structure CommandAt where
  command : Command
  bodies : List Control

mutual

/-- All commands of a node, in the order of the source. -/
def Node.commands (bodies : List Control) : Node → List CommandAt
  | .text _ => []
  | .action p => (commandsOfStages p.stages).map (⟨·, bodies⟩)
  | .block control p body otherwise =>
    (commandsOfStages p.stages).map (⟨·, bodies⟩) ++
      (commandsOfNodes (control :: bodies) body ++ commandsOfNodes bodies otherwise)
  | .leave _ => []
  | .next _ => []

def commandsOfNodes (bodies : List Control) : List Node → List CommandAt
  | [] => []
  | first :: rest => first.commands bodies ++ commandsOfNodes bodies rest

end

/-- An operand, with the kinds of the blocks in whose bodies it stands. -/
structure OperandAt where
  operand : Operand
  bodies : List Control

def CommandAt.operands (c : CommandAt) : List OperandAt := c.command.map (⟨·, c.bodies⟩)

/-- All operands of a tree. Each is an operand of one command. -/
def operandsOfNodes (bodies : List Control) (ns : List Node) : List OperandAt :=
  (commandsOfNodes bodies ns).flatMap CommandAt.operands

/-! ## Chains -/

/-- The names on the root of all values. -/
def Operand.rootChain? : Operand → Option (List String)
  | .variable name (first :: rest) => if name = rootName then some (first :: rest) else none
  | _ => none

/-- The names on the present value. -/
def Operand.dotChain? : Operand → Option (List String)
  | .field (first :: rest) => some (first :: rest)
  | _ => none

/-- Whether names spell a path. -/
def spells (path : String) (chain? : Option (List String)) : Bool :=
  chain?.any fun chain => Dot.chainPath chain = path

/-- Whether an operand stands outside of the bodies of all scopes and repetitions. -/
def OperandAt.isOutside (a : OperandAt) : Bool := a.bodies.all (· = .branch)

/-- How many chains on the root spell a path. -/
def rootCount (path : String) (as : List OperandAt) : Nat :=
  as.countP fun a => spells path a.operand.rootChain?

/-- How many chains on the present value spell a path, outside of scopes and repetitions. -/
def outerCount (path : String) (as : List OperandAt) : Nat :=
  as.countP fun a => a.isOutside && spells path a.operand.dotChain?

/-- How many operands are chains on the root or on the present value. -/
def chainCount (as : List OperandAt) : Nat :=
  as.countP fun a => a.operand.rootChain?.isSome || a.operand.dotChain?.isSome

/-- How many operands are chains on the present value, outside of scopes and repetitions. -/
def outerChains (as : List OperandAt) : Nat :=
  as.countP fun a => a.isOutside && a.operand.dotChain?.isSome

/-- No chain on the present value stands in the body of a scope. -/
def NoChainInScope (as : List OperandAt) : Prop :=
  ∀ a ∈ as, .scope ∈ a.bodies → a.operand.dotChain? = none

/-! ## What an operand reads itself -/

/-- The path that an operand reads itself, not counting what is in its groups. -/
def Operand.ownReads (dot : Dot) (o : Operand) : List String :=
  (o.rootChain?.map Dot.chainPath).toList ++ (o.dotChain?.bind dot.resolve).toList

def ownReads (dot : Dot) (c : Command) : List String := c.flatMap (Operand.ownReads dot)

theorem ownReads_field (dot : Dot) (chain : List String) :
    (Operand.field chain).ownReads dot = (dot.resolve chain).toList := by
  cases chain with
  | nil => cases dot <;> rfl
  | cons first rest => rfl

theorem ownReads_variable (dot : Dot) (name : String) (chain : List String) :
    (Operand.variable name chain).ownReads dot =
      if name = rootName then (Dot.root.resolve chain).toList else [] := by
  cases chain with
  | nil => simp [Operand.ownReads, Operand.rootChain?, Operand.dotChain?, Dot.resolve]
  | cons first rest =>
    by_cases hname : name = rootName
    · simp [Operand.ownReads, Operand.rootChain?, Operand.dotChain?, Dot.resolve, hname]
    · simp [Operand.ownReads, Operand.rootChain?, Operand.dotChain?, hname]

mutual

/-- An operand reads what it reads itself and what the commands in its groups read. -/
theorem perm_reads (dot : Dot) : ∀ o : Operand,
    (o.reads dot).Perm (o.ownReads dot ++ o.commands.flatMap (ownReads dot))
  | .field chain => by
    rw [ownReads_field]
    exact .of_eq (List.append_nil _).symm
  | .variable name chain => by
    rw [ownReads_variable]
    exact .of_eq (List.append_nil _).symm
  | .group stages chain => perm_readsOfStages dot stages
  | .function _ => .nil
  | .text _ => .nil
  | .number _ => .nil
  | .character _ => .nil
  | .boolean _ => .nil
  | .nil => .nil

theorem perm_readsOfCommand (dot : Dot) : ∀ c : List Operand,
    (readsOfCommand dot c).Perm (ownReads dot c ++ (commandsInOperands c).flatMap (ownReads dot))
  | [] => .nil
  | first :: rest => by
    rw [readsOfCommand, commandsInOperands, List.flatMap_append, ownReads, List.flatMap_cons]
    refine ((perm_reads dot first).append (perm_readsOfCommand dot rest)).trans ?_
    rw [List.append_assoc, List.append_assoc]
    exact (List.perm_append_comm_assoc _ _ _).append_left _

theorem perm_readsOfStages (dot : Dot) : ∀ cs : List (List Operand),
    (readsOfStages dot cs).Perm ((commandsOfStages cs).flatMap (ownReads dot))
  | [] => .nil
  | first :: rest => by
    rw [readsOfStages, commandsOfStages, List.flatMap_cons, List.flatMap_append,
      ← List.append_assoc]
    exact (perm_readsOfCommand dot first).append (perm_readsOfStages dot rest)

end

/-! ## From operands to stages -/

/-- The operands of stages in some bodies. -/
def stageOperands (bodies : List Control) (stages : List Command) : List OperandAt :=
  ((commandsOfStages stages).map (CommandAt.mk · bodies)).flatMap CommandAt.operands

/-- A relation between operands and what is read of them, of one present value and of another, that
the parts of a list hand on to the whole. -/
structure Additive (P : List OperandAt → List String → List String → Prop) : Prop where
  nil : P [] [] []
  append {as bs : List OperandAt} {reads kept others rest : List String} :
    P as reads kept → P bs others rest → P (as ++ bs) (reads ++ others) (kept ++ rest)
  perm {as : List OperandAt} {reads kept others rest : List String} :
    P as reads kept → others.Perm reads → rest.Perm kept → P as others rest

namespace Additive

variable {P : List OperandAt → List String → List String → Prop} {dot other : Dot}
  {bodies : List Control}

theorem command (h : Additive P)
    (hoperand : ∀ o, P [⟨o, bodies⟩] (o.ownReads dot) (o.ownReads other)) (c : Command) :
    P (CommandAt.mk c bodies).operands (ownReads dot c) (ownReads other c) := by
  induction c with
  | nil => exact h.nil
  | cons o rest ih => exact h.append (hoperand o) ih

theorem commands (h : Additive P)
    (hoperand : ∀ o, P [⟨o, bodies⟩] (o.ownReads dot) (o.ownReads other)) (cs : List Command) :
    P ((cs.map (CommandAt.mk · bodies)).flatMap CommandAt.operands) (cs.flatMap (ownReads dot))
      (cs.flatMap (ownReads other)) := by
  induction cs with
  | nil => exact h.nil
  | cons c rest ih => exact h.append (h.command hoperand c) ih

/-- What holds of every operand holds of all that stand in stages. -/
theorem stages (h : Additive P) (dot other : Dot)
    (hoperand : ∀ o, P [⟨o, bodies⟩] (o.ownReads dot) (o.ownReads other))
    (cs : List Command) :
    P (stageOperands bodies cs) (readsOfStages dot cs) (readsOfStages other cs) :=
  h.perm (h.commands hoperand _) (perm_readsOfStages dot cs) (perm_readsOfStages other cs)

end Additive

/-! ## The account of a list of operands -/

/-- What is read of some operands, under one path and in all. -/
structure Accounts (path : String) (as : List OperandAt) (reads : List String) : Prop where
  least : rootCount path as + outerCount path as ≤ reads.count path
  exact : NoChainInScope as → reads.count path = rootCount path as + outerCount path as
  most : reads.length ≤ chainCount as

namespace Accounts

variable {path : String} {as bs : List OperandAt} {reads others : List String}

theorem nil : Accounts path [] [] := ⟨Nat.le_refl 0, fun _ => rfl, Nat.le_refl 0⟩

theorem append (h : Accounts path as reads) (hothers : Accounts path bs others) :
    Accounts path (as ++ bs) (reads ++ others) := by
  obtain ⟨hleast, hexact, hmost⟩ := h
  obtain ⟨hleast', hexact', hmost'⟩ := hothers
  refine ⟨?_, ?_, ?_⟩
  · simp only [rootCount, outerCount, List.countP_append, List.count_append] at hleast hleast' ⊢
    omega
  · intro hscope
    have hreads := hexact fun a ha => hscope a (List.mem_append_left bs ha)
    have hothers := hexact' fun a ha => hscope a (List.mem_append_right as ha)
    simp only [rootCount, outerCount, List.countP_append, List.count_append] at hreads hothers ⊢
    omega
  · simp only [chainCount, List.countP_append, List.length_append] at hmost hmost' ⊢
    omega

/-- The order of what is read makes no difference. -/
theorem perm (h : Accounts path as reads) (hperm : others.Perm reads) :
    Accounts path as others := by
  obtain ⟨hleast, hexact, hmost⟩ := h
  rw [← hperm.count_eq] at hleast hexact
  rw [← hperm.length_eq] at hmost
  exact ⟨hleast, hexact, hmost⟩

end Accounts

theorem Additive.accounts (path : String) :
    Additive fun as reads _ => Accounts path as reads where
  nil := .nil
  append h hothers := h.append hothers
  perm h hothers _ := h.perm hothers

/-! ## Dots and places -/

/-- Outside of every scope the present value is the root, or in a repetition nothing that is
known. -/
def Dot.Fits (dot : Dot) (bodies : List Control) : Prop :=
  .scope ∉ bodies → dot = if bodies.all (· = .branch) then .root else .unknown

/-- What the present value is in the body of a block. -/
def Dot.inBody (dot : Dot) (control : Control) (p : Pipeline) : Dot :=
  match control with
  | .branch => dot
  | .repetition => .unknown
  | .scope => dot.under p.stages

theorem Dot.Fits.inBody {dot : Dot} {bodies : List Control} (h : dot.Fits bodies)
    (control : Control) (p : Pipeline) : (dot.inBody control p).Fits (control :: bodies) := by
  unfold Dot.Fits at h ⊢
  intro hscope
  rw [List.mem_cons, not_or] at hscope
  cases control with
  | branch => simpa [Dot.inBody] using h hscope.2
  | repetition => rfl
  | scope => exact absurd rfl hscope.1

section

variable {path : String} {dot : Dot} {bodies : List Control}

theorem accounts_nil {o : Operand} (hroot : o.rootChain? = none) (hdot : o.dotChain? = none) :
    Accounts path [⟨o, bodies⟩] [] := by
  have hnone : rootCount path [⟨o, bodies⟩] = 0 ∧ outerCount path [⟨o, bodies⟩] = 0 := by
    simp [rootCount, outerCount, spells, hroot, hdot]
  exact ⟨by simp [hnone], fun _ => by simp [hnone], Nat.zero_le _⟩

/-- A chain on the root is read under its own path at every place. -/
theorem accounts_rootChain {o : Operand} {chain : List String} (hroot : o.rootChain? = some chain)
    (hdot : o.dotChain? = none) : Accounts path [⟨o, bodies⟩] [Dot.chainPath chain] := by
  have hcount : rootCount path [⟨o, bodies⟩] = [Dot.chainPath chain].count path := by
    simp [rootCount, spells, hroot, List.count_cons]
  have hnone : outerCount path [⟨o, bodies⟩] = 0 := by simp [outerCount, spells, hdot]
  have hmost : chainCount [⟨o, bodies⟩] = 1 := by simp [chainCount, hroot]
  refine ⟨?_, fun _ => ?_, ?_⟩
  · omega
  · omega
  · simp [hmost]

/-- A chain on the present value is read under its own path outside of scopes and repetitions, and
is not read in a repetition. -/
theorem accounts_dotChain (h : dot.Fits bodies) {o : Operand} {chain : List String}
    (hne : chain ≠ []) (hroot : o.rootChain? = none) (hdot : o.dotChain? = some chain) :
    Accounts path [⟨o, bodies⟩] (dot.resolve chain).toList := by
  obtain ⟨first, rest, rfl⟩ := List.exists_cons_of_ne_nil hne
  have hnone : rootCount path [⟨o, bodies⟩] = 0 := by simp [rootCount, spells, hroot]
  have hmost : chainCount [⟨o, bodies⟩] = 1 := by simp [chainCount, hdot]
  have hlength : (dot.resolve (first :: rest)).toList.length ≤ 1 := by
    cases dot.resolve (first :: rest) <;> simp
  rw [← hmost] at hlength
  by_cases hscope : Control.scope ∈ bodies
  · have houter : outerCount path [⟨o, bodies⟩] = 0 := by
      have hinside : (bodies.all (· = .branch)) = false := by
        rw [List.all_eq_false]
        exact ⟨.scope, hscope, by decide⟩
      simp [outerCount, OperandAt.isOutside, hinside]
    refine ⟨by omega, fun hchains => ?_, hlength⟩
    have hfree := hchains ⟨o, bodies⟩ List.mem_cons_self hscope
    rw [hdot] at hfree
    cases hfree
  · have hcount : (dot.resolve (first :: rest)).toList.count path =
        outerCount path [⟨o, bodies⟩] := by
      rw [h hscope]
      cases hbodies : bodies.all (· = .branch) with
      | true =>
        simp [Dot.resolve, outerCount, OperandAt.isOutside, hbodies, spells, hdot, List.count_cons]
      | false => simp [Dot.resolve, outerCount, OperandAt.isOutside, hbodies]
    exact ⟨by omega, fun _ => by omega, hlength⟩

theorem accounts_operand (h : dot.Fits bodies) (o : Operand) :
    Accounts path [⟨o, bodies⟩] (o.ownReads dot) := by
  unfold Operand.ownReads
  cases hroot : o.rootChain? with
  | some chain =>
    have hdot : o.dotChain? = none := by
      unfold Operand.rootChain? at hroot
      split at hroot
      · rfl
      · cases hroot
    rw [hdot]
    exact accounts_rootChain hroot hdot
  | none =>
    cases hdot : o.dotChain? with
    | some chain =>
      have hne : chain ≠ [] := by
        unfold Operand.dotChain? at hdot
        split at hdot
        · cases hdot
          exact List.cons_ne_nil _ _
        · cases hdot
      exact accounts_dotChain h hne hroot hdot
    | none => exact accounts_nil hroot hdot

theorem accounts_stages (h : dot.Fits bodies) (stages : List Command) :
    Accounts path (stageOperands bodies stages) (readsOfStages dot stages) :=
  (Additive.accounts path).stages dot dot (accounts_operand h) stages

end

theorem reads_block (dot : Dot) (control : Control) (p : Pipeline) (body otherwise : List Node) :
    (Node.block control p body otherwise).reads dot =
      readsOfStages dot p.stages ++
        (readsOfNodes (dot.inBody control p) body ++ readsOfNodes dot otherwise) := by
  cases control <;> rfl

theorem operandsOfNodes_cons (bodies : List Control) (first : Node) (rest : List Node) :
    operandsOfNodes bodies (first :: rest) =
      operandsOfNodes bodies [first] ++ operandsOfNodes bodies rest := by
  simp [operandsOfNodes, commandsOfNodes]

theorem operandsOfNodes_action (bodies : List Control) (p : Pipeline) :
    operandsOfNodes bodies [.action p] = stageOperands bodies p.stages := by
  simp [operandsOfNodes, commandsOfNodes, Node.commands, stageOperands]

theorem operandsOfNodes_block (bodies : List Control) (control : Control) (p : Pipeline)
    (body otherwise : List Node) :
    operandsOfNodes bodies [.block control p body otherwise] =
      stageOperands bodies p.stages ++
        (operandsOfNodes (control :: bodies) body ++ operandsOfNodes bodies otherwise) := by
  simp [operandsOfNodes, commandsOfNodes, Node.commands, stageOperands]

mutual

/-- What a node reads is in account with its operands. -/
theorem accounts_node {path : String} {dot : Dot} {bodies : List Control} (h : dot.Fits bodies) :
    ∀ n : Node, Accounts path (operandsOfNodes bodies [n]) (n.reads dot)
  | .text _ => .nil
  | .action p => by
    rw [operandsOfNodes_action]
    exact accounts_stages h p.stages
  | .block control p body otherwise => by
    rw [operandsOfNodes_block, reads_block]
    exact (accounts_stages h p.stages).append
      ((accounts_nodes (h.inBody control p) body).append (accounts_nodes h otherwise))
  | .leave _ => .nil
  | .next _ => .nil

theorem accounts_nodes {path : String} {dot : Dot} {bodies : List Control} (h : dot.Fits bodies) :
    ∀ ns : List Node, Accounts path (operandsOfNodes bodies ns) (readsOfNodes dot ns)
  | [] => .nil
  | first :: rest => by
    rw [operandsOfNodes_cons]
    exact (accounts_node h first).append (accounts_nodes h rest)

end

/-! ## Fragments of commands -/

mutual

theorem includes_eq_commands : ∀ o : Operand, o.includes = o.commands.flatMap ownInclude
  | .group stages _ => includesOfStages_eq_commands stages
  | .field _ => rfl
  | .variable _ _ => rfl
  | .function _ => rfl
  | .text _ => rfl
  | .number _ => rfl
  | .character _ => rfl
  | .boolean _ => rfl
  | .nil => rfl

theorem includesOfOperands_eq_commands : ∀ os : List Operand,
    includesOfOperands os = (commandsInOperands os).flatMap ownInclude
  | [] => rfl
  | first :: rest => by
    rw [includesOfOperands, commandsInOperands, List.flatMap_append, includes_eq_commands first,
      includesOfOperands_eq_commands rest]

theorem includesOfStages_eq_commands : ∀ cs : List (List Operand),
    includesOfStages cs = (commandsOfStages cs).flatMap ownInclude
  | [] => rfl
  | first :: rest => by
    rw [includesOfStages, commandsOfStages, List.flatMap_cons, List.flatMap_append,
      includesOfOperands_eq_commands first, includesOfStages_eq_commands rest, List.append_assoc]

end

/-- The fragment that a command brings in, wherever the command stands. -/
def CommandAt.ownInclude (c : CommandAt) : List String := Template.ownInclude c.command

theorem flatMap_ownInclude_stages (bodies : List Control) (stages : List Command) :
    ((commandsOfStages stages).map (CommandAt.mk · bodies)).flatMap CommandAt.ownInclude =
      includesOfStages stages := by
  rw [List.flatMap_map, includesOfStages_eq_commands]
  rfl

mutual

theorem Node.includes_eq_commands (bodies : List Control) :
    ∀ n : Node, n.includes = (n.commands bodies).flatMap CommandAt.ownInclude
  | .text _ => rfl
  | .action p => (flatMap_ownInclude_stages bodies p.stages).symm
  | .block control p body otherwise => by
    rw [Node.includes, Node.commands, List.flatMap_append, List.flatMap_append,
      flatMap_ownInclude_stages, includesOfNodes_eq_commands (control :: bodies) body,
      includesOfNodes_eq_commands bodies otherwise]
  | .leave _ => rfl
  | .next _ => rfl

theorem includesOfNodes_eq_commands (bodies : List Control) : ∀ ns : List Node,
    includesOfNodes ns = (commandsOfNodes bodies ns).flatMap CommandAt.ownInclude
  | [] => rfl
  | first :: rest => by
    rw [includesOfNodes, commandsOfNodes, List.flatMap_append,
      Node.includes_eq_commands bodies first, includesOfNodes_eq_commands bodies rest]

end

/-! ## What a template refers to -/

/-- Every operand of a template that is parsed is visited once. The fragments are those of all its
commands, in the order in which they stand in its source. A path counts as often as a chain on the
root spells it, and a chain on the present value does outside of the bodies of scopes and
repetitions; it counts no more often if no scope holds a chain on the present value. All paths
together count no more often than there are such chains. -/
theorem every_operand_of_a_template_is_visited_once {vocabulary : Vocabulary} {items : List Item}
    {tree : List Node} (h : parse vocabulary items = .ok tree) :
    ((includesOfNodes tree).eraseDups =
        ((commandsOfNodes [] tree).flatMap CommandAt.ownInclude).eraseDups ∧
      (includesOfNodes tree).eraseDups = (items.flatMap Item.calls).eraseDups) ∧
    (∀ path, rootCount path (operandsOfNodes [] tree) + outerCount path (operandsOfNodes [] tree) ≤
        ((countPaths (readsOfNodes .root tree)).get? path).getD 0) ∧
    (NoChainInScope (operandsOfNodes [] tree) → ∀ path,
      ((countPaths (readsOfNodes .root tree)).get? path).getD 0 =
        rootCount path (operandsOfNodes [] tree) + outerCount path (operandsOfNodes [] tree)) ∧
    totalCount (countPaths (readsOfNodes .root tree)) ≤ chainCount (operandsOfNodes [] tree) := by
  obtain ⟨after, hnodes⟩ := parse_eq_ok_iff.1 h
  have haccounts (path : String) :
      Accounts path (operandsOfNodes [] tree) (readsOfNodes .root tree) := by
    apply accounts_nodes
    intro _
    rfl
  refine ⟨⟨?_, ?_⟩, ?_, ?_, ?_⟩
  · rw [← includesOfNodes_eq_commands]
  · rw [hnodes.calls_eq]
  · intro path
    rw [getD_get?_countPaths]
    exact (haccounts path).least
  · intro hscope path
    rw [getD_get?_countPaths]
    exact (haccounts path).exact hscope
  · rw [totalCount_countPaths]
    exact (haccounts "").most

/-- Fragments in the stages and in a group of a scope's body, and a repetition in its other part. -/
def visitedItems : List Item :=
  [.action [⟨.identifier "with", true⟩, ⟨.field ["a"], true⟩] 1,
   .action [⟨.identifier "include", true⟩, ⟨.text "x", true⟩, ⟨.variable "$" ["a"], true⟩,
      ⟨.pipe, true⟩, ⟨.identifier "include", true⟩, ⟨.text "y", true⟩, ⟨.leftParen, true⟩,
      ⟨.identifier "include", false⟩, ⟨.text "z", true⟩, ⟨.rightParen, false⟩] 1,
   .action [⟨.identifier "else", true⟩] 2,
   .action [⟨.identifier "range", true⟩, ⟨.field ["b"], true⟩] 2,
   .action [⟨.field ["c"], true⟩] 2,
   .action [⟨.identifier "include", true⟩, ⟨.text "x", true⟩, ⟨.variable "$" ["b"], true⟩] 2,
   .action [⟨.identifier "else", true⟩] 3,
   .action [⟨.field ["b"], true⟩] 3,
   .action [⟨.identifier "end", true⟩] 3,
   .action [⟨.identifier "end", true⟩] 3]

def visitedTree : List Node :=
  [.block .scope ⟨[], false, [[.field ["a"]]], 1⟩
    [.action ⟨[], false, [[.function "include", .text "x", .variable "$" ["a"]],
      [.function "include", .text "y", .group [[.function "include", .text "z"]] []]], 1⟩]
    [.block .repetition ⟨[], false, [[.field ["b"]]], 2⟩
      [.action ⟨[], false, [[.field ["c"]]], 2⟩,
       .action ⟨[], false, [[.function "include", .text "x", .variable "$" ["b"]]], 2⟩]
      [.action ⟨[], false, [[.field ["b"]]], 3⟩]]]

/-- No part of the blocks is left out and none is visited twice: of six chains all but that on the
present value of the repetition are counted. -/
theorem the_visited_items_are_counted_once :
    parse (Vocabulary.empty.define "include" .include) visitedItems = .ok visitedTree ∧
      (includesOfNodes visitedTree).eraseDups = ["include/x.yaml.template",
        "include/y.yaml.template", "include/z.yaml.template"] ∧
      ((countPaths (readsOfNodes .root visitedTree)).get? "a").getD 0 = 1 + 1 ∧
      ((countPaths (readsOfNodes .root visitedTree)).get? "b").getD 0 = 1 + 2 ∧
      chainCount (operandsOfNodes [] visitedTree) = 6 := by
  have hparse : parse (Vocabulary.empty.define "include" .include) visitedItems =
      .ok visitedTree := rfl
  obtain ⟨⟨_, hincludes⟩, _, hexact, _⟩ := every_operand_of_a_template_is_visited_once hparse
  have hscope : NoChainInScope (operandsOfNodes [] visitedTree) := by
    unfold NoChainInScope
    decide
  refine ⟨hparse, ?_, ?_, ?_, rfl⟩
  · rw [hincludes]
    decide
  · rw [hexact hscope]
    decide
  · rw [hexact hscope]
    decide

end LayerLint.Template
