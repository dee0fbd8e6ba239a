-- What a scope does to the references in its body. One over the root keeps them where the root is
-- the present value. One over the present value itself does not: no path is known in its body, and
-- the chains on the present value there are lost.
import LayerLint.Proofs.Template.Visit

namespace LayerLint.Template

/-! ## Places -/

/-- A place in a template at which nodes may stand: among others, in the body of a block or in its
other part. -/
inductive Place where
  | here
  | among (before : List Node) (place : Place) (after : List Node)
  | inBody (control : Control) (pipeline : Pipeline) (place : Place) (otherwise : List Node)
  | inOther (control : Control) (pipeline : Pipeline) (body : List Node) (place : Place)

namespace Place

/-- A template with nodes at a place. -/
def fill (ns : List Node) : Place → List Node
  | .here => ns
  | .among before place after => before ++ (place.fill ns ++ after)
  | .inBody control p place otherwise => [.block control p (place.fill ns) otherwise]
  | .inOther control p body place => [.block control p body (place.fill ns)]

/-- What the present value is at a place. -/
def dotAt (dot : Dot) : Place → Dot
  | .here => dot
  | .among _ place _ => place.dotAt dot
  | .inBody control p place _ => place.dotAt (dot.inBody control p)
  | .inOther _ _ _ place => place.dotAt dot

end Place

theorem readsOfNodes_append (dot : Dot) (front ns : List Node) :
    readsOfNodes dot (front ++ ns) = readsOfNodes dot front ++ readsOfNodes dot ns := by
  induction front with
  | nil => rfl
  | cons first rest ih => rw [List.cons_append, readsOfNodes, ih, readsOfNodes, List.append_assoc]

theorem includesOfNodes_append (front ns : List Node) :
    includesOfNodes (front ++ ns) = includesOfNodes front ++ includesOfNodes ns := by
  induction front with
  | nil => rfl
  | cons first rest ih =>
    rw [List.cons_append, includesOfNodes, ih, includesOfNodes, List.append_assoc]

theorem readsOfNodes_block (dot : Dot) (control : Control) (p : Pipeline)
    (body otherwise : List Node) :
    readsOfNodes dot [.block control p body otherwise] =
      readsOfStages dot p.stages ++
        (readsOfNodes (dot.inBody control p) body ++ readsOfNodes dot otherwise) := by
  rw [readsOfNodes, readsOfNodes, List.append_nil, reads_block]

/-- The nodes at a place are read between what stands before and after it. -/
theorem Place.reads_fill (place : Place) (dot : Dot) : ∃ before after, ∀ ns,
    readsOfNodes dot (place.fill ns) =
      before ++ (readsOfNodes (place.dotAt dot) ns ++ after) := by
  induction place generalizing dot with
  | here =>
    refine ⟨[], [], fun ns => ?_⟩
    rw [List.nil_append, List.append_nil]
    rfl
  | among front place behind ih =>
    obtain ⟨before, after, h⟩ := ih dot
    refine ⟨readsOfNodes dot front ++ before, after ++ readsOfNodes dot behind, fun ns => ?_⟩
    rw [fill, readsOfNodes_append, readsOfNodes_append, h]
    simp only [dotAt, List.append_assoc]
  | inBody control p place otherwise ih =>
    obtain ⟨before, after, h⟩ := ih (dot.inBody control p)
    refine ⟨readsOfStages dot p.stages ++ before, after ++ readsOfNodes dot otherwise,
      fun ns => ?_⟩
    rw [fill, readsOfNodes_block, h]
    simp only [dotAt, List.append_assoc]
  | inOther control p body place ih =>
    obtain ⟨before, after, h⟩ := ih dot
    refine ⟨readsOfStages dot p.stages ++ (readsOfNodes (dot.inBody control p) body ++ before),
      after, fun ns => ?_⟩
    rw [fill, readsOfNodes_block, h]
    simp only [dotAt, List.append_assoc]

/-- Nodes at a place that bring the same in may stand for each other. -/
theorem Place.includes_fill (place : Place) {ns others : List Node}
    (h : includesOfNodes ns = includesOfNodes others) :
    includesOfNodes (place.fill ns) = includesOfNodes (place.fill others) := by
  induction place with
  | here => exact h
  | among before place after ih =>
    rw [fill, fill, includesOfNodes_append, includesOfNodes_append, ih, includesOfNodes_append,
      includesOfNodes_append]
  | inBody control p place otherwise ih =>
    simp only [fill, includesOfNodes, Node.includes, ih]
  | inOther control p body place ih =>
    simp only [fill, includesOfNodes, Node.includes, ih]

/-! ## What is read once the present value is not known -/

/-- What is left of what is read of operands: at least the outer chains on the present value are
lost, and without them nothing is. -/
structure Loses (as : List OperandAt) (reads kept : List String) : Prop where
  length_le : kept.length + outerChains as ≤ reads.length
  perm : outerChains as = 0 → kept.Perm reads

theorem Loses.perm_iff {as : List OperandAt} {reads kept : List String}
    (h : Loses as reads kept) : kept.Perm reads ↔ outerChains as = 0 := by
  refine ⟨fun hperm => ?_, h.perm⟩
  have hlength := h.length_le
  rw [hperm.length_eq] at hlength
  omega

theorem outerChains_append (as bs : List OperandAt) :
    outerChains (as ++ bs) = outerChains as + outerChains bs := List.countP_append

/-- Of the operands in a body no chain is an outer one, so what is read there may be lost to others
in front of it. -/
theorem Loses.append_inner {as bs : List OperandAt} {reads kept others rest : List String}
    (h : Loses as reads kept) (hinner : outerChains bs = 0) (hlength : rest.length ≤ others.length)
    (hperm : outerChains as = 0 → rest.Perm others) :
    Loses (as ++ bs) (reads ++ others) (kept ++ rest) := by
  obtain ⟨hle, hkept⟩ := h
  constructor
  · rw [outerChains_append, List.length_append, List.length_append]
    omega
  · intro hnone
    rw [outerChains_append] at hnone
    have houter : outerChains as = 0 := by omega
    exact (hkept houter).append (hperm houter)

theorem Additive.loses : Additive Loses where
  nil := ⟨Nat.le_refl 0, fun _ => .nil⟩
  append := by
    rintro as bs reads kept others rest ⟨hle, hkept⟩ ⟨hle', hkept'⟩
    constructor
    · rw [outerChains_append, List.length_append, List.length_append]
      omega
    · intro hnone
      rw [outerChains_append] at hnone
      exact (hkept (by omega)).append (hkept' (by omega))
  perm := by
    rintro as reads kept others rest ⟨hle, hkept⟩ hothers hrest
    constructor
    · rw [hothers.length_eq, hrest.length_eq]
      exact hle
    · intro hnone
      exact hrest.trans ((hkept hnone).trans hothers.symm)

theorem Dot.resolve_unknown (chain : List String) : Dot.unknown.resolve chain = none := by
  cases chain <;> rfl

/-- Each outer chain on a present value that is known is lost, and nothing else. -/
theorem loses_operand {dot : Dot} (hdot : dot ≠ .unknown) {bodies : List Control}
    (houter : bodies.all (· = .branch) = true) (o : Operand) :
    Loses [⟨o, bodies⟩] (o.ownReads dot) (o.ownReads .unknown) := by
  have hcount : outerChains [⟨o, bodies⟩] = if o.dotChain?.isSome then 1 else 0 := by
    rw [outerChains, List.countP_singleton, OperandAt.isOutside, houter, Bool.true_and]
  have hreads : (o.ownReads .unknown).length + outerChains [⟨o, bodies⟩] =
      (o.ownReads dot).length := by
    rw [hcount]
    unfold Operand.ownReads
    cases hchain : o.dotChain? with
    | none => rfl
    | some chain =>
      obtain ⟨first, rest, rfl⟩ : ∃ first rest, chain = first :: rest := by
        unfold Operand.dotChain? at hchain
        split at hchain
        · exact ⟨_, _, (Option.some.inj hchain).symm⟩
        · cases hchain
      cases dot with
      | root => simp [Dot.resolve]
      | «at» path => simp [Dot.resolve]
      | unknown => exact absurd rfl hdot
  constructor
  · omega
  · intro hnone
    rw [hcount] at hnone
    have hchain : o.dotChain? = none := by
      cases hchain : o.dotChain? with
      | none => rfl
      | some chain => simp [hchain] at hnone
    rw [Operand.ownReads, Operand.ownReads, hchain]
    exact .refl _

/-- The present value in the body of a scope is known with the one around it and without, or else
the pipeline of the scope is a chain on the one around it. -/
theorem Dot.under_unknown (dot : Dot) (stages : List Command) :
    Dot.unknown.under stages = dot.under stages ∨
      Dot.unknown.under stages = .unknown ∧
        ∃ first rest, stages = [[.field (first :: rest)]] := by
  unfold Dot.under
  split
  · rename_i chain
    rw [Dot.resolve_unknown]
    cases chain with
    | nil => exact .inl rfl
    | cons first rest => exact .inr ⟨rfl, first, rest, rfl⟩
  · exact .inl rfl
  · exact .inl rfl

/-! ## Nodes in bodies -/

mutual

theorem bodies_suffix_node (bodies : List Control) : ∀ n : Node, ∀ c ∈ n.commands bodies,
    bodies <:+ c.bodies
  | .text _, _, hc => nomatch hc
  | .action p, c, hc => by
    obtain ⟨command, _, rfl⟩ := List.mem_map.1 hc
    exact List.suffix_refl _
  | .block control p body otherwise, c, hc => by
    rw [Node.commands, List.mem_append, List.mem_append] at hc
    obtain hheader | hbody | hother := hc
    · obtain ⟨command, _, rfl⟩ := List.mem_map.1 hheader
      exact List.suffix_refl _
    · exact (List.suffix_cons _ _).trans (bodies_suffix_nodes (control :: bodies) body c hbody)
    · exact bodies_suffix_nodes bodies otherwise c hother
  | .leave _, _, hc => nomatch hc
  | .next _, _, hc => nomatch hc

/-- A command in a list of nodes stands in the bodies that the list stands in. -/
theorem bodies_suffix_nodes (bodies : List Control) : ∀ ns : List Node,
    ∀ c ∈ commandsOfNodes bodies ns, bodies <:+ c.bodies
  | [], _, hc => nomatch hc
  | first :: rest, c, hc => by
    rw [commandsOfNodes, List.mem_append] at hc
    obtain hfirst | hrest := hc
    · exact bodies_suffix_node bodies first c hfirst
    · exact bodies_suffix_nodes bodies rest c hrest

end

/-- No chain in a scope or a repetition is an outer one. -/
theorem outerChains_eq_zero {bodies : List Control} (h : bodies.all (· = .branch) = false)
    (ns : List Node) : outerChains (operandsOfNodes bodies ns) = 0 := by
  rw [outerChains, List.countP_eq_zero]
  intro a ha
  obtain ⟨c, hc, ha⟩ := List.mem_flatMap.1 ha
  obtain ⟨o, _, rfl⟩ := List.mem_map.1 ha
  obtain ⟨control, hcontrol, hbranch⟩ := List.all_eq_false.1 h
  have hinside : OperandAt.isOutside ⟨o, c.bodies⟩ = false :=
    List.all_eq_false.2 ⟨control, (bodies_suffix_nodes bodies ns c hc).mem hcontrol, hbranch⟩
  rw [hinside]
  simp

/-- A scope over a chain has an outer chain in its header. -/
theorem outerChains_header {bodies : List Control} (houter : bodies.all (· = .branch) = true)
    (first : String) (rest : List String) :
    outerChains (stageOperands bodies [[.field (first :: rest)]]) = 1 := by
  simp [outerChains, stageOperands, commandsOfStages, commandsInOperands, Operand.commands,
    CommandAt.operands, OperandAt.isOutside, Operand.dotChain?, houter]

theorem loses_stages {dot : Dot} (hdot : dot ≠ .unknown) {bodies : List Control}
    (houter : bodies.all (· = .branch) = true) (stages : List Command) :
    Loses (stageOperands bodies stages) (readsOfStages dot stages)
      (readsOfStages .unknown stages) :=
  Additive.loses.stages dot .unknown (loses_operand hdot houter) stages

/-- A scope over a chain loses this chain, and perhaps what is read in its body; any other has the
same present value in its body. -/
theorem loses_scope {dot : Dot} (hdot : dot ≠ .unknown) {bodies : List Control}
    (houter : bodies.all (· = .branch) = true) (stages : List Command) {body : List Node}
    (hbody : ∀ d : Dot, d ≠ .unknown →
      (readsOfNodes .unknown body).length ≤ (readsOfNodes d body).length) :
    Loses (stageOperands bodies stages ++ operandsOfNodes (.scope :: bodies) body)
      (readsOfStages dot stages ++ readsOfNodes (dot.under stages) body)
      (readsOfStages .unknown stages ++ readsOfNodes (Dot.unknown.under stages) body) := by
  -- what the body loses is not counted: it has no outer chain, and only a header with one changes it
  refine (loses_stages hdot houter stages).append_inner (outerChains_eq_zero rfl body) ?_ ?_
  · obtain hsame | ⟨hunknown, _⟩ := Dot.under_unknown dot stages
    · rw [hsame]
    · rw [hunknown]
      by_cases hd : dot.under stages = .unknown
      · rw [hd]
      · exact hbody _ hd
  · intro hnone
    obtain hsame | ⟨_, first, rest, rfl⟩ := Dot.under_unknown dot stages
    · rw [hsame]
    · rw [outerChains_header houter] at hnone
      cases hnone

mutual

/-- What a node reads is lost as far as it hangs on the present value. -/
theorem loses_node {dot : Dot} (hdot : dot ≠ .unknown) {bodies : List Control}
    (houter : bodies.all (· = .branch) = true) :
    ∀ n : Node, Loses (operandsOfNodes bodies [n]) (n.reads dot) (n.reads .unknown)
  | .text _ => Additive.loses.nil
  | .action p => by
    rw [operandsOfNodes_action]
    exact loses_stages hdot houter p.stages
  | .block .branch p body otherwise => by
    rw [operandsOfNodes_block, reads_block, reads_block]
    exact Additive.loses.append (loses_stages hdot houter p.stages)
      (Additive.loses.append (loses_nodes hdot (by simpa using houter) body)
        (loses_nodes hdot houter otherwise))
  | .block .repetition p body otherwise => by
    rw [operandsOfNodes_block, reads_block, reads_block, ← List.append_assoc, ← List.append_assoc,
      ← List.append_assoc]
    have hinner : outerChains (operandsOfNodes (.repetition :: bodies) body) = 0 :=
      outerChains_eq_zero rfl body
    have hbody := (loses_stages hdot houter p.stages).append_inner hinner (Nat.le_refl _)
      fun _ => .refl (readsOfNodes .unknown body)
    exact Additive.loses.append hbody (loses_nodes hdot houter otherwise)
  | .block .scope p body otherwise => by
    rw [operandsOfNodes_block, reads_block, reads_block, ← List.append_assoc, ← List.append_assoc,
      ← List.append_assoc]
    have hlength : ∀ d : Dot, d ≠ .unknown →
        (readsOfNodes .unknown body).length ≤ (readsOfNodes d body).length := by
      intro d hd
      have hbody : Loses (operandsOfNodes [] body) _ _ := loses_nodes hd rfl body
      have hle := hbody.length_le
      omega
    exact Additive.loses.append (loses_scope hdot houter p.stages hlength)
      (loses_nodes hdot houter otherwise)
  | .leave _ => Additive.loses.nil
  | .next _ => Additive.loses.nil

theorem loses_nodes {dot : Dot} (hdot : dot ≠ .unknown) {bodies : List Control}
    (houter : bodies.all (· = .branch) = true) :
    ∀ ns : List Node,
      Loses (operandsOfNodes bodies ns) (readsOfNodes dot ns) (readsOfNodes .unknown ns)
  | [] => Additive.loses.nil
  | first :: rest => by
    rw [operandsOfNodes_cons]
    exact Additive.loses.append (loses_node hdot houter first) (loses_nodes hdot houter rest)

end

/-! ## Scopes that move the present value nowhere -/

/-- Nodes in the body of a scope whose pipeline is one operand. -/
def scopeOver (operand : Operand) (line : Nat) (body : List Node) : List Node :=
  [.block .scope ⟨[], false, [[operand]], line⟩ body []]

/-- The operand for the present value itself. -/
def dotOperand : Operand := .field []

/-- The operand for the root of all values. -/
def rootOperand : Operand := .variable rootName []

theorem includes_scopeOver {operand : Operand} (h : operand.includes = [])
    (hname : ownInclude [operand] = []) (line : Nat) (body : List Node) :
    includesOfNodes (scopeOver operand line body) = includesOfNodes body := by
  simp [scopeOver, includesOfNodes, Node.includes, includesOfStages, includesOfOperands, h, hname]

theorem reads_scopeOver_dot (dot : Dot) (line : Nat) (body : List Node) :
    readsOfNodes dot (scopeOver dotOperand line body) = readsOfNodes .unknown body := by
  rw [scopeOver, readsOfNodes_block, readsOfNodes, List.append_nil]
  cases dot <;> rfl

theorem reads_scopeOver_root (dot : Dot) (line : Nat) (body : List Node) :
    readsOfNodes dot (scopeOver rootOperand line body) = readsOfNodes .root body := by
  rw [scopeOver, readsOfNodes_block, readsOfNodes, List.append_nil]
  cases dot <;> rfl

/-- What is read of nodes is the same without a present value just if there was none, or no chain
on it outside of their own scopes and repetitions. -/
theorem perm_reads_unknown_iff (dot : Dot) (ns : List Node) :
    (readsOfNodes .unknown ns).Perm (readsOfNodes dot ns) ↔
      dot = .unknown ∨ outerChains (operandsOfNodes [] ns) = 0 := by
  by_cases hdot : dot = .unknown
  · subst hdot
    exact iff_of_true (.refl _) (.inl rfl)
  · have hloses : Loses (operandsOfNodes [] ns) _ _ := loses_nodes hdot rfl ns
    rw [hloses.perm_iff]
    exact (or_iff_right hdot).symm

/-- A scope over the present value or over the root brings in what its body does, at every place. A
scope over the root leaves the counts of references as they are where the root is the present value.
A scope over the present value does so just where this is not known, or if its body has no chain on
it outside of its own scopes and repetitions: all such chains are lost. -/
theorem a_scope_over_the_present_value_loses_the_chains_on_it (place : Place) (line : Nat)
    (body : List Node) :
    (∀ operand ∈ [dotOperand, rootOperand],
      includesOfNodes (place.fill (scopeOver operand line body)) =
        includesOfNodes (place.fill body)) ∧
    (place.dotAt .root = .root →
      countPaths (readsOfNodes .root (place.fill (scopeOver rootOperand line body))) =
        countPaths (readsOfNodes .root (place.fill body))) ∧
    (countPaths (readsOfNodes .root (place.fill (scopeOver dotOperand line body))) =
        countPaths (readsOfNodes .root (place.fill body)) ↔
      place.dotAt .root = .unknown ∨ outerChains (operandsOfNodes [] body) = 0) := by
  obtain ⟨before, after, hfill⟩ := place.reads_fill .root
  refine ⟨?_, ?_, ?_⟩
  · intro operand hmem
    apply place.includes_fill
    simp only [List.mem_cons, List.not_mem_nil, or_false] at hmem
    obtain rfl | rfl := hmem
    · exact includes_scopeOver rfl rfl line body
    · exact includes_scopeOver rfl rfl line body
  · intro hroot
    rw [hfill, hfill, reads_scopeOver_root, hroot]
  · rw [hfill, hfill, reads_scopeOver_dot, countPaths_eq_iff, List.perm_append_left_iff,
      List.perm_append_right_iff]
    exact perm_reads_unknown_iff _ _

/-- A body with one chain on the present value, and a scope over a chain. -/
def chainBody : List Node := [.action ⟨[], false, [[.field ["a"]]], 1⟩]

def registryPipeline : Pipeline := ⟨[], false, [[.field ["registry"]]], 1⟩

/-- In the other part of a scope the root is kept as the present value, and the chain with it. In
its body the chain is lost although the path of the present value is known. -/
theorem the_chain_is_kept_over_the_root_alone :
    (Place.inOther .scope registryPipeline [] .here).dotAt .root = .root ∧
      countPaths (readsOfNodes .root ((Place.inOther .scope registryPipeline [] .here).fill
          (scopeOver rootOperand 1 chainBody))) =
        countPaths (readsOfNodes .root
          ((Place.inOther .scope registryPipeline [] .here).fill chainBody)) ∧
      (Place.inBody .scope registryPipeline .here []).dotAt .root = .at "registry" ∧
      countPaths (readsOfNodes .root ((Place.inBody .scope registryPipeline .here []).fill
          (scopeOver dotOperand 1 chainBody))) ≠
        countPaths (readsOfNodes .root
          ((Place.inBody .scope registryPipeline .here []).fill chainBody)) := by
  obtain ⟨_, hkept, _⟩ := a_scope_over_the_present_value_loses_the_chains_on_it
    (.inOther .scope registryPipeline [] .here) 1 chainBody
  obtain ⟨_, _, hlost⟩ := a_scope_over_the_present_value_loses_the_chains_on_it
    (.inBody .scope registryPipeline .here []) 1 chainBody
  refine ⟨rfl, hkept rfl, rfl, ?_⟩
  rw [Ne, hlost]
  decide

/-- Both templates are parsed, and the second is the first in a scope over the present value, which
is the root. The path that the first reads is not read in the second. -/
theorem a_chain_is_hidden_in_a_scope_over_the_present_value :
    ∃ items wrapped, Item.ofText "\x7b\x7b .a \x7d\x7d".toList = .ok items ∧
      parse .empty items = .ok chainBody ∧
      Item.ofText
          "\x7b\x7b with . \x7d\x7d\x7b\x7b .a \x7d\x7d\x7b\x7b end \x7d\x7d".toList =
        .ok wrapped ∧
      parse .empty wrapped = .ok (scopeOver dotOperand 1 chainBody) ∧
      (countPaths (readsOfNodes .root chainBody)).get? "a" = some 1 ∧
      (countPaths (readsOfNodes .root (scopeOver dotOperand 1 chainBody))).get? "a" = none := by
  refine ⟨[.action [⟨.field ["a"], true⟩] 1],
    [.action [⟨.identifier "with", true⟩, ⟨.field [], true⟩] 1, .action [⟨.field ["a"], true⟩] 1,
     .action [⟨.identifier "end", true⟩] 1], ?_, rfl, ?_, rfl, ?_, ?_⟩
  · decide +kernel
  · decide +kernel
  · decide
  · decide

end LayerLint.Template
