-- What is parsed is printed without falling back. The variables that the parser holds to be bound
-- are among those that printing has at the same place, so strict printing stops for nothing but a
-- problem of its own.
import LayerLint.Proofs.Template.Parser
import LayerLint.Proofs.Template.Strict

namespace LayerLint.Template

/-! ## Problems that printing may have -/

/-- A problem of a call that is not that the function is unknown. -/
def CallProblem.OfKnown (problem : CallProblem) : Prop := ∀ name, problem ≠ .undefined name

/-- The problems that the parser does not rule out: a call of a function that is known fails,
arguments are given to what is no function, or the characters of a number are none. -/
inductive RenderProblem.Permitted : RenderProblem → Prop
  | call (name : String) {problem : CallProblem} : problem.OfKnown → Permitted (.call name problem)
  | argumentsToValue : Permitted .argumentsToValue
  | badNumber (spelling : String) : Permitted (.badNumber spelling)

section Calls

variable {name : String} {args : List Datum} {problem : CallProblem}

theorem ofKnown_of_withFirst {f : Datum → List Datum → Except CallProblem Datum}
    (h : Vocabulary.withFirst name args f = .error problem)
    (hf : ∀ first rest, f first rest = .error problem → problem.OfKnown) : problem.OfKnown := by
  cases args with
  | nil =>
    cases h
    exact nofun
  | cons first rest => exact hf first rest h

theorem ofKnown_of_withOne {f : Datum → Except CallProblem Datum}
    (h : Vocabulary.withOne name args f = .error problem)
    (hf : ∀ d, f d = .error problem → problem.OfKnown) : problem.OfKnown := by
  unfold Vocabulary.withOne at h
  split at h
  · exact hf _ h
  · cases h
    exact nofun

theorem ofKnown_of_item {d key : Datum} (h : Vocabulary.item d key = .error problem) :
    problem.OfKnown := by
  unfold Vocabulary.item at h
  split at h
  · split at h
    · cases h
      exact nofun
    · split at h
      · cases h
      · cases h
        exact nofun
  · cases h

theorem ofKnown_of_items {d : Datum} {keys : List Datum}
    (h : keys.foldlM Vocabulary.item d = .error problem) : problem.OfKnown := by
  induction keys generalizing d with
  | nil => cases h
  | cons key keys ih =>
    rw [List.foldlM_cons] at h
    cases hitem : Vocabulary.item d key with
    | error other =>
      rw [hitem] at h
      cases h
      exact ofKnown_of_item hitem
    | ok value =>
      rw [hitem] at h
      exact ih h

/-- A function that is applied is known. -/
theorem ofKnown_of_apply {f : Function} (h : Vocabulary.apply f name args = .error problem) :
    problem.OfKnown := by
  cases f with
  | and => exact ofKnown_of_withFirst h fun _ _ hf => by cases hf
  | or => exact ofKnown_of_withFirst h fun _ _ hf => by cases hf
  | not => exact ofKnown_of_withOne h fun _ hf => by cases hf
  | len =>
    refine ofKnown_of_withOne h fun d hd => ?_
    cases d with
    | nil => cases hd
    | text s => cases hd
    | _ =>
      cases hd
      exact nofun
  | index => exact ofKnown_of_withFirst h fun _ _ => ofKnown_of_items
  | printf => exact ofKnown_of_withFirst h fun _ _ hf => by cases hf
  | _ => cases h

end Calls

/-! ## Safe printing -/

/-- The names of variables, the latest first. -/
def namesOf (bindings : Variables) : List String := bindings.map (·.1)

/-- What comes of safe printing: a value, with names that are as they should be, or a problem that
is permitted. -/
inductive Good {ε α : Type} (permitted : ε → Prop) (names : List String → Prop) :
    Except (Stop ε) (α × Variables) → Prop
  | ok {a : α} {bindings : Variables} : names (namesOf bindings) →
      Good permitted names (.ok (a, bindings))
  | problem {e : ε} : permitted e → Good permitted names (.error (.problem e))

/-- Printing that is safe where variables have certain names. -/
def Safe {ε α : Type} (permitted : ε → Prop) (stack : List String) (act : StrictRender ε α)
    (names : List String → Prop) : Prop :=
  ∀ bindings, namesOf bindings = stack → Good permitted names (act bindings)

namespace Safe

variable {ε α β : Type} {permitted : ε → Prop} {stack : List String}
  {names later : List String → Prop}

theorem pure (a : α) : Safe permitted stack (Pure.pure a : StrictRender ε α) (· = stack) :=
  fun _ h => .ok h

theorem fail {e : ε} (h : permitted e) :
    Safe permitted stack (StrictRender.fail e : StrictRender ε α) names := fun _ _ => .problem h

theorem mono {act : StrictRender ε α} (h : Safe permitted stack act names)
    (hlater : ∀ found, names found → later found) : Safe permitted stack act later := by
  intro bindings hbindings
  have hgood := h bindings hbindings
  generalize act bindings = result at hgood ⊢
  cases hgood with
  | ok hnames => exact .ok (hlater _ hnames)
  | problem hpermitted => exact .problem hpermitted

theorem bind {act : StrictRender ε α} {next : α → StrictRender ε β}
    (h : Safe permitted stack act names)
    (hnext : ∀ a found, names found → Safe permitted found (next a) later) :
    Safe permitted stack (act >>= next) later := by
  intro bindings hbindings
  have hgood := h bindings hbindings
  simp only [Bind.bind, StateT.bind]
  generalize act bindings = result at hgood ⊢
  cases hgood with
  | @ok a after hnames => exact hnext a _ hnames after rfl
  | problem hpermitted => exact .problem hpermitted

/-- Printing that leaves the names as they are keeps what holds of them. -/
theorem keeps {act : StrictRender ε α} (h : Safe permitted stack act (· = stack))
    (hstack : later stack) : Safe permitted stack act later :=
  h.mono fun _ heq => heq ▸ hstack

/-- Printing that leaves the names as they are goes on from them. -/
theorem andThen {act : StrictRender ε α} {next : α → StrictRender ε β}
    (h : Safe permitted stack act (· = stack))
    (hnext : ∀ a, Safe permitted stack (next a) later) :
    Safe permitted stack (act >>= next) later :=
  h.bind fun a _ heq => heq ▸ hnext a

theorem ite {p : Prop} [Decidable p] {act other : StrictRender ε α}
    (h : Safe permitted stack act names) (hother : Safe permitted stack other names) :
    Safe permitted stack (if p then act else other) names := by
  split
  · exact h
  · exact hother

end Safe

/-! ## Names of variables -/

theorem lookup_isSome_iff {bindings : Variables} {name : String} :
    (bindings.lookup name).isSome = true ↔ name ∈ namesOf bindings := by
  simp only [namesOf, List.lookup_isSome_iff, List.mem_map, beq_iff_eq]
  constructor
  · rintro ⟨p, hp, rfl⟩
    exact ⟨p, hp, rfl⟩
  · rintro ⟨p, hp, rfl⟩
    exact ⟨p, hp, rfl⟩

theorem namesOf_assign (name : String) (d : Datum) (bindings : Variables) :
    namesOf (Render.assign name d bindings) = namesOf bindings := by
  induction bindings with
  | nil => rfl
  | cons first rest ih =>
    simp only [namesOf] at ih
    simp only [Render.assign]
    split <;> simp [namesOf, ih]

theorem namesOf_assignAll (names : List String) (d : Datum) (bindings : Variables) :
    namesOf (names.foldl (fun vs name => Render.assign name d vs) bindings) =
      namesOf bindings := by
  induction names generalizing bindings with
  | nil => rfl
  | cons name names ih => rw [List.foldl_cons, ih, namesOf_assign]

theorem namesOf_declareAll (names : List String) (d : Datum) (bindings : Variables) :
    namesOf (names.foldl (fun vs name => (name, d) :: vs) bindings) =
      names.reverse ++ namesOf bindings := by
  induction names generalizing bindings with
  | nil => rfl
  | cons name names ih =>
    rw [List.foldl_cons, ih]
    simp [namesOf]

/-- The names that are put in front of others are gone when the others are kept. -/
theorem namesOf_drop {bindings later : Variables} {more : List String}
    (h : namesOf later = more ++ namesOf bindings) :
    namesOf (later.drop (later.length - bindings.length)) = namesOf bindings := by
  have hdepth : later.length - bindings.length = more.length := by
    have hlength := congrArg List.length h
    simp only [namesOf, List.length_append, List.length_map] at hlength
    omega
  rw [namesOf, List.map_drop, ← namesOf, h, hdepth, List.drop_left]

/-! ## Parts of a pipeline -/

section Parts

variable {names : Names} {stack : List String} {dot : Datum}

theorem safe_lookup {name : String} (h : name ∈ stack) :
    Safe RenderProblem.Permitted stack (StrictRender.lookup name) (· = stack) := by
  rintro bindings rfl
  have hsome := lookup_isSome_iff.2 h
  unfold StrictRender.lookup
  split
  · exact .ok rfl
  · rename_i hnone
    rw [hnone] at hsome
    cases hsome

theorem safe_call {vocabulary : Vocabulary} {name : String}
    (h : vocabulary.contains name = true) (args : List Datum) :
    Safe RenderProblem.Permitted stack (StrictRender.call vocabulary name args) (· = stack) := by
  unfold StrictRender.call
  split
  · rename_i hnone
    have hsome : (vocabulary.get? name).isSome = true := h
    rw [hnone] at hsome
    cases hsome
  · split
    · exact .pure _
    · rename_i problem hproblem
      exact .fail (.call name (ofKnown_of_apply hproblem))

theorem safe_atom {kind : TokenKind} {operand : Operand} (h : Atom names kind operand)
    (hbound : ∀ name ∈ names.bound, name ∈ stack) :
    Safe RenderProblem.Permitted stack (StrictRender.operand names.vocabulary dot operand)
      (· = stack) := by
  cases h with
  | field chain => cases chain <;> exact .pure _
  | boundVariable chain hname =>
    cases chain with
    | nil => exact safe_lookup (hbound _ hname)
    | cons first rest => exact (safe_lookup (hbound _ hname)).andThen fun _ => .pure _
  | knownFunction hknown => exact safe_call hknown []
  | text value => exact .pure _
  | number spelling =>
    simp only [StrictRender.operand]
    split
    · exact .pure _
    · exact .fail (.badNumber spelling)
  | character value => exact .pure _
  | boolean value => exact .pure _
  | nil => exact .pure _

theorem safe_operands_of_forall {vocabulary : Vocabulary} {operands : List Operand}
    (h : ∀ o ∈ operands, Safe RenderProblem.Permitted stack
      (StrictRender.operand vocabulary dot o) (· = stack)) :
    Safe RenderProblem.Permitted stack (StrictRender.operands vocabulary dot operands)
      (· = stack) := by
  induction operands with
  | nil => exact .pure _
  | cons first rest ih =>
    exact (h first List.mem_cons_self).andThen fun _ =>
      (ih fun o ho => h o (List.mem_cons_of_mem _ ho)).andThen fun _ => .pure _

theorem Atom.contains {kind : TokenKind} {name : String}
    (h : Atom names kind (.function name)) : names.vocabulary.contains name = true := by
  cases h with
  | knownFunction hknown => exact hknown

/-- The functions among operands are known. -/
theorem Operands.contains_of_mem {tokens : List Token} {operands : List Operand} :
    Operands names tokens operands → ∀ name, .function name ∈ operands →
      names.vocabulary.contains name = true
  | .none, _, hmem => absurd hmem List.not_mem_nil
  | .atom hatom hrest, name, hmem => by
    rcases List.mem_cons.1 hmem with rfl | hmem
    · exact hatom.contains
    · exact hrest.contains_of_mem name hmem
  | .group _ _ _ _ hrest, name, hmem => by
    rcases List.mem_cons.1 hmem with heq | hmem
    · cases heq
    · exact hrest.contains_of_mem name hmem

/-- A command is safe, if its operands are. -/
theorem safe_command_of_forall {vocabulary : Vocabulary} {command : Command}
    (hne : command ≠ [])
    (hknown : ∀ name, Operand.function name ∈ command → vocabulary.contains name = true)
    (h : ∀ o ∈ command, Safe RenderProblem.Permitted stack
      (StrictRender.operand vocabulary dot o) (· = stack)) (piped : Option Datum) :
    Safe RenderProblem.Permitted stack (StrictRender.command vocabulary dot piped command)
      (· = stack) := by
  cases command with
  | nil => exact absurd rfl hne
  | cons first rest =>
    have hfirst := h first List.mem_cons_self
    have hrest := safe_operands_of_forall fun o ho => h o (List.mem_cons_of_mem _ ho)
    cases first with
    | function name =>
      exact hrest.andThen fun args => safe_call (hknown name List.mem_cons_self) _
    | _ => exact .ite (.fail .argumentsToValue) hfirst

mutual

theorem safe_of_operands {tokens : List Token} {operands : List Operand} :
    Operands names tokens operands → (∀ name ∈ names.bound, name ∈ stack) → ∀ o ∈ operands,
      Safe RenderProblem.Permitted stack (StrictRender.operand names.vocabulary dot o) (· = stack)
  | .none, _, o, ho => absurd ho List.not_mem_nil
  | .atom hatom hrest, hbound, o, ho => by
    rcases List.mem_cons.1 ho with rfl | ho
    · exact safe_atom hatom hbound
    · exact safe_of_operands hrest hbound o ho
  | .group _ hinside _ _ hrest, hbound, o, ho => by
    rcases List.mem_cons.1 ho with rfl | ho
    · exact (safe_of_stages hinside hbound none).andThen fun _ => .pure _
    · exact safe_of_operands hrest hbound o ho

theorem safe_of_stages {later : Bool} {tokens : List Token} {commands : List Command} :
    Stages names later tokens commands → (∀ name ∈ names.bound, name ∈ stack) →
    ∀ piped : Option Datum, Safe RenderProblem.Permitted stack
      (StrictRender.stages names.vocabulary dot piped commands) (· = stack)
  | .last hoperands hcommand, hbound, piped =>
    (safe_command_of_forall hcommand.notEmpty hoperands.contains_of_mem
      (safe_of_operands hoperands hbound) piped).andThen fun _ => .pure _
  | .piped hoperands hcommand _ hrest, hbound, piped =>
    (safe_command_of_forall hcommand.notEmpty hoperands.contains_of_mem
      (safe_of_operands hoperands hbound) piped).andThen fun d =>
        safe_of_stages hrest hbound (some d)

end

/-- Names that some are put in front of, and that hold those that are bound. -/
def Extends (stack bound found : List String) : Prop :=
  (∃ more, found = more ++ stack) ∧ ∀ name ∈ bound, name ∈ found

theorem Extends.refl {bound : List String} (hbound : ∀ name ∈ bound, name ∈ stack) :
    Extends stack bound stack := ⟨⟨[], rfl⟩, hbound⟩

/-- The names of a pipeline are bound after it. -/
theorem safe_of_isPipeline {most line : Nat} {tokens : List Token} {p : Pipeline}
    (h : IsPipeline names most line tokens p) (hbound : ∀ name ∈ names.bound, name ∈ stack) :
    Safe RenderProblem.Permitted stack (StrictRender.pipeline names.vocabulary dot p)
      (Extends stack (p.boundAfter names.bound)) := by
  have hstages : Safe RenderProblem.Permitted stack
      (StrictRender.stages names.vocabulary dot none p.stages) (· = stack) := by
    cases h with
    | plain hstages => exact safe_of_stages hstages hbound none
    | given _ _ _ hstages => exact safe_of_stages hstages hbound none
  have hassigned : p.assigns = true → ∀ name ∈ p.names, name ∈ names.bound := by
    cases h with
    | plain _ => exact nofun
    | given _ _ hgiven _ => exact hgiven
  unfold StrictRender.pipeline
  refine hstages.andThen fun value => ?_
  cases hassigns : p.assigns with
  | true =>
    have hafter : p.boundAfter names.bound = names.bound := by simp [Pipeline.boundAfter, hassigns]
    have hall : Safe RenderProblem.Permitted stack
        (StrictRender.assignAll p.names (value.getD .nil)) (· = stack) := by
      rintro bindings rfl
      unfold StrictRender.assignAll
      split
      · rename_i name hname
        have hmem := hbound _ (hassigned hassigns name (List.mem_of_find?_eq_some hname))
        have hnone := List.find?_some hname
        rw [← lookup_isSome_iff] at hmem
        rw [Option.isNone_iff_eq_none] at hnone
        rw [hnone] at hmem
        cases hmem
      · exact .ok (namesOf_assignAll _ _ _)
    rw [hafter]
    exact hall.andThen fun _ => (Safe.pure _).keeps (.refl hbound)
  | false =>
    have hafter : p.boundAfter names.bound = names.bound ++ p.names := by
      simp [Pipeline.boundAfter, hassigns]
    have hextends : Extends stack (names.bound ++ p.names) (p.names.reverse ++ stack) := by
      refine ⟨⟨p.names.reverse, rfl⟩, fun name hname => ?_⟩
      rcases List.mem_append.1 hname with hname | hname
      · exact List.mem_append_right _ (hbound name hname)
      · exact List.mem_append_left _ (List.mem_reverse.2 hname)
    rw [hafter]
    rintro bindings rfl
    refine .ok ?_
    rwa [← namesOf_declareAll p.names (value.getD .nil)] at hextends

end Parts

/-! ## Nodes -/

/-- A problem in printing that the parser does not rule out. -/
def RenderError.Permitted (e : RenderError) : Prop := e.problem.Permitted

section Nodes

variable {vocabulary : Vocabulary} {stack : List String}

theorem safe_atLine {α : Type} (line : Nat) {act : StrictRender RenderProblem α}
    {names : List String → Prop} (h : Safe RenderProblem.Permitted stack act names) :
    Safe RenderError.Permitted stack (StrictRender.atLine line act) names := by
  intro bindings hbindings
  have hgood := h bindings hbindings
  unfold StrictRender.atLine
  generalize act bindings = result at hgood ⊢
  cases hgood with
  | ok hnames => exact .ok hnames
  | problem hpermitted => exact .problem hpermitted

theorem withinScope_apply {α : Type} (act : StrictRender RenderError α) (bindings : Variables) :
    StrictRender.withinScope act bindings =
      (act bindings).bind fun (a, later) =>
        .ok (a, later.drop (later.length - bindings.length)) := rfl

/-- A scope leaves the names as they were, if its act only puts some in front. -/
theorem safe_withinScope {α : Type} {act : StrictRender RenderError α}
    (h : Safe RenderError.Permitted stack act fun found => ∃ more, found = more ++ stack) :
    Safe RenderError.Permitted stack (StrictRender.withinScope act) (· = stack) := by
  intro bindings hbindings
  have hgood := h bindings hbindings
  rw [withinScope_apply]
  generalize act bindings = result at hgood ⊢
  cases hgood with
  | ok hmore =>
    obtain ⟨more, hmore⟩ := hmore
    rw [← hbindings] at hmore ⊢
    exact .ok (namesOf_drop hmore)
  | problem hpermitted => exact .problem hpermitted

/-- What comes after the header of a block goes on from the names that the header binds. -/
theorem safe_block {bound : List String} {control : Control} {line : Nat} {header : List Token}
    {p : Pipeline} {dot : Datum} {next : Datum → StrictRender RenderError String}
    (hpipeline : IsPipeline ⟨vocabulary, bound⟩ control.mostNames line header p)
    (hbound : ∀ name ∈ bound, name ∈ stack)
    (hnext : ∀ d found, Extends stack (p.boundAfter bound) found →
      Safe RenderError.Permitted found (next d) fun last => ∃ more, last = more ++ found) :
    Safe RenderError.Permitted stack
      (StrictRender.withinScope do
        let d ← StrictRender.atLine p.line (StrictRender.pipeline vocabulary dot p)
        next d)
      (· = stack) := by
  refine safe_withinScope ((safe_atLine p.line (safe_of_isPipeline hpipeline hbound)).bind ?_)
  intro d found hfound
  refine (hnext d found hfound).mono ?_
  rintro last ⟨more, rfl⟩
  obtain ⟨⟨first, rfl⟩, -⟩ := hfound
  exact ⟨more ++ first, by rw [List.append_assoc]⟩

theorem Extends.trans {bound after found last : List String} (h : Extends stack bound found)
    (hlast : Extends found after last) : Extends stack after last := by
  obtain ⟨⟨first, rfl⟩, -⟩ := h
  obtain ⟨⟨more, rfl⟩, hafter⟩ := hlast
  exact ⟨⟨more ++ first, by rw [List.append_assoc]⟩, hafter⟩

/-- A node is printed, and then the nodes after it. -/
theorem safe_nodes_cons {dot : Datum} {node : Node} {nodes : List Node}
    {between after : List String}
    (h : Safe RenderError.Permitted stack (StrictRender.node vocabulary dot node)
      (Extends stack between))
    (hrest : ∀ found : List String, (∀ name ∈ between, name ∈ found) →
      Safe RenderError.Permitted found (StrictRender.nodes vocabulary dot nodes)
        (Extends found after)) :
    Safe RenderError.Permitted stack (StrictRender.nodes vocabulary dot (node :: nodes))
      (Extends stack after) :=
  h.bind fun _ found hfound =>
    ((hrest found hfound.2).mono fun _ hlast => hfound.trans hlast).bind fun _ _ hlast =>
      (Safe.pure _).keeps hlast

mutual

/-- Nodes outside of every repetition are safe: the variables that are bound for the parser are
among those of printing, and stay so. -/
theorem safe_of_isNodes {repeats : Bool} {bound after : List String} {items : List Item}
    {nodes : List Node} :
    IsNodes vocabulary repeats bound items nodes after → repeats = false →
    ∀ (stack : List String), (∀ name ∈ bound, name ∈ stack) → ∀ dot,
    Safe RenderError.Permitted stack (StrictRender.nodes vocabulary dot nodes)
      (Extends stack after)
  | .none, _, stack, hbound, dot =>
    (Safe.pure "").keeps (.refl hbound)
  | .text hrest, hrepeats, stack, hbound, dot =>
    safe_nodes_cons ((Safe.pure _).keeps (.refl hbound)) fun found hfound =>
      safe_of_isNodes hrest hrepeats found hfound dot
  | .action _ hpipeline hrest, hrepeats, stack, hbound, dot => by
    refine safe_nodes_cons ?_ fun found hfound => safe_of_isNodes hrest hrepeats found hfound dot
    exact (safe_atLine _ (safe_of_isPipeline hpipeline hbound)).bind fun _ _ hfound =>
      (Safe.pure _).keeps hfound
  | .block _ hblock hrest, hrepeats, stack, hbound, dot =>
    safe_nodes_cons ((safe_of_isBlock hblock hrepeats stack hbound dot).keeps (.refl hbound))
      fun found hfound => safe_of_isNodes hrest hrepeats found hfound dot

/-- A block is safe, and leaves the names as they were. Nothing prints the body of a repetition. -/
theorem safe_of_isBlock {repeats : Bool} {bound : List String} {control : Control}
    {header : List Token} {line : Nat} {items : List Item} {node : Node} :
    IsBlock vocabulary repeats bound control header line items node → repeats = false →
    ∀ (stack : List String), (∀ name ∈ bound, name ∈ stack) → ∀ dot,
    Safe RenderError.Permitted stack (StrictRender.node vocabulary dot node) (· = stack)
  | @IsBlock.mk _ _ _ after _ _ _ p _ _ body otherwise hpipeline hbody hending, hrepeats, stack,
      hbound, dot => by
    have hotherwise := fun found (hfound : Extends stack (p.boundAfter bound) found) =>
      safe_of_isEnding hending hrepeats found hfound.2 dot
    cases hcontrol : control with
    | repetition =>
      exact safe_block hpipeline hbound fun _ => hotherwise
    | branch =>
      have hinside : (repeats || decide (control = .repetition)) = false := by
        rw [hrepeats, hcontrol]
        rfl
      exact safe_block hpipeline hbound fun d found hfound =>
        .ite ((safe_of_isNodes hbody hinside found hfound.2 dot).mono fun _ hlast => hlast.1)
          (hotherwise found hfound)
    | scope =>
      have hinside : (repeats || decide (control = .repetition)) = false := by
        rw [hrepeats, hcontrol]
        rfl
      exact safe_block hpipeline hbound fun d found hfound =>
        .ite ((safe_of_isNodes hbody hinside found hfound.2 d).mono fun _ hlast => hlast.1)
          (hotherwise found hfound)

/-- The other part of a block is safe. -/
theorem safe_of_isEnding {repeats : Bool} {inside : List String} {control : Control}
    {items : List Item} {otherwise : List Node} :
    IsEnding vocabulary repeats inside control items otherwise → repeats = false →
    ∀ (stack : List String), (∀ name ∈ inside, name ∈ stack) → ∀ dot,
    Safe RenderError.Permitted stack (StrictRender.nodes vocabulary dot otherwise)
      fun last => ∃ more, last = more ++ stack
  | .closed _, _, _, _, _ => (Safe.pure "").keeps ⟨[], rfl⟩
  | .otherwise _ hnodes _, hrepeats, _, hbound, dot =>
    (safe_of_isNodes hnodes hrepeats _ hbound dot).mono fun _ hlast => hlast.1
  | .again _ _ _ hblock, hrepeats, stack, hbound, dot =>
    (safe_nodes_cons ((safe_of_isBlock hblock hrepeats stack hbound dot).keeps (.refl hbound))
      fun _ hfound => (Safe.pure "").keeps (.refl hfound)).mono fun _ hlast => hlast.1

end

/-- A template that is parsed is safe with the variable that every template has. -/
theorem safe_of_parse {items : List Item} {tree : List Node}
    (h : parse vocabulary items = .ok tree) (dot : Datum) :
    ∃ after, Safe RenderError.Permitted [rootName] (StrictRender.nodes vocabulary dot tree)
      (Extends [rootName] after) := by
  obtain ⟨after, hnodes⟩ := parse_eq_ok_iff.1 h
  exact ⟨after, safe_of_isNodes hnodes rfl [rootName] (fun _ hname => hname) dot⟩

end Nodes

/-! ## What is parsed is printed -/

/-- What is parsed is printed without falling back: each variable that is read or assigned is
bound, each function that is called is known, nothing is empty and no jump is printed. Printing
succeeds, or fails for a reason that the parser cannot rule out. -/
theorem what_is_parsed_is_printed_without_falling_back {vocabulary : Vocabulary}
    {items : List Item} {tree : List Node} (h : parse vocabulary items = .ok tree) :
    (∀ f, renderStrictly vocabulary tree ≠ .error (.fallback f)) ∧
      renderStrictly vocabulary tree = (render vocabulary tree).mapError .problem ∧
      ∀ e, render vocabulary tree = .error e → e.problem.Permitted := by
  obtain ⟨after, hsafe⟩ := safe_of_parse h .nil
  have hgood := hsafe [(rootName, .nil)] rfl
  have hnever : ∀ f, renderStrictly vocabulary tree ≠ .error (.fallback f) := by
    intro f hfall
    unfold renderStrictly StateT.run at hfall
    generalize StrictRender.nodes vocabulary .nil tree [(rootName, .nil)] = result at hgood hfall
    cases hgood <;> cases hfall
  have hsame : renderStrictly vocabulary tree = (render vocabulary tree).mapError .problem :=
    (renderStrictly_eq vocabulary tree).resolve_left fun ⟨f, hfall⟩ => hnever f hfall
  refine ⟨hnever, hsame, fun e he => ?_⟩
  rw [he] at hsame
  unfold renderStrictly StateT.run at hsame
  generalize StrictRender.nodes vocabulary .nil tree [(rootName, .nil)] = result at hgood hsame
  cases hgood with
  | ok hnames => cases hsame
  | problem hpermitted =>
    cases hsame
    exact hpermitted

/-- A variable that a block gives another value, and that has no length after it. -/
def countedItems : List Item :=
  [.action [⟨.variable "$x" [], true⟩, ⟨.declare, true⟩, ⟨.text "ab", true⟩] 1,
   .action [⟨.identifier "with", true⟩, ⟨.variable "$y" [], true⟩, ⟨.declare, true⟩,
      ⟨.variable "$x" [], true⟩] 2,
   .action [⟨.variable "$x" [], true⟩, ⟨.assign, true⟩, ⟨.field [], true⟩, ⟨.pipe, true⟩,
      ⟨.identifier "len", true⟩] 3,
   .action [⟨.identifier "end", true⟩] 3,
   .action [⟨.identifier "len", true⟩, ⟨.variable "$x" [], true⟩] 4]

/-- The items are parsed, and printing them fails where they are at fault. -/
theorem the_length_of_a_number_is_the_only_problem :
    ∃ tree, parse (Vocabulary.empty.define "len" .len) countedItems = .ok tree ∧
      render (Vocabulary.empty.define "len" .len) tree =
        .error ⟨.call "len" (.noLength "int"), 4⟩ ∧
      renderStrictly (Vocabulary.empty.define "len" .len) tree =
        .error (.problem ⟨.call "len" (.noLength "int"), 4⟩) := by
  have hparse : ∃ tree, parse (Vocabulary.empty.define "len" .len) countedItems = .ok tree ∧
      render (Vocabulary.empty.define "len" .len) tree =
        .error ⟨.call "len" (.noLength "int"), 4⟩ := ⟨_, rfl, rfl⟩
  obtain ⟨tree, htree, hrender⟩ := hparse
  obtain ⟨-, hsame, -⟩ := what_is_parsed_is_printed_without_falling_back htree
  rw [hrender] at hsame
  exact ⟨tree, htree, hrender, hsame⟩

end LayerLint.Template
