-- Printing that stops where the printing of a skeleton would go on with less than what was written:
-- at a variable that is not bound, a function that is not known, a command or a pipeline without
-- anything in it, and at a jump. But for these stops both print the same.
import LayerLint.Template.Render

namespace LayerLint.Template

/-- A place at which printing goes on although something is missing. -/
inductive Fallback where
  | unbound (name : String)
  | undefined (name : String)
  | emptyCommand
  | emptyPipeline
  | jump (line : Nat)
  deriving DecidableEq, Repr

/-- Why strict printing stops: printing fails here, or it would fall back. -/
inductive Stop (ε : Type) where
  | problem (e : ε)
  | fallback (f : Fallback)
  deriving DecidableEq, Repr

/-- Printing that stops where it would fall back. -/
abbrev StrictRender (ε : Type) := StateT Variables (Except (Stop ε))

namespace StrictRender

/-! ## The strict renderer -/

def fallBack {ε α : Type} (f : Fallback) : StrictRender ε α := fun _ => .error (.fallback f)

def fail {ε α : Type} (e : ε) : StrictRender ε α := fun _ => .error (.problem e)

/-- The value of the latest variable of a name, which must be bound. -/
def lookup (name : String) : StrictRender RenderProblem Datum := fun bindings =>
  match bindings.lookup name with
  | some d => .ok (d, bindings)
  | none => .error (.fallback (.unbound name))

/-- Gives variables another value; all of them must be bound. -/
def assignAll (names : List String) (d : Datum) : StrictRender RenderProblem Unit := fun bindings =>
  match names.find? fun name => (bindings.lookup name).isNone with
  | some name => .error (.fallback (.unbound name))
  | none => .ok ((), names.foldl (fun vs name => Render.assign name d vs) bindings)

/-- Calls a function, which must be known. -/
def call (vocabulary : Vocabulary) (name : String) (args : List Datum) :
    StrictRender RenderProblem Datum :=
  match vocabulary.get? name with
  | none => fallBack (.undefined name)
  | some f =>
    match Vocabulary.apply f name args with
    | .ok d => pure d
    | .error problem => fail (.call name problem)

mutual

/-- The value of an operand, where `dot` is the present value. -/
def operand (vocabulary : Vocabulary) (dot : Datum) : Operand → StrictRender RenderProblem Datum
  | .field [] => pure dot
  | .field (_ :: _) => pure .nil
  | .variable name [] => lookup name
  | .variable name (_ :: _) => do
    let _ ← lookup name
    pure .nil
  | .function name => call vocabulary name []
  | .group commands chain => do
    let value ← stages vocabulary dot none commands
    pure (if chain.isEmpty then value.getD .nil else .nil)
  | .text value => pure (.text value)
  | .number spelling =>
    match Datum.ofNumeral? spelling.toList with
    | some d => pure d
    | none => fail (.badNumber spelling)
  | .character value => pure (.integer value.toNat)
  | .boolean value => pure (.boolean value)
  | .nil => pure .nil

/-- The values of operands. -/
def operands (vocabulary : Vocabulary) (dot : Datum) :
    List Operand → StrictRender RenderProblem (List Datum)
  | [] => pure []
  | first :: rest => do
    let d ← operand vocabulary dot first
    let ds ← operands vocabulary dot rest
    pure (d :: ds)

/-- The value of a command, in which something must be. -/
def command (vocabulary : Vocabulary) (dot : Datum) (piped : Option Datum) :
    List Operand → StrictRender RenderProblem Datum
  | [] => fallBack .emptyCommand
  | .function name :: rest => do
    let args ← operands vocabulary dot rest
    call vocabulary name (args ++ piped.toList)
  | first :: rest =>
    if !rest.isEmpty || piped.isSome then fail .argumentsToValue
    else operand vocabulary dot first

/-- The value of stages, of which there must be one. -/
def stages (vocabulary : Vocabulary) (dot : Datum) (piped : Option Datum) :
    List (List Operand) → StrictRender RenderProblem (Option Datum)
  | [] => if piped.isNone then fallBack .emptyPipeline else pure piped
  | first :: rest => do
    let d ← command vocabulary dot piped first
    stages vocabulary dot (some d) rest

end

/-- The value of a pipeline, which its names take on. -/
def pipeline (vocabulary : Vocabulary) (dot : Datum) (p : Pipeline) :
    StrictRender RenderProblem Datum := do
  let d := (← stages vocabulary dot none p.stages).getD .nil
  if p.assigns then
    assignAll p.names d
  else
    modify fun bindings => p.names.foldl (fun vs name => (name, d) :: vs) bindings
  pure d

/-- Gives a problem its line. -/
def atLine {α : Type} (line : Nat) (act : StrictRender RenderProblem α) :
    StrictRender RenderError α := fun bindings =>
  match act bindings with
  | .ok result => .ok result
  | .error (.problem problem) => .error (.problem ⟨problem, line⟩)
  | .error (.fallback f) => .error (.fallback f)

/-- The variables that an act declares are gone after it. -/
def withinScope {α : Type} (act : StrictRender RenderError α) : StrictRender RenderError α := do
  let depth := (← get).length
  let result ← act
  modify fun bindings => bindings.drop (bindings.length - depth)
  pure result

mutual

/-- What a node prints. No jump is printed. -/
def node (vocabulary : Vocabulary) (dot : Datum) : Node → StrictRender RenderError String
  | .text value => pure value
  | .action p => do
    let d ← atLine p.line (pipeline vocabulary dot p)
    pure (if p.names.isEmpty then d.write else "")
  | .block .branch p body otherwise => withinScope do
    let d ← atLine p.line (pipeline vocabulary dot p)
    if d.isTrue then nodes vocabulary dot body else nodes vocabulary dot otherwise
  | .block .scope p body otherwise => withinScope do
    let d ← atLine p.line (pipeline vocabulary dot p)
    if d.isTrue then nodes vocabulary d body else nodes vocabulary dot otherwise
  | .block .repetition p _ otherwise => withinScope do
    let _ ← atLine p.line (pipeline vocabulary dot p)
    nodes vocabulary dot otherwise
  | .leave line => fallBack (.jump line)
  | .next line => fallBack (.jump line)

/-- What nodes print, one after the other. -/
def nodes (vocabulary : Vocabulary) (dot : Datum) : List Node → StrictRender RenderError String
  | [] => pure ""
  | first :: rest => do
    let text ← node vocabulary dot first
    let more ← nodes vocabulary dot rest
    pure (text ++ more)

end

end StrictRender

/-- What a template prints when nothing has a value, if nothing has to be fallen back on. -/
def renderStrictly (vocabulary : Vocabulary) (tree : List Node) :
    Except (Stop RenderError) String :=
  match (StrictRender.nodes vocabulary .nil tree).run [(rootName, .nil)] with
  | .ok (text, _) => .ok text
  | .error stop => .error stop

/-! ## Both print the same -/

/-- Strict printing falls back, or does what printing does. -/
def Refines {ε α : Type} (strict : StrictRender ε α) (plain : StateT Variables (Except ε) α) :
    Prop :=
  ∀ bindings, (∃ f, strict bindings = .error (.fallback f)) ∨
    strict bindings = (plain bindings).mapError .problem

namespace Refines

variable {ε α β : Type}

theorem pure (a : α) : Refines (Pure.pure a : StrictRender ε α) (Pure.pure a) := fun _ => .inr rfl

theorem fallBack {f : Fallback} {plain : StateT Variables (Except ε) α} :
    Refines (StrictRender.fallBack f) plain := fun _ => .inl ⟨f, rfl⟩

theorem fail (e : ε) : Refines (StrictRender.fail e : StrictRender ε α) (throw e) :=
  fun _ => .inr rfl

theorem change (f : Variables → Variables) :
    Refines (modify f : StrictRender ε PUnit) (modify f) := fun _ => .inr rfl

theorem ite {p : Prop} [Decidable p] {strict other : StrictRender ε α}
    {plain same : StateT Variables (Except ε) α} (h : Refines strict plain)
    (hother : Refines other same) :
    Refines (if p then strict else other) (if p then plain else same) := by
  split
  · exact h
  · exact hother

theorem bind {strict : StrictRender ε α} {plain : StateT Variables (Except ε) α}
    {next : α → StrictRender ε β} {after : α → StateT Variables (Except ε) β}
    (h : Refines strict plain) (hnext : ∀ a, Refines (next a) (after a)) :
    Refines (strict >>= next) (plain >>= after) := by
  intro bindings
  simp only [Bind.bind, StateT.bind]
  rcases h bindings with ⟨f, hfall⟩ | hsame
  · exact .inl ⟨f, by rw [hfall]; rfl⟩
  · rw [hsame]
    rcases plain bindings with e | ⟨a, later⟩
    · exact .inr rfl
    · exact hnext a later

end Refines

section Refinement

variable {vocabulary : Vocabulary} {dot : Datum}

theorem refines_lookup (name : String) :
    Refines (StrictRender.lookup name) (Render.lookup name) := by
  intro bindings
  have hplain : Render.lookup name bindings =
      .ok ((bindings.lookup name).getD .nil, bindings) := rfl
  unfold StrictRender.lookup
  rw [hplain]
  cases bindings.lookup name with
  | none => exact .inl ⟨.unbound name, rfl⟩
  | some d => exact .inr rfl

theorem refines_call (name : String) (args : List Datum) :
    Refines (StrictRender.call vocabulary name args) (Render.call vocabulary name args) := by
  unfold StrictRender.call Render.call Vocabulary.call
  cases vocabulary.get? name with
  | none => exact .fallBack
  | some f =>
    simp only
    cases Vocabulary.apply f name args with
    | ok d => exact .pure d
    | error problem => exact .fail _

mutual

theorem refines_operand : ∀ o : Operand,
    Refines (StrictRender.operand vocabulary dot o) (Render.operand vocabulary dot o)
  | .field [] => .pure _
  | .field (_ :: _) => .pure _
  | .variable name [] => refines_lookup name
  | .variable name (_ :: _) => by
    have hplain : (Render.lookup name >>= fun _ => pure .nil) = (pure .nil : Render Datum) := rfl
    simp only [StrictRender.operand, Render.operand]
    rw [← hplain]
    exact (refines_lookup name).bind fun _ => .pure _
  | .function name => refines_call name []
  | .group commands chain => (refines_stages none commands).bind fun _ => .pure _
  | .text _ => .pure _
  | .number spelling => by
    simp only [StrictRender.operand, Render.operand]
    cases Datum.ofNumeral? spelling.toList with
    | none => exact .fail _
    | some d => exact .pure d
  | .character _ => .pure _
  | .boolean _ => .pure _
  | .nil => .pure _

theorem refines_operands : ∀ os : List Operand,
    Refines (StrictRender.operands vocabulary dot os) (Render.operands vocabulary dot os)
  | [] => .pure _
  | first :: rest =>
    (refines_operand first).bind fun _ => (refines_operands rest).bind fun _ => .pure _

theorem refines_command (piped : Option Datum) : ∀ c : List Operand,
    Refines (StrictRender.command vocabulary dot piped c) (Render.command vocabulary dot piped c)
  | [] => .fallBack
  | .function name :: rest =>
    (refines_operands rest).bind fun args => refines_call name (args ++ piped.toList)
  | .field chain :: _ => .ite (.fail _) (refines_operand (.field chain))
  | .variable name chain :: _ => .ite (.fail _) (refines_operand (.variable name chain))
  | .group commands chain :: _ => .ite (.fail _) (refines_operand (.group commands chain))
  | .text value :: _ => .ite (.fail _) (refines_operand (.text value))
  | .number spelling :: _ => .ite (.fail _) (refines_operand (.number spelling))
  | .character value :: _ => .ite (.fail _) (refines_operand (.character value))
  | .boolean value :: _ => .ite (.fail _) (refines_operand (.boolean value))
  | .nil :: _ => .ite (.fail _) (refines_operand .nil)

theorem refines_stages (piped : Option Datum) : ∀ cs : List (List Operand),
    Refines (StrictRender.stages vocabulary dot piped cs) (Render.stages vocabulary dot piped cs)
  | [] => by
    cases piped with
    | none => exact .fallBack
    | some d => exact .pure _
  | first :: rest => (refines_command piped first).bind fun d => refines_stages (some d) rest

end

theorem refines_assignAll (names : List String) (d : Datum) :
    Refines (StrictRender.assignAll names d)
      (modify fun bindings => names.foldl (fun vs name => Render.assign name d vs) bindings) := by
  intro bindings
  unfold StrictRender.assignAll
  cases names.find? fun name => (bindings.lookup name).isNone with
  | some name => exact .inl ⟨.unbound name, rfl⟩
  | none => exact .inr rfl

theorem refines_pipeline (p : Pipeline) :
    Refines (StrictRender.pipeline vocabulary dot p) (Render.pipeline vocabulary dot p) := by
  unfold StrictRender.pipeline Render.pipeline
  refine (refines_stages none p.stages).bind fun value => ?_
  cases p.assigns with
  | true => exact (refines_assignAll p.names _).bind fun _ => .pure _
  | false => exact (Refines.change _).bind fun _ => .pure _

theorem refines_atLine {α : Type} (line : Nat) {strict : StrictRender RenderProblem α}
    {plain : Render α} (h : Refines strict plain) :
    Refines (StrictRender.atLine line strict) (Render.atLine line plain) := by
  intro bindings
  unfold StrictRender.atLine Render.atLine
  rcases h bindings with ⟨f, hfall⟩ | hsame
  · exact .inl ⟨f, by rw [hfall]⟩
  · rw [hsame]
    cases plain bindings with
    | error problem => exact .inr rfl
    | ok result => exact .inr rfl

theorem refines_withinScope {α : Type} {strict : StrictRender RenderError α}
    {plain : StateT Variables (Except RenderError) α} (h : Refines strict plain) :
    Refines (StrictRender.withinScope strict) (Render.withinScope plain) := by
  intro bindings
  exact (h.bind fun result => (Refines.change _).bind fun _ => .pure result) bindings

mutual

theorem refines_node (dot : Datum) : ∀ n : Node,
    Refines (StrictRender.node vocabulary dot n) (Render.node vocabulary dot n)
  | .text value => .pure value
  | .action p => (refines_atLine p.line (refines_pipeline p)).bind fun _ => .pure _
  | .block .branch p body otherwise =>
    refines_withinScope ((refines_atLine p.line (refines_pipeline p)).bind fun _ =>
      .ite (refines_nodes dot body) (refines_nodes dot otherwise))
  | .block .scope p body otherwise =>
    refines_withinScope ((refines_atLine p.line (refines_pipeline p)).bind fun d =>
      .ite (refines_nodes d body) (refines_nodes dot otherwise))
  | .block .repetition p _ otherwise =>
    refines_withinScope ((refines_atLine p.line (refines_pipeline p)).bind fun _ =>
      refines_nodes dot otherwise)
  | .leave _ => .fallBack
  | .next _ => .fallBack

theorem refines_nodes (dot : Datum) : ∀ ns : List Node,
    Refines (StrictRender.nodes vocabulary dot ns) (Render.nodes vocabulary dot ns)
  | [] => .pure ""
  | first :: rest =>
    (refines_node dot first).bind fun _ => (refines_nodes dot rest).bind fun _ => .pure _

end

end Refinement

/-- Strict printing falls back, or prints what printing prints. -/
theorem renderStrictly_eq (vocabulary : Vocabulary) (tree : List Node) :
    (∃ f, renderStrictly vocabulary tree = .error (.fallback f)) ∨
      renderStrictly vocabulary tree = (render vocabulary tree).mapError .problem := by
  unfold renderStrictly render StateT.run
  rcases refines_nodes .nil tree [(rootName, .nil)] with ⟨f, hfall⟩ | hsame
  · exact .inl ⟨f, by rw [hfall]⟩
  · rw [hsame]
    rcases Render.nodes vocabulary .nil tree [(rootName, .nil)] with e | ⟨text, later⟩
    · exact .inr rfl
    · exact .inr rfl

end LayerLint.Template
