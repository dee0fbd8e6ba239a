-- Which values a template names makes no difference to what it prints when nothing has a value.
-- Two trees that differ in the names of their chains alone compute the same, operand by operand and
-- node by node: the same text, or the same problem on the same line.
import LayerLint.Template.Parser
import LayerLint.Template.Render

namespace LayerLint.Template

/-! ## Trees that differ in names -/

mutual

/-- Operands that differ in the names of chains alone. A chain without names keeps none, and one
with names keeps some. -/
inductive Operand.Alike : Operand → Operand → Prop
  | field {chain other : List String} : (chain = [] ↔ other = []) →
      Operand.Alike (.field chain) (.field other)
  | variable (name : String) {chain other : List String} : (chain = [] ↔ other = []) →
      Operand.Alike (.variable name chain) (.variable name other)
  | group {stages others : List Command} {chain other : List String} :
      StagesAlike stages others → (chain = [] ↔ other = []) →
      Operand.Alike (.group stages chain) (.group others other)
  | function (name : String) : Operand.Alike (.function name) (.function name)
  | text (value : String) : Operand.Alike (.text value) (.text value)
  | number (spelling : String) : Operand.Alike (.number spelling) (.number spelling)
  | character (value : Char) : Operand.Alike (.character value) (.character value)
  | boolean (value : Bool) : Operand.Alike (.boolean value) (.boolean value)
  | nil : Operand.Alike .nil .nil

inductive OperandsAlike : List Operand → List Operand → Prop
  | none : OperandsAlike [] []
  | some {first other : Operand} {rest others : List Operand} : first.Alike other →
      OperandsAlike rest others → OperandsAlike (first :: rest) (other :: others)

inductive StagesAlike : List (List Operand) → List (List Operand) → Prop
  | none : StagesAlike [] []
  | some {first other : List Operand} {rest others : List (List Operand)} :
      OperandsAlike first other → StagesAlike rest others →
      StagesAlike (first :: rest) (other :: others)

end

/-- Pipelines that differ in the names of chains alone. -/
structure Pipeline.Alike (p q : Pipeline) : Prop where
  names : p.names = q.names
  assigns : p.assigns = q.assigns
  stages : StagesAlike p.stages q.stages
  line : p.line = q.line

mutual

/-- Nodes that differ in the names of chains alone. -/
inductive Node.Alike : Node → Node → Prop
  | text (value : String) : Node.Alike (.text value) (.text value)
  | action {p q : Pipeline} : p.Alike q → Node.Alike (.action p) (.action q)
  | block (control : Control) {p q : Pipeline} {body other otherwise another : List Node} :
      p.Alike q → NodesAlike body other → NodesAlike otherwise another →
      Node.Alike (.block control p body otherwise) (.block control q other another)
  | leave (line : Nat) : Node.Alike (.leave line) (.leave line)
  | next (line : Nat) : Node.Alike (.next line) (.next line)

inductive NodesAlike : List Node → List Node → Prop
  | none : NodesAlike [] []
  | some {first other : Node} {rest others : List Node} : first.Alike other →
      NodesAlike rest others → NodesAlike (first :: rest) (other :: others)

end

namespace Render

variable {vocabulary : Vocabulary} {dot : Datum}

/-! ## Operands and stages -/

/-- What is the same for all chains with names is the same for chains that differ in names. -/
theorem eq_of_alike {α : Type} {f : List String → α} {chain other : List String}
    (hf : ∀ a as b bs, f (a :: as) = f (b :: bs)) (h : chain = [] ↔ other = []) :
    f chain = f other := by
  cases chain with
  | nil => rw [h.1 rfl]
  | cons a as =>
    cases other with
    | nil => cases h.2 rfl
    | cons b bs => exact hf a as b bs

/-- A chain with names has no value, whatever the names are. -/
theorem operand_field {chain other : List String} (h : chain = [] ↔ other = []) :
    operand vocabulary dot (.field chain) = operand vocabulary dot (.field other) :=
  eq_of_alike (f := fun names => operand vocabulary dot (.field names)) (fun _ _ _ _ => rfl) h

theorem operand_variable (name : String) {chain other : List String} (h : chain = [] ↔ other = []) :
    operand vocabulary dot (.variable name chain) =
      operand vocabulary dot (.variable name other) :=
  eq_of_alike (f := fun names => operand vocabulary dot (.variable name names))
    (fun _ _ _ _ => rfl) h

/-- What a command computes that does not begin with a function. -/
def valueAlone (vocabulary : Vocabulary) (dot : Datum) (piped : Option Datum) (first : Operand)
    (rest : List Operand) : Render Datum :=
  if !rest.isEmpty || piped.isSome then throw .argumentsToValue
  else operand vocabulary dot first

theorem isEmpty_eq {rest others : List Operand} (h : OperandsAlike rest others) :
    rest.isEmpty = others.isEmpty := by
  cases h <;> rfl

/-- A command that begins with no function differs from another at its first operand alone. -/
theorem valueAlone_eq {piped : Option Datum} {first other : Operand} {rest others : List Operand}
    (hfirst : operand vocabulary dot first = operand vocabulary dot other)
    (hrest : OperandsAlike rest others) :
    valueAlone vocabulary dot piped first rest = valueAlone vocabulary dot piped other others := by
  unfold valueAlone
  rw [hfirst, isEmpty_eq hrest]

mutual

/-- Operands that differ in names alone have the same value. The recursion is that of the
relation. -/
theorem operand_eq {o p : Operand} : o.Alike p →
    operand vocabulary dot o = operand vocabulary dot p
  | .field hchain => operand_field hchain
  | .variable name hchain => operand_variable name hchain
  | .group hstages hchain => by
    have hempty := eq_of_alike (f := List.isEmpty) (fun _ _ _ _ => rfl) hchain
    rw [operand, operand, stages_eq hstages none, hempty]
  | .function _ => rfl
  | .text _ => rfl
  | .number _ => rfl
  | .character _ => rfl
  | .boolean _ => rfl
  | .nil => rfl

theorem operands_eq {os ps : List Operand} : OperandsAlike os ps →
    operands vocabulary dot os = operands vocabulary dot ps
  | .none => rfl
  | .some hfirst hrest => by rw [operands, operands, operand_eq hfirst, operands_eq hrest]

theorem command_eq {c d : List Operand} : OperandsAlike c d → ∀ piped : Option Datum,
    command vocabulary dot piped c = command vocabulary dot piped d
  | .none, _ => rfl
  | .some (.function name) hrest, piped => by rw [command, command, operands_eq hrest]
  | .some (.field hchain) hrest, _ => valueAlone_eq (operand_field hchain) hrest
  | .some (.variable name hchain) hrest, _ => valueAlone_eq (operand_variable name hchain) hrest
  | .some (.group hstages hchain) hrest, _ =>
    valueAlone_eq (operand_eq (.group hstages hchain)) hrest
  | .some (.text _) hrest, _ => valueAlone_eq rfl hrest
  | .some (.number _) hrest, _ => valueAlone_eq rfl hrest
  | .some (.character _) hrest, _ => valueAlone_eq rfl hrest
  | .some (.boolean _) hrest, _ => valueAlone_eq rfl hrest
  | .some .nil hrest, _ => valueAlone_eq rfl hrest

theorem stages_eq {cs ds : List (List Operand)} : StagesAlike cs ds → ∀ piped : Option Datum,
    stages vocabulary dot piped cs = stages vocabulary dot piped ds
  | .none, _ => rfl
  | .some hfirst hrest, piped => by
    rw [stages, stages, command_eq hfirst piped]
    exact bind_congr fun d => stages_eq hrest (some d)

end

theorem pipeline_eq {p q : Pipeline} (h : p.Alike q) :
    pipeline vocabulary dot p = pipeline vocabulary dot q := by
  unfold pipeline
  rw [stages_eq h.stages none, h.assigns, h.names]

/-! ## Nodes -/

mutual

/-- Nodes that differ in names alone print the same and leave the same variables. -/
theorem node_eq (dot : Datum) {n m : Node} : n.Alike m →
    node vocabulary dot n = node vocabulary dot m
  | .text _ => rfl
  | .action hp => by rw [node, node, pipeline_eq hp, hp.names, hp.line]
  | .block .branch hp hbody hotherwise => by
    rw [node, node, pipeline_eq hp, hp.line, nodes_eq dot hbody, nodes_eq dot hotherwise]
  | .block .repetition hp _ hotherwise => by
    rw [node, node, pipeline_eq hp, hp.line, nodes_eq dot hotherwise]
  | .block .scope hp hbody hotherwise => by
    have hinner : ∀ d, nodes vocabulary d _ = nodes vocabulary d _ := fun d => nodes_eq d hbody
    simp only [node, pipeline_eq hp, hp.line, hinner, nodes_eq dot hotherwise]
  | .leave _ => rfl
  | .next _ => rfl

theorem nodes_eq (dot : Datum) {ns ms : List Node} : NodesAlike ns ms →
    nodes vocabulary dot ns = nodes vocabulary dot ms
  | .none => rfl
  | .some hfirst hrest => by rw [nodes, nodes, node_eq dot hfirst, nodes_eq dot hrest]

end

end Render

/-! ## Whole templates -/

/-- Trees that differ in the names of their chains alone have the same skeleton, or printing fails
with the same problem on the same line. -/
theorem the_names_of_values_make_no_difference_to_the_skeleton (vocabulary : Vocabulary)
    {tree other : List Node} (h : NodesAlike tree other) :
    render vocabulary tree = render vocabulary other := by
  unfold render
  rw [Render.nodes_eq .nil h]

/-- A variable, a block over one of its chains, and a group with a chain; the names are open. -/
def namedItems (given scope tail last : List String) : List Item :=
  [.action [⟨.variable "$x" [], true⟩, ⟨.declare, true⟩, ⟨.field given, true⟩] 1,
   .action [⟨.identifier "with", true⟩, ⟨.variable "$x" scope, true⟩] 2,
   .text "none",
   .action [⟨.identifier "else", true⟩] 3,
   .action [⟨.leftParen, true⟩, ⟨.text "v", false⟩, ⟨.rightParen, false⟩, ⟨.field tail, false⟩] 3,
   .action [⟨.identifier "or", true⟩, ⟨.field last, true⟩, ⟨.text "else", true⟩] 4,
   .action [⟨.identifier "end", true⟩] 4,
   .action [⟨.identifier "len", true⟩, ⟨.number "1", true⟩] 5]

def namedTree (given scope tail last : List String) : List Node :=
  [.action ⟨["$x"], false, [[.field given]], 1⟩,
   .block .scope ⟨[], false, [[.variable "$x" scope]], 2⟩ [.text "none"]
     [.action ⟨[], false, [[.group [[.text "v"]] tail]], 3⟩,
      .action ⟨[], false, [[.function "or", .field last, .text "else"]], 4⟩],
   .action ⟨[], false, [[.function "len", .number "1"]], 5⟩]

def namedVocabulary : Vocabulary := (Vocabulary.empty.define "or" .or).define "len" .len

/-- With other names the items are parsed to the same tree but for the names, and printing it comes
to the same problem. -/
theorem the_named_items_fail_alike_under_other_names :
    parse namedVocabulary (namedItems ["a"] ["b", "c"] ["d"] ["e"]) =
        .ok (namedTree ["a"] ["b", "c"] ["d"] ["e"]) ∧
      parse namedVocabulary (namedItems ["u", "v"] ["w"] ["x", "y"] ["z"]) =
        .ok (namedTree ["u", "v"] ["w"] ["x", "y"] ["z"]) ∧
      NodesAlike (namedTree ["a"] ["b", "c"] ["d"] ["e"])
        (namedTree ["u", "v"] ["w"] ["x", "y"] ["z"]) ∧
      render namedVocabulary (namedTree ["a"] ["b", "c"] ["d"] ["e"]) =
        render namedVocabulary (namedTree ["u", "v"] ["w"] ["x", "y"] ["z"]) ∧
      render namedVocabulary (namedTree ["a"] ["b", "c"] ["d"] ["e"]) =
        .error ⟨.call "len" (.noLength "int"), 5⟩ := by
  have hnames : ∀ a as b bs, (a :: as : List String) = [] ↔ (b :: bs : List String) = [] :=
    fun _ _ _ _ => iff_of_false nofun nofun
  have halike : NodesAlike (namedTree ["a"] ["b", "c"] ["d"] ["e"])
      (namedTree ["u", "v"] ["w"] ["x", "y"] ["z"]) := by
    refine .some (.action ⟨rfl, rfl, ?_, rfl⟩) (.some (.block .scope ⟨rfl, rfl, ?_, rfl⟩ ?_ ?_) ?_)
    · exact .some (.some (.field (hnames _ _ _ _)) .none) .none
    · exact .some (.some (.variable "$x" (hnames _ _ _ _)) .none) .none
    · exact .some (.text "none") .none
    · refine .some (.action ⟨rfl, rfl, ?_, rfl⟩) (.some (.action ⟨rfl, rfl, ?_, rfl⟩) .none)
      · have hstages : StagesAlike [[.text "v"]] [[.text "v"]] :=
          .some (.some (.text "v") .none) .none
        exact .some (.some (.group hstages (hnames _ _ _ _)) .none) .none
      · exact .some (.some (.function "or") (.some (.field (hnames _ _ _ _))
          (.some (.text "else") .none))) .none
    · refine .some (.action ⟨rfl, rfl, ?_, rfl⟩) .none
      exact .some (.some (.function "len") (.some (.number "1") .none)) .none
  exact ⟨rfl, rfl, halike,
    the_names_of_values_make_no_difference_to_the_skeleton _ halike, rfl⟩

end LayerLint.Template
