-- Templates of texts and plain references. They are read, printed and analysed as they are written:
-- each reference is counted under its path, nothing is brought in, and the texts are what is left.
import LayerLint.Proofs.Template.Count
import LayerLint.Proofs.Template.Parser
import LayerLint.Proofs.Template.Written
import LayerLint.Proofs.Text.Utf8
import LayerLint.Template.Analysis

namespace LayerLint.Template

/-! ## Items that are texts and references -/

/-- Items that are texts and chains of names, with all chains and all text of them. -/
inductive PlainItems : List Item → List (List String) → String → Prop
  | nil : PlainItems [] [] ""
  | text {items : List Item} {chains : List (List String)} {out : String} (value : String) :
      PlainItems items chains out → PlainItems (.text value :: items) chains (value ++ out)
  | reference {items : List Item} {chains : List (List String)} {out : String}
      {chain : List String} (spaced : Bool) (line : Nat) : chain ≠ [] →
      PlainItems items chains out →
      PlainItems (.action [⟨.field chain, spaced⟩] line :: items) (chain :: chains) out

namespace PlainItems

variable {items : List Item} {chains : List (List String)} {out : String}

/-- Lines and blanks make no difference. -/
theorem readFrom (h : PlainItems items chains out) (line : Nat) :
    PlainItems (Template.readFrom line items) chains out := by
  induction h generalizing line with
  | nil => exact .nil
  | text value _ ih =>
    rw [readFrom_cons]
    exact .text value (ih _)
  | reference _ _ hchain _ ih =>
    rw [readFrom_cons]
    exact .reference true line hchain (ih _)

/-- The node of a reference. -/
def referenceNode (chain : List String) (line : Nat) : Node :=
  .action ⟨[], false, [[.field chain]], line⟩

theorem isPipeline_reference (names : Names) (chain : List String) (spaced : Bool) (line : Nat) :
    IsPipeline names 1 line [⟨.field chain, spaced⟩] ⟨[], false, [[.field chain]], line⟩ := by
  refine .plain (.last (.atom (.field chain) .none) ?_)
  exact ⟨List.cons_ne_nil _ _, by simp, nofun⟩

theorem reads_referenceNode {chain : List String} (hchain : chain ≠ []) (line : Nat) :
    (referenceNode chain line).reads .root = [Dot.chainPath chain] := by
  obtain ⟨first, rest, rfl⟩ := List.exists_cons_of_ne_nil hchain
  rfl

/-- A reference has no value, and so it prints nothing and changes no variable. -/
theorem node_referenceNode (vocabulary : Vocabulary) {chain : List String} (hchain : chain ≠ [])
    (line : Nat) (bindings : Variables) :
    Render.node vocabulary .nil (referenceNode chain line) bindings = .ok ("", bindings) := by
  obtain ⟨first, rest, rfl⟩ := List.exists_cons_of_ne_nil hchain
  rfl

theorem nodes_cons {vocabulary : Vocabulary} {node : Node} {nodes : List Node} {text more : String}
    {bindings : Variables}
    (hnode : Render.node vocabulary .nil node bindings = .ok (text, bindings))
    (hnodes : Render.nodes vocabulary .nil nodes bindings = .ok (more, bindings)) :
    Render.nodes vocabulary .nil (node :: nodes) bindings = .ok (text ++ more, bindings) := by
  simp only [Render.nodes, bind, StateT.bind, Except.bind, hnode, hnodes]
  rfl

/-- Plain items are nodes under every vocabulary. The nodes read the chains, bring nothing in and
print the texts. -/
theorem exists_nodes (h : PlainItems items chains out) (vocabulary : Vocabulary)
    (bound : List String) :
    ∃ nodes, IsNodes vocabulary false bound items nodes bound ∧
      readsOfNodes .root nodes = chains.map Dot.chainPath ∧ includesOfNodes nodes = [] ∧
      ∀ bindings, Render.nodes vocabulary .nil nodes bindings = .ok (out, bindings) := by
  induction h with
  | nil => exact ⟨[], .none, rfl, rfl, fun _ => rfl⟩
  | text value _ ih =>
    obtain ⟨nodes, hnodes, hreads, hincludes, hprints⟩ := ih
    exact ⟨.text value :: nodes, .text hnodes, hreads, hincludes,
      fun bindings => nodes_cons rfl (hprints bindings)⟩
  | @reference _ _ out chain spaced line hchain _ ih =>
    obtain ⟨nodes, hnodes, hreads, hincludes, hprints⟩ := ih
    have hwords : ∀ word ∈ keywords, ¬StartsWith word [⟨.field chain, spaced⟩] := by
      rintro word _ ⟨token, rest, heq, hkind⟩
      cases heq
      cases hkind
    have hbound : Pipeline.boundAfter ⟨[], false, [[.field chain]], line⟩ bound = bound :=
      List.append_nil bound
    refine ⟨referenceNode chain line :: nodes, .action hwords ?_ (hbound.symm ▸ hnodes), ?_, ?_,
      fun bindings => ?_⟩
    · exact isPipeline_reference _ chain spaced line
    · rw [readsOfNodes, reads_referenceNode hchain, hreads]
      rfl
    · rw [includesOfNodes, hincludes]
      rfl
    · have hprint := nodes_cons (node_referenceNode vocabulary hchain line bindings)
        (hprints bindings)
      rwa [String.empty_append] at hprint

end PlainItems

/-! ## Plain templates -/

/-- A text and a reference after it. The text has no opening brace and may be empty; the reference
is a chain of names. -/
structure PlainPart where
  text : String
  chain : List String
  literal : '\x7b' ∉ text.toList
  chain_ne_nil : chain ≠ []
  named : ∀ name ∈ chain, IsName name.toList

/-- Texts with a reference between each two. -/
structure PlainTemplate where
  parts : List PlainPart
  last : String
  literal : '\x7b' ∉ last.toList

/-- The path that is referred to. -/
def PlainPart.path (p : PlainPart) : String := ".".intercalate p.chain

/-- A text and the reference after it as they are written. -/
def PlainPart.source (p : PlainPart) : String := p.text ++ ("\x7b\x7b ." ++ p.path ++ " \x7d\x7d")

namespace PlainTemplate

/-- The template as it is written. -/
def source (t : PlainTemplate) : String := String.join (t.parts.map PlainPart.source) ++ t.last

/-- The texts alone. -/
def texts (t : PlainTemplate) : String := String.join (t.parts.map PlainPart.text) ++ t.last

/-- The paths that are referred to, in the order of the references. -/
def paths (t : PlainTemplate) : List String := t.parts.map PlainPart.path

end PlainTemplate

/-! ## The items of a plain template -/

/-- A text, if it is not empty, and the reference after it. -/
def PlainPart.items (p : PlainPart) : List Item :=
  Lexer.textItem false false p.text.toList ++ [.action [⟨.field p.chain, true⟩] 0]

def PlainTemplate.items (t : PlainTemplate) : List Item :=
  t.parts.flatMap PlainPart.items ++ Lexer.textItem false false t.last.toList

theorem writeItems_append (items others : List Item) :
    writeItems (items ++ others) = writeItems items ++ writeItems others :=
  List.flatMap_append

/-- A text leaves itself as an item, or nothing. -/
theorem textItem_cases (value : String) :
    value = "" ∧ Lexer.textItem false false value.toList = [] ∨
      value ≠ "" ∧ Lexer.textItem false false value.toList = [.text value] := by
  by_cases h : value = ""
  · refine .inl ⟨h, ?_⟩
    rw [h]
    rfl
  · exact .inr ⟨h, Lexer.textItem_of_ne_empty h⟩

theorem writeItems_textItem (value : String) :
    writeItems (Lexer.textItem false false value.toList) = value.toList := by
  rcases textItem_cases value with ⟨rfl, hitem⟩ | ⟨_, hitem⟩
  · rw [hitem]
    rfl
  · rw [hitem]
    exact List.append_nil _

theorem toList_intercalate_eq_paste (chain : List String) :
    (".".intercalate chain).toList = Text.paste ValuePath.separator (chain.map String.toList) := by
  rw [String.toList_intercalate]
  induction chain with
  | nil => rfl
  | cons name chain ih =>
    cases chain with
    | nil => simp [Text.paste]
    | cons next chain =>
      simp only [List.map_cons, Text.paste] at ih ⊢
      rw [← ih]
      simp [List.intercalate, ValuePath.separator]

theorem chainPath_eq_intercalate (chain : List String) :
    Dot.chainPath chain = ".".intercalate chain := by
  rw [Dot.chainPath, ← toList_intercalate_eq_paste, String.ofList_toList]

theorem spellChain_eq {chain : List String} (h : chain ≠ []) :
    spellChain chain = '.' :: (".".intercalate chain).toList := by
  rw [toList_intercalate_eq_paste]
  induction chain with
  | nil => exact absurd rfl h
  | cons name chain ih =>
    cases chain with
    | nil => simp [spellChain, Text.paste]
    | cons next chain =>
      have hrest := ih (List.cons_ne_nil _ _)
      simp only [spellChain, List.flatMap_cons, List.map_cons, Text.paste] at hrest ⊢
      rw [hrest]
      rfl

theorem PlainPart.writeItems_items (p : PlainPart) : writeItems p.items = p.source.toList := by
  obtain ⟨first, rest, hchain⟩ := List.exists_cons_of_ne_nil p.chain_ne_nil
  have hspelling : (TokenKind.field p.chain).spelling = '.' :: p.path.toList := by
    rw [PlainPart.path, ← spellChain_eq p.chain_ne_nil, hchain]
    rfl
  have haction : writeItems [.action [⟨.field p.chain, true⟩] 0] =
      ("\x7b\x7b ." ++ p.path ++ " \x7d\x7d").toList := by
    simp [writeItems, Item.written, writeAction, Lexer.spellTokens_singleton, hspelling]
  rw [PlainPart.items, writeItems_append, writeItems_textItem, haction, ← String.toList_append,
    PlainPart.source]

/-- The template is what is written of its items. -/
theorem PlainTemplate.writeItems_items (t : PlainTemplate) :
    writeItems t.items = t.source.toList := by
  have hparts : ∀ parts : List PlainPart, writeItems (parts.flatMap PlainPart.items) =
      (String.join (parts.map PlainPart.source)).toList := by
    intro parts
    induction parts with
    | nil => rfl
    | cons p parts ih =>
      rw [List.flatMap_cons, writeItems_append, p.writeItems_items, ih, List.map_cons,
        String.join_cons, String.toList_append]
  rw [PlainTemplate.items, writeItems_append, writeItems_textItem, hparts, PlainTemplate.source,
    String.toList_append]

/-- A text and a reference can be written before what can be written. -/
theorem PlainPart.writable_append (p : PlainPart) {items : List Item} (h : Writable items) :
    Writable (p.items ++ items) := by
  have hreference : Writable (.action [⟨.field p.chain, true⟩] 0 :: items) := by
    refine ⟨List.forall_mem_cons.2 ⟨?_, h.each⟩, List.isChain_cons.2 ⟨fun _ _ => nofun, h.apart⟩⟩
    intro token htoken
    cases List.mem_singleton.1 htoken
    exact p.named
  rw [PlainPart.items, List.append_assoc]
  rcases textItem_cases p.text with ⟨_, hitem⟩ | ⟨hne, hitem⟩
  · rw [hitem]
    exact hreference
  · rw [hitem]
    refine ⟨List.forall_mem_cons.2 ⟨⟨hne, p.literal⟩, hreference.each⟩, ?_⟩
    exact List.isChain_cons_cons.2 ⟨fun _ => rfl, hreference.apart⟩

theorem PlainTemplate.writable_items (t : PlainTemplate) : Writable t.items := by
  unfold PlainTemplate.items
  induction t.parts with
  | nil =>
    rw [List.flatMap_nil, List.nil_append]
    rcases textItem_cases t.last with ⟨_, hitem⟩ | ⟨hne, hitem⟩
    · rw [hitem]
      exact ⟨fun item hitem => absurd hitem List.not_mem_nil, .nil⟩
    · rw [hitem]
      refine ⟨fun item hitem => ?_, .singleton _⟩
      cases List.mem_singleton.1 hitem
      exact ⟨hne, t.literal⟩
  | cons p parts ih =>
    rw [List.flatMap_cons, List.append_assoc]
    exact p.writable_append ih

theorem PlainItems.textItem_append {items : List Item} {chains : List (List String)} {out : String}
    (h : PlainItems items chains out) (value : String) :
    PlainItems (Lexer.textItem false false value.toList ++ items) chains (value ++ out) := by
  rcases textItem_cases value with ⟨rfl, hitem⟩ | ⟨_, hitem⟩
  · rw [hitem, String.empty_append]
    exact h
  · rw [hitem]
    exact .text value h

theorem PlainTemplate.plainItems (t : PlainTemplate) :
    PlainItems t.items (t.parts.map PlainPart.chain) t.texts := by
  unfold PlainTemplate.items PlainTemplate.texts
  induction t.parts with
  | nil =>
    have hlast := PlainItems.nil.textItem_append t.last
    rw [List.append_nil, String.append_empty] at hlast
    rw [List.map_nil, List.map_nil, String.join_nil, String.empty_append]
    exact hlast
  | cons p parts ih =>
    rw [List.flatMap_cons, List.append_assoc, List.map_cons, List.map_cons, String.join_cons,
      String.append_assoc, PlainPart.items, List.append_assoc]
    exact (PlainItems.reference true 0 p.chain_ne_nil ih).textItem_append p.text

/-! ## Analysis -/

theorem render_of_nodes {vocabulary : Vocabulary} {tree : List Node} {out : String}
    (h : ∀ bindings, Render.nodes vocabulary .nil tree bindings = .ok (out, bindings)) :
    render vocabulary tree = .ok out := by
  simp only [render, StateT.run, h]

/-- A plain template is analysed as it is written, whatever functions are known. Its characters are
items and its items are a tree; each path is counted as often as it is referred to, and no other
path is; nothing is brought in, and the texts are printed one after the other. So only the text that
is printed can be at fault. -/
theorem a_plain_template_is_analysed_as_it_is_written (vocabulary : Vocabulary)
    (t : PlainTemplate) :
    ∃ items tree, Item.ofText t.source.toList = .ok items ∧ parse vocabulary items = .ok tree ∧
      (∀ path n, (countPaths (readsOfNodes .root tree)).get? path = some n ↔
        0 < n ∧ t.paths.count path = n) ∧
      includesOfNodes tree = [] ∧ render vocabulary tree = .ok t.texts ∧
      analyze vocabulary (Text.encode t.source) =
        match Value.extract (Text.encode t.texts) with
        | .error fault => .error (.skeleton fault (faultContext t.texts fault))
        | .ok leaves => .ok ⟨countPaths (readsOfNodes .root tree), leaves, [], t.texts⟩ := by
  have hread := Lexer.takeItems_writeItems 0 t.writable_items
  rw [Nat.zero_add, t.writeItems_items] at hread
  have hitems : Item.ofText t.source.toList = .ok (readFrom 1 t.items) := by
    simp only [Item.ofText, hread]
  obtain ⟨tree, htree, hreads, hincludes, hprints⟩ :=
    (t.plainItems.readFrom 1).exists_nodes vocabulary [rootName]
  have hparse : parse vocabulary (readFrom 1 t.items) = .ok tree := parse_eq_ok_iff.2 ⟨_, htree⟩
  have hrender := render_of_nodes hprints
  refine ⟨_, tree, hitems, hparse, fun path n => ?_, hincludes, hrender, ?_⟩
  · have hpaths : (t.parts.map PlainPart.chain).map Dot.chainPath = t.paths := by
      rw [List.map_map]
      exact List.map_congr_left fun p _ => chainPath_eq_intercalate p.chain
    rw [hreads, hpaths]
    exact get?_countPaths_iff
  · simp only [analyze, treeOf, Text.decodeLossy_encode, hitems, hparse, hrender, hincludes]
    rfl

/-- Texts that look like what stands in actions, and names that look like words. Two references
stand side by side. -/
def trickyTemplate : PlainTemplate where
  parts :=
    [⟨"a: \"\x7d\x7d\" -", ["if", "end"], by decide, by decide, by decide +kernel⟩,
     ⟨"", ["_x1", "true"], by decide, by decide, by decide +kernel⟩,
     ⟨"-\n/* ", ["if", "end"], by decide, by decide, by decide +kernel⟩]
  last := " */ \x7d"
  literal := by decide

/-- Both references to the one path are counted, and nothing else is read. -/
theorem the_tricky_template_is_analysed_as_it_is_written :
    ∃ items tree, Item.ofText trickyTemplate.source.toList = .ok items ∧
      parse .empty items = .ok tree ∧
      (countPaths (readsOfNodes .root tree)).get? "if.end" = some 2 ∧
      (countPaths (readsOfNodes .root tree)).get? "_x1.true" = some 1 ∧
      (countPaths (readsOfNodes .root tree)).get? "if" = none ∧
      render .empty tree = .ok "a: \"\x7d\x7d\" --\n/*  */ \x7d" := by
  obtain ⟨items, tree, hitems, hparse, hcounts, _, hrender, _⟩ :=
    a_plain_template_is_analysed_as_it_is_written .empty trickyTemplate
  refine ⟨items, tree, hitems, hparse, ?_, ?_, ?_, hrender⟩
  · exact (hcounts "if.end" 2).2 (by decide)
  · exact (hcounts "_x1.true" 1).2 (by decide)
  · refine Option.eq_none_iff_forall_ne_some.2 fun n hn => ?_
    obtain ⟨hpos, heq⟩ := (hcounts "if" n).1 hn
    have hnone : trickyTemplate.paths.count "if" = 0 := by decide
    exact Nat.ne_of_lt hpos (hnone.symm.trans heq)

end LayerLint.Template
