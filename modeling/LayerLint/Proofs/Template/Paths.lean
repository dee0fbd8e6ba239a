-- The paths that a template reads are made of names. Every name is read behind a point of a chain,
-- the parser copies the chains, and a scope only puts the names of its own chain in front.
import LayerLint.Proofs.Template.Content
import LayerLint.Proofs.Template.Plain
import LayerLint.Proofs.Template.Writable
import LayerLint.Proofs.Value.Normal

namespace LayerLint.Template

/-! ## Tokens that are read -/

section Tokens

open Lexer

variable {cs : List Char}

theorem isWritable_of_takeTokens {start rest : List Char} {spaced trims : Bool}
    {tokens : List Token} (h : takeTokens start spaced cs = .ok (tokens, trims, rest)) :
    ∀ t ∈ tokens, t.kind.IsWritable := by
  fun_induction takeTokens start spaced cs generalizing tokens trims rest with
  | case1 =>
    cases h
    exact fun _ ht => absurd ht List.not_mem_nil
  | case2 => cases h
  | case3 _ _ _ _ _ ih => exact ih h
  | case4 => cases h
  | case5 => cases h
  | case6 =>
    rename_i htoken _ _ _ hrec _ ih
    cases h
    intro t ht
    rcases List.mem_cons.1 ht with rfl | ht
    · exact isWritable_of_takeToken htoken
    · exact ih hrec t ht

theorem isWritable_of_takeAction {action : Action} (h : takeAction cs = .ok action) :
    ∀ tokens ∈ action.tokens, ∀ t ∈ tokens, t.kind.IsWritable := by
  unfold takeAction at h
  simp only at h
  split at h
  · intro tokens htokens
    rw [tokens_takeComment h] at htokens
    cases htokens
  · split at h
    · cases h
    · rename_i hread
      cases h
      intro tokens htokens
      cases htokens
      exact isWritable_of_takeTokens hread

/-- The tokens of an item. -/
def Item.tokens : Item → List Token
  | .text _ => []
  | .action tokens _ => tokens

theorem tokens_of_mem_textItem {before after : Bool} {item : Item}
    (h : item ∈ textItem before after cs) : item.tokens = [] := by
  simp only [textItem, List.mem_ite_nil_left, List.mem_singleton] at h
  rw [h.2]
  rfl

/-- All tokens of the items that are read can be written. -/
theorem isWritable_of_takeItems {lineFeeds : Nat} {trimmed : Bool} {items : List Item}
    (h : takeItems lineFeeds trimmed cs = .ok items) :
    ∀ item ∈ items, ∀ t ∈ item.tokens, t.kind.IsWritable := by
  have htext : ∀ {before after : Bool} {text : List Char}, ∀ item ∈ textItem before after text,
      ∀ t ∈ item.tokens, t.kind.IsWritable := by
    intro before after text item hitem t ht
    rw [tokens_of_mem_textItem hitem] at ht
    exact absurd ht List.not_mem_nil
  fun_induction takeItems lineFeeds trimmed cs generalizing items with
  | case1 =>
    cases h
    exact htext
  | case2 => cases h
  | case3 => cases h
  | case4 =>
    rename_i haction others hothers ih
    cases h
    intro item hitem
    rcases List.mem_append.1 hitem with hitem | hitem
    · rcases List.mem_append.1 hitem with hitem | hitem
      · exact htext item hitem
      · obtain ⟨tokens, htokens, rfl⟩ := Option.map_eq_some_iff.1 (Option.mem_toList.1 hitem)
        exact isWritable_of_takeAction haction tokens htokens
    · exact ih hothers item hitem

theorem isWritable_of_ofText {items : List Item} (h : Item.ofText cs = .ok items) :
    ∀ item ∈ items, ∀ t ∈ item.tokens, t.kind.IsWritable := by
  unfold Item.ofText at h
  simp only at h
  split at h
  · cases h
  · rename_i hread
    cases h
    exact isWritable_of_takeItems hread

end Tokens

/-! ## Names that are copied -/

/-- All names among some pieces are names as they are read. -/
def NamesOnly (pieces : List Piece) : Prop := ∀ name, .name name ∈ pieces → IsName name.toList

theorem namesOnly_append {pieces others : List Piece} :
    NamesOnly (pieces ++ others) ↔ NamesOnly pieces ∧ NamesOnly others := by
  unfold NamesOnly
  constructor
  · intro h
    exact ⟨fun name hname => h name (List.mem_append_left _ hname),
      fun name hname => h name (List.mem_append_right _ hname)⟩
  · rintro ⟨hpieces, hothers⟩ name hname
    exact (List.mem_append.1 hname).elim (hpieces name) (hothers name)

theorem NamesOnly.of_cons {piece : Piece} {pieces : List Piece}
    (h : NamesOnly (piece :: pieces)) : NamesOnly pieces :=
  fun name hname => h name (List.mem_cons_of_mem piece hname)

theorem namesOnly_piecesOfChain {chain : List String} :
    NamesOnly (piecesOfChain chain) ↔ ∀ name ∈ chain, IsName name.toList := by
  simp [NamesOnly, piecesOfChain]

theorem TokenKind.IsWritable.namesOnly {kind : TokenKind} (h : kind.IsWritable) :
    NamesOnly kind.pieces := by
  cases kind with
  | field chain => exact namesOnly_piecesOfChain.2 h
  | «variable» name chain =>
    intro other hother
    rcases List.mem_cons.1 hother with hother | hother
    · cases hother
    · exact namesOnly_piecesOfChain.2 h.2 other hother
  | _ => simp [NamesOnly, TokenKind.pieces]

theorem namesOnly_piecesOfTokens {tokens : List Token} (h : ∀ t ∈ tokens, t.kind.IsWritable) :
    NamesOnly (piecesOfTokens tokens) := by
  intro name hname
  obtain ⟨t, ht, hname⟩ := List.mem_flatMap.1 hname
  exact (h t ht).namesOnly name hname

theorem namesOnly_pieces {item : Item} (h : ∀ t ∈ item.tokens, t.kind.IsWritable) :
    NamesOnly item.pieces := by
  have hline : ∀ {line : Nat} {tokens : List Token}, (∀ t ∈ tokens, t.kind.IsWritable) →
      NamesOnly (.line line :: piecesOfTokens tokens) := by
    intro line tokens htokens name hname
    rcases List.mem_cons.1 hname with hname | hname
    · cases hname
    · exact namesOnly_piecesOfTokens htokens name hname
  cases item with
  | text value => simp [NamesOnly, Item.pieces]
  | action tokens line =>
    simp only [Item.pieces]
    split
    · simp [NamesOnly]
    · split
      · split
        · simp [NamesOnly]
        · exact hline fun t ht => h t (List.mem_of_mem_drop ht)
      · exact hline h

/-- The names in a tree are those that were read. -/
theorem namesOnly_of_parse {vocabulary : Vocabulary} {items : List Item} {tree : List Node}
    (hitems : ∀ item ∈ items, ∀ t ∈ item.tokens, t.kind.IsWritable)
    (h : parse vocabulary items = .ok tree) : NamesOnly (piecesOfNodes tree) := by
  obtain ⟨after, hnodes⟩ := parse_eq_ok_iff.1 h
  rw [hnodes.pieces_eq]
  intro name hname
  obtain ⟨item, hitem, hname⟩ := List.mem_flatMap.1 hname
  exact namesOnly_pieces (hitems item hitem) name hname

/-! ## Paths that are made of names -/

/-- A path is made of names, with a point between each two. -/
def MadeOfNames (path : String) : Prop :=
  ∃ names, names ≠ [] ∧ (∀ name ∈ names, IsName name.toList) ∧ path = Dot.chainPath names

/-- The path of the present value, if one is known, is made of names. -/
def Dot.Named : Dot → Prop
  | .root => True
  | .at path => MadeOfNames path
  | .unknown => True

theorem Dot.named_root : Dot.root.Named := trivial

theorem Dot.named_unknown : Dot.unknown.Named := trivial

variable {dot : Dot}

theorem Dot.Named.resolve {chain : List String} {path : String} (hdot : dot.Named)
    (hchain : ∀ name ∈ chain, IsName name.toList) (h : dot.resolve chain = some path) :
    MadeOfNames path := by
  cases chain with
  | nil => cases h
  | cons first rest =>
    cases dot with
    | root =>
      cases h
      exact ⟨first :: rest, List.cons_ne_nil _ _, hchain, rfl⟩
    | «at» before =>
      cases h
      obtain ⟨names, hne, hnames, rfl⟩ := hdot
      refine ⟨names ++ first :: rest, by simp, fun name hname => ?_, ?_⟩
      · exact (List.mem_append.1 hname).elim (hnames name) (hchain name)
      · apply String.toList_inj.1
        have hpath := ValuePath.ofSegments_append hne (List.cons_ne_nil first rest)
        rw [String.toList_append, String.toList_append, List.append_assoc]
        exact hpath.symm
    | unknown => cases h

theorem Dot.Named.mem_resolve {chain : List String} (hdot : dot.Named)
    (hchain : ∀ name ∈ chain, IsName name.toList) :
    ∀ path ∈ (dot.resolve chain).toList, MadeOfNames path :=
  fun _ hpath => hdot.resolve hchain (Option.mem_toList.1 hpath)

theorem namesOnly_piecesOfStages_cons {command : Command} {stages : List Command}
    (h : NamesOnly (piecesOfStages (command :: stages))) :
    NamesOnly (piecesOfCommand command) ∧ NamesOnly (piecesOfStages stages) := by
  cases stages with
  | nil => exact ⟨by simpa [piecesOfStages] using h, by simp [NamesOnly, piecesOfStages]⟩
  | cons next stages =>
    rw [piecesOfStages, namesOnly_append] at h
    exact ⟨h.1, h.2.of_cons⟩

/-- The present value in the body of a scope has a path of names, as the one around it has. -/
theorem Dot.Named.under {stages : List Command} (hdot : dot.Named)
    (h : NamesOnly (piecesOfStages stages)) : (dot.under stages).Named := by
  unfold Dot.under
  split
  · rename_i chain
    have hchain : ∀ name ∈ chain, IsName name.toList := by
      simpa [piecesOfStages, piecesOfCommand, Operand.pieces, namesOnly_piecesOfChain] using h
    split
    · rename_i hpath
      exact hdot.resolve hchain hpath
    · trivial
  · rename_i name chain
    have hchain : ∀ name ∈ chain, IsName name.toList := by
      simp only [piecesOfStages, piecesOfCommand, Operand.pieces, List.append_nil] at h
      exact namesOnly_piecesOfChain.1 h.of_cons
    split
    · split
      · rename_i hpath
        exact Dot.named_root.resolve hchain hpath
      · trivial
    · trivial
  · trivial

/-! ## What is read is made of names -/

mutual

theorem madeOfNames_operand (hdot : dot.Named) : ∀ o : Operand, NamesOnly o.pieces →
    ∀ path ∈ o.reads dot, MadeOfNames path
  | .field chain, h => hdot.mem_resolve (namesOnly_piecesOfChain.1 h)
  | .variable name chain, h => by
    rw [Operand.reads]
    split
    · exact Dot.named_root.mem_resolve (namesOnly_piecesOfChain.1 h.of_cons)
    · exact fun _ hpath => absurd hpath List.not_mem_nil
  | .group stages chain, h => madeOfNames_stages hdot stages (namesOnly_append.1 h.of_cons).1
  | .function _, _ => fun _ hpath => nomatch hpath
  | .text _, _ => fun _ hpath => nomatch hpath
  | .number _, _ => fun _ hpath => nomatch hpath
  | .character _, _ => fun _ hpath => nomatch hpath
  | .boolean _, _ => fun _ hpath => nomatch hpath
  | .nil, _ => fun _ hpath => nomatch hpath

theorem madeOfNames_command (hdot : dot.Named) : ∀ c : List Operand,
    NamesOnly (piecesOfCommand c) → ∀ path ∈ readsOfCommand dot c, MadeOfNames path
  | [], _, _, hpath => nomatch hpath
  | first :: rest, h, path, hpath => by
    rw [piecesOfCommand, namesOnly_append] at h
    rcases List.mem_append.1 hpath with hpath | hpath
    · exact madeOfNames_operand hdot first h.1 path hpath
    · exact madeOfNames_command hdot rest h.2 path hpath

theorem madeOfNames_stages (hdot : dot.Named) : ∀ stages : List (List Operand),
    NamesOnly (piecesOfStages stages) → ∀ path ∈ readsOfStages dot stages, MadeOfNames path
  | [], _, _, hpath => nomatch hpath
  | first :: rest, h, path, hpath => by
    obtain ⟨hfirst, hrest⟩ := namesOnly_piecesOfStages_cons h
    rcases List.mem_append.1 hpath with hpath | hpath
    · exact madeOfNames_command hdot first hfirst path hpath
    · exact madeOfNames_stages hdot rest hrest path hpath

end

mutual

theorem madeOfNames_node {dot : Dot} (hdot : dot.Named) : ∀ n : Node, NamesOnly n.pieces →
    ∀ path ∈ n.reads dot, MadeOfNames path
  | .text _, _, _, hpath => nomatch hpath
  | .action p, h, path, hpath =>
    madeOfNames_stages hdot p.stages (namesOnly_append.1 h.of_cons).2 path hpath
  | .block control p body otherwise, h, path, hpath => by
    rw [Node.pieces, Pipeline.pieces] at h
    obtain ⟨hheader, hnodes⟩ := namesOnly_append.1 h.of_cons.of_cons
    obtain ⟨hbody, hother⟩ := namesOnly_append.1 hnodes
    have hstages := (namesOnly_append.1 hheader).2
    rcases List.mem_append.1 hpath with hpath | hpath
    · exact madeOfNames_stages hdot p.stages hstages path hpath
    · rcases List.mem_append.1 hpath with hpath | hpath
      · -- only the body of a scope gets a present value with a path of its own
        cases control with
        | branch => exact madeOfNames_nodes hdot body hbody path hpath
        | repetition => exact madeOfNames_nodes Dot.named_unknown body hbody path hpath
        | scope => exact madeOfNames_nodes (hdot.under hstages) body hbody path hpath
      · exact madeOfNames_nodes hdot otherwise hother path hpath
  | .leave _, _, _, hpath => nomatch hpath
  | .next _, _, _, hpath => nomatch hpath

theorem madeOfNames_nodes {dot : Dot} (hdot : dot.Named) : ∀ ns : List Node,
    NamesOnly (piecesOfNodes ns) → ∀ path ∈ readsOfNodes dot ns, MadeOfNames path
  | [], _, _, hpath => nomatch hpath
  | first :: rest, h, path, hpath => by
    rw [piecesOfNodes, namesOnly_append] at h
    rcases List.mem_append.1 hpath with hpath | hpath
    · exact madeOfNames_node hdot first h.1 path hpath
    · exact madeOfNames_nodes hdot rest h.2 path hpath

end

theorem madeOfNames_of_treeOf {vocabulary : Vocabulary} {source : List Char} {tree : List Node}
    (h : treeOf vocabulary source = .ok tree) :
    ∀ path ∈ readsOfNodes .root tree, MadeOfNames path := by
  unfold treeOf at h
  split at h
  · cases h
  · rename_i items hitems
    split at h
    · cases h
    · rename_i hparse
      cases h
      exact madeOfNames_nodes Dot.named_root _
        (namesOnly_of_parse (isWritable_of_ofText hitems) hparse)

/-! ## Segments that are names -/

theorem IsName.isSegment {name : String} (h : IsName name.toList) :
    ValuePath.isSegment name = true := by
  rw [ValuePath.isSegment_iff]
  refine ⟨?_, fun hpoint => ?_⟩
  · rintro rfl
    exact h
  · have hname := h.characters _ hpoint
    rw [ValuePath.separator, isNameChar_point] at hname
    cases hname

theorem IsName.not_all_digits {name : List Char} (h : IsName name) :
    name.all Char.isDigit = false := by
  cases name with
  | nil => exact h.elim
  | cons first rest => rw [List.all_cons, (not_of_isNameStart h.1).2.2, Bool.false_and]

theorem MadeOfNames.normalize_eq {path : String} (h : MadeOfNames path) :
    ValuePath.normalize path = path := by
  obtain ⟨names, hne, hnames, rfl⟩ := h
  obtain ⟨first, rest, rfl⟩ := List.exists_cons_of_ne_nil hne
  have hfirst := hnames first List.mem_cons_self
  have hempty : first ≠ "" := (ValuePath.isSegment_iff.1 hfirst.isSegment).1
  have hhead : (Dot.chainPath (first :: rest)).toList.head? = first.toList.head? :=
    ValuePath.head?_ofSegments hempty rest
  have hpoint := (hfirst.begins []).2
  rw [List.append_nil] at hpoint
  rw [ValuePath.normalize_eq_self_iff, hhead]
  exact hpoint

/-- A template that can be read and parsed reads only paths that are made of names, whatever scopes
and groups they stand in: a path is one or more names with a point between each two, and these are
its segments. So no point leads it, and none of its segments is empty or all digits. A path that is
counted is counted once at least. -/
theorem the_paths_that_a_template_reads_are_made_of_names {vocabulary : Vocabulary}
    {source : List Char} {tree : List Node} (h : treeOf vocabulary source = .ok tree)
    {path : String} {count : Nat}
    (hcount : (countPaths (readsOfNodes .root tree)).get? path = some count) :
    1 ≤ count ∧
      (∃ names, names ≠ [] ∧ (∀ name ∈ names, IsName name.toList) ∧
        path = ".".intercalate names ∧ ValuePath.segments path = names) ∧
      ValuePath.normalize path = path ∧
      ∀ segment ∈ ValuePath.segments path,
        segment ≠ "" ∧ segment.toList.all Char.isDigit = false := by
  obtain ⟨hpos, rfl⟩ := get?_countPaths_iff.1 hcount
  have hmade := madeOfNames_of_treeOf h path (List.count_pos_iff.1 hpos)
  obtain ⟨names, hne, hnames, hpath⟩ := id hmade
  have hsegments : ValuePath.segments path = names := by
    rw [hpath]
    exact ValuePath.segments_ofSegments hne fun name hname => (hnames name hname).isSegment
  refine ⟨hpos, ⟨names, hne, hnames, ?_, hsegments⟩, hmade.normalize_eq, fun segment hsegment => ?_⟩
  · rw [hpath, chainPath_eq_intercalate]
  · rw [hsegments] at hsegment
    have hname := hnames segment hsegment
    exact ⟨(ValuePath.isSegment_iff.1 hname.isSegment).1, hname.not_all_digits⟩

/-- A group in two scopes, one of them over a chain on the root, and a repetition behind it. -/
def nestedSource : String :=
  "\x7b\x7b with $.a_1 \x7d\x7d\x7b\x7b with .é.b \x7d\x7d\x7b\x7b (.c.d).e \x7d\x7d" ++
    "\x7b\x7b range .f \x7d\x7d\x7b\x7b .g \x7d\x7d\x7b\x7b end \x7d\x7d" ++
    "\x7b\x7b end \x7d\x7d\x7b\x7b end \x7d\x7d"

def nestedItems : List Item :=
  [.action [⟨.identifier "with", true⟩, ⟨.variable "$" ["a_1"], true⟩] 1,
   .action [⟨.identifier "with", true⟩, ⟨.field ["é", "b"], true⟩] 1,
   .action [⟨.leftParen, true⟩, ⟨.field ["c", "d"], false⟩, ⟨.rightParen, false⟩,
      ⟨.field ["e"], false⟩] 1,
   .action [⟨.identifier "range", true⟩, ⟨.field ["f"], true⟩] 1,
   .action [⟨.field ["g"], true⟩] 1,
   .action [⟨.identifier "end", true⟩] 1,
   .action [⟨.identifier "end", true⟩] 1,
   .action [⟨.identifier "end", true⟩] 1]

/-- The path in the group begins with the paths of both scopes. -/
theorem the_path_in_both_scopes_is_made_of_names :
    ∃ tree, treeOf .empty nestedSource.toList = .ok tree ∧
      (countPaths (readsOfNodes .root tree)).get? "a_1.é.b.c.d" = some 1 ∧
      (∃ names, names ≠ [] ∧ (∀ name ∈ names, IsName name.toList) ∧
        "a_1.é.b.c.d" = ".".intercalate names ∧
        ValuePath.segments "a_1.é.b.c.d" = names) ∧
      ValuePath.normalize "a_1.é.b.c.d" = "a_1.é.b.c.d" := by
  have hitems : Item.ofText nestedSource.toList = .ok nestedItems := by decide +kernel
  obtain ⟨tree, hparse, hcount⟩ : ∃ tree, parse .empty nestedItems = .ok tree ∧
      (countPaths (readsOfNodes .root tree)).get? "a_1.é.b.c.d" = some 1 := ⟨_, rfl, by decide⟩
  have htree : treeOf .empty nestedSource.toList = .ok tree := by
    simp only [treeOf, hitems, hparse]
  obtain ⟨_, hnames, hnormal, _⟩ := the_paths_that_a_template_reads_are_made_of_names htree hcount
  exact ⟨tree, htree, hcount, hnames, hnormal⟩

end LayerLint.Template
