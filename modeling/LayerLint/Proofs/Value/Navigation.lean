-- Where the leaves of a document stand. The path of a leaf is the segments that lead to it, with
-- points between them; so a reference stands for just those leaves that stand below the node which
-- its own segments lead to.
import LayerLint.Proofs.Repository.Resolve
import LayerLint.Proofs.Value.Segments

namespace LayerLint

namespace Yaml.Node

open ValuePath

/-! ## Children and leaves -/

/-- The nodes right below a node, each with the segment that leads to it: the key of an entry, or
the place of an item, counted from nought. Tags are passed through. -/
def children : Node → List (String × Node)
  | .sequence items => items.zipIdx.map fun e => (toString e.2, e.1)
  | .mapping entries => entries.map fun e => (Value.segment e.1, e.2)
  | .tagged _ content => content.children
  | .null => []
  | .boolean _ => []
  | .integer _ => []
  | .float _ => []
  | .text _ => []

/-- Whether a node is a scalar or an empty collection, whatever tags it has. -/
def isLeaf : Node → Bool
  | .sequence items => items.isEmpty
  | .mapping entries => entries.isEmpty
  | .tagged _ content => content.isLeaf
  | .null => true
  | .boolean _ => true
  | .integer _ => true
  | .float _ => true
  | .text _ => true

/-- The node that segments lead to. -/
def follow (n : Node) : List String → Option Node
  | [] => some n
  | name :: rest => (n.children.lookup name).bind fun child => child.follow rest

mutual

/-- Whether in every mapping of a tree the keys are segments, and no two keys are the same one. -/
def isAddressable : Node → Bool
  | .sequence items => areAddressable items
  | .mapping entries =>
    decide (entries.map fun e => Value.segment e.1).Nodup && haveAddresses entries
  | .tagged _ content => content.isAddressable
  | .null => true
  | .boolean _ => true
  | .integer _ => true
  | .float _ => true
  | .text _ => true

def areAddressable : List Node → Bool
  | [] => true
  | item :: rest => item.isAddressable && areAddressable rest

def haveAddresses : List (Node × Node) → Bool
  | [] => true
  | (key, value) :: rest =>
    isSegment (Value.segment key) && value.isAddressable && haveAddresses rest

end

theorem areAddressable_iff {items : List Node} :
    areAddressable items = true ↔ ∀ item ∈ items, item.isAddressable = true := by
  induction items with
  | nil => simp [areAddressable]
  | cons item rest ih => simp [areAddressable, ih]

theorem haveAddresses_iff {entries : List (Node × Node)} :
    haveAddresses entries = true ↔
      ∀ e ∈ entries, isSegment (Value.segment e.1) = true ∧ e.2.isAddressable = true := by
  induction entries with
  | nil => simp [haveAddresses]
  | cons e rest ih => simp [haveAddresses, ih]

theorem isLeaf_iff_children : ∀ {n : Node}, n.isLeaf = true ↔ n.children = []
  | .sequence items => by cases items <;> simp [isLeaf, children]
  | .mapping entries => by simp [isLeaf, children]
  | .tagged _ content => isLeaf_iff_children (n := content)
  | .null => by simp [isLeaf, children]
  | .boolean _ => by simp [isLeaf, children]
  | .integer _ => by simp [isLeaf, children]
  | .float _ => by simp [isLeaf, children]
  | .text _ => by simp [isLeaf, children]

/-- Children are smaller than their node. -/
theorem sizeOf_lt_of_mem_children :
    ∀ {n : Node} {e : String × Node}, e ∈ n.children → sizeOf e.2 < sizeOf n
  | .sequence items, e, h => by
    obtain ⟨⟨item, index⟩, hmem, rfl⟩ := List.mem_map.1 h
    have hitem : sizeOf item < sizeOf items :=
      List.sizeOf_lt_of_mem (List.fst_mem_of_mem_zipIdx hmem)
    simp only [sequence.sizeOf_spec]
    omega
  | .mapping entries, e, h => by
    obtain ⟨⟨key, value⟩, hmem, rfl⟩ := List.mem_map.1 h
    have hentry := List.sizeOf_lt_of_mem hmem
    simp only [Prod.mk.sizeOf_spec, mapping.sizeOf_spec] at hentry ⊢
    omega
  | .tagged _ content, e, h => by
    have hchild := sizeOf_lt_of_mem_children (n := content) h
    simp only [tagged.sizeOf_spec]
    omega

/-- What holds of a node if it holds of its children holds of every node. -/
theorem childInduction {motive : Node → Prop}
    (step : ∀ n : Node, (∀ e ∈ n.children, motive e.2) → motive n) (n : Node) : motive n :=
  step n fun e h =>
    have := sizeOf_lt_of_mem_children h
    childInduction step e.2
termination_by sizeOf n

/-- The children of a node in an addressable tree stand behind segments that differ, and are
addressable themselves. -/
theorem children_of_isAddressable : ∀ {n : Node}, n.isAddressable = true →
    (n.children.map (·.1)).Nodup ∧
      ∀ e ∈ n.children, isSegment e.1 = true ∧ e.2.isAddressable = true
  | .sequence items, h => by
    constructor
    · have hplaces : (items.zipIdx.map (·.2)).Nodup := by
        rw [List.zipIdx_map_snd]
        exact List.nodup_range'
      rw [children, List.map_map, List.Nodup, List.pairwise_map]
      refine (List.pairwise_map.1 hplaces).imp fun hne heq => hne ?_
      exact Text.toString_inj heq
    · intro e he
      obtain ⟨⟨item, index⟩, hmem, rfl⟩ := List.mem_map.1 he
      exact ⟨isSegment_toString index,
        areAddressable_iff.1 h item (List.fst_mem_of_mem_zipIdx hmem)⟩
  | .mapping entries, h => by
    obtain ⟨hnodup, hentries⟩ := Bool.and_eq_true_iff.1 h
    constructor
    · rw [children, List.map_map]
      exact of_decide_eq_true hnodup
    · intro e he
      obtain ⟨entry, hmem, rfl⟩ := List.mem_map.1 he
      exact haveAddresses_iff.1 hentries entry hmem
  | .tagged _ content, h => children_of_isAddressable (n := content) h
  | .null, _ => by simp [children]
  | .boolean _, _ => by simp [children]
  | .integer _, _ => by simp [children]
  | .float _, _ => by simp [children]
  | .text _, _ => by simp [children]

/-! ## Following segments -/

/-- Following segments and then some more is following them all. -/
theorem follow_append (n : Node) (names more : List String) :
    n.follow (names ++ more) = (n.follow names).bind fun m => m.follow more := by
  induction names generalizing n with
  | nil => rfl
  | cons name rest ih =>
    rw [List.cons_append, follow, follow]
    cases n.children.lookup name with
    | none => rfl
    | some child => exact ih child

theorem follow_cons_eq_some_iff {n m : Node} {name : String} {rest : List String} :
    n.follow (name :: rest) = some m ↔
      ∃ child, n.children.lookup name = some child ∧ child.follow rest = some m := by
  rw [follow, Option.bind_eq_some_iff]

/-- No segment leads on from a leaf. -/
theorem eq_nil_of_follow_leaf {n m : Node} (hn : n.isLeaf = true) {names : List String}
    (h : n.follow names = some m) : names = [] := by
  cases names with
  | nil => rfl
  | cons name rest =>
    obtain ⟨child, hchild, _⟩ := follow_cons_eq_some_iff.1 h
    rw [isLeaf_iff_children.1 hn] at hchild
    cases hchild

/-- From every node some segments lead to a leaf. -/
theorem exists_leaf_below (n : Node) :
    ∃ names leaf, n.follow names = some leaf ∧ leaf.isLeaf = true := by
  induction n using childInduction with
  | step n ih =>
    cases hchildren : n.children with
    | nil => exact ⟨[], n, rfl, isLeaf_iff_children.2 hchildren⟩
    | cons first others =>
      obtain ⟨name, child⟩ := first
      obtain ⟨names, leaf, hfollow, hleaf⟩ := ih (name, child) (hchildren ▸ List.mem_cons_self)
      refine ⟨name :: names, leaf, follow_cons_eq_some_iff.2 ⟨child, ?_, hfollow⟩, hleaf⟩
      rw [hchildren, List.lookup_cons_self]

/-- Behind different segments every child is found. -/
theorem lookup_eq_some_of_mem {children : List (String × Node)} (h : (children.map (·.1)).Nodup)
    {name : String} {child : Node} (hmem : (name, child) ∈ children) :
    children.lookup name = some child := by
  induction children with
  | nil => exact absurd hmem List.not_mem_nil
  | cons first rest ih =>
    obtain ⟨key, value⟩ := first
    obtain ⟨hfirst, hrest⟩ := List.nodup_cons.1 h
    rcases List.mem_cons.1 hmem with heq | hlater
    · cases heq
      exact List.lookup_cons_self
    · have hne : name ≠ key := by
        rintro rfl
        exact hfirst (List.mem_map.2 ⟨(name, child), hlater, rfl⟩)
      rw [List.lookup_cons, beq_eq_false_iff_ne.2 hne]
      exact ih hrest hlater

/-- Segments lead to a node if each of them stands before one of the nodes right below. In a tree
with keys that become one segment they may lead to several nodes. -/
inductive LeadsTo : Node → List String → Node → Prop
  | here {n : Node} : LeadsTo n [] n
  | step {n child m : Node} {name : String} {rest : List String} :
    (name, child) ∈ n.children → LeadsTo child rest m → LeadsTo n (name :: rest) m

theorem eq_nil_of_leadsTo_leaf {n m : Node} (hn : n.isLeaf = true) {names : List String}
    (h : n.LeadsTo names m) : names = [] := by
  cases h with
  | here => rfl
  | step hchild _ =>
    rw [isLeaf_iff_children.1 hn] at hchild
    exact absurd hchild List.not_mem_nil

/-- In an addressable tree segments lead to one node, the one that is found by following them. -/
theorem leadsTo_iff_follow {n m : Node} (h : n.isAddressable = true) {names : List String} :
    n.LeadsTo names m ↔ n.follow names = some m := by
  constructor
  · intro hleads
    induction hleads with
    | here => rfl
    | step hchild _ ih =>
      obtain ⟨hnodup, hchildren⟩ := children_of_isAddressable h
      exact follow_cons_eq_some_iff.2
        ⟨_, lookup_eq_some_of_mem hnodup hchild, ih (hchildren _ hchild).2⟩
  · intro hfollow
    induction names generalizing n with
    | nil =>
      cases hfollow
      exact .here
    | cons name rest ih =>
      obtain ⟨child, hchild, hrest⟩ := follow_cons_eq_some_iff.1 hfollow
      have hmem := SortedMap.mem_of_lookup hchild
      exact .step hmem (ih ((children_of_isAddressable h).2 _ hmem).2 hrest)

theorem isSegment_of_follow {n m : Node} (h : n.isAddressable = true) {names : List String}
    (hfollow : n.follow names = some m) : ∀ name ∈ names, isSegment name = true := by
  induction names generalizing n with
  | nil => simp
  | cons name rest ih =>
    obtain ⟨child, hchild, hrest⟩ := follow_cons_eq_some_iff.1 hfollow
    obtain ⟨hname, hvalue⟩ := (children_of_isAddressable h).2 _ (SortedMap.mem_of_lookup hchild)
    intro other hother
    rcases List.mem_cons.1 hother with rfl | hother
    · exact hname
    · exact ih hvalue hrest other hother

end Yaml.Node

namespace Value

open ValuePath Yaml

/-! ## What flattening gives -/

theorem flattenItems_eq (path : String) (index : Nat) (items : List Node) :
    flattenItems path index items =
      (items.zipIdx index).flatMap fun e => flatten (join path (toString e.2)) e.1 := by
  induction items generalizing index with
  | nil => rfl
  | cons item rest ih => rw [flattenItems, List.zipIdx_cons, List.flatMap_cons, ih]

theorem flattenEntries_eq (path : String) (entries : List (Node × Node)) :
    flattenEntries path entries =
      entries.flatMap fun e => flatten (join path (segment e.1)) e.2 := by
  induction entries with
  | nil => rfl
  | cons e rest ih => rw [flattenEntries, List.flatMap_cons, ih]

/-- A leaf stands at the path it is met at, and all else is what its children give. -/
theorem flatten_eq (path : String) : ∀ n : Node, flatten path n =
    if n.isLeaf then leaf path (ofNode n)
    else n.children.flatMap fun e => flatten (join path e.1) e.2
  | .mapping [] => rfl
  | .mapping (entry :: rest) => by
    rw [flatten, flattenEntries_eq, Node.children, List.flatMap_map]
    rfl
  | .sequence [] => rfl
  | .sequence (item :: rest) => by
    rw [flatten, flattenItems_eq, Node.children, List.flatMap_map]
    rfl
  | .tagged _ content => flatten_eq path content
  | .null => rfl
  | .boolean _ => rfl
  | .integer _ => rfl
  | .float _ => rfl
  | .text _ => rfl

theorem mem_leaf_iff {path given : String} {value v : Value} :
    (given, v) ∈ leaf path value ↔ given = path ∧ given ≠ "" ∧ v = value := by
  unfold leaf
  split
  · rename_i hempty
    rw [String.isEmpty_iff] at hempty
    constructor
    · intro h
      exact absurd h List.not_mem_nil
    · rintro ⟨rfl, hne, _⟩
      exact absurd hempty hne
  · rename_i hempty
    rw [String.isEmpty_iff] at hempty
    rw [List.mem_singleton, Prod.mk.injEq]
    constructor
    · rintro ⟨rfl, rfl⟩
      exact ⟨rfl, hempty, rfl⟩
    · rintro ⟨rfl, _, rfl⟩
      exact ⟨rfl, rfl⟩

/-- Flattening gives every leaf at the path that its segments make, but for one without a path. -/
theorem mem_flatten_iff_leadsTo {n : Node} {path given : String} {v : Value} :
    (given, v) ∈ flatten path n ↔ ∃ names leaf, n.LeadsTo names leaf ∧ leaf.isLeaf = true ∧
      given = names.foldl join path ∧ given ≠ "" ∧ v = ofNode leaf := by
  induction n using Node.childInduction generalizing path with
  | step n ih =>
    rw [flatten_eq]
    split
    · rename_i hleaf
      rw [mem_leaf_iff]
      constructor
      · rintro ⟨hpath, hne, hvalue⟩
        exact ⟨[], n, .here, hleaf, hpath, hne, hvalue⟩
      · rintro ⟨names, leaf, hleads, _, hpath, hne, hvalue⟩
        obtain rfl := Node.eq_nil_of_leadsTo_leaf hleaf hleads
        cases hleads
        exact ⟨hpath, hne, hvalue⟩
    · rename_i hinner
      rw [List.mem_flatMap]
      constructor
      · rintro ⟨⟨name, child⟩, hmem, hgiven⟩
        obtain ⟨names, leaf, hleads, hrest⟩ := (ih _ hmem).1 hgiven
        exact ⟨name :: names, leaf, .step hmem hleads, hrest⟩
      · rintro ⟨names, leaf, hleads, hleaf, hrest⟩
        cases hleads with
        | here => exact absurd hleaf hinner
        | step hmem hleads =>
          exact ⟨_, hmem, (ih _ hmem).2 ⟨_, leaf, hleads, hleaf, hrest⟩⟩

theorem mem_flatten_iff {n : Node} (h : n.isAddressable = true) {path given : String} {v : Value} :
    (given, v) ∈ flatten path n ↔ ∃ names leaf, n.follow names = some leaf ∧ leaf.isLeaf = true ∧
      given = names.foldl join path ∧ given ≠ "" ∧ v = ofNode leaf := by
  simp only [mem_flatten_iff_leadsTo, Node.leadsTo_iff_follow h]

variable {root : Node}

theorem mem_flatten_root_iff (h : root.isAddressable = true) {path : String} {v : Value} :
    (path, v) ∈ flatten "" root ↔
      ∃ leaf, root.follow (segments path) = some leaf ∧ leaf.isLeaf = true ∧ v = ofNode leaf := by
  rw [mem_flatten_iff h]
  constructor
  · rintro ⟨names, leaf, hfollow, hleaf, rfl, hne, hvalue⟩
    have hnames := Node.isSegment_of_follow h hfollow
    rw [foldl_join_of_isSegment hnames] at hne ⊢
    have hsome : names ≠ [] := by
      rintro rfl
      exact hne rfl
    exact ⟨leaf, by rw [segments_ofSegments hsome hnames, hfollow], hleaf, hvalue⟩
  · rintro ⟨leaf, hfollow, hleaf, hvalue⟩
    have hnames := Node.isSegment_of_follow h hfollow
    refine ⟨segments path, leaf, hfollow, hleaf, ?_, ?_, hvalue⟩
    · rw [foldl_join_of_isSegment hnames, ofSegments_segments]
    · rintro rfl
      exact absurd (hnames "" (by decide)) (by decide)

/-- The leaves of a document stand at the paths whose segments lead to them. -/
theorem get?_leaves_eq_some_iff (h : root.isAddressable = true) {path : String} {v : Value} :
    (leaves root).get? path = some v ↔
      ∃ leaf, root.follow (segments path) = some leaf ∧ leaf.isLeaf = true ∧ v = ofNode leaf := by
  unfold leaves
  rw [SortedMap.get?_ofList_eq_some_iff, mem_flatten_root_iff h]
  intro v w hv hw
  obtain ⟨leaf, hleaf, _, rfl⟩ := (mem_flatten_root_iff h).1 hv
  obtain ⟨other, hother, _, rfl⟩ := (mem_flatten_root_iff h).1 hw
  rw [Option.some.inj (hleaf.symm.trans hother)]

theorem mem_keys_leaves_iff (h : root.isAddressable = true) {path : String} :
    path ∈ (leaves root).keys ↔
      ∃ leaf, root.follow (segments path) = some leaf ∧ leaf.isLeaf = true := by
  simp only [SortedMap.mem_keys_iff, get?_leaves_eq_some_iff h]
  constructor
  · rintro ⟨_, leaf, hfollow, hleaf, _⟩
    exact ⟨leaf, hfollow, hleaf⟩
  · rintro ⟨leaf, hfollow, hleaf⟩
    exact ⟨_, leaf, hfollow, hleaf, rfl⟩

/-- Segments that lead to a leaf are found again in its path. -/
theorem follow_segments_ofSegments (h : root.isAddressable = true) {names : List String}
    (hne : names ≠ []) {leaf : Node} (hfollow : root.follow names = some leaf) :
    root.follow (segments (ofSegments names)) = some leaf := by
  rw [segments_ofSegments hne (Node.isSegment_of_follow h hfollow), hfollow]

/-- No leaf stands below another. -/
theorem not_isDescendant_of_mem_keys_leaves (h : root.isAddressable = true) {path other : String}
    (hpath : path ∈ (leaves root).keys) (hother : other ∈ (leaves root).keys) :
    isDescendant path other = false := by
  obtain ⟨leaf, hfollow, _⟩ := (mem_keys_leaves_iff h).1 hpath
  obtain ⟨node, hnode, hleaf⟩ := (mem_keys_leaves_iff h).1 hother
  rw [Bool.eq_false_iff]
  intro hbelow
  obtain ⟨more, hmore, hsegments⟩ := isDescendant_iff_segments.1 hbelow
  rw [hsegments, Node.follow_append, hnode] at hfollow
  exact hmore (Node.eq_nil_of_follow_leaf hleaf hfollow)

end Value

namespace Layer

open ValuePath Yaml

variable {root : Node} {l : Layer}

/-! ## What a reference stands for -/

/-- A reference stands for the leaves below the node that its segments lead to. -/
theorem mem_resolve_leaves_iff (h : root.isAddressable = true) (hl : l.values = Value.leaves root)
    {reference path : String} :
    path ∈ l.resolve reference ↔ ∃ node, root.follow (segments reference) = some node ∧
      ∃ names leaf, node.follow names = some leaf ∧ leaf.isLeaf = true ∧
        path = ofSegments (segments reference ++ names) := by
  rw [mem_resolve_iff, hl]
  simp only [Value.mem_keys_leaves_iff h]
  constructor
  · rintro ⟨⟨leaf, hfollow, hleaf⟩, rfl | ⟨_, hbelow⟩⟩
    · refine ⟨leaf, hfollow, [], leaf, rfl, hleaf, ?_⟩
      rw [List.append_nil, ofSegments_segments]
    · obtain ⟨more, _, hsegments⟩ := isDescendant_iff_segments.1 hbelow
      have hpath := ofSegments_segments path
      rw [hsegments] at hfollow hpath
      rw [Node.follow_append] at hfollow
      obtain ⟨node, hnode, hmore⟩ := Option.bind_eq_some_iff.1 hfollow
      exact ⟨node, hnode, more, leaf, hmore, hleaf, hpath.symm⟩
  · rintro ⟨node, hnode, names, leaf, hnames, hleaf, rfl⟩
    have hfollow : root.follow (segments reference ++ names) = some leaf := by
      rw [Node.follow_append, hnode]
      exact hnames
    have hne : segments reference ++ names ≠ [] :=
      List.append_ne_nil_of_left_ne_nil (segments_ne_nil reference) names
    refine ⟨⟨leaf, Value.follow_segments_ofSegments h hne hfollow, hleaf⟩, ?_⟩
    cases names with
    | nil =>
      rw [List.append_nil, ofSegments_segments]
      exact .inl rfl
    | cons name rest =>
      refine .inr ⟨?_, isDescendant_iff_segments.2 ⟨name :: rest, List.cons_ne_nil _ _, ?_⟩⟩
      · rintro ⟨other, hother, hend⟩
        cases hnode.symm.trans hother
        exact List.cons_ne_nil _ _ (Node.eq_nil_of_follow_leaf hend hnames)
      · exact segments_ofSegments hne (Node.isSegment_of_follow h hfollow)

/-- A reference stands for nothing exactly if its segments lead nowhere. -/
theorem resolve_leaves_eq_nil_iff (h : root.isAddressable = true)
    (hl : l.values = Value.leaves root) {reference : String} :
    l.resolve reference = [] ↔ root.follow (segments reference) = none := by
  rw [List.eq_nil_iff_forall_not_mem, Option.eq_none_iff_forall_ne_some]
  constructor
  · intro hnone node hnode
    obtain ⟨names, leaf, hnames, hleaf⟩ := node.exists_leaf_below
    exact hnone _ ((mem_resolve_leaves_iff h hl).2 ⟨node, hnode, names, leaf, hnames, hleaf, rfl⟩)
  · intro hnone path hpath
    obtain ⟨node, hnode, _⟩ := (mem_resolve_leaves_iff h hl).1 hpath
    exact hnone node hnode

end Layer

namespace Value

open ValuePath Yaml

/-- In a tree whose keys are segments that differ within their mapping, every leaf but for the root
itself has one entry with its value, at the segments that lead to it; no entry stands below another;
and a reference stands for the leaves below the node that its segments lead to, in ascending order,
and for none exactly if they lead nowhere. -/
theorem a_reference_stands_for_the_leaves_below_the_node_that_its_segments_lead_to {root : Node}
    (h : root.isAddressable = true) (file : String) (role : LayerRole) :
    (∀ path value, (leaves root).get? path = some value ↔
      ∃ names leaf, names ≠ [] ∧ root.follow names = some leaf ∧ leaf.isLeaf = true ∧
        path = ofSegments names ∧ value = ofNode leaf) ∧
    (∀ names leaf others other, root.follow names = some leaf → leaf.isLeaf = true →
      root.follow others = some other → other.isLeaf = true →
      ofSegments names = ofSegments others → names = others) ∧
    (∀ path ∈ (leaves root).keys, ∀ other ∈ (leaves root).keys,
      isDescendant path other = false) ∧
    ∀ reference,
      ((Layer.mk file role (leaves root)).resolve reference).Pairwise (· < ·) ∧
      (∀ path, path ∈ (Layer.mk file role (leaves root)).resolve reference ↔
        ∃ node, root.follow (segments reference) = some node ∧
          ∃ names leaf, node.follow names = some leaf ∧ leaf.isLeaf = true ∧
            path = ofSegments (segments reference ++ names)) ∧
      ((Layer.mk file role (leaves root)).resolve reference = [] ↔
        root.follow (segments reference) = none) := by
  refine ⟨fun path value => ?_, ?_, fun path hpath other hother => ?_, fun reference => ?_⟩
  · rw [get?_leaves_eq_some_iff h]
    constructor
    · rintro ⟨leaf, hfollow, hleaf, hvalue⟩
      exact ⟨segments path, leaf, segments_ne_nil path, hfollow, hleaf,
        (ofSegments_segments path).symm, hvalue⟩
    · rintro ⟨names, leaf, hne, hfollow, hleaf, rfl, hvalue⟩
      exact ⟨leaf, follow_segments_ofSegments h hne hfollow, hleaf, hvalue⟩
  · intro names leaf others other hfollow hleaf hothers hother heq
    by_cases hroot : root.isLeaf = true
    · rw [Node.eq_nil_of_follow_leaf hroot hfollow, Node.eq_nil_of_follow_leaf hroot hothers]
    · have hne : ∀ {given : List String} {n : Node}, root.follow given = some n →
          n.isLeaf = true → given ≠ [] := by
        rintro given n hn hend rfl
        cases hn
        exact hroot hend
      rw [← segments_ofSegments (hne hfollow hleaf) (Node.isSegment_of_follow h hfollow), heq,
        segments_ofSegments (hne hothers hother) (Node.isSegment_of_follow h hothers)]
  · exact not_isDescendant_of_mem_keys_leaves h hpath hother
  · exact ⟨Layer.pairwise_resolve _ reference, fun path => Layer.mem_resolve_leaves_iff h rfl,
      Layer.resolve_leaves_eq_nil_iff h rfl⟩

/-- A tagged document in which a reference, two keys that begin like it, and a list meet. -/
def registryTree : Node :=
  .tagged "!layer" (.mapping
    [(.text "registry-x", .null),
     (.text "registry", .mapping
       [(.text "hosts", .sequence [.text "a", .mapping []]), (.text "domain", .text "d")]),
     (.text "registryExtra", .integer 1)])

/-- The registry stands for its leaves, the empty mapping in its list among them; a segment that it
does not have leads nowhere. -/
theorem the_registry_stands_for_its_leaves :
    registryTree.isAddressable = true ∧
      "registry.hosts.1" ∈
        (Layer.mk "default/config.yaml" .base (leaves registryTree)).resolve "registry" ∧
      (Layer.mk "default/config.yaml" .base (leaves registryTree)).resolve "registry.mirror" =
        [] := by
  have h : registryTree.isAddressable = true := by decide
  obtain ⟨_, _, _, hresolve⟩ :=
    a_reference_stands_for_the_leaves_below_the_node_that_its_segments_lead_to h
      "default/config.yaml" .base
  refine ⟨h, ((hresolve "registry").2.1 _).2 ?_, (hresolve "registry.mirror").2.2.2 rfl⟩
  exact ⟨_, rfl, ["hosts", "1"], .mapping [], rfl, rfl, rfl⟩

/-- The root has no path: an empty mapping is a leaf, and at the root it has no entry. -/
theorem an_empty_mapping_at_the_root_is_a_leaf_without_an_entry :
    ¬∀ entries, (Node.mapping entries).isAddressable = true → ∀ names leaf,
      (Node.mapping entries).follow names = some leaf → leaf.isLeaf = true →
        (leaves (.mapping entries)).get? (ofSegments names) = some (ofNode leaf) := by
  intro h
  have hroot := h [] rfl [] (.mapping []) rfl rfl
  have hnone : (leaves (.mapping [])).get? (ofSegments []) = none := by decide
  rw [hnone] at hroot
  cases hroot

end Value

end LayerLint
