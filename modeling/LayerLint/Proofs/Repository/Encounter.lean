-- What the list of encounters says. A template takes a leaf from a layer, or misses a reference,
-- by relations that speak of no order and no list; the encounters hold just these.
import LayerLint.Proofs.Repository.Closure
import LayerLint.Repository.Encounter

namespace LayerLint.Repository

/-! ## The templates of an app and its layers -/

/-- An app has a template for an installation: its patch there, or the one that holds
everywhere. -/
def HasTemplate (r : Repository) (i : Installation) (app : String) (family : Family)
    (t : TemplateFile) : Prop :=
  i.patch? app family = some t ∨ r.defaultTemplate? app family = some t

theorem mem_of_hasTemplate {r : Repository} {name : String} {i : Installation}
    (hi : (name, i) ∈ r.installations.entries) {app : String} {family : Family} {t : TemplateFile}
    (ht : r.HasTemplate i app family t) : t ∈ r.templates := by
  rcases ht with ht | ht
  · exact mem_of_patch? hi ht
  · exact mem_of_defaultTemplate? ht

/-- An app that has a template for an installation is one of the apps of the installation. -/
theorem mem_appsOf_of_hasTemplate {r : Repository} {i : Installation} {app : String}
    {family : Family} {t : TemplateFile} (ht : r.HasTemplate i app family t) :
    app ∈ r.appsOf i := by
  refine mem_distinct_iff.2 ?_
  rcases ht with ht | ht
  · obtain ⟨a, ha, _⟩ := Option.bind_eq_some_iff.1 ht
    exact List.mem_append_right _ (SortedMap.mem_keys_iff.2 ⟨a, ha⟩)
  · obtain ⟨a, ha, _⟩ := Option.bind_eq_some_iff.1 ht
    exact List.mem_append_left _ (SortedMap.mem_keys_iff.2 ⟨a, ha⟩)

/-- An app of an installation is one of the apps. -/
theorem mem_apps_of_mem_appsOf {r : Repository} {name : String} {i : Installation}
    (hi : (name, i) ∈ r.installations.entries) {app : String} (happ : app ∈ r.appsOf i) :
    app ∈ r.apps := by
  refine mem_distinct_iff.2 ?_
  rcases List.mem_append.1 (mem_distinct_iff.1 happ) with happ | happ
  · exact List.mem_append_left _ happ
  · exact List.mem_append_right _ (List.mem_flatMap.2 ⟨(name, i), hi, happ⟩)

theorem mem_apps_of_hasTemplate {r : Repository} {name : String} {i : Installation}
    (hi : (name, i) ∈ r.installations.entries) {app : String} {family : Family}
    {t : TemplateFile} (ht : r.HasTemplate i app family t) : app ∈ r.apps :=
  mem_apps_of_mem_appsOf hi (mem_appsOf_of_hasTemplate ht)

theorem mem_layers_of_layersOf {r : Repository} {name : String} {i : Installation}
    (hi : (name, i) ∈ r.installations.entries) {family : Family} {l : Layer}
    (hl : l ∈ r.layersOf i family) : l ∈ r.layers := by
  cases family with
  | config =>
    rcases List.mem_cons.1 hl with rfl | hl
    · exact mem_layers_of_override hi
    · cases List.mem_singleton.1 hl
      exact List.mem_cons_self
  | secret =>
    cases List.mem_singleton.1 hl
    exact mem_layers_of_secret hi

/-- The template of an app that holds everywhere leaves a reference to the patch over it, which
supplies the reference outright. -/
def LeftToPatch (r : Repository) (i : Installation) (app : String) (family : Family)
    (t : TemplateFile) (reference : String) : Prop :=
  r.defaultTemplate? app family = some t ∧
    ∃ patch, i.patch? app family = some patch ∧ patch.supplies reference = true

/-- The first of some layers that has leaves for a reference. -/
def GivesFirst (layers : List Layer) (reference : String) (layer : Layer) : Prop :=
  ∃ before after, layers = before ++ layer :: after ∧
    (∀ l ∈ before, l.resolve reference = []) ∧ layer.resolve reference ≠ []

theorem GivesFirst.mem {layers : List Layer} {reference : String} {layer : Layer}
    (h : GivesFirst layers reference layer) : layer ∈ layers := by
  obtain ⟨before, after, rfl, _⟩ := h
  exact List.mem_append_right _ List.mem_cons_self

theorem GivesFirst.resolve_ne_nil {layers : List Layer} {reference : String} {layer : Layer}
    (h : GivesFirst layers reference layer) : layer.resolve reference ≠ [] := by
  obtain ⟨_, _, _, _, hne⟩ := h
  exact hne

theorem firstGiving_eq_some_iff {reference : String} {layers : List Layer} {layer : Layer}
    {leaves : List String} :
    firstGiving reference layers = some (layer, leaves) ↔
      GivesFirst layers reference layer ∧ layer.resolve reference = leaves := by
  constructor
  · intro h
    induction layers with
    | nil => cases h
    | cons first rest ih =>
      simp only [firstGiving] at h
      split at h
      · rename_i hnone
        obtain ⟨⟨before, after, rfl, hbefore, hne⟩, hleaves⟩ := ih h
        refine ⟨⟨first :: before, after, rfl, fun l hl => ?_, hne⟩, hleaves⟩
        rcases List.mem_cons.1 hl with rfl | hl
        · exact hnone
        · exact hbefore l hl
      · rename_i leaf more hsome
        cases h
        exact ⟨⟨[], rest, rfl, by simp, by simp [hsome]⟩, hsome⟩
  · rintro ⟨⟨before, after, rfl, hbefore, hne⟩, rfl⟩
    induction before with
    | nil =>
      simp only [List.nil_append, firstGiving]
      split
      · exact absurd ‹_› hne
      · rename_i hsome
        rw [hsome]
    | cons first rest ih =>
      simp only [List.cons_append, firstGiving, hbefore first List.mem_cons_self]
      exact ih fun l hl => hbefore l (List.mem_cons_of_mem _ hl)

theorem firstGiving_eq_none_iff {reference : String} {layers : List Layer} :
    firstGiving reference layers = none ↔ ∀ l ∈ layers, l.resolve reference = [] := by
  induction layers with
  | nil => simp [firstGiving]
  | cons first rest ih =>
    simp only [firstGiving, List.forall_mem_cons]
    split
    · rename_i hnone
      simp [hnone, ih]
    · rename_i hsome
      simp [hsome]

/-- If some layer has leaves for a reference, one of those that have is the first. -/
theorem exists_givesFirst {layers : List Layer} {reference : String} {l : Layer} (hl : l ∈ layers)
    (hne : l.resolve reference ≠ []) : ∃ first, GivesFirst layers reference first := by
  rcases hfirst : firstGiving reference layers with _ | ⟨first, leaves⟩
  · exact absurd (firstGiving_eq_none_iff.1 hfirst l hl) hne
  · exact ⟨first, (firstGiving_eq_some_iff.1 hfirst).1⟩

/-! ## Outcomes -/

theorem outcomeOf_eq_given_iff {family : Family} {layers : List Layer} {patched : Bool}
    {reference : String} {layer : Layer} {leaves : List String} :
    outcomeOf family layers patched reference = .given layer leaves ↔
      ¬(family = .secret ∧ patched = true) ∧ GivesFirst layers reference layer ∧
        layer.resolve reference = leaves := by
  rw [← firstGiving_eq_some_iff]
  unfold outcomeOf
  split
  · simp_all
  · rename_i hfamily
    rcases firstGiving reference layers with _ | ⟨l, ls⟩
    · cases patched <;> simp
    · simp [hfamily]

theorem outcomeOf_eq_missing_iff {family : Family} {layers : List Layer} {patched : Bool}
    {reference : String} :
    outcomeOf family layers patched reference = .missing ↔
      patched = false ∧ ∀ l ∈ layers, l.resolve reference = [] := by
  rw [← firstGiving_eq_none_iff]
  unfold outcomeOf
  split
  · simp_all
  · rcases firstGiving reference layers with _ | ⟨l, ls⟩
    · cases patched <;> simp
    · simp

variable {r : Repository}

/-! ## Encounters -/

theorem mem_encountersOfSource_iff {name : String} {i : Installation} {app : String}
    {family : Family} {patch : Option TemplateFile} {source : TemplateFile} {e : Encounter} :
    e ∈ r.encountersOfSource name i app family patch source ↔
      ∃ owner ∈ r.closure source, ∃ reference ∈ owner.reads.keys,
        e = ⟨name, app, family, source, owner, reference,
          outcomeOf family (r.layersOf i family) (patch.any (·.supplies reference)) reference⟩ := by
  simp only [encountersOfSource, List.mem_flatMap, List.mem_map]
  constructor
  · rintro ⟨owner, howner, reference, hreference, rfl⟩
    exact ⟨owner, howner, reference, hreference, rfl⟩
  · rintro ⟨owner, howner, reference, hreference, rfl⟩
    exact ⟨owner, howner, reference, hreference, rfl⟩

/-- A patch is not the template that holds everywhere. -/
theorem Placed.default_ne_patch (h : Placed r) {name : String} {i : Installation}
    (hi : (name, i) ∈ r.installations.entries) {app other : String} {family wing : Family}
    {t : TemplateFile} (hpatch : i.patch? app family = some t) :
    r.defaultTemplate? other wing ≠ some t := by
  intro hdefault
  cases h.templatePlace_eq (q := .default other wing) (template?_patch hi hpatch) hdefault rfl

theorem mem_encountersOfApp_iff (h : Placed r) {name : String} {i : Installation}
    (hi : (name, i) ∈ r.installations.entries) {app : String} {family : Family} {e : Encounter} :
    e ∈ r.encountersOfApp name i app family ↔
      ∃ t, r.HasTemplate i app family t ∧ ∃ owner ∈ r.closure t, ∃ reference ∈ owner.reads.keys,
        ∃ patched : Bool, (patched = true ↔ r.LeftToPatch i app family t reference) ∧
          e = ⟨name, app, family, t, owner, reference,
            outcomeOf family (r.layersOf i family) patched reference⟩ := by
  simp only [encountersOfApp, List.mem_append, List.mem_flatMap, Option.mem_toList,
    mem_encountersOfSource_iff]
  constructor
  · rintro (⟨t, ht, owner, howner, reference, hreference, rfl⟩ |
      ⟨t, ht, owner, howner, reference, hreference, rfl⟩)
    · refine ⟨t, .inl ht, owner, howner, reference, hreference, false, ?_, rfl⟩
      simp [LeftToPatch, h.default_ne_patch hi ht]
    · refine ⟨t, .inr ht, owner, howner, reference, hreference, _, ?_, rfl⟩
      simp [LeftToPatch, ht, Option.any_eq_true]
  · rintro ⟨t, ht, owner, howner, reference, hreference, patched, hpatched, rfl⟩
    rcases ht with ht | ht
    · refine .inl ⟨t, ht, owner, howner, reference, hreference, ?_⟩
      have hfalse : patched = false := by
        rw [← Bool.not_eq_true, hpatched]
        exact fun hleft => h.default_ne_patch hi ht hleft.1
      rw [hfalse]
      rfl
    · refine .inr ⟨t, ht, owner, howner, reference, hreference, ?_⟩
      have hany : patched = (i.patch? app family).any (·.supplies reference) := by
        rw [Bool.eq_iff_iff, hpatched]
        simp [LeftToPatch, ht, Option.any_eq_true]
      rw [hany]

theorem mem_encounters_iff (h : Placed r) {e : Encounter} :
    e ∈ r.encounters ↔
      ∃ i, (e.installation, i) ∈ r.installations.entries ∧ e.app ∈ r.apps ∧
        r.HasTemplate i e.app e.family e.source ∧ r.BringsIn e.source e.owner ∧
        e.reference ∈ e.owner.reads.keys ∧
        ∃ patched : Bool,
          (patched = true ↔ r.LeftToPatch i e.app e.family e.source e.reference) ∧
          e.outcome = outcomeOf e.family (r.layersOf i e.family) patched e.reference := by
  have hfamily : ∀ name i app, e ∈ r.encountersOfApp name i app .config ++
      r.encountersOfApp name i app .secret ↔ ∃ family, e ∈ r.encountersOfApp name i app family := by
    intro name i app
    rw [List.mem_append]
    constructor
    · rintro (he | he)
      · exact ⟨.config, he⟩
      · exact ⟨.secret, he⟩
    · rintro ⟨_ | _, he⟩
      · exact .inl he
      · exact .inr he
  simp only [encounters, List.mem_flatMap, hfamily]
  constructor
  · rintro ⟨⟨name, i⟩, hi, app, happ, family, he⟩
    obtain ⟨t, ht, owner, howner, reference, hreference, patched, hpatched, rfl⟩ :=
      (mem_encountersOfApp_iff h hi).1 he
    have howner := (mem_closure_iff h (mem_of_hasTemplate hi ht)).1 howner
    exact ⟨i, hi, happ, ht, howner, hreference, patched, hpatched, rfl⟩
  · rintro ⟨i, hi, happ, ht, howner, hreference, patched, hpatched, houtcome⟩
    refine ⟨(e.installation, i), hi, e.app, happ, e.family, (mem_encountersOfApp_iff h hi).2 ?_⟩
    have howner := (mem_closure_iff h (mem_of_hasTemplate hi ht)).2 howner
    refine ⟨e.source, ht, e.owner, howner, e.reference, hreference, patched, hpatched, ?_⟩
    rw [← houtcome]

/-! ## What is taken and what is lacking -/

/-- A template takes a leaf from a layer: the layer is the first to give leaves for a reference
that the template brings in, and the leaf is one of them. -/
def Takes (r : Repository) (t : TemplateFile) (layer : Layer) (leaf : String) : Prop :=
  ∃ i ∈ r.installations.entries, ∃ app ∈ r.apps, ∃ family, r.HasTemplate i.2 app family t ∧
    ∃ owner, r.BringsIn t owner ∧ ∃ reference ∈ owner.reads.keys,
      GivesFirst (r.layersOf i.2 family) reference layer ∧ leaf ∈ layer.resolve reference ∧
        ¬(family = .secret ∧ r.LeftToPatch i.2 app family t reference)

/-- A template lacks a reference in an installation: no layer gives leaves for it to some template
that brings its owner in, and that template does not leave it to a patch. -/
def Lacks (r : Repository) (owner : TemplateFile) (reference name : String) : Prop :=
  ∃ i, (name, i) ∈ r.installations.entries ∧ ∃ app ∈ r.apps, ∃ family t,
    r.HasTemplate i app family t ∧ r.BringsIn t owner ∧
      (∀ l ∈ r.layersOf i family, l.resolve reference = []) ∧
        ¬r.LeftToPatch i app family t reference

theorem takes_iff_encounter (h : Placed r) {t : TemplateFile} {layer : Layer} {leaf : String} :
    r.Takes t layer leaf ↔ ∃ e ∈ r.encounters, e.source = t ∧
      ∃ leaves, e.outcome = .given layer leaves ∧ leaf ∈ leaves := by
  constructor
  · rintro ⟨⟨name, i⟩, hi, app, happ, family, ht, owner, howner, reference, hreference, hgives,
      hleaf, hleft⟩
    classical
    have hpatched := decide_eq_true_iff (p := r.LeftToPatch i app family t reference)
    have houtcome : Outcome.given layer (layer.resolve reference) =
        outcomeOf family (r.layersOf i family) (decide (r.LeftToPatch i app family t reference))
          reference := (outcomeOf_eq_given_iff.2 ⟨by simpa using hleft, hgives, rfl⟩).symm
    refine ⟨⟨name, app, family, t, owner, reference, .given layer (layer.resolve reference)⟩, ?_,
      rfl, layer.resolve reference, rfl, hleaf⟩
    exact (mem_encounters_iff h).2 ⟨i, hi, happ, ht, howner, hreference, _, hpatched, houtcome⟩
  · rintro ⟨e, he, rfl, leaves, houtcome, hleaf⟩
    obtain ⟨i, hi, happ, ht, howner, hreference, patched, hpatched, heq⟩ :=
      (mem_encounters_iff h).1 he
    obtain ⟨hleft, hgives, rfl⟩ := outcomeOf_eq_given_iff.1 (heq.symm.trans houtcome)
    refine ⟨(e.installation, i), hi, e.app, happ, e.family, ht, e.owner, howner, e.reference,
      hreference, hgives, hleaf, ?_⟩
    rwa [← hpatched]

theorem lacks_iff_encounter (h : Placed r) {owner : TemplateFile} {reference name : String}
    (hreference : reference ∈ owner.reads.keys) :
    r.Lacks owner reference name ↔ ∃ e ∈ r.encounters, e.installation = name ∧ e.owner = owner ∧
      e.reference = reference ∧ e.outcome = .missing := by
  constructor
  · rintro ⟨i, hi, app, happ, family, t, ht, howner, hnone, hleft⟩
    have hpatched : false = true ↔ r.LeftToPatch i app family t reference := by simp [hleft]
    have houtcome : Outcome.missing = outcomeOf family (r.layersOf i family) false reference :=
      (outcomeOf_eq_missing_iff.2 ⟨rfl, hnone⟩).symm
    refine ⟨⟨name, app, family, t, owner, reference, .missing⟩, ?_, rfl, rfl, rfl, rfl⟩
    exact (mem_encounters_iff h).2 ⟨i, hi, happ, ht, howner, hreference, _, hpatched, houtcome⟩
  · rintro ⟨e, he, rfl, rfl, rfl, houtcome⟩
    obtain ⟨i, hi, happ, ht, howner, _, patched, hpatched, heq⟩ := (mem_encounters_iff h).1 he
    obtain ⟨rfl, hnone⟩ := outcomeOf_eq_missing_iff.1 (heq.symm.trans houtcome)
    exact ⟨i, hi, e.app, happ, e.family, e.source, ht, howner, hnone, by simpa using hpatched⟩

end LayerLint.Repository
