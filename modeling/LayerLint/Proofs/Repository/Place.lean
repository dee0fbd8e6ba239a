-- Where the files of a repository stand. The names in a path are plain: none of them holds a
-- slash. So the path of a file says its place, and no two files of a repository have one path.
import LayerLint.Repository.Basic

namespace LayerLint

/-- A segment of a path holds no slash. -/
def Plain (name : String) : Prop := '/' ∉ name.toList

/-! ## Places -/

/-- Where a template stands. A fragment may have any name that a listing gives. -/
inductive TemplatePlace where
  | default (app : String) (family : Family)
  | patch (installation app : String) (family : Family)
  | fragment (name : String)

/-- Where a layer stands. -/
inductive LayerPlace where
  | base
  | override (installation : String)
  | secret (installation : String)

namespace TemplatePlace

def segments : TemplatePlace → List String
  | default app .config => Layout.segmentsOf (.appTemplate app)
  | default app .secret => Layout.segmentsOf (.appSecretTemplate app)
  | patch installation app .config => Layout.segmentsOf (.templatePatch installation app)
  | patch installation app .secret => Layout.segmentsOf (.secretTemplatePatch installation app)
  | fragment name => [Layout.fragments, name]

def path (place : TemplatePlace) : String := Layout.pathOf place.segments

/-- Whether the names of a place are segments. -/
def NamesPlain : TemplatePlace → Prop
  | default app _ => Plain app
  | patch installation app _ => Plain installation ∧ Plain app
  | fragment name => Plain name

/-- The app of a place. -/
def app? : TemplatePlace → Option String
  | default app _ => some app
  | patch _ app _ => some app
  | fragment _ => none

theorem cutString_path {place : TemplatePlace} (h : place.NamesPlain) :
    Text.cutString '/' place.path = place.segments := by
  apply Layout.cutString_pathOf
  · rcases place with ⟨app, _ | _⟩ | ⟨i, app, _ | _⟩ | name <;> exact List.cons_ne_nil _ _
  · rcases place with ⟨app, _ | _⟩ | ⟨i, app, _ | _⟩ | name <;>
      simp_all [NamesPlain, Plain, segments, Layout.segmentsOf, Layout.fragments]

theorem segments_inj {p q : TemplatePlace} (h : p.segments = q.segments) : p = q := by
  rcases p with ⟨a, _ | _⟩ | ⟨i, a, _ | _⟩ | n <;> rcases q with ⟨b, _ | _⟩ | ⟨j, b, _ | _⟩ | m <;>
    simp_all [segments, Layout.segmentsOf, Layout.fragments]

theorem path_inj {p q : TemplatePlace} (hp : p.NamesPlain) (hq : q.NamesPlain)
    (h : p.path = q.path) : p = q :=
  segments_inj (by rw [← cutString_path hp, ← cutString_path hq, h])

/-- The path of a fragment says its name, whatever the name holds. -/
theorem fragment_path_inj {name other : String}
    (h : (fragment name).path = (fragment other).path) : name = other := by
  have hlists := congrArg String.toList h
  simp only [path, segments, Layout.pathOf, List.map_cons, List.map_nil, Text.paste,
    String.toList_ofList] at hlists
  exact String.toList_inj.1 (List.cons.inj (List.append_cancel_left hlists)).2

/-- The path of a template names its app. -/
theorem identify_path {place : TemplatePlace} (h : place.NamesPlain) :
    (Layout.identify place.path).app = place.app? := by
  rw [Layout.identify, cutString_path h]
  rcases place with ⟨app, _ | _⟩ | ⟨i, app, _ | _⟩ | name <;> rfl

end TemplatePlace

namespace LayerPlace

def segments : LayerPlace → List String
  | base => Layout.segmentsOf .config
  | override installation => Layout.segmentsOf (.configPatch installation)
  | secret installation => Layout.segmentsOf (.secret installation)

def path (place : LayerPlace) : String := Layout.pathOf place.segments

/-- Whether the names of a place are segments. -/
def NamesPlain : LayerPlace → Prop
  | base => True
  | override installation => Plain installation
  | secret installation => Plain installation

theorem cutString_path {place : LayerPlace} (h : place.NamesPlain) :
    Text.cutString '/' place.path = place.segments := by
  apply Layout.cutString_pathOf
  · rcases place with _ | i | i <;> exact List.cons_ne_nil _ _
  · rcases place with _ | i | i <;>
      simp_all [NamesPlain, Plain, segments, Layout.segmentsOf]

theorem segments_inj {p q : LayerPlace} (h : p.segments = q.segments) : p = q := by
  rcases p with _ | i | i <;> rcases q with _ | j | j <;> simp_all [segments, Layout.segmentsOf]

theorem path_inj {p q : LayerPlace} (hp : p.NamesPlain) (hq : q.NamesPlain)
    (h : p.path = q.path) : p = q :=
  segments_inj (by rw [← cutString_path hp, ← cutString_path hq, h])

end LayerPlace

theorem AppTemplates.mem_toList_iff {a : AppTemplates} {t : TemplateFile} :
    t ∈ a.toList ↔ ∃ family, a.get? family = some t := by
  constructor
  · intro h
    rcases List.mem_append.1 h with h | h
    · exact ⟨.config, Option.mem_toList.1 h⟩
    · exact ⟨.secret, Option.mem_toList.1 h⟩
  · rintro ⟨_ | _, h⟩
    · exact List.mem_append_left _ (Option.mem_toList.2 h)
    · exact List.mem_append_right _ (Option.mem_toList.2 h)

namespace Repository

/-! ## What stands at a place -/

/-- The template at a place. -/
def template? (r : Repository) : TemplatePlace → Option TemplateFile
  | .default app family => r.defaultTemplate? app family
  | .patch installation app family => (r.installations.get? installation).bind (·.patch? app family)
  | .fragment name => r.fragments.get? (Layout.pathOf [Layout.fragments, name])

/-- The layer at a place. -/
def layer? (r : Repository) : LayerPlace → Option Layer
  | .base => some r.base
  | .override installation => (r.installations.get? installation).map (·.override)
  | .secret installation => (r.installations.get? installation).map (·.secret)

/-- Every file stands at its place. -/
structure Placed (r : Repository) : Prop where
  template : ∀ place t, r.template? place = some t → place.NamesPlain ∧ t.path = place.path
  layer : ∀ place l, r.layer? place = some l → place.NamesPlain ∧ l.path = place.path
  fragment : ∀ path t, r.fragments.get? path = some t →
    ∃ name, path = (TemplatePlace.fragment name).path

variable {r : Repository}

theorem mem_distinct_iff {names : List String} {name : String} :
    name ∈ distinct names ↔ name ∈ names := by
  simp [distinct, SortedMap.mem_keys_ofList_iff]

theorem nodup_distinct (names : List String) : (distinct names).Nodup :=
  SortedMap.nodup_keys _

/-! ## The files of a repository, by their places -/

theorem mem_of_defaultTemplate? {app : String} {family : Family} {t : TemplateFile}
    (h : r.defaultTemplate? app family = some t) : t ∈ r.templates := by
  obtain ⟨a, ha, ht⟩ := Option.bind_eq_some_iff.1 h
  refine List.mem_append_left _ (List.mem_append_left _ (List.mem_flatMap.2 ⟨(app, a), ?_, ?_⟩))
  · exact SortedMap.get?_eq_some_iff.1 ha
  · exact AppTemplates.mem_toList_iff.2 ⟨family, ht⟩

theorem mem_of_patch? {name : String} {i : Installation} {app : String} {family : Family}
    {t : TemplateFile} (hi : (name, i) ∈ r.installations.entries)
    (h : i.patch? app family = some t) : t ∈ r.templates := by
  obtain ⟨a, ha, ht⟩ := Option.bind_eq_some_iff.1 h
  refine List.mem_append_left _ (List.mem_append_right _ (List.mem_flatMap.2 ⟨(name, i), hi, ?_⟩))
  refine List.mem_flatMap.2 ⟨(app, a), SortedMap.get?_eq_some_iff.1 ha, ?_⟩
  exact AppTemplates.mem_toList_iff.2 ⟨family, ht⟩

theorem mem_of_fragment {path : String} {t : TemplateFile} (h : r.fragments.get? path = some t) :
    t ∈ r.templates :=
  List.mem_append_right _ (List.mem_map.2 ⟨(path, t), SortedMap.get?_eq_some_iff.1 h, rfl⟩)

/-- The templates that stand under an app, in the defaults or in the patches, are found there. -/
theorem get?_bind_of_mem {templates : SortedMap AppTemplates} {app : String} {a : AppTemplates}
    (ha : (app, a) ∈ templates.entries) {family : Family} {t : TemplateFile}
    (ht : a.get? family = some t) : (templates.get? app).bind (·.get? family) = some t :=
  Option.bind_eq_some_iff.2 ⟨a, SortedMap.get?_eq_some_iff.2 ha, ht⟩

theorem template?_patch {name : String} {i : Installation}
    (hi : (name, i) ∈ r.installations.entries) {app : String} {family : Family} {t : TemplateFile}
    (ht : i.patch? app family = some t) : r.template? (.patch name app family) = some t :=
  Option.bind_eq_some_iff.2 ⟨i, SortedMap.get?_eq_some_iff.2 hi, ht⟩

theorem template?_default_of_mem {e : String × AppTemplates} (he : e ∈ r.defaults.entries)
    {t : TemplateFile} (ht : t ∈ e.2.toList) :
    ∃ family, r.template? (.default e.1 family) = some t := by
  obtain ⟨family, ht⟩ := AppTemplates.mem_toList_iff.1 ht
  exact ⟨family, get?_bind_of_mem he ht⟩

theorem template?_patch_of_mem {i : String × Installation} (hi : i ∈ r.installations.entries)
    {e : String × AppTemplates} (he : e ∈ i.2.patches.entries) {t : TemplateFile}
    (ht : t ∈ e.2.toList) : ∃ family, r.template? (.patch i.1 e.1 family) = some t := by
  obtain ⟨family, ht⟩ := AppTemplates.mem_toList_iff.1 ht
  exact ⟨family, template?_patch hi (get?_bind_of_mem he ht)⟩

theorem mem_of_template? {place : TemplatePlace} {t : TemplateFile}
    (h : r.template? place = some t) : t ∈ r.templates := by
  rcases place with ⟨app, family⟩ | ⟨i, app, family⟩ | fragment
  · exact mem_of_defaultTemplate? h
  · obtain ⟨installation, hi, ht⟩ := Option.bind_eq_some_iff.1 h
    exact mem_of_patch? (SortedMap.get?_eq_some_iff.1 hi) ht
  · exact mem_of_fragment h

theorem layer?_override {name : String} {i : Installation}
    (hi : (name, i) ∈ r.installations.entries) : r.layer? (.override name) = some i.override :=
  Option.map_eq_some_iff.2 ⟨i, SortedMap.get?_eq_some_iff.2 hi, rfl⟩

theorem layer?_secret {name : String} {i : Installation}
    (hi : (name, i) ∈ r.installations.entries) : r.layer? (.secret name) = some i.secret :=
  Option.map_eq_some_iff.2 ⟨i, SortedMap.get?_eq_some_iff.2 hi, rfl⟩

theorem mem_layers_of_override {i : String × Installation}
    (hi : i ∈ r.installations.entries) : i.2.override ∈ r.layers :=
  List.mem_cons_of_mem _ (List.mem_flatMap.2 ⟨i, hi, List.mem_cons_self⟩)

theorem mem_layers_of_secret {i : String × Installation}
    (hi : i ∈ r.installations.entries) : i.2.secret ∈ r.layers :=
  List.mem_cons_of_mem _
    (List.mem_flatMap.2 ⟨i, hi, List.mem_cons_of_mem _ List.mem_cons_self⟩)

theorem mem_of_layer? {place : LayerPlace} {l : Layer} (h : r.layer? place = some l) :
    l ∈ r.layers := by
  cases place with
  | base =>
    cases h
    exact List.mem_cons_self
  | override name =>
    obtain ⟨i, hi, rfl⟩ := Option.map_eq_some_iff.1 h
    exact mem_layers_of_override (SortedMap.get?_eq_some_iff.1 hi)
  | secret name =>
    obtain ⟨i, hi, rfl⟩ := Option.map_eq_some_iff.1 h
    exact mem_layers_of_secret (SortedMap.get?_eq_some_iff.1 hi)

namespace Placed

theorem template?_fragment (h : Placed r) {path : String} {t : TemplateFile}
    (ht : (path, t) ∈ r.fragments.entries) : ∃ name, r.template? (.fragment name) = some t := by
  have hget := SortedMap.get?_eq_some_iff.2 ht
  obtain ⟨name, rfl⟩ := h.fragment path t hget
  exact ⟨name, hget⟩

theorem template_of_mem (h : Placed r) {t : TemplateFile} (ht : t ∈ r.templates) :
    ∃ place, r.template? place = some t := by
  rcases List.mem_append.1 ht with ht | ht
  · rcases List.mem_append.1 ht with ht | ht
    · obtain ⟨e, he, ht⟩ := List.mem_flatMap.1 ht
      obtain ⟨family, ht⟩ := template?_default_of_mem he ht
      exact ⟨.default e.1 family, ht⟩
    · obtain ⟨i, hi, ht⟩ := List.mem_flatMap.1 ht
      obtain ⟨e, he, ht⟩ := List.mem_flatMap.1 ht
      obtain ⟨family, ht⟩ := template?_patch_of_mem hi he ht
      exact ⟨.patch i.1 e.1 family, ht⟩
  · obtain ⟨e, he, rfl⟩ := List.mem_map.1 ht
    obtain ⟨name, ht⟩ := h.template?_fragment he
    exact ⟨.fragment name, ht⟩

/-- A fragment is kept by its path. -/
theorem path_of_fragment (h : Placed r) {path : String} {t : TemplateFile}
    (ht : r.fragments.get? path = some t) : t.path = path := by
  obtain ⟨name, rfl⟩ := h.fragment path t ht
  exact (h.template (.fragment name) t ht).2

/-- The templates of two places have two paths. -/
theorem templatePlace_eq (h : Placed r) {p q : TemplatePlace} {t u : TemplateFile}
    (hp : r.template? p = some t) (hq : r.template? q = some u) (heq : t.path = u.path) :
    p = q := by
  obtain ⟨pplain, ppath⟩ := h.template p t hp
  obtain ⟨qplain, qpath⟩ := h.template q u hq
  exact TemplatePlace.path_inj pplain qplain (by rw [← ppath, ← qpath, heq])

/-- No two templates have one path. -/
theorem template_eq (h : Placed r) {t u : TemplateFile} (ht : t ∈ r.templates)
    (hu : u ∈ r.templates) (heq : t.path = u.path) : t = u := by
  obtain ⟨p, hp⟩ := h.template_of_mem ht
  obtain ⟨q, hq⟩ := h.template_of_mem hu
  cases h.templatePlace_eq hp hq heq
  exact Option.some.inj (hp.symm.trans hq)

/-- No app has a template twice in one place. -/
theorem nodup_toList (h : Placed r) {a : AppTemplates} {p : Family → TemplatePlace}
    (hp : p .config ≠ p .secret)
    (ha : ∀ family t, a.get? family = some t → r.template? (p family) = some t) :
    a.toList.Nodup := by
  refine List.nodup_append.2 ⟨?_, ?_, ?_⟩
  · cases a.config <;> simp
  · cases a.secret <;> simp
  · intro t ht u hu heq
    have ht := ha .config t (Option.mem_toList.1 ht)
    have hu := ha .secret u (Option.mem_toList.1 hu)
    exact hp (h.templatePlace_eq ht hu (congrArg TemplateFile.path heq))

/-- No template stands twice in the list of all templates. -/
theorem nodup_templates (h : Placed r) : r.templates.Nodup := by
  have hplace : ∀ {p q : TemplatePlace} {t : TemplateFile}, r.template? p = some t →
      r.template? q = some t → p = q := fun hp hq => h.templatePlace_eq hp hq rfl
  refine List.nodup_append.2 ⟨List.nodup_append.2 ⟨?_, ?_, ?_⟩, ?_, ?_⟩
  · refine r.defaults.nodup_flatMap_entries (fun e he => ?_) fun e he d hd t ht hu => ?_
    · exact h.nodup_toList (p := TemplatePlace.default e.1) (by simp)
        fun family t ht => get?_bind_of_mem he ht
    · obtain ⟨family, ht⟩ := template?_default_of_mem he ht
      obtain ⟨other, hu⟩ := template?_default_of_mem hd hu
      exact (TemplatePlace.default.inj (hplace ht hu)).1
  · refine r.installations.nodup_flatMap_entries (fun i hi => ?_) fun i hi j hj t ht hu => ?_
    · refine i.2.patches.nodup_flatMap_entries (fun e he => ?_) fun e he d hd t ht hu => ?_
      · exact h.nodup_toList (p := TemplatePlace.patch i.1 e.1) (by simp)
          fun family t ht => template?_patch hi (get?_bind_of_mem he ht)
      · obtain ⟨family, ht⟩ := template?_patch_of_mem hi he ht
        obtain ⟨other, hu⟩ := template?_patch_of_mem hi hd hu
        exact (TemplatePlace.patch.inj (hplace ht hu)).2.1
    · obtain ⟨e, he, ht⟩ := List.mem_flatMap.1 ht
      obtain ⟨d, hd, hu⟩ := List.mem_flatMap.1 hu
      obtain ⟨family, ht⟩ := template?_patch_of_mem hi he ht
      obtain ⟨other, hu⟩ := template?_patch_of_mem hj hd hu
      exact (TemplatePlace.patch.inj (hplace ht hu)).1
  · rintro t ht u hu rfl
    obtain ⟨e, he, ht⟩ := List.mem_flatMap.1 ht
    obtain ⟨i, hi, hu⟩ := List.mem_flatMap.1 hu
    obtain ⟨d, hd, hu⟩ := List.mem_flatMap.1 hu
    obtain ⟨family, ht⟩ := template?_default_of_mem he ht
    obtain ⟨other, hu⟩ := template?_patch_of_mem hi hd hu
    cases hplace ht hu
  · refine List.pairwise_map.2 (r.fragments.ascending.imp_of_mem fun {e d} he hd hlt heq => ?_)
    have hpath : e.1 = d.1 := by
      rw [← h.path_of_fragment (SortedMap.get?_eq_some_iff.2 he), heq,
        h.path_of_fragment (SortedMap.get?_eq_some_iff.2 hd)]
    exact String.lt_irrefl d.1 (hpath ▸ hlt)
  · rintro t ht u hu rfl
    obtain ⟨e, he, rfl⟩ := List.mem_map.1 hu
    obtain ⟨name, hu⟩ := h.template?_fragment he
    rcases List.mem_append.1 ht with ht | ht
    · obtain ⟨d, hd, ht⟩ := List.mem_flatMap.1 ht
      obtain ⟨family, ht⟩ := template?_default_of_mem hd ht
      cases hplace ht hu
    · obtain ⟨i, hi, ht⟩ := List.mem_flatMap.1 ht
      obtain ⟨d, hd, ht⟩ := List.mem_flatMap.1 ht
      obtain ⟨family, ht⟩ := template?_patch_of_mem hi hd ht
      cases hplace ht hu

/-- No two templates in the list of all templates have one path. -/
theorem nodup_template_paths (h : Placed r) : (r.templates.map fun t => t.path).Nodup := by
  refine List.pairwise_map.2 (h.nodup_templates.imp_of_mem ?_)
  intro t u ht hu hne heq
  exact hne (h.template_eq ht hu heq)

theorem layer_of_mem {l : Layer} (hl : l ∈ r.layers) : ∃ place, r.layer? place = some l := by
  rcases List.mem_cons.1 hl with rfl | hl
  · exact ⟨.base, rfl⟩
  · obtain ⟨⟨name, i⟩, hi, hl⟩ := List.mem_flatMap.1 hl
    simp only [List.mem_cons, List.not_mem_nil, or_false] at hl
    rcases hl with rfl | rfl
    · exact ⟨.override name, layer?_override hi⟩
    · exact ⟨.secret name, layer?_secret hi⟩

/-- Layers with one path stand at one place, and are one layer. -/
theorem layer?_eq (h : Placed r) {p q : LayerPlace} {l m : Layer} (hp : r.layer? p = some l)
    (hq : r.layer? q = some m) (heq : l.path = m.path) : p = q ∧ l = m := by
  obtain ⟨pplain, ppath⟩ := h.layer p l hp
  obtain ⟨qplain, qpath⟩ := h.layer q m hq
  have hpq : p = q := LayerPlace.path_inj pplain qplain (by rw [← ppath, ← qpath, heq])
  subst hpq
  exact ⟨rfl, Option.some.inj (hp.symm.trans hq)⟩

/-- A layer stands at one place only. -/
theorem layerPlace_eq (h : Placed r) {p q : LayerPlace} {l : Layer} (hp : r.layer? p = some l)
    (hq : r.layer? q = some l) : p = q :=
  (h.layer?_eq hp hq rfl).1

/-- No two layers have one path. -/
theorem layer_eq (h : Placed r) {l m : Layer} (hl : l ∈ r.layers) (hm : m ∈ r.layers)
    (heq : l.path = m.path) : l = m := by
  obtain ⟨p, hp⟩ := layer_of_mem hl
  obtain ⟨q, hq⟩ := layer_of_mem hm
  exact (h.layer?_eq hp hq heq).2

/-- No two layers in the list of all layers have one path. -/
theorem nodup_layer_paths (h : Placed r) : (r.layers.map fun l => l.path).Nodup := by
  have hplace : ∀ i ∈ r.installations.entries, ∀ l ∈ [i.2.override, i.2.secret],
      r.layer? (.override i.1) = some l ∨ r.layer? (.secret i.1) = some l := by
    intro i hi l hl
    simp only [List.mem_cons, List.not_mem_nil, or_false] at hl
    rcases hl with rfl | rfl
    · exact .inl (layer?_override hi)
    · exact .inr (layer?_secret hi)
  refine List.pairwise_map.2 (List.pairwise_cons.2 ⟨?_, List.pairwise_flatMap.2 ⟨?_, ?_⟩⟩)
  · intro l hl heq
    obtain ⟨i, hi, hl⟩ := List.mem_flatMap.1 hl
    rcases hplace i hi l hl with hl | hl
    · cases (h.layer?_eq (p := .base) rfl hl heq).1
    · cases (h.layer?_eq (p := .base) rfl hl heq).1
  · intro i hi
    refine List.pairwise_pair.2 fun heq => ?_
    cases (h.layer?_eq (layer?_override hi) (layer?_secret hi) heq).1
  · refine r.installations.ascending.imp_of_mem ?_
    intro i j hi hj hlt l hl k hk heq
    rcases hplace i hi l hl with hl | hl
    · rcases hplace j hj k hk with hk | hk
      · exact String.ne_of_lt hlt (LayerPlace.override.inj (h.layer?_eq hl hk heq).1)
      · cases (h.layer?_eq hl hk heq).1
    · rcases hplace j hj k hk with hk | hk
      · cases (h.layer?_eq hl hk heq).1
      · exact String.ne_of_lt hlt (LayerPlace.secret.inj (h.layer?_eq hl hk heq).1)

/-- Layers that each installation has at a place of its own have different paths. -/
theorem nodup_installation_paths (h : Placed r) {place : String → LayerPlace}
    (hplace : ∀ name other, place name = place other → name = other)
    {layer : Installation → Layer}
    (hlayer : ∀ name i, (name, i) ∈ r.installations.entries →
      r.layer? (place name) = some (layer i)) :
    (r.installations.entries.map fun i => (layer i.2).path).Nodup := by
  refine List.pairwise_map.2 (r.installations.ascending.imp_of_mem ?_)
  intro i j hi hj hlt heq
  have hsame := (h.layer?_eq (hlayer i.1 i.2 hi) (hlayer j.1 j.2 hj) heq).1
  exact String.ne_of_lt hlt (hplace _ _ hsame)

theorem nodup_override_paths (h : Placed r) :
    (r.installations.entries.map fun i => i.2.override.path).Nodup :=
  h.nodup_installation_paths (fun _ _ => LayerPlace.override.inj) fun _ _ => layer?_override

theorem nodup_secret_paths (h : Placed r) :
    (r.installations.entries.map fun i => i.2.secret.path).Nodup :=
  h.nodup_installation_paths (fun _ _ => LayerPlace.secret.inj) fun _ _ => layer?_secret

/-- No two installations have overrides with one path. -/
theorem entry_eq_of_override_path (h : Placed r) {name other : String} {i j : Installation}
    (hi : (name, i) ∈ r.installations.entries) (hj : (other, j) ∈ r.installations.entries)
    (heq : i.override.path = j.override.path) : (name, i) = (other, j) := by
  cases (h.layer?_eq (layer?_override hi) (layer?_override hj) heq).1
  cases SortedMap.entry_eq hi hj
  rfl

end Placed

end Repository

end LayerLint
