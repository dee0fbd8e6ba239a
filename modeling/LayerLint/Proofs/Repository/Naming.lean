-- What the name of a file says. Names of installations and apps may be any texts without a slash,
-- and that of a fragment any text at all. The path that is made of them can be read back: it says
-- which file it is, whose file it is, and that its loader will take it.
import LayerLint.Proofs.Repository.Load

namespace LayerLint

namespace LayoutFile

/-- Whether the names of a file are segments. The name of a fragment need not be one. -/
def NamesPlain : LayoutFile → Prop
  | config => True
  | configPatch installation => Plain installation
  | secret installation => Plain installation
  | appTemplate app => Plain app
  | appSecretTemplate app => Plain app
  | templatePatch installation app => Plain installation ∧ Plain app
  | secretTemplatePatch installation app => Plain installation ∧ Plain app
  | fragment _ => True

/-- The installation and the app that a file is made for. -/
def owner : LayoutFile → Layout.Identity
  | config => ⟨none, none⟩
  | configPatch installation => ⟨some installation, none⟩
  | secret installation => ⟨some installation, none⟩
  | appTemplate app => ⟨none, some app⟩
  | appSecretTemplate app => ⟨none, some app⟩
  | templatePatch installation app => ⟨some installation, some app⟩
  | secretTemplatePatch installation app => ⟨some installation, some app⟩
  | fragment _ => ⟨none, none⟩

/-- What a file is loaded as. -/
def form : LayoutFile → FileForm
  | config => .values
  | configPatch _ => .values
  | secret _ => .values
  | appTemplate _ => .template
  | appSecretTemplate _ => .template
  | templatePatch _ _ => .template
  | secretTemplatePatch _ _ => .template
  | fragment _ => .template

/-! ## The segments of a path -/

/-- What the path of a file is cut into. The name of a fragment may be cut, too. -/
def parts : LayoutFile → List String
  | fragment name => Layout.fragments :: Text.cutString '/' (name ++ ".yaml.template")
  | file => Layout.segmentsOf file

theorem cutString_path {file : LayoutFile} (h : file.NamesPlain) :
    Text.cutString '/' file.path = file.parts := by
  cases file with
  | fragment name =>
    have hplain : '/' ∉ "include".toList := by decide
    unfold path parts Text.cutString Layout.pathOf Layout.segmentsOf
    simp only [List.map_cons, List.map_nil, Text.paste, String.toList_ofList]
    rw [Text.cut_append _ hplain]
    rfl
  | _ =>
    apply Layout.cutString_pathOf
    · exact List.cons_ne_nil _ _
    · simp_all [NamesPlain, Plain, Layout.segmentsOf]

theorem fragment_parts_inj {name other : String}
    (h : (fragment name).parts = (fragment other).parts) : name = other := by
  have hcut : Text.cutString '/' (name ++ ".yaml.template") =
      Text.cutString '/' (other ++ ".yaml.template") := List.tail_eq_of_cons_eq h
  have hname : name ++ ".yaml.template" = other ++ ".yaml.template" := by
    rw [← Layout.pathOf_cutString (name ++ _), hcut, Layout.pathOf_cutString]
  exact (String.append_left_inj _).1 hname

/-- The parts of a path say which file it is. No name of an installation or of an app can be
mistaken for another segment, as every file has its own number of segments or its own last one. -/
theorem parts_inj {file other : LayoutFile} (h : file.parts = other.parts) : file = other := by
  cases file with
  | fragment name =>
    cases other with
    | fragment name' => rw [fragment_parts_inj h]
    | _ => simp [parts, Layout.segmentsOf, Layout.fragments] at h
  | _ => cases other <;> simp_all [parts, Layout.segmentsOf, Layout.fragments]

/-- The directories in a path say whose file it is. -/
theorem identityOf_parts (file : LayoutFile) : Layout.identityOf file.parts = file.owner := by
  cases file with
  | fragment name =>
    unfold parts Layout.fragments
    simp [Layout.identityOf, owner]
  | _ => rfl

theorem path_inj {file other : LayoutFile} (h : file.NamesPlain) (hother : other.NamesPlain)
    (heq : file.path = other.path) : file = other := by
  apply parts_inj
  rw [← cutString_path h, ← cutString_path hother, heq]

end LayoutFile

/-! ## The end of a path -/

/-- Whether the path of a file may be loaded in a form. -/
def FileForm.admits : FileForm → String → Bool
  | .values => Layout.isValueFile
  | .template => Layout.isTemplateFile

/-- What ends as a form requires may stand behind any other text. -/
theorem FileForm.admits_of_suffix {form : FileForm} {name path : String}
    (h : form.admits name = true) (hsuffix : name.toList <:+ path.toList) :
    form.admits path = true := by
  have hends : ∀ {stop : String}, Text.endsWith name stop = true →
      Text.endsWith path stop = true := by
    intro stop hstop
    rw [Text.endsWith_iff] at hstop ⊢
    exact hstop.trans hsuffix
  cases form with
  | values =>
    unfold admits Layout.isValueFile at h ⊢
    rw [Bool.or_eq_true] at h ⊢
    exact h.imp hends hends
  | template =>
    unfold admits Layout.isTemplateFile at h ⊢
    rw [Bool.or_eq_true] at h ⊢
    exact h.imp hends hends

/-- A path ends with its last segment. -/
theorem Layout.suffix_pathOf (segments : List String) (last : String) :
    last.toList <:+ (pathOf (segments ++ [last])).toList := by
  have hlast : (pathOf [last]).toList = last.toList := String.toList_ofList
  by_cases hne : segments = []
  · have hpath : (pathOf (segments ++ [last])).toList = last.toList := by
      rw [hne, List.nil_append, hlast]
    exact hpath ▸ List.suffix_refl _
  · rw [toList_pathOf_append hne (List.cons_ne_nil _ _), hlast]
    exact (List.suffix_cons '/' _).trans (List.suffix_append _ _)

theorem FileForm.admits_pathOf {form : FileForm} (segments : List String) {last : String}
    (h : form.admits last = true) : form.admits (Layout.pathOf (segments ++ [last])) = true :=
  admits_of_suffix h (Layout.suffix_pathOf segments last)

/-- The name of a file ends as its loader requires. -/
theorem LayoutFile.admits_path (file : LayoutFile) : file.form.admits file.path = true := by
  cases file with
  | config =>
    have hlast : FileForm.values.admits "config.yaml" = true := by decide
    exact FileForm.admits_pathOf ["default"] hlast
  | configPatch i =>
    have hlast : FileForm.values.admits "config.yaml.patch" = true := by decide
    exact FileForm.admits_pathOf ["installations", i] hlast
  | secret i =>
    have hlast : FileForm.values.admits "secret.yaml" = true := by decide
    exact FileForm.admits_pathOf ["installations", i] hlast
  | appTemplate a =>
    have hlast : FileForm.template.admits "configmap-values.yaml.template" = true := by decide
    exact FileForm.admits_pathOf ["default", "apps", a] hlast
  | appSecretTemplate a =>
    have hlast : FileForm.template.admits "secret-values.yaml.template" = true := by decide
    exact FileForm.admits_pathOf ["default", "apps", a] hlast
  | templatePatch i a =>
    have hlast : FileForm.template.admits "configmap-values.yaml.patch" = true := by decide
    exact FileForm.admits_pathOf ["installations", i, "apps", a] hlast
  | secretTemplatePatch i a =>
    have hlast : FileForm.template.admits "secret-values.yaml.patch" = true := by decide
    exact FileForm.admits_pathOf ["installations", i, "apps", a] hlast
  | fragment name =>
    have hlast : FileForm.template.admits (name ++ ".yaml.template") = true := by
      have hending : FileForm.template.admits ".yaml.template" = true := by decide
      apply FileForm.admits_of_suffix hending
      rw [String.toList_append]
      exact List.suffix_append _ _
    exact FileForm.admits_pathOf [Layout.fragments] hlast

/-! ## Failures to load -/

namespace Repository

section Failures

variable {α β γ : Type} {P : LoadError → Prop}

/-- If a step fails, it fails in a certain way. -/
def FailsBy (P : LoadError → Prop) (x : Except LoadError α) : Prop :=
  ∀ e, x = .error e → P e

theorem failsBy_ok (a : α) : FailsBy P (.ok a) := by
  intro e h
  cases h

theorem FailsBy.bind {x : Except LoadError α} {f : α → Except LoadError β} (hx : FailsBy P x)
    (hf : ∀ a, x = .ok a → FailsBy P (f a)) : FailsBy P (x.bind f) := by
  cases x with
  | error e =>
    intro e' h
    cases h
    exact hx e rfl
  | ok a => exact hf a rfl

/-- Two steps that do not depend on each other. -/
theorem FailsBy.both {x : Except LoadError α} {y : Except LoadError β} {make : α → β → γ}
    (hx : FailsBy P x) (hy : FailsBy P y) :
    FailsBy P (do let a ← x; let b ← y; return make a b) := by
  apply FailsBy.bind hx
  intro a _
  apply FailsBy.bind hy
  intro b _
  exact failsBy_ok _

theorem failsBy_forEntries {make : String → α → Except LoadError β}
    {entries : List (String × α)}
    (hmake : ∀ name entry, (name, entry) ∈ entries → FailsBy P (make name entry)) :
    FailsBy P (forEntries make entries) := by
  induction entries with
  | nil => exact failsBy_ok _
  | cons first rest ih =>
    obtain ⟨name, entry⟩ := first
    have hrest := ih fun name entry h => hmake name entry (List.mem_cons_of_mem _ h)
    have hfirst := hmake name entry List.mem_cons_self
    intro e h
    unfold forEntries at h
    split at h
    · rename_i e' he
      cases h
      exact hfirst e he
    · split at h
      · rename_i e' he
        cases h
        exact hrest e he
      · cases h

theorem failsBy_forNames {make : String → Except LoadError β} {names : List String}
    (hmake : ∀ name ∈ names, FailsBy P (make name)) : FailsBy P (forNames make names) := by
  apply failsBy_forEntries
  intro name entry h
  obtain ⟨other, hother, heq⟩ := List.mem_map.1 h
  cases heq
  exact hmake name hother

end Failures

variable {σ : Type} [FileStore σ] {store : σ} {vocabulary : Template.Vocabulary}

/-- A failure that finds fault with a name only where a file is listed under it among the fragments
and the name is not that of a template. -/
def SparesNames (store : σ) : LoadError → Prop
  | .misnamed path form => form = .template ∧ form.admits path = false ∧
      ∃ name, (TemplatePlace.fragment name).IsListed store ∧
        path = (TemplatePlace.fragment name).path
  | _ => True

theorem failsBy_contentsOf (path : String) :
    FailsBy (SparesNames store) (contentsOf store path) := by
  intro e h
  unfold contentsOf at h
  split at h
  · cases h
    trivial
  · cases h

theorem failsBy_entriesOf (path : String) :
    FailsBy (SparesNames store) (entriesOf store path) := by
  intro e h
  unfold entriesOf at h
  split at h
  · cases h
    trivial
  · cases h

theorem failsBy_subdirectories (path : String) :
    FailsBy (SparesNames store) (subdirectories store path) := by
  intro e h
  unfold subdirectories at h
  cases hentries : entriesOf store path with
  | error e' =>
    rw [hentries] at h
    cases h
    exact failsBy_entriesOf path e hentries
  | ok entries =>
    rw [hentries] at h
    cases h

theorem failsBy_subdirectoriesIfAny (path : String) :
    FailsBy (SparesNames store) (subdirectoriesIfAny store path) := by
  unfold subdirectoriesIfAny
  split
  · exact failsBy_subdirectories path
  · exact failsBy_ok _

theorem failsBy_readLayer {path : String} (h : Layout.isValueFile path = true) (role : LayerRole)
    (octets : List UInt8) :
    FailsBy (SparesNames store) (Layer.read path role octets) := by
  intro e he
  unfold Layer.read at he
  rw [if_pos h] at he
  split at he
  · cases he
    trivial
  · cases he

theorem failsBy_loadLayer (role : LayerRole) (file : LayoutFile) (h : file.form = .values) :
    FailsBy (SparesNames store) (loadLayer store role file) := by
  have hname : FileForm.values.admits file.path = true := h ▸ file.admits_path
  apply FailsBy.bind (failsBy_contentsOf _)
  intro octets _
  exact failsBy_readLayer hname role octets

/-- A template is only found fault with for its name if it may not be loaded under it. -/
theorem failsBy_loadTemplate (role : TemplateRole) {path : String}
    (h : FileForm.template.admits path = false → SparesNames store (.misnamed path .template)) :
    FailsBy (SparesNames store) (loadTemplate store vocabulary role path) := by
  apply FailsBy.bind (failsBy_contentsOf _)
  intro octets _ e he
  unfold TemplateFile.read at he
  split at he
  · split at he
    · cases he
      trivial
    · cases he
  · rename_i hname
    cases he
    exact h (Bool.eq_false_iff.2 hname)

theorem failsBy_loadTemplateIfAny (role : TemplateRole) (file : LayoutFile)
    (h : file.form = .template) :
    FailsBy (SparesNames store) (loadTemplateIfAny store vocabulary role file) := by
  have hname : FileForm.template.admits file.path = true := h ▸ file.admits_path
  have hload : FailsBy (SparesNames store) (loadTemplate store vocabulary role file.path) := by
    apply failsBy_loadTemplate
    intro hnot
    rw [hname] at hnot
    cases hnot
  intro e he
  unfold loadTemplateIfAny at he
  split at he
  · cases he
  · cases he
  · rename_i e' _ he'
    cases he
    exact hload e he'

theorem failsBy_loadLayers (installation : String) :
    FailsBy (SparesNames store) (loadLayers store installation) := by
  apply FailsBy.both
  · exact failsBy_loadLayer .override (.configPatch installation) rfl
  · exact failsBy_loadLayer .secret (.secret installation) rfl

theorem failsBy_loadPair (role : Family → TemplateRole) (file : Family → LayoutFile)
    (h : ∀ family, (file family).form = .template) :
    FailsBy (SparesNames store) (loadPair store vocabulary role file) := by
  apply FailsBy.both
  · exact failsBy_loadTemplateIfAny (role .config) (file .config) (h .config)
  · exact failsBy_loadTemplateIfAny (role .secret) (file .secret) (h .secret)

theorem failsBy_loadInstallation (installation : String) (layers : Layer × Layer) :
    FailsBy (SparesNames store) (loadInstallation store vocabulary installation layers) := by
  apply FailsBy.bind (failsBy_subdirectoriesIfAny _)
  intro apps _
  have hpatches (app : String) :
      FailsBy (SparesNames store) (loadPatches store vocabulary installation app) :=
    failsBy_loadPair _ _ fun family => by cases family <;> rfl
  apply FailsBy.bind (failsBy_forNames fun app _ => hpatches app)
  intro patches _
  exact failsBy_ok _

theorem failsBy_loadFragments :
    FailsBy (SparesNames store) (loadFragments store vocabulary) := by
  unfold loadFragments
  split
  · rename_i hthere
    apply FailsBy.bind (failsBy_entriesOf _)
    intro entries hentries
    apply failsBy_forNames
    intro path hpath
    apply failsBy_loadTemplate
    intro hnot
    -- These names come from the listing alone, so nothing says how they end.
    obtain ⟨entry, hentry, rfl⟩ := List.mem_map.1 hpath
    obtain ⟨hmem, hfile⟩ := List.mem_filter.1 hentry
    have hlists : Lists store Layout.fragments entry := (lists_of_entriesOf hentries).2 hmem
    exact ⟨rfl, hnot, entry.name, ⟨hthere, entry, hlists, by simpa using hfile, rfl⟩, rfl⟩
  · exact failsBy_ok _

/-- No file is found fault with for its name but one that is listed among the fragments. -/
theorem failsBy_load : FailsBy (SparesNames store) (load store vocabulary) := by
  have hdefaults (app : String) :
      FailsBy (SparesNames store) (loadDefaults store vocabulary app) :=
    failsBy_loadPair _ _ fun family => by cases family <;> rfl
  apply FailsBy.bind (failsBy_loadLayer .base .config rfl)
  intro base _
  apply FailsBy.bind (failsBy_subdirectories _)
  intro installations _
  apply FailsBy.bind (failsBy_forNames fun name _ => failsBy_loadLayers name)
  intro layers _
  apply FailsBy.bind (failsBy_subdirectories _)
  intro apps _
  apply FailsBy.bind (failsBy_forNames fun app _ => hdefaults app)
  intro defaults _
  apply FailsBy.bind (failsBy_forEntries fun name both _ => failsBy_loadInstallation name both)
  intro installations _
  apply FailsBy.bind failsBy_loadFragments
  intro fragments _
  exact failsBy_ok _

/-- What stands among the fragments is loaded as a template. -/
theorem form_of_path_eq {file : LayoutFile} {name : String}
    (h : file.path = (TemplatePlace.fragment name).path) : file.form = .template := by
  have hlists := congrArg String.toList h
  cases file with
  | config | configPatch i | secret i =>
    simp [LayoutFile.path, Layout.segmentsOf, TemplatePlace.path, TemplatePlace.segments,
      Layout.fragments, Layout.pathOf, Text.paste] at hlists
  | _ => rfl

/-- A repository is never refused for the name of a file of the layout. -/
theorem load_ne_misnamed (file : LayoutFile) (form : FileForm) :
    load store vocabulary ≠ .error (.misnamed file.path form) := by
  intro h
  obtain ⟨rfl, hnot, name, _, hpath⟩ := failsBy_load _ h
  have hadmits := file.admits_path
  rw [form_of_path_eq hpath, hnot] at hadmits
  cases hadmits

end Repository

/-- Whatever names it is made of, the path of a file says whose file it is; it ends as the loader of
the file requires, so that no repository is refused for it; and it is the path of no other file. -/
theorem the_path_of_a_file_says_which_file_it_is (file : LayoutFile) (h : file.NamesPlain) :
    Layout.identify file.path = file.owner ∧
      file.form.admits file.path = true ∧
      (∀ (σ : Type) [FileStore σ] (store : σ) (vocabulary : Template.Vocabulary)
        (form : FileForm),
        Repository.load store vocabulary ≠ .error (.misnamed file.path form)) ∧
      ∀ other : LayoutFile, other.NamesPlain → (other.path = file.path ↔ other = file) := by
  refine ⟨?_, file.admits_path, ?_, ?_⟩
  · unfold Layout.identify
    rw [file.cutString_path h, file.identityOf_parts]
  · intro σ _ store vocabulary form
    exact Repository.load_ne_misnamed file form
  · intro other hother
    constructor
    · exact LayoutFile.path_inj hother h
    · intro heq
      rw [heq]

/-- An app may lack a name, and an installation may be named like the directory of its apps. -/
theorem the_patch_of_an_app_without_a_name_says_whose_it_is :
    (LayoutFile.templatePatch "apps" "").NamesPlain ∧
      (LayoutFile.fragment "../installations/apps").NamesPlain ∧
      (LayoutFile.templatePatch "apps" "").path =
        "installations/apps/apps//configmap-values.yaml.patch" ∧
      Layout.identify (LayoutFile.templatePatch "apps" "").path = ⟨some "apps", some ""⟩ ∧
      (LayoutFile.fragment "../installations/apps").path ≠
        (LayoutFile.templatePatch "apps" "").path := by
  have hplain : (LayoutFile.templatePatch "apps" "").NamesPlain := by
    unfold LayoutFile.NamesPlain Plain
    decide
  have hother : (LayoutFile.fragment "../installations/apps").NamesPlain := trivial
  obtain ⟨howner, _, _, honly⟩ := the_path_of_a_file_says_which_file_it_is _ hplain
  refine ⟨hplain, hother, by decide, howner, ?_⟩
  intro heq
  cases (honly _ hother).1 heq

end LayerLint
