-- Where the files of a repository stand. A path is segments with a slash between them, and the
-- segments alone say which installation and which app a file belongs to.
import LayerLint.Text.Affix
import LayerLint.Text.Cut

namespace LayerLint

/-- The files that a repository may hold. -/
inductive LayoutFile where
  | config
  | configPatch (installation : String)
  | secret (installation : String)
  | appTemplate (app : String)
  | appSecretTemplate (app : String)
  | templatePatch (installation app : String)
  | secretTemplatePatch (installation app : String)
  | fragment (name : String)
  deriving DecidableEq, Repr

namespace Layout

/-- A path of segments. -/
def pathOf (segments : List String) : String :=
  String.ofList (Text.paste '/' (segments.map String.toList))

/-- The segments of a path are found again. -/
theorem cutString_pathOf {segments : List String} (hne : segments ≠ [])
    (h : ∀ segment ∈ segments, '/' ∉ segment.toList) :
    Text.cutString '/' (pathOf segments) = segments := by
  have hparts : ∀ part ∈ segments.map String.toList, '/' ∉ part := by
    simpa using h
  rw [Text.cutString, pathOf, String.toList_ofList, Text.cut_paste (by simpa using hne) hparts]
  simp

/-- What a text is cut into makes the text again. -/
theorem toList_pathOf_cut (cs : List Char) :
    (pathOf ((Text.cut '/' cs).map String.ofList)).toList = cs := by
  have hid : String.toList ∘ String.ofList = id := funext fun _ => String.toList_ofList
  rw [pathOf, List.map_map, hid, List.map_id, Text.paste_cut, String.toList_ofList]

/-- A path is that of its segments. -/
theorem pathOf_cutString (path : String) : pathOf (Text.cutString '/' path) = path :=
  String.toList_inj.1 (toList_pathOf_cut path.toList)

theorem toList_pathOf_append {segments others : List String} (hsegments : segments ≠ [])
    (hothers : others ≠ []) :
    (pathOf (segments ++ others)).toList = (pathOf segments).toList ++ '/' :: (pathOf others).toList := by
  simp only [pathOf, String.toList_ofList, List.map_append]
  exact Text.paste_append '/' (by simpa using hsegments) (by simpa using hothers)

/-! ## Directories -/

/-- The directory with one directory for each app. -/
def defaultApps : String := pathOf ["default", "apps"]

/-- The directory with one directory for each installation. -/
def installations : String := "installations"

/-- The directory of the fragments that templates share. -/
def fragments : String := "include"

def appDirectory (app : String) : String := pathOf ["default", "apps", app]

/-- The directory of an installation with one directory for each app. -/
def installationApps (installation : String) : String :=
  pathOf ["installations", installation, "apps"]

/-! ## Files -/

/-- The segments of a file's path. -/
def segmentsOf : LayoutFile → List String
  | .config => ["default", "config.yaml"]
  | .configPatch i => ["installations", i, "config.yaml.patch"]
  | .secret i => ["installations", i, "secret.yaml"]
  | .appTemplate a => ["default", "apps", a, "configmap-values.yaml.template"]
  | .appSecretTemplate a => ["default", "apps", a, "secret-values.yaml.template"]
  | .templatePatch i a => ["installations", i, "apps", a, "configmap-values.yaml.patch"]
  | .secretTemplatePatch i a => ["installations", i, "apps", a, "secret-values.yaml.patch"]
  | .fragment name => ["include", name ++ ".yaml.template"]

end Layout

/-- The path of a file. -/
def LayoutFile.path (file : LayoutFile) : String := Layout.pathOf (Layout.segmentsOf file)

namespace Layout

/-! ## What a path says -/

/-- Whether a path is that of a file with values. -/
def isValueFile (path : String) : Bool :=
  Text.endsWith path ".yaml" || Text.endsWith path ".yaml.patch"

/-- Whether a path is that of a template. -/
def isTemplateFile (path : String) : Bool :=
  Text.endsWith path ".template" || Text.endsWith path "values.yaml.patch"

/-- The installation and the app that a file belongs to. -/
structure Identity where
  installation : Option String
  app : Option String
  deriving DecidableEq, Repr

/-- Reads an identity off the segments of a path. A file belongs to the directories that stand
above it, so the last segment names nothing. -/
def identityOf : List String → Identity
  | "installations" :: i :: "apps" :: a :: _ :: _ => ⟨some i, some a⟩
  | "installations" :: i :: _ :: _ => ⟨some i, none⟩
  | "default" :: "apps" :: a :: _ :: _ => ⟨none, some a⟩
  | _ => ⟨none, none⟩

/-- The installation and the app that the file of a path belongs to. -/
def identify (path : String) : Identity := identityOf (Text.cutString '/' path)

end Layout

end LayerLint
