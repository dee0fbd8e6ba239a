-- The verdict of a run: the error that it does not begin with, or whether it succeeds and the code
-- that it ends with. It comes from the rules, the repository and two of the options. How much is
-- shown and in which form is never asked.
import LayerLint.Lint.Run
import LayerLint.Proofs.Report.Order
import LayerLint.Proofs.Settings.Exchange

namespace LayerLint

/-! ## Reports that fail -/

namespace Report

variable {ds : List Diagnostic} {options : ReportOptions}

theorem count_pos_iff {r : Report} {severity : Severity} :
    0 < r.count severity ↔ ∃ d ∈ r.diagnostics, d.severity = severity := by
  simp only [count, List.length_pos_iff_exists_mem, List.mem_filter, decide_eq_true_eq]

/-- A report fails for an error, and for a suggestion if it is strict and not of errors alone. -/
theorem fails_ofDiagnostics_iff :
    (ofDiagnostics options ds).fails = true ↔
      (∃ d ∈ ds, d.severity = .error) ∨ options.strict = true ∧ options.onlyErrors = false ∧
        ∃ d ∈ ds, d.severity = .suggestion := by
  have herrors : 0 < (ofDiagnostics options ds).errors ↔ ∃ d ∈ ds, d.severity = .error := by
    rw [errors, count_pos_iff]
    refine exists_congr fun d => ?_
    rw [mem_diagnostics_iff, and_assoc]
    exact and_congr_right fun _ => and_iff_right_of_imp fun herror _ => herror
  have hsuggestions : 0 < (ofDiagnostics options ds).suggestions ↔
      options.onlyErrors = false ∧ ∃ d ∈ ds, d.severity = .suggestion := by
    rw [suggestions, count_pos_iff]
    constructor
    · rintro ⟨d, hd, hsuggestion⟩
      obtain ⟨hmem, honly⟩ := mem_diagnostics_iff.1 hd
      refine ⟨Bool.eq_false_iff.2 fun hthese => ?_, d, hmem, hsuggestion⟩
      cases hsuggestion.symm.trans (honly hthese)
    · rintro ⟨hall, d, hmem, hsuggestion⟩
      refine ⟨d, mem_diagnostics_iff.2 ⟨hmem, fun honly => ?_⟩, hsuggestion⟩
      cases hall.symm.trans honly
  rw [fails, Bool.or_eq_true, Bool.and_eq_true, decide_eq_true_eq, decide_eq_true_eq, herrors,
    hsuggestions]
  rfl

theorem exitCode_eq_zero_iff {r : Report} : r.exitCode = 0 ↔ r.fails = false := by
  cases h : r.fails <;> simp [exitCode, h]

theorem exitCode_lt_two (r : Report) : r.exitCode < 2 := by
  unfold exitCode
  split <;> decide

end Report

/-! ## Surveys of one repository -/

/-- What is surveyed in a store is surveyed in every other one that answers as it does. -/
theorem AnswersAs.mem_toOption_load {σ τ : Type} [FileStore σ] [FileStore τ] {a : σ} {b : τ}
    {vocabulary : Template.Vocabulary} {survey : Survey} (h : AnswersAs a b)
    (hsurvey : survey ∈ (Survey.load a vocabulary).toOption) :
    survey ∈ (Survey.load b vocabulary).toOption := by
  obtain ⟨hload, hs⟩ := Survey.load_eq_ok_iff.1 (Repository.eq_ok_of_mem_toOption hsurvey)
  rw [Survey.load_eq_ok_iff.2 ⟨h.load_eq_ok hload, hs⟩]
  rfl

/-! ## Verdicts -/

/-- The settings without a limit to what is shown. -/
def Settings.unlimited (s : Settings) : Settings := { s with maxMessages := 0 }

/-- What a run is asked for, but that all is shown, in prose. -/
def LintOptions.unadorned (o : LintOptions) : LintOptions :=
  { o with maxMessages := none, hints := true, ruleNames := true, format := .prose }

/-- What a run comes to. -/
structure Verdict where
  success : Bool
  exitCode : Nat
  deriving DecidableEq, Repr

/-- A run succeeds if it ends with nought. -/
def Verdict.ofCode (code : Nat) : Verdict := ⟨code = 0, code⟩

namespace Lint

/-- The verdict of a run, whatever it said. -/
def verdict (outcome : Except LintError (Transcript × Nat)) : Except LintError Verdict :=
  outcome.map fun said => .ofCode said.2

/-- A run passes if it begins and succeeds. -/
def Passes (outcome : Except LintError (Transcript × Nat)) : Prop :=
  verdict outcome = .ok (.ofCode 0)

/-- The rules that settings and a filter leave. -/
def rulesFor (found : Except Settings.FileError Settings) (filter : Option String) :
    Except LintError RuleSet :=
  match found with
  | .error e => .error (.settings e)
  | .ok settings =>
    match filter with
    | none => .ok (RuleSet.ofSettings settings)
    | some pattern => ((RuleSet.ofSettings settings).filter pattern).mapError .filter

/-- The code that a run of rules ends with over what was loaded, if anything was. -/
def codeOf (o : LintOptions) (rules : RuleSet) : Option Survey → Nat
  | none => loadFailure
  | some survey => (Report.ofDiagnostics ⟨o.onlyErrors, 0, o.strict⟩ (rules.run survey)).exitCode

section Runs

variable {σ : Type} [FileStore σ] {store : σ} {root : String} {o : LintOptions} {colour : Bool}

/-- A limit to what is shown leaves the rules as they are. -/
theorem rulesFor_unlimited (found : Except Settings.FileError Settings) (filter : Option String) :
    rulesFor (found.map Settings.unlimited) filter = rulesFor found filter := by
  cases found with
  | error e => rfl
  | ok settings => rfl

theorem prepare_map (store : σ) (root : String) (o : LintOptions) :
    (prepare store root o).map Prod.snd =
      rulesFor (Settings.discover store root o.settingsPath) o.filter := by
  unfold prepare rulesFor
  cases Settings.discover store root o.settingsPath with
  | error e => rfl
  | ok settings =>
    cases o.filter with
    | none => rfl
    | some pattern =>
      dsimp only
      cases (RuleSet.ofSettings settings).filter pattern with
      | error e => rfl
      | ok rules => rfl

/-- A verdict comes from the rules and from what is loaded. -/
theorem verdict_run (store : σ) (root : String) (o : LintOptions) (colour : Bool) :
    verdict (run store root o colour) =
      (rulesFor (Settings.discover store root o.settingsPath) o.filter).map fun rules =>
        .ofCode (codeOf o rules (Survey.load (RootedStore.mk root store) .standard).toOption) := by
  rw [← prepare_map]
  unfold run
  cases prepare store root o with
  | error e => rfl
  | ok prepared =>
    dsimp only
    cases Survey.load (RootedStore.mk root store) .standard with
    | error e => rfl
    | ok survey => rfl

theorem verdict_run_eq_ok_iff {v : Verdict} :
    verdict (run store root o colour) = .ok v ↔
      ∃ rules, rulesFor (Settings.discover store root o.settingsPath) o.filter = .ok rules ∧
        v = .ofCode
          (codeOf o rules (Survey.load (RootedStore.mk root store) .standard).toOption) := by
  rw [verdict_run]
  cases rulesFor (Settings.discover store root o.settingsPath) o.filter with
  | error e => exact iff_of_false nofun nofun
  | ok rules => simp only [Except.map, Except.ok.injEq, exists_eq_left', eq_comm]

theorem codeOf_eq_loadFailure_iff {rules : RuleSet} {loaded : Except LoadError Survey} :
    codeOf o rules loaded.toOption = loadFailure ↔ ∃ e, loaded = .error e := by
  cases loaded with
  | error e => exact iff_of_true rfl ⟨e, rfl⟩
  | ok survey => exact iff_of_false (Nat.ne_of_lt (Report.exitCode_lt_two _)) nofun

theorem codeOf_eq_zero_iff {rules : RuleSet} {loaded : Except LoadError Survey} :
    codeOf o rules loaded.toOption = 0 ↔
      ∃ survey, loaded = .ok survey ∧ (∀ d ∈ rules.run survey, d.severity ≠ .error) ∧
        (o.strict = true → o.onlyErrors = false →
          ∀ d ∈ rules.run survey, d.severity ≠ .suggestion) := by
  cases loaded with
  | error e => exact iff_of_false nofun nofun
  | ok survey =>
    rw [Except.toOption, codeOf, Report.exitCode_eq_zero_iff, ← Bool.not_eq_true,
      Report.fails_ofDiagnostics_iff]
    simp only [Except.ok.injEq, exists_eq_left', not_or, not_and, not_exists, ne_eq]

/-- A run passes if it begins, the repository is loaded and the rules find no error in it and, where
suggestions are asked for and count, no suggestion. -/
theorem passes_iff :
    Passes (run store root o colour) ↔
      ∃ rules, rulesFor (Settings.discover store root o.settingsPath) o.filter = .ok rules ∧
        ∃ survey, Survey.load (RootedStore.mk root store) .standard = .ok survey ∧
          (∀ d ∈ rules.run survey, d.severity ≠ .error) ∧
          (o.strict = true → o.onlyErrors = false →
            ∀ d ∈ rules.run survey, d.severity ≠ .suggestion) := by
  have hcode : ∀ code, Verdict.ofCode 0 = .ofCode code ↔ code = 0 := fun code =>
    ⟨fun h => (congrArg Verdict.exitCode h).symm, fun h => congrArg Verdict.ofCode h.symm⟩
  rw [Passes, verdict_run_eq_ok_iff]
  simp only [hcode, codeOf_eq_zero_iff]

end Runs

/-! ## Runs that ask the same -/

/-- Two runs differ in nothing but in how much is shown and in which form: they look at the same
repository, have the same settings but for the limit and are asked for the same but for what is
shown. -/
structure AskAlike {σ τ : Type} [FileStore σ] [FileStore τ] (root : String) (a : σ)
    (o : LintOptions) (b : τ) (p : LintOptions) : Prop where
  there : AnswersAs (RootedStore.mk root a) (RootedStore.mk root b)
  back : AnswersAs (RootedStore.mk root b) (RootedStore.mk root a)
  settings : (Settings.discover a root o.settingsPath).map Settings.unlimited =
    (Settings.discover b root p.settingsPath).map Settings.unlimited
  options : o.unadorned = p.unadorned

theorem map_mapError {ε δ α β : Type} (x : Except ε α) (f : ε → δ) (g : α → β) :
    (x.mapError f).map g = (x.map g).mapError f := by
  cases x with
  | error e => rfl
  | ok a => rfl

section Pairs

variable {σ τ : Type} [FileStore σ] [FileStore τ] {a : σ} {b : τ} {root : String}
  {o p : LintOptions}

theorem AskAlike.toOption_load_eq (h : AskAlike root a o b p) :
    (Survey.load (RootedStore.mk root a) .standard).toOption =
      (Survey.load (RootedStore.mk root b) .standard).toOption :=
  Option.ext fun _ => ⟨h.there.mem_toOption_load, h.back.mem_toOption_load⟩

theorem AskAlike.rulesFor_eq (h : AskAlike root a o b p) :
    rulesFor (Settings.discover a root o.settingsPath) o.filter =
      rulesFor (Settings.discover b root p.settingsPath) p.filter := by
  have hfilter : o.unadorned.filter = p.unadorned.filter := congrArg LintOptions.filter h.options
  rw [← rulesFor_unlimited, h.settings, rulesFor_unlimited, show o.filter = p.filter from hfilter]

/-- What is shown is not looked at for the code. -/
theorem codeOf_unadorned (o : LintOptions) : codeOf o.unadorned = codeOf o := by
  funext rules loaded
  cases loaded <;> rfl

theorem AskAlike.verdict_eq (h : AskAlike root a o b p) (colour shade : Bool) :
    verdict (run a root o colour) = verdict (run b root p shade) := by
  rw [verdict_run, verdict_run, h.rulesFor_eq, h.toOption_load_eq, ← codeOf_unadorned o, h.options,
    codeOf_unadorned]

/-- The settings that a repository keeps may be given another limit, whatever else they hold. -/
theorem askAlike_of_insert_settings (m : MemoryStore) (root : String)
    {contents changed : List UInt8} (hasked : o.settingsPath = none)
    (hoptions : o.unadorned = p.unadorned)
    (hsettings : (Settings.ofOctets contents).map Settings.unlimited =
      (Settings.ofOctets changed).map Settings.unlimited) :
    AskAlike root (m.insert (RootedStore.join root Settings.fileName) contents) o
      (m.insert (RootedStore.join root Settings.fileName) changed) p where
  there := answersAs_of_insert_settings m root contents changed
  back := answersAs_of_insert_settings m root changed contents
  settings := by
    have hpath : o.unadorned.settingsPath = p.unadorned.settingsPath :=
      congrArg LintOptions.settingsPath hoptions
    have hasked' : p.settingsPath = none := hpath.symm.trans hasked
    rw [hasked, hasked', Settings.discover_insert, Settings.discover_insert,
      map_mapError, map_mapError, hsettings]
  options := hoptions

end Pairs

/-- A run that asks the same comes to the same, be it an error or a verdict, however much of it is
shown and in which form. What has a verdict ends with two exactly if the repository could not be
loaded. A run that fails fails as well if suggestions are to count, and one that passes passes as
well if only errors are asked for. -/
theorem the_verdict_does_not_depend_on_what_is_shown {σ : Type} [FileStore σ] (store : σ)
    (root : String) (o : LintOptions) (colour : Bool) :
    (∀ {τ : Type} [FileStore τ] (other : τ) (p : LintOptions) (shade : Bool),
      AskAlike root store o other p →
        verdict (run store root o colour) = verdict (run other root p shade)) ∧
    (∀ v, verdict (run store root o colour) = .ok v →
      (v.exitCode = 2 ↔ ∃ e, Survey.load (RootedStore.mk root store) .standard = .error e)) ∧
    (¬Passes (run store root { o with strict := false } colour) →
      ¬Passes (run store root { o with strict := true } colour)) ∧
    (Passes (run store root { o with onlyErrors := false } colour) →
      Passes (run store root { o with onlyErrors := true } colour)) := by
  refine ⟨fun other p shade h => h.verdict_eq colour shade, fun v hv => ?_, mt fun hstrict => ?_,
    fun hall => ?_⟩
  · obtain ⟨rules, -, rfl⟩ := verdict_run_eq_ok_iff.1 hv
    exact codeOf_eq_loadFailure_iff
  · obtain ⟨rules, hrules, survey, hload, herrors, -⟩ := passes_iff.1 hstrict
    exact passes_iff.2 ⟨rules, hrules, survey, hload, herrors, nofun⟩
  · obtain ⟨rules, hrules, survey, hload, herrors, -⟩ := passes_iff.1 hall
    exact passes_iff.2 ⟨rules, hrules, survey, hload, herrors, fun _ => nofun⟩

/-- A repository whose app takes a value that nobody gives, with the settings next to it. -/
def settledStore (settings : String) : MemoryStore :=
  (MemoryStore.ofFiles
    [("default/config.yaml", "a: 1\n".toUTF8.toList),
     ("default/apps/foo/configmap-values.yaml.template", "b: \x7b\x7b .b \x7d\x7d\n".toUTF8.toList),
     ("installations/gauss/config.yaml.patch", "\x7b\x7d\n".toUTF8.toList),
     ("installations/gauss/secret.yaml", "".toUTF8.toList)]).insert
    (RootedStore.join "" Settings.fileName) settings.toUTF8.toList

/-- The options of a program that reads the report. -/
def machineOptions : LintOptions :=
  { LintOptions.default with
    maxMessages := some 7, hints := false, ruleNames := false, format := .json }

theorem error_in_settledStore :
    ∃ s ∈ (Survey.load (RootedStore.mk "" (settledStore "max_messages: 0\n")) .standard).toOption,
      ∃ d ∈ (RuleSet.ofSettings Settings.default).toList.flatMap fun rule => rule.check s,
        d.severity = .error := by
  decide +kernel

theorem verdict_of_settledStore :
    verdict (run (settledStore "max_messages: 0\n") "" .default false) = .ok ⟨false, 1⟩ := by
  obtain ⟨survey, hsurvey, d, hd, herror⟩ := error_in_settledStore
  have hsettings : Settings.ofOctets "max_messages: 0\n".toUTF8.toList =
      .ok Settings.default.unlimited := by
    decide +kernel
  have hfails : (Report.ofDiagnostics ⟨false, 0, false⟩
      ((RuleSet.ofSettings Settings.default).run survey)).fails = true :=
    Report.fails_ofDiagnostics_iff.2 (.inl ⟨d, (Diagnostic.perm_sort _).mem_iff.2 hd, herror⟩)
  refine verdict_run_eq_ok_iff.2 ⟨RuleSet.ofSettings Settings.default, ?_, ?_⟩
  · rw [LintOptions.default, settledStore, Settings.discover_insert, hsettings]
    rfl
  · rw [hsurvey, codeOf, LintOptions.default, Report.exitCode, hfails]
    rfl

/-- The run fails, be it with all messages in prose or with a few of them in another form. -/
theorem the_settled_repository_fails_however_it_is_shown :
    AskAlike "" (settledStore "max_messages: 0\n") .default (settledStore "max_messages: 1\n")
        machineOptions ∧
      verdict (run (settledStore "max_messages: 1\n") "" machineOptions true) =
        .ok ⟨false, 1⟩ := by
  have halike : AskAlike "" (settledStore "max_messages: 0\n") .default
      (settledStore "max_messages: 1\n") machineOptions :=
    askAlike_of_insert_settings _ "" rfl rfl (by decide +kernel)
  obtain ⟨hsame, -⟩ := the_verdict_does_not_depend_on_what_is_shown
    (settledStore "max_messages: 0\n") "" .default false
  exact ⟨halike, (hsame _ machineOptions true halike).symm.trans verdict_of_settledStore⟩

end Lint

end LayerLint
