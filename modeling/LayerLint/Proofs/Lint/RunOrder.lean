-- The order in which rules run. A report is sorted by all that diagnostics say but for the hint, and
-- no two diagnostics of a run agree in all of it; so there is one sorted list of them, whatever the
-- order is that they were found in.
import LayerLint.Lint.RuleSet
import LayerLint.Proofs.Lint.Apart
import LayerLint.Report.Basic
import Mathlib.Data.List.Pairwise
import Mathlib.Tactic.ByContra

namespace LayerLint

namespace Diagnostic

/-! ## The order of a report -/

theorem rank_inj {a b : Severity} (h : a.rank = b.rank) : a = b := by
  cases a with
  | suggestion =>
    cases b with
    | suggestion => rfl
    | error => cases h
  | error =>
    cases b with
    | suggestion => cases h
    | error => rfl

theorem order_eq_iff {a b : Diagnostic} :
    order a b = .eq ↔
      a.severity = b.severity ∧ a.file = b.file ∧ a.path = b.path ∧ a.rule = b.rule ∧
        a.message = b.message := by
  have hrank : b.severity.rank = a.severity.rank ↔ a.severity = b.severity :=
    ⟨fun h => (rank_inj h).symm, fun h => by rw [h]⟩
  simp only [order, Ordering.then_eq_eq, Std.LawfulEqOrd.compare_eq_iff_eq, hrank]

instance : Std.TransCmp fun a b : Diagnostic => compare b.severity.rank a.severity.rank :=
  inferInstanceAs (Std.TransCmp fun a b : Diagnostic =>
    compareOn (fun d : Diagnostic => d.severity.rank) b a)

instance : Std.TransCmp order :=
  inferInstanceAs (Std.TransCmp
    (compareLex (fun a b : Diagnostic => compare b.severity.rank a.severity.rank)
      (compareLex (compareOn fun d : Diagnostic => d.file)
        (compareLex (compareOn fun d : Diagnostic => d.path)
          (compareLex (compareOn fun d : Diagnostic => d.rule)
            (compareOn fun d : Diagnostic => d.message))))))

theorem perm_sort (ds : List Diagnostic) : (sort ds).Perm ds := List.mergeSort_perm _ _

theorem isLE_total (a b : Diagnostic) : ((order a b).isLE || (order b a).isLE) = true := by
  have hswap : order b a = (order a b).swap := Std.OrientedCmp.eq_swap
  rw [Bool.or_eq_true, hswap]
  cases order a b with
  | lt => exact .inl rfl
  | eq => exact .inl rfl
  | gt => exact .inr rfl

theorem pairwise_sort (ds : List Diagnostic) :
    (sort ds).Pairwise fun a b => (order a b).isLE = true :=
  List.pairwise_mergeSort (fun _ _ _ => Std.TransCmp.isLE_trans) isLE_total ds

/-- Diagnostics of which no two are tied are sorted alike, in whatever order they are found. -/
theorem sort_eq_of_perm {ds es : List Diagnostic} (h : ds.Perm es)
    (hties : ∀ a ∈ ds, ∀ b ∈ ds, order a b = .eq → a = b) : sort ds = sort es := by
  refine List.Perm.eq_of_pairwise ?_ (pairwise_sort ds) (pairwise_sort es)
    (((perm_sort ds).trans h).trans (perm_sort es).symm)
  intro a b ha hb hab hba
  refine hties a ((perm_sort ds).mem_iff.1 ha) b ?_ (Std.OrientedCmp.isLE_antisymm hab hba)
  exact h.mem_iff.2 ((perm_sort es).mem_iff.1 hb)

end Diagnostic

/-- A report of diagnostics of which no two are tied is the same in whatever order they are. -/
theorem Report.ofDiagnostics_eq_of_perm (options : ReportOptions) {ds es : List Diagnostic}
    (h : ds.Perm es) (hties : ∀ a ∈ ds, ∀ b ∈ ds, Diagnostic.order a b = .eq → a = b) :
    ofDiagnostics options ds = ofDiagnostics options es := by
  have hchosen : Diagnostic.sort (if options.onlyErrors then ds.filter (·.isError) else ds) =
      Diagnostic.sort (if options.onlyErrors then es.filter (·.isError) else es) := by
    split
    · refine Diagnostic.sort_eq_of_perm (h.filter _) fun a ha b hb => ?_
      exact hties a (List.mem_filter.1 ha).1 b (List.mem_filter.1 hb).1
    · exact Diagnostic.sort_eq_of_perm h hties
  unfold ofDiagnostics
  rw [hchosen]

section Rules

variable {σ : Type} [FileStore σ] {store : σ} {vocabulary : Template.Vocabulary} {s : Survey}

/-! ## The diagnostics of rules -/

theorem Rule.rule_of_mem_check {rule : Rule} {d : Diagnostic} (hd : d ∈ rule.check s) :
    d.rule = rule.id := by
  obtain ⟨f, _, rfl⟩ := List.mem_map.1 hd
  rfl

/-- No two diagnostics of a rule are tied. -/
theorem Rule.pairwise_check (h : Survey.load store vocabulary = .ok s) (rule : Rule) :
    (rule.check s).Pairwise fun a b => Diagnostic.order a b ≠ .eq := by
  refine List.pairwise_map.2 ((rule.apart_findings h).imp ?_)
  intro f g hapart heq
  obtain ⟨_, hfile, hpath, _, hmessage⟩ := Diagnostic.order_eq_iff.1 heq
  exact hapart hfile hpath hmessage

namespace RuleSet

/-- The rules of a set have different ids. -/
theorem nodup_ids (set : RuleSet) : (set.toList.map fun rule => rule.id).Nodup := by
  have hkeys : set.toList.map (fun rule => rule.id) = set.rules.keys := by
    unfold toList SortedMap.keys
    rw [List.map_map]
    exact List.map_congr_left fun e he => (set.named e he).symm
  rw [hkeys]
  exact set.rules.nodup_keys

/-- No two diagnostics of a set of rules are tied: those of one rule differ in what they find, and
those of two rules in the rule. -/
theorem pairwise_found (h : Survey.load store vocabulary = .ok s) (set : RuleSet) :
    (set.toList.flatMap fun rule => rule.check s).Pairwise
      fun a b => Diagnostic.order a b ≠ .eq := by
  refine List.pairwise_flatMap.2 ⟨fun rule _ => rule.pairwise_check h, ?_⟩
  refine (List.pairwise_map.1 set.nodup_ids).imp ?_
  intro rule other hne a ha b hb heq
  obtain ⟨_, _, _, hrule, _⟩ := Diagnostic.order_eq_iff.1 heq
  rw [Rule.rule_of_mem_check ha, Rule.rule_of_mem_check hb] at hrule
  exact hne hrule

/-- No two diagnostics of a run are tied in the order of a report, and none is made twice. So the
rules may run in any order, and the report may be made of the diagnostics in any order. -/
theorem the_report_does_not_depend_on_the_order_in_which_the_rules_run
    (h : Survey.load store vocabulary = .ok s) (set : RuleSet) :
    (set.toList.flatMap fun rule => rule.check s).Nodup ∧
    (∀ a ∈ set.toList.flatMap fun rule => rule.check s,
      ∀ b ∈ set.toList.flatMap fun rule => rule.check s,
        Diagnostic.order a b = .eq → a = b) ∧
    (∀ rules : List Rule, rules.Perm set.toList →
      Diagnostic.sort (rules.flatMap fun rule => rule.check s) = set.run s) ∧
    ∀ (options : ReportOptions) (ds : List Diagnostic),
      ds.Perm (set.toList.flatMap fun rule => rule.check s) →
        Report.ofDiagnostics options ds = Report.ofDiagnostics options (set.run s) := by
  have hfound := pairwise_found h set
  have hties : ∀ a ∈ set.toList.flatMap fun rule => rule.check s,
      ∀ b ∈ set.toList.flatMap fun rule => rule.check s, Diagnostic.order a b = .eq → a = b := by
    have : Std.Symm fun a b : Diagnostic => Diagnostic.order a b ≠ .eq :=
      ⟨fun a b hne heq => hne (Std.OrientedCmp.eq_symm heq)⟩
    intro a ha b hb heq
    by_contra hne
    exact hfound.forall ha hb hne heq
  refine ⟨hfound.imp ?_, hties, ?_, ?_⟩
  · rintro a _ hne rfl
    exact hne Std.ReflCmp.compare_self
  · intro rules hrules
    exact (Diagnostic.sort_eq_of_perm (hrules.symm.flatMap_right _) hties).symm
  · intro options ds hds
    refine Report.ofDiagnostics_eq_of_perm options (hds.trans (Diagnostic.perm_sort _).symm) ?_
    exact fun a ha b hb => hties a (hds.mem_iff.1 ha) b (hds.mem_iff.1 hb)

/-- All rules, run backwards over the small repository, report the same, its duplicate among
it. -/
theorem the_small_store_is_reported_alike_by_the_rules_in_reverse :
    ∃ s, Survey.load Survey.smallStore .standard = .ok s ∧
      Diagnostic.sort
          ((ofSettings Settings.default).toList.reverse.flatMap fun rule => rule.check s) =
        (ofSettings Settings.default).run s ∧
      ∃ d ∈ (ofSettings Settings.default).run s,
        d.file = "installations/gauss/config.yaml.patch" ∧ d.path = "a" ∧
          d.rule = "duplicate-config-value" := by
  obtain ⟨_, _, hrun, _⟩ := the_report_does_not_depend_on_the_order_in_which_the_rules_run
    Survey.load_smallStore (ofSettings Settings.default)
  have hfound : ∃ d ∈ (ofSettings Settings.default).toList.flatMap
      fun rule => rule.check (Survey.ofRepository Survey.smallRepository),
      d.file = "installations/gauss/config.yaml.patch" ∧ d.path = "a" ∧
        d.rule = "duplicate-config-value" := by
    decide +kernel
  obtain ⟨d, hd, hwhat⟩ := hfound
  refine ⟨_, Survey.load_smallStore, hrun _ (List.reverse_perm _), d, ?_, hwhat⟩
  exact (Diagnostic.perm_sort _).mem_iff.2 hd

end RuleSet

end Rules

end LayerLint
