-- What a report shows, and in which order. Errors stand in front; so the part that is shown holds a
-- suggestion only if it holds all errors, and a report of errors alone is the front of the one of
-- all diagnostics.
import LayerLint.Proofs.Lint.Selection

namespace LayerLint

namespace Diagnostic

/-! ## Errors stand in front -/

theorem isError_iff {d : Diagnostic} : d.isError = true ↔ d.severity = .error := decide_eq_true_iff

/-- What may stand in front of an error is an error. -/
theorem severity_eq_error_of_order {a b : Diagnostic} (h : (order a b).isLE = true)
    (hb : b.severity = .error) : a.severity = .error := by
  have hrank : (compare b.severity.rank a.severity.rank).isLE = true := by
    cases hcompare : compare b.severity.rank a.severity.rank with
    | lt => rfl
    | eq => rfl
    | gt =>
      rw [order, hcompare] at h
      cases h
  rw [Nat.isLE_compare, hb] at hrank
  cases ha : a.severity with
  | error => rfl
  | suggestion =>
    rw [ha] at hrank
    exact absurd hrank (by decide)

end Diagnostic

namespace Report

open Diagnostic

variable {ds : List Diagnostic} {options : ReportOptions}

/-! ## What is chosen -/

/-- The diagnostics that a report is made of. -/
def chosen (options : ReportOptions) (ds : List Diagnostic) : List Diagnostic :=
  if options.onlyErrors then ds.filter (·.isError) else ds

theorem diagnostics_ofDiagnostics (options : ReportOptions) (ds : List Diagnostic) :
    (ofDiagnostics options ds).diagnostics = sort (chosen options ds) := rfl

theorem pairwise_diagnostics (options : ReportOptions) (ds : List Diagnostic) :
    (ofDiagnostics options ds).diagnostics.Pairwise fun a b => (order a b).isLE = true :=
  pairwise_sort _

theorem mem_diagnostics_iff {d : Diagnostic} :
    d ∈ (ofDiagnostics options ds).diagnostics ↔
      d ∈ ds ∧ (options.onlyErrors = true → d.severity = .error) := by
  rw [diagnostics_ofDiagnostics, (perm_sort _).mem_iff, chosen]
  split
  · rename_i honly
    simp [honly, isError_iff]
  · rename_i hall
    simp [hall]

/-! ## What is shown -/

/-- Each diagnostic of a report is an error or a suggestion. -/
theorem errors_add_suggestions (r : Report) : r.errors + r.suggestions = r.total := by
  have hnot : (fun d : Diagnostic => decide (d.severity = .suggestion)) =
      fun d => !decide (d.severity = .error) := by
    funext d
    cases d.severity with
    | error => rfl
    | suggestion => rfl
  rw [total, List.length_eq_length_filter_add fun d => d.severity = .error, errors, suggestions,
    count, count, hnot]

theorem visible_le (limit count : Nat) : visible limit count ≤ count := by
  unfold visible
  split
  · exact Nat.le_refl _
  · exact Nat.min_le_right _ _

theorem length_shown (options : ReportOptions) (ds : List Diagnostic) :
    (ofDiagnostics options ds).shown.length =
      visible options.maxMessages (ofDiagnostics options ds).total := by
  rw [shown, List.length_take]
  exact Nat.min_eq_left (visible_le _ _)

theorem shown_add_hidden (options : ReportOptions) (ds : List Diagnostic) :
    (ofDiagnostics options ds).shown.length + (ofDiagnostics options ds).hidden =
      (ofDiagnostics options ds).total := by
  rw [length_shown]
  exact Nat.add_sub_cancel' (visible_le _ _)

/-- What is shown may stand in front of all that is cut. -/
theorem order_of_mem_shown {a b : Diagnostic} (ha : a ∈ (ofDiagnostics options ds).shown)
    (hb : b ∈ (ofDiagnostics options ds).diagnostics.drop (ofDiagnostics options ds).shownCount) :
    (order a b).isLE = true := by
  have hpairs := pairwise_diagnostics options ds
  rw [← List.take_append_drop (ofDiagnostics options ds).shownCount
    (ofDiagnostics options ds).diagnostics] at hpairs
  exact (List.pairwise_append.1 hpairs).2.2 a ha b hb

theorem visible_eq (limit count : Nat) :
    visible limit count = if limit = 0 ∨ count ≤ limit then count else limit := by
  unfold visible
  split
  · rename_i hall
    rw [if_pos (.inl hall)]
  · rename_i hlimit
    split
    · rename_i hfits
      exact Nat.min_eq_right (hfits.resolve_left hlimit)
    · rename_i hcut
      exact Nat.min_eq_left (Nat.le_of_not_le fun hfits => hcut (.inr hfits))

/-- A report holds what is chosen, in order and with the errors in front. It shows the first of it,
as many as the limit lets through, and counts the rest; so it shows a suggestion only if it hides no
error. A report of errors alone holds the errors of the report of all, in their order. -/
theorem an_error_is_never_hidden_behind_a_suggestion (options : ReportOptions)
    (ds : List Diagnostic) :
    let r := ofDiagnostics options ds
    r.diagnostics.Perm
        (if options.onlyErrors then ds.filter (fun d => d.severity = .error) else ds) ∧
      r.diagnostics.Pairwise (fun a b => (order a b).isLE = true) ∧
      r.diagnostics.Pairwise (fun a b => b.severity = .error → a.severity = .error) ∧
      r.shown <+: r.diagnostics ∧
      r.shown.length = (if options.maxMessages = 0 ∨ r.total ≤ options.maxMessages then r.total
        else options.maxMessages) ∧
      r.shown.length + r.hidden = r.total ∧
      r.errors + r.suggestions = r.total ∧
      ((∃ d ∈ r.shown, d.severity = .suggestion) →
        ∀ e ∈ r.diagnostics.drop r.shown.length, e.severity ≠ .error) ∧
      (ofDiagnostics { options with onlyErrors := true } ds).diagnostics =
        (ofDiagnostics { options with onlyErrors := false } ds).diagnostics.filter
          fun d => d.severity = .error := by
  have hpairs := pairwise_diagnostics options ds
  refine ⟨perm_sort _, hpairs, hpairs.imp severity_eq_error_of_order, List.take_prefix _ _, ?_,
    shown_add_hidden options ds, errors_add_suggestions _, ?_, ?_⟩
  · rw [length_shown, visible_eq]
  · rintro ⟨d, hd, hsuggestion⟩ e he herror
    rw [length_shown] at he
    have hfirst := severity_eq_error_of_order (order_of_mem_shown hd he) herror
    cases hsuggestion.symm.trans hfirst
  · exact (filter_sort _ ds).symm

end Report

end LayerLint
