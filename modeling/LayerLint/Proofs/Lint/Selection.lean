-- Rules that are left out. A set of rules is made smaller by ids and by filters; what it finds then
-- is what it found before, in the same order, without the diagnostics of the rules that are gone.
import LayerLint.Proofs.Lint.RunOrder

namespace LayerLint

/-! ## Parts of a sorted list -/

section Sorting

variable {α : Type} {le : α → α → Bool}

/-- A value is sorted in behind all that it may not stand before, and those behind it may stand
there. -/
theorem mergeSort_cons_eq (htrans : ∀ a b c, le a b = true → le b c = true → le a c = true)
    (htotal : ∀ a b, (le a b || le b a) = true) (a : α) (l : List α) :
    ∃ before after, (a :: l).mergeSort le = before ++ a :: after ∧
      l.mergeSort le = before ++ after ∧
      before = (l.mergeSort le).filter (fun b => !le a b) ∧
      after = (l.mergeSort le).filter fun b => le a b := by
  obtain ⟨before, after, hcons, hsorted, hbefore⟩ := List.mergeSort_cons htrans htotal a l
  have hpairs := List.pairwise_mergeSort htrans htotal (a :: l)
  rw [hcons] at hpairs
  have hafter : ∀ b ∈ after, le a b = true :=
    (List.pairwise_cons.1 (List.pairwise_append.1 hpairs).2.1).1
  refine ⟨before, after, hcons, hsorted, ?_, ?_⟩
  · have hnone : after.filter (fun b => !le a b) = [] :=
      List.filter_eq_nil_iff.2 fun b hb => by simp [hafter b hb]
    rw [hsorted, List.filter_append, List.filter_eq_self.2 hbefore, hnone, List.append_nil]
  · have hnone : before.filter (fun b => le a b) = [] :=
      List.filter_eq_nil_iff.2 fun b hb => by simpa using hbefore b hb
    rw [hsorted, List.filter_append, List.filter_eq_self.2 hafter, hnone, List.nil_append]

/-- What is left of a sorted list is what is left, sorted: values that are tied keep their
places. -/
theorem filter_mergeSort (htrans : ∀ a b c, le a b = true → le b c = true → le a c = true)
    (htotal : ∀ a b, (le a b || le b a) = true) (p : α → Bool) (l : List α) :
    (l.mergeSort le).filter p = (l.filter p).mergeSort le := by
  induction l with
  | nil => simp
  | cons a l ih =>
    obtain ⟨before, after, hcons, hsorted, hbefore, hafter⟩ := mergeSort_cons_eq htrans htotal a l
    by_cases ha : p a = true
    · obtain ⟨front, rest, hleft, -, hfront, hrest⟩ :=
        mergeSort_cons_eq htrans htotal a (l.filter p)
      rw [hcons, List.filter_append, List.filter_cons_of_pos ha, List.filter_cons_of_pos ha, hleft,
        hbefore, hafter, hfront, hrest, ← ih, List.filter_comm, List.filter_comm p]
    · rw [hcons, List.filter_append, List.filter_cons_of_neg ha, List.filter_cons_of_neg ha,
        ← List.filter_append, ← hsorted, ih]

end Sorting

theorem Diagnostic.filter_sort (p : Diagnostic → Bool) (ds : List Diagnostic) :
    (sort ds).filter p = sort (ds.filter p) :=
  filter_mergeSort (fun _ _ _ => Std.TransCmp.isLE_trans) isLE_total p ds

namespace RuleSet

/-! ## Requests to leave rules out -/

/-- How the text of a filter is read: as a test of ids, or not at all. -/
abbrev FilterReader := String → Except PatternError (String → Bool)

/-- Keeps the rules whose ids satisfy the test that a text is read as. -/
def filterBy (read : FilterReader) (s : RuleSet) (text : String) : Except FilterError RuleSet :=
  match read text with
  | .error cause => .error ⟨text, cause⟩
  | .ok test => .ok (s.select test)

/-- Texts that are read as patterns. -/
def readPattern : FilterReader := fun text => (Pattern.ofText text).map Pattern.matchesIn

theorem filter_eq_filterBy (s : RuleSet) (text : String) :
    s.filter text = s.filterBy readPattern text := by
  unfold filter filterBy readPattern
  cases Pattern.ofText text <;> rfl

/-- A request to leave out a rule, or all rules that a filter does not let through. -/
inductive Request where
  | disable (id : String)
  | filter (text : String)

/-- The rules after a request, and its error if there is one. -/
def answer (read : FilterReader) (s : RuleSet) : Request → RuleSet × Option FilterError
  | .disable id => (s.disable id, none)
  | .filter text =>
    match s.filterBy read text with
    | .error e => (s, some e)
    | .ok left => (left, none)

/-- The rules after all of some requests. -/
def afterAll (read : FilterReader) (s : RuleSet) (requests : List Request) : RuleSet :=
  requests.foldl (fun left request => (left.answer read request).1) s

/-- Whether a request lets an id through. A filter that cannot be read lets all through. -/
def Request.keeps (read : FilterReader) (id : String) : Request → Bool
  | .disable other => id != other
  | .filter text =>
    match read text with
    | .error _ => true
    | .ok test => test id

/-! ## What is left of a set -/

theorem ext {s t : RuleSet} (h : s.rules = t.rules) : s = t := by
  cases s
  cases t
  cases h
  rfl

theorem select_select (s : RuleSet) (p q : String → Bool) :
    (s.select p).select q = s.select fun id => p id && q id :=
  ext (SortedMap.ext
    (List.filter_filter.trans (List.filter_congr fun _ _ => Bool.and_comm _ _)))

theorem select_true (s : RuleSet) : (s.select fun _ => true) = s :=
  ext (SortedMap.ext (List.filter_true _))

theorem contains_select (s : RuleSet) (p : String → Bool) (id : String) :
    (s.select p).contains id = (s.contains id && p id) := by
  rw [Bool.eq_iff_iff, Bool.and_eq_true]
  exact SortedMap.contains_iff_mem_keys.trans
    (SortedMap.mem_keys_filter_iff.trans (and_congr_left' SortedMap.contains_iff_mem_keys.symm))

/-- The rules that are left are those of the ids that are left. -/
theorem toList_select (s : RuleSet) (p : String → Bool) :
    (s.select p).toList = s.toList.filter fun rule => p rule.id := by
  unfold toList
  rw [List.filter_map]
  exact congrArg _ (List.filter_congr fun e he => congrArg p (s.named e he))

/-- A request leaves the rules whose ids it lets through. -/
theorem answer_eq_select (read : FilterReader) (s : RuleSet) (request : Request) :
    (s.answer read request).1 = s.select (request.keeps read) := by
  cases request with
  | disable id => rfl
  | filter text =>
    cases hread : read text with
    | error cause =>
      have hkeeps : (Request.filter text).keeps read = fun _ => true :=
        funext fun id => by simp only [Request.keeps, hread]
      simp only [hkeeps, select_true, answer, filterBy, hread]
    | ok test =>
      have hkeeps : (Request.filter text).keeps read = test :=
        funext fun id => by simp only [Request.keeps, hread]
      simp only [hkeeps, answer, filterBy, hread]

/-- Requests leave the rules whose ids all of them let through. -/
theorem afterAll_eq_select (read : FilterReader) (s : RuleSet) (requests : List Request) :
    s.afterAll read requests = s.select fun id => requests.all fun r => r.keeps read id := by
  induction requests generalizing s with
  | nil => exact s.select_true.symm
  | cons request requests ih =>
    have hstep : s.afterAll read (request :: requests) =
        (s.answer read request).1.afterAll read requests := rfl
    rw [hstep, ih, answer_eq_select, select_select]
    rfl

/-! ## What a smaller set finds -/

variable {survey : Survey}

theorem filter_check (p : String → Bool) (rule : Rule) :
    (rule.check survey).filter (fun d => p d.rule) =
      if p rule.id then rule.check survey else [] := by
  split
  · rename_i hid
    refine List.filter_eq_self.2 fun d hd => ?_
    rwa [Rule.rule_of_mem_check hd]
  · rename_i hid
    refine List.filter_eq_nil_iff.2 fun d hd => ?_
    rwa [Rule.rule_of_mem_check hd]

/-- The rules that are left find what they found before. -/
theorem found_select (s : RuleSet) (p : String → Bool) :
    ((s.select p).toList.flatMap fun rule => rule.check survey) =
      (s.toList.flatMap fun rule => rule.check survey).filter fun d => p d.rule := by
  rw [toList_select, List.filter_flatMap]
  induction s.toList with
  | nil => rfl
  | cons rule rules ih =>
    rw [List.flatMap_cons, filter_check, ← ih, List.filter_cons]
    split
    · rw [List.flatMap_cons]
    · rw [List.nil_append]

theorem run_select (s : RuleSet) (p : String → Bool) :
    (s.select p).run survey = (s.run survey).filter fun d => p d.rule := by
  unfold run
  rw [Diagnostic.filter_sort, found_select]

/-- A diagnostic of a run is that of a rule of the set. -/
theorem contains_of_mem_run {s : RuleSet} {d : Diagnostic} (hd : d ∈ s.run survey) :
    s.contains d.rule = true := by
  obtain ⟨rule, hrule, hd⟩ := List.mem_flatMap.1 ((Diagnostic.perm_sort _).mem_iff.1 hd)
  obtain ⟨e, he, rfl⟩ := List.mem_map.1 hrule
  rw [Rule.rule_of_mem_check hd, ← s.named e he]
  exact SortedMap.contains_iff_mem_keys.2 (List.mem_map_of_mem he)

/-- Requests to leave rules out do nothing but take diagnostics away. Whatever the rules are and
whatever is surveyed, a later run gives the diagnostics of the earlier one, in their order, whose
rules are still there; the order of the requests does not matter, however filters are read. A filter
that cannot be read is an error and leaves all rules where they are. -/
theorem leaving_rules_out_leaves_out_their_diagnostics_and_no_others (read : FilterReader)
    (set : RuleSet) (requests : List Request) (survey : Survey) :
    (set.afterAll read requests).run survey =
        (set.run survey).filter (fun d => (set.afterAll read requests).contains d.rule) ∧
      (∀ others : List Request, others.Perm requests →
        set.afterAll read others = set.afterAll read requests) ∧
      (∀ text cause, read text = .error cause →
        set.answer read (.filter text) = (set, some ⟨text, cause⟩)) ∧
      ∀ text, set.filter text = set.filterBy readPattern text := by
  refine ⟨?_, fun others hperm => ?_, fun text cause hread => ?_, set.filter_eq_filterBy⟩
  · rw [afterAll_eq_select, run_select]
    refine List.filter_congr fun d hd => ?_
    rw [contains_select, contains_of_mem_run hd, Bool.true_and]
  · have hkeeps : ∀ id, (others.all fun r => r.keeps read id) =
        requests.all fun r => r.keeps read id := fun id => hperm.all_eq
    rw [afterAll_eq_select, afterAll_eq_select]
    exact congrArg set.select (funext hkeeps)
  · simp only [answer, filterBy, hread]

/-- Requests of all kinds; the text of one is no pattern. -/
def mixedRequests : List Request :=
  [.filter "^unused-", .filter "(", .disable "unused-config-value"]

/-- Of all rules three are left, and the secret value that nobody reads is still found. -/
theorem the_unread_secret_is_found_by_the_rules_that_are_left :
    let left := (ofSettings Settings.default).afterAll readPattern mixedRequests
    let survey := Survey.ofRepository Survey.smallRepository
    left.ids = ["unused-config-patch-value", "unused-include", "unused-secret-value"] ∧
      left.run survey =
        ((ofSettings Settings.default).run survey).filter (fun d => left.contains d.rule) ∧
      ∃ d ∈ left.run survey, d.file = "installations/gauss/secret.yaml" ∧ d.path = "old" := by
  obtain ⟨hrun, -⟩ := leaving_rules_out_leaves_out_their_diagnostics_and_no_others readPattern
    (ofSettings Settings.default) mixedRequests (Survey.ofRepository Survey.smallRepository)
  have hids : ((ofSettings Settings.default).afterAll readPattern mixedRequests).ids =
      ["unused-config-patch-value", "unused-include", "unused-secret-value"] := by
    decide +kernel
  have hfound :
      ∃ d ∈ ((ofSettings Settings.default).afterAll readPattern mixedRequests).toList.flatMap
        fun rule => rule.check (Survey.ofRepository Survey.smallRepository),
      d.file = "installations/gauss/secret.yaml" ∧ d.path = "old" := by
    decide +kernel
  obtain ⟨d, hd, hwhat⟩ := hfound
  exact ⟨hids, hrun, d, (Diagnostic.perm_sort _).mem_iff.2 hd, hwhat⟩

end RuleSet

end LayerLint
