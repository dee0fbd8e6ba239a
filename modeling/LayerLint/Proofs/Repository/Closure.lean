-- The closure of a template holds what a chain of includes leads to, and nothing else. The walk
-- takes fragments out of those that remain, so that it ends also where includes go in a circle.
import LayerLint.Proofs.Repository.Place
import LayerLint.Repository.Closure

namespace LayerLint.Repository

/-- What a template brings in: itself, and each fragment that stands at a path which something
that it brings in includes. -/
inductive BringsIn (r : Repository) (t : TemplateFile) : TemplateFile → Prop
  | self : BringsIn r t t
  | step {owner fragment : TemplateFile} {path : String} : BringsIn r t owner →
      path ∈ owner.includes → r.fragments.get? path = some fragment → BringsIn r t fragment

variable {r : Repository} {t : TemplateFile}

/-- What is brought in hangs on the fragments alone. -/
theorem BringsIn.of_fragments_eq {q : Repository} (h : r.fragments = q.fragments)
    {o : TemplateFile} (ho : r.BringsIn t o) : q.BringsIn t o := by
  induction ho with
  | self => exact .self
  | step _ hpath hf ih => exact .step ih hpath (h ▸ hf)

theorem BringsIn.trans {o f : TemplateFile} (ho : r.BringsIn t o) (hf : r.BringsIn o f) :
    r.BringsIn t f := by
  induction hf with
  | self => exact ho
  | step _ hpath hget ih => exact .step ih hpath hget

/-- The walk reaches only what is brought in, if the paths that it begins with are included by
what is brought in. -/
theorem bringsIn_of_mem_reach (remaining : SortedMap TemplateFile) (pending : List String)
    (hremaining : ∀ path f, remaining.get? path = some f → r.fragments.get? path = some f)
    (hpending : ∀ path ∈ pending, ∃ owner, r.BringsIn t owner ∧ path ∈ owner.includes) :
    ∀ o ∈ reach remaining pending, r.BringsIn t o := by
  fun_induction reach remaining pending with
  | case1 => exact fun o ho => absurd ho List.not_mem_nil
  | case2 remaining path pending hnone ih =>
    exact ih hremaining fun p hp => hpending p (List.mem_cons_of_mem _ hp)
  | case3 remaining path pending f hsome ih =>
    obtain ⟨owner, howner, hmem⟩ := hpending path List.mem_cons_self
    have hf : r.BringsIn t f := .step howner hmem (hremaining path f hsome)
    have hrest := ih
      (fun p g hg => hremaining p g (SortedMap.get?_erase_eq_some_iff.1 hg).1)
      (fun p hp => by
        rcases List.mem_append.1 hp with hp | hp
        · exact hpending p (List.mem_cons_of_mem _ hp)
        · exact ⟨f, hf, hp⟩)
    intro o ho
    rcases List.mem_cons.1 ho with rfl | ho
    · exact hf
    · exact hrest o ho

/-- The walk reaches every fragment that remains at one of its first paths, and every fragment
that remains at a path which something that it reaches includes. -/
theorem mem_reach (remaining : SortedMap TemplateFile) (pending : List String) :
    (∀ path ∈ pending, ∀ f, remaining.get? path = some f → f ∈ reach remaining pending) ∧
      ∀ owner ∈ reach remaining pending, ∀ path ∈ owner.includes, ∀ f,
        remaining.get? path = some f → f ∈ reach remaining pending := by
  fun_induction reach remaining pending with
  | case1 => simp
  | case2 remaining path pending hnone ih =>
    refine ⟨fun p hp f hf => ?_, ih.2⟩
    rcases List.mem_cons.1 hp with rfl | hp
    · rw [hnone] at hf
      cases hf
    · exact ih.1 p hp f hf
  | case3 remaining path pending g hsome ih =>
    obtain ⟨hpending, hclosed⟩ := ih
    -- A path that is not the one just taken still has its fragment.
    have hlater : ∀ p f, remaining.get? p = some f →
        (p ≠ path → f ∈ reach (remaining.erase path) (pending ++ g.includes)) →
        f ∈ g :: reach (remaining.erase path) (pending ++ g.includes) := by
      intro p f hf hmem
      by_cases hp : p = path
      · subst hp
        cases hsome.symm.trans hf
        exact List.mem_cons_self
      · exact List.mem_cons_of_mem _ (hmem hp)
    refine ⟨fun p hp f hf => hlater p f hf fun hne => ?_,
      fun owner howner p hp f hf => hlater p f hf fun hne => ?_⟩
    · have hp := (List.mem_cons.1 hp).resolve_left hne
      exact hpending p (List.mem_append_left _ hp) f (SortedMap.get?_erase_eq_some_iff.2 ⟨hf, hne⟩)
    · have hf := SortedMap.get?_erase_eq_some_iff.2 ⟨hf, hne⟩
      rcases List.mem_cons.1 howner with rfl | howner
      · exact hpending p (List.mem_append_right _ hp) f hf
      · exact hclosed owner howner p hp f hf

/-- The closure of a template is what it brings in. -/
theorem mem_closure_iff (h : Placed r) (ht : t ∈ r.templates) {o : TemplateFile} :
    o ∈ r.closure t ↔ r.BringsIn t o := by
  constructor
  · intro ho
    rcases List.mem_cons.1 ho with rfl | ho
    · exact .self
    · exact bringsIn_of_mem_reach _ _
        (fun p f hf => (SortedMap.get?_erase_eq_some_iff.1 hf).1)
        (fun p hp => ⟨t, .self, hp⟩) o ho
  · intro ho
    obtain ⟨hpending, hclosed⟩ := mem_reach (r.fragments.erase t.path) t.includes
    induction ho with
    | self => exact List.mem_cons_self
    | @step owner f path _ hp hf ih =>
      by_cases hpath : path = t.path
      · have heq : f = t :=
          h.template_eq (mem_of_fragment hf) ht ((h.path_of_fragment hf).trans hpath)
        exact heq ▸ List.mem_cons_self
      · have hf := SortedMap.get?_erase_eq_some_iff.2 ⟨hf, hpath⟩
        rcases List.mem_cons.1 ih with rfl | howner
        · exact List.mem_cons_of_mem _ (hpending path hp f hf)
        · exact List.mem_cons_of_mem _ (hclosed owner howner path hp f hf)

theorem mem_templates_of_bringsIn (ht : t ∈ r.templates) {o : TemplateFile}
    (ho : r.BringsIn t o) : o ∈ r.templates := by
  cases ho with
  | self => exact ht
  | step _ _ hf => exact mem_of_fragment hf

end LayerLint.Repository
