-- The fragments that a template brings in, itself or through other fragments.
import LayerLint.Repository.Basic

namespace LayerLint.Repository

/-- How many paths some fragments include. -/
def includeCount : List (String × TemplateFile) → Nat
  | [] => 0
  | (_, t) :: rest => t.includes.length + includeCount rest

/-- A fragment that is taken out takes its includes along. -/
theorem includeCount_filter {entries : List (String × TemplateFile)} (ascending : Ascending entries)
    {path : String} {t : TemplateFile} (h : (path, t) ∈ entries) :
    includeCount (entries.filter fun e => e.1 != path) + t.includes.length =
      includeCount entries := by
  induction entries with
  | nil => exact absurd h List.not_mem_nil
  | cons first rest ih =>
    obtain ⟨hfirst, hrest⟩ := List.pairwise_cons.1 ascending
    rcases List.mem_cons.1 h with rfl | h
    · have hkept : rest.filter (fun e => e.1 != path) = rest :=
        List.filter_eq_self.2 fun e he => bne_iff_ne.2 fun heq =>
          String.lt_irrefl path (heq ▸ hfirst e he)
      simp [hkept, includeCount, Nat.add_comm]
    · have hne : first.1 ≠ path := fun heq => String.lt_irrefl path (heq ▸ hfirst (path, t) h)
      have hrest := ih hrest h
      simp only [includeCount, List.filter_cons, bne_iff_ne, ne_eq, hne, not_false_eq_true,
        if_true] at hrest ⊢
      omega

/-- The fragments that pending paths lead to, the nearer ones first. A fragment is taken out of
those that remain when it is reached, so that a circle ends; paths of none are passed over. -/
def reach (remaining : SortedMap TemplateFile) : List String → List TemplateFile
  | [] => []
  | path :: pending =>
    match _h : remaining.get? path with
    | none => reach remaining pending
    | some t => t :: reach (remaining.erase path) (pending ++ t.includes)
termination_by pending => pending.length + includeCount remaining.entries
decreasing_by
  · exact Nat.add_lt_add_right (Nat.lt_succ_self _) _
  · have hleft := includeCount_filter remaining.ascending (SortedMap.get?_eq_some_iff.1 _h)
    simp only [SortedMap.erase, SortedMap.filter, List.length_append, List.length_cons]
    omega

/-- A template and the fragments that it brings in, each once. -/
def closure (r : Repository) (t : TemplateFile) : List TemplateFile :=
  t :: reach (r.fragments.erase t.path) t.includes

end LayerLint.Repository
