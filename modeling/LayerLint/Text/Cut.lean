-- Cutting a text at every occurrence of one character, and putting the parts together again.

namespace LayerLint.Text

/-- The parts of a text between the occurrences of a character: one more than there are
occurrences. -/
def cut (separator : Char) : List Char → List (List Char)
  | [] => [[]]
  | c :: rest =>
    if c = separator then [] :: cut separator rest
    else
      match cut separator rest with
      | [] => [[c]]
      | part :: parts => (c :: part) :: parts

/-- The parts with the character between them. -/
def paste (separator : Char) : List (List Char) → List Char
  | [] => []
  | [part] => part
  | part :: parts => part ++ separator :: paste separator parts

theorem paste_append (separator : Char) {parts others : List (List Char)} (hparts : parts ≠ [])
    (hothers : others ≠ []) :
    paste separator (parts ++ others) =
      paste separator parts ++ separator :: paste separator others := by
  induction parts with
  | nil => exact absurd rfl hparts
  | cons part parts ih =>
    cases parts with
    | nil =>
      cases others with
      | nil => exact absurd rfl hothers
      | cons other more => rfl
    | cons next more =>
      rw [List.cons_append, List.cons_append, paste, ← List.cons_append, ih (List.cons_ne_nil _ _)]
      · simp [paste]
      · exact List.cons_ne_nil _ _

theorem cut_ne_nil (separator : Char) (cs : List Char) : cut separator cs ≠ [] := by
  cases cs with
  | nil => simp [cut]
  | cons c rest =>
    simp only [cut]
    split
    · simp
    · split <;> simp

/-- Cutting loses nothing. -/
theorem paste_cut (separator : Char) (cs : List Char) : paste separator (cut separator cs) = cs := by
  induction cs with
  | nil => rfl
  | cons c rest ih =>
    have hne := cut_ne_nil separator rest
    simp only [cut]
    split
    · rename_i heq
      cases hcut : cut separator rest with
      | nil => exact absurd hcut hne
      | cons part parts =>
        rw [hcut] at ih
        subst heq
        show [] ++ c :: paste c (part :: parts) = c :: rest
        rw [ih]
        rfl
    · cases hcut : cut separator rest with
      | nil => exact absurd hcut hne
      | cons part parts =>
        rw [hcut] at ih
        cases parts with
        | nil => simpa [paste] using ih
        | cons next more => simpa [paste] using ih

/-- No part holds the character. -/
theorem not_mem_of_mem_cut {separator : Char} {cs part : List Char} (h : part ∈ cut separator cs) :
    separator ∉ part := by
  induction cs generalizing part with
  | nil => simp_all [cut]
  | cons c rest ih =>
    simp only [cut] at h
    split at h
    · rcases List.mem_cons.1 h with rfl | h
      · simp
      · exact ih h
    · rename_i hne
      cases hcut : cut separator rest with
      | nil => exact absurd hcut (cut_ne_nil separator rest)
      | cons first parts =>
        rw [hcut] at h ih
        rcases List.mem_cons.1 h with rfl | h
        · intro hmem
          rcases List.mem_cons.1 hmem with h | h
          · exact hne h.symm
          · exact ih List.mem_cons_self h
        · exact ih (List.mem_cons_of_mem _ h)

/-- A text without the character is one part. -/
theorem cut_of_not_mem {separator : Char} {part : List Char} (h : separator ∉ part) :
    cut separator part = [part] := by
  induction part with
  | nil => rfl
  | cons c rest ih =>
    obtain ⟨hne, hrest⟩ := List.ne_and_not_mem_of_not_mem_cons h
    rw [cut, if_neg (Ne.symm hne), ih hrest]

/-- The first part ends where the character first occurs. -/
theorem cut_append {separator : Char} {part : List Char} (rest : List Char)
    (h : separator ∉ part) :
    cut separator (part ++ separator :: rest) = part :: cut separator rest := by
  induction part with
  | nil => simp [cut]
  | cons c more ih =>
    obtain ⟨hne, hmore⟩ := List.ne_and_not_mem_of_not_mem_cons h
    rw [List.cons_append, cut, if_neg (Ne.symm hne), ih hmore]

/-- Texts with the character between them are cut each for itself. -/
theorem cut_append_cons (separator : Char) (first rest : List Char) :
    cut separator (first ++ separator :: rest) = cut separator first ++ cut separator rest := by
  induction first with
  | nil => simp [cut]
  | cons c more ih =>
    rw [List.cons_append, cut, ih, cut]
    split
    · rfl
    · cases hmore : cut separator more with
      | nil => exact absurd hmore (cut_ne_nil separator more)
      | cons part parts => rfl

/-- Parts that do not hold the character are found again. -/
theorem cut_paste {separator : Char} {parts : List (List Char)} (hne : parts ≠ [])
    (h : ∀ part ∈ parts, separator ∉ part) : cut separator (paste separator parts) = parts := by
  induction parts with
  | nil => exact absurd rfl hne
  | cons part parts ih =>
    have hpart := h part List.mem_cons_self
    rcases parts with _ | ⟨next, more⟩
    · exact cut_of_not_mem hpart
    · have hmore := ih (List.cons_ne_nil _ _) fun p hp => h p (List.mem_cons_of_mem _ hp)
      rw [paste, cut_append _ hpart, hmore]
      exact List.cons_ne_nil _ _

/-- The parts of a string. -/
def cutString (separator : Char) (s : String) : List String :=
  (cut separator s.toList).map String.ofList

end LayerLint.Text
