-- What is read as a token can be written, so tokens that can be written are all that there are.
import LayerLint.Proofs.Template.Spelling

namespace LayerLint.Template

section Writable

variable {cs left : List Char}

/-! ## Names -/

theorem IsName.concat {name : List Char} {c : Char} (h : IsName name) (hc : isNameChar c = true) :
    IsName (name ++ [c]) := by
  cases name with
  | nil => exact h.elim
  | cons first name =>
    refine ⟨h.1, fun d hd => ?_⟩
    rcases List.mem_append.1 hd with hd | hd
    · exact h.2 d hd
    · rw [List.mem_singleton.1 hd]
      exact hc

/-- The names of a chain are names, if the present one is a name or begins here. -/
theorem isName_of_mem_takeNames {before : List Char}
    (h : IsName before.reverse ∨ before = [] ∧ cs.head?.any isNameStart = true) :
    ∀ name ∈ (takeNames before cs).1, IsName name.toList := by
  induction cs generalizing before with
  | nil =>
    have hbefore : IsName before.reverse := h.resolve_right fun h => by cases h.2
    simpa [takeNames] using hbefore
  | cons c cs ih =>
    rw [takeNames]
    split
    · rename_i hc
      refine ih (.inl ?_)
      rw [List.reverse_cons]
      rcases h with h | ⟨rfl, hstart⟩
      · exact h.concat hc
      · exact ⟨hstart, fun _ hd => absurd hd List.not_mem_nil⟩
    · rename_i hc
      have hbefore : IsName before.reverse :=
        h.resolve_right fun h => hc (isNameChar_of_isNameStart h.2)
      split
      · rename_i hpoint
        intro name hname
        rcases List.mem_cons.1 hname with rfl | hname
        · rwa [String.toList_ofList]
        · exact ih (.inr ⟨rfl, hpoint.2⟩) name hname
      · intro name hname
        rw [List.mem_singleton.1 hname, String.toList_ofList]
        exact hbefore

theorem isName_of_mem_takeChain : ∀ name ∈ (takeChain cs).1, IsName name.toList := by
  unfold takeChain
  split
  · split
    · rename_i hstart
      exact isName_of_mem_takeNames (.inr ⟨rfl, hstart⟩)
    · split
      · exact fun _ h => absurd h List.not_mem_nil
      · exact fun _ h => absurd h List.not_mem_nil
  · exact fun _ h => absurd h List.not_mem_nil

/-! ## Numbers -/

theorem beginsNumber_append {rest : List Char} (h : beginsNumber cs = true) :
    beginsNumber (cs ++ rest) = true := by
  cases cs with
  | nil => cases h
  | cons c cs =>
    simp only [beginsNumber, List.cons_append, Bool.or_eq_true, Bool.and_eq_true] at h ⊢
    exact h.imp (Or.imp_right (And.imp_right (any_head?_append rest)))
      (And.imp_right (any_head?_append rest))

/-- A character that is read on goes on with a number. -/
theorem NumeralCharacters.concat {number : List Char} {c : Char} (h : NumeralCharacters number)
    (hc : isNumeralChar c = true ∧ isSign c = false ∨ isSign c = true ∧ takesSign number = true) :
    NumeralCharacters (number ++ [c]) := by
  refine ⟨fun d hd => ?_, ?_, fun hhex d hd => ?_⟩
  · have hmem : d ∈ number.tail ∨ d = c := by
      cases number with
      | nil => cases hd
      | cons first number => simpa using hd
    rcases hmem with hmem | rfl
    · exact h.known d hmem
    · exact hc.imp And.left And.left
  · refine List.isChain_append.2 ⟨h.signs, .singleton c, ?_⟩
    rintro last hlast _ ⟨⟩ hsign
    rcases hc with hc | hc
    · rw [hc.2] at hsign
      cases hsign
    · have hmark := (takesSign_eq_true_iff.1 hc.2).1
      rw [hlast] at hmark
      exact hmark
  · rcases List.prefix_concat_iff.1 hhex with hall | hhex
    · rw [← hall] at hd
      rcases List.mem_pair.1 hd with rfl | rfl
      · rfl
      · rfl
    · rcases List.mem_append.1 hd with hd | hd
      · exact h.hexadecimal hhex d hd
      · rw [List.mem_singleton.1 hd]
        rcases hc with hc | hc
        · exact hc.2
        · exact absurd hhex (takesSign_eq_true_iff.1 hc.2).2

theorem isSign_of_isNumeralChar {c : Char} (h : isNumeralChar c = true) : isSign c = false :=
  isSign_eq_false rfl rfl h

/-- A number is read on as one. -/
theorem numeralCharacters_takeNumberTail {number : List Char} (h : NumeralCharacters number) :
    number <+: (takeNumberTail number cs).1 ∧ NumeralCharacters (takeNumberTail number cs).1 := by
  induction cs generalizing number with
  | nil => exact ⟨List.prefix_rfl, h⟩
  | cons c cs ih =>
    rw [takeNumberTail]
    split
    · rename_i hc
      have hnext : NumeralCharacters (number ++ [c]) := by
        refine h.concat ?_
        rcases Bool.or_eq_true_iff.1 hc with hc | hc
        · exact .inl ⟨hc, isSign_of_isNumeralChar hc⟩
        · exact .inr (Bool.and_eq_true_iff.1 hc)
      obtain ⟨hlonger, hcharacters⟩ := ih hnext
      exact ⟨(List.prefix_append _ _).trans hlonger, hcharacters⟩
    · exact ⟨List.prefix_rfl, h⟩

theorem isNumeral_takeNumberTail {number : List Char} (h : NumeralCharacters number)
    (hbegins : beginsNumber number = true) : IsNumeral (takeNumberTail number cs).1 := by
  obtain ⟨⟨rest, hrest⟩, hcharacters⟩ := @numeralCharacters_takeNumberTail cs number h
  refine ⟨hcharacters, ?_⟩
  rw [← hrest]
  exact beginsNumber_append hbegins

theorem numeralCharacters_singleton (c : Char) : NumeralCharacters [c] := by
  refine ⟨fun _ h => absurd h List.not_mem_nil, .singleton c, fun hhex => ?_⟩
  have hlength := hhex.length_le
  cases Nat.not_succ_le_self 1 hlength

/-- What is read as a number is one, where a number begins. -/
theorem isNumeral_takeNumber (h : beginsNumber cs = true) : IsNumeral (takeNumber cs).1 := by
  cases cs with
  | nil => cases h
  | cons c cs =>
    rw [takeNumber_cons (first_of_beginsNumber h)]
    by_cases hdigit : c.isDigit = true
    · exact isNumeral_takeNumberTail (numeralCharacters_singleton c)
        (by simp [beginsNumber, hdigit])
    · cases cs with
      | nil => simp [beginsNumber, hdigit] at h
      | cons d cs =>
        have hnext : d.isDigit = true ∨ d = '.' := by
          simp only [beginsNumber, hdigit, List.head?_cons, Option.any_some, Bool.false_or,
            Bool.or_eq_true, Bool.and_eq_true, beq_iff_eq] at h
          exact h.elim (fun h => .inl h.2) And.right
        have hd : isNumeralChar d = true := by
          rcases hnext with hnext | rfl
          · simp [isNumeralChar, Char.isAlphanum, hnext]
          · rfl
        have hpair := (numeralCharacters_singleton c).concat (.inl ⟨hd, isSign_of_isNumeralChar hd⟩)
        unfold isNumeralChar at hd
        rw [takeNumberTail, if_pos (by rw [hd, Bool.true_or])]
        exact isNumeral_takeNumberTail hpair (by simpa [beginsNumber] using h)

/-! ## Tokens -/

theorem isWritable_nameToken {name : List Char} (h : IsName name) :
    (nameToken name).IsWritable := by
  unfold nameToken
  split
  · trivial
  · trivial
  · trivial
  · rename_i htrue hfalse hnil
    refine ⟨by rwa [String.toList_ofList], fun hmem => ?_⟩
    simp only [valueWords, List.mem_cons, List.not_mem_nil, or_false] at hmem
    exact hmem.elim htrue fun hmem => hmem.elim hfalse hnil

theorem isWritable_of_takePointed {kind : TokenKind} (h : takePointed cs = .ok (kind, left)) :
    kind.IsWritable := by
  unfold takePointed at h
  split at h
  · rename_i hdigit
    simp only [Except.ok.injEq, Prod.mk.injEq] at h
    have hbegins : beginsNumber ('.' :: cs) = true := by simp [beginsNumber, hdigit]
    rw [← h.1, TokenKind.IsWritable, String.toList_ofList]
    exact isNumeral_takeNumber hbegins
  · split at h
    · cases h
    · simp only [Except.ok.injEq, Prod.mk.injEq] at h
      rw [← h.1]
      exact isName_of_mem_takeChain

theorem isWritable_takeVariable : (takeVariable cs).1.IsWritable := by
  refine ⟨?_, isName_of_mem_takeChain⟩
  rw [String.toList_ofList]
  exact ⟨rfl, List.all_eq_true.1 List.all_takeWhile⟩

theorem isWritable_of_takeWord {c : Char} {kind : TokenKind}
    (h : takeWord c cs = .ok (kind, left)) : kind.IsWritable := by
  simp only [takeWord] at h
  split at h
  · rename_i hnumber
    simp only [Except.ok.injEq, Prod.mk.injEq] at h
    have hbegins : beginsNumber (c :: cs) = true := by
      simp only [Bool.or_eq_true] at hnumber
      simp only [beginsNumber, isSign, Bool.or_eq_true]
      exact hnumber.elim .inr fun hdigit => .inl (.inl hdigit)
    rw [← h.1, TokenKind.IsWritable, String.toList_ofList]
    exact isNumeral_takeNumber hbegins
  · split at h
    · rename_i hstart
      simp only [Except.ok.injEq, Prod.mk.injEq] at h
      rw [← h.1]
      exact isWritable_nameToken ⟨hstart, List.all_eq_true.1 List.all_takeWhile⟩
    · cases h

/-- What is read as a token can be written. -/
theorem isWritable_of_takeToken {kind : TokenKind} (h : takeToken cs = .ok (kind, left)) :
    kind.IsWritable := by
  cases cs with
  | nil => cases h
  | cons c rest =>
    cases tokenRead_of_takeToken h with
    | mark hkind =>
      simp only [List.mem_cons, List.not_mem_nil, or_false] at hkind
      rcases hkind with rfl | rfl | rfl | rfl | rfl <;> trivial
    | declare => trivial
    | quoted => trivial
    | raw => trivial
    | character => trivial
    | pointed hread => exact isWritable_of_takePointed hread
    | dollar => exact isWritable_takeVariable
    | word hread => exact isWritable_of_takeWord hread

end Writable

end LayerLint.Template
