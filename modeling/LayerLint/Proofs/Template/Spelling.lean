-- How tokens are spelled. A token is read back from its spelling, if a blank stands after it.
import LayerLint.Template.Token
import Mathlib.Data.List.Chain

namespace LayerLint.Template

/-! ## Spellings -/

/-- Characters that can be escaped, and what stands after the backslash. -/
def escapes : List (Char × Char) :=
  [('\n', 'n'), ('\t', 't'), ('\r', 'r'), (Char.ofNat 0, '0'), ('\\', '\\'), ('"', '"'),
   ('\'', '\'')]

/-- A character between quotes. It is escaped if it can be. -/
def spellChar (c : Char) : List Char :=
  match escapes.lookup c with
  | some mark => ['\\', mark]
  | none => [c]

/-- The names of a chain, with a point before each. -/
def spellChain (chain : List String) : List Char := chain.flatMap fun name => '.' :: name.toList

def TokenKind.spelling : TokenKind → List Char
  | .field [] => ['.']
  | .field (first :: rest) => spellChain (first :: rest)
  | .variable name chain => name.toList ++ spellChain chain
  | .identifier name => name.toList
  | .text value => '"' :: (value.toList.flatMap spellChar ++ ['"'])
  | .number spelling => spelling.toList
  | .character value => '\'' :: (spellChar value ++ ['\''])
  | .boolean true => "true".toList
  | .boolean false => "false".toList
  | .nil => "nil".toList
  | .leftParen => ['(']
  | .rightParen => [')']
  | .pipe => ['|']
  | .declare => [':', '=']
  | .assign => ['=']
  | .comma => [',']

/-! ## Tokens that can be spelled -/

/-- A name: a letter or an underscore, and letters, numbers and underscores after it. -/
def IsName : List Char → Prop
  | [] => False
  | first :: rest => isNameStart first = true ∧ ∀ c ∈ rest, isNameChar c = true

/-- The name of a variable: its mark, which may stand alone. -/
def IsVariableName : List Char → Prop
  | [] => False
  | first :: rest => first = '$' ∧ ∀ c ∈ rest, isNameChar c = true

def isSign (c : Char) : Bool := c == '+' || c == '-'

def isExponentMark (c : Char) : Bool := c == 'e' || c == 'E' || c == 'p' || c == 'P'

def isNumeralChar (c : Char) : Bool := c.isAlphanum || c == '.' || c == '_'

/-- Whether a number begins here: a digit, a point and a digit, or a sign and one of both. -/
def beginsNumber : List Char → Bool
  | [] => false
  | c :: rest =>
    c.isDigit || (c == '.' && rest.head?.any Char.isDigit) ||
      (isSign c && rest.head?.any fun d => d.isDigit || d == '.')

/-- Characters as they follow each other in a number. A sign that is not the first of them stands
after an exponent mark, and nowhere after the mark of hexadecimal digits. -/
structure NumeralCharacters (cs : List Char) : Prop where
  known : ∀ c ∈ cs.tail, isNumeralChar c = true ∨ isSign c = true
  signs : cs.IsChain fun before c => isSign c = true → isExponentMark before = true
  hexadecimal : ['0', 'x'] <+: cs → ∀ c ∈ cs, isSign c = false

/-- The characters of a number. -/
structure IsNumeral (cs : List Char) : Prop extends NumeralCharacters cs where
  begins : beginsNumber cs = true

/-- The words that stand for values. -/
def valueWords : List String := ["true", "false", "nil"]

/-- A token that has a spelling of its own. -/
def TokenKind.IsWritable : TokenKind → Prop
  | .field chain => ∀ name ∈ chain, IsName name.toList
  | .variable name chain => IsVariableName name.toList ∧ ∀ name ∈ chain, IsName name.toList
  | .identifier name => IsName name.toList ∧ name ∉ valueWords
  | .number spelling => IsNumeral spelling.toList
  | _ => True

instance : DecidablePred IsName
  | [] => inferInstanceAs (Decidable False)
  | first :: rest =>
    decidable_of_iff (isNameStart first = true ∧ rest.all isNameChar = true)
      (and_congr_right' List.all_eq_true)

instance : DecidablePred IsVariableName
  | [] => inferInstanceAs (Decidable False)
  | first :: rest =>
    decidable_of_iff (first = '$' ∧ rest.all isNameChar = true)
      (and_congr_right' List.all_eq_true)

instance (cs : List Char) : Decidable (NumeralCharacters cs) :=
  decidable_of_iff
    (cs.tail.all (fun c => isNumeralChar c || isSign c) = true ∧
      (cs.IsChain fun before c => isSign c = true → isExponentMark before = true) ∧
      (['0', 'x'] <+: cs → cs.all (fun c => !isSign c) = true)) <| by
    simp only [List.all_eq_true, Bool.or_eq_true, Bool.not_eq_true']
    exact ⟨fun ⟨hknown, hsigns, hhex⟩ => ⟨hknown, hsigns, hhex⟩,
      fun ⟨hknown, hsigns, hhex⟩ => ⟨hknown, hsigns, hhex⟩⟩

instance (cs : List Char) : Decidable (IsNumeral cs) :=
  decidable_of_iff (NumeralCharacters cs ∧ beginsNumber cs = true)
    ⟨fun ⟨hcharacters, hbegins⟩ => ⟨hcharacters, hbegins⟩,
      fun ⟨hcharacters, hbegins⟩ => ⟨hcharacters, hbegins⟩⟩

instance : DecidablePred TokenKind.IsWritable
  | .field chain => inferInstanceAs (Decidable (∀ name ∈ chain, IsName name.toList))
  | .variable name chain =>
    inferInstanceAs (Decidable (IsVariableName name.toList ∧ ∀ name ∈ chain, IsName name.toList))
  | .identifier name => inferInstanceAs (Decidable (IsName name.toList ∧ name ∉ valueWords))
  | .number spelling => inferInstanceAs (Decidable (IsNumeral spelling.toList))
  | .text _ | .character _ | .boolean _ | .nil | .leftParen | .rightParen | .pipe | .declare
  | .assign | .comma => inferInstanceAs (Decidable True)

/-! ## Where a name begins -/

/-- The characters that begin a token by themselves. -/
def marks : List Char := ['|', '(', ')', ',', '=', ':', '"', rawQuote, '\'', '.', '$']

/-- The code points of blanks. -/
def blankCodes : List Nat :=
  [0x09, 0x0A, 0x0B, 0x0C, 0x0D, 0x20, 0x85, 0xA0, 0x1680, 0x2000, 0x2001, 0x2002, 0x2003, 0x2004,
   0x2005, 0x2006, 0x2007, 0x2008, 0x2009, 0x200A, 0x2028, 0x2029, 0x202F, 0x205F, 0x3000]

theorem toNat_mem_blankCodes {c : Char} (h : Text.isBlank c = true) : c.toNat ∈ blankCodes := by
  simp only [Text.isBlank, Bool.or_eq_true, Bool.and_eq_true, decide_eq_true_eq, beq_iff_eq] at h
  simp only [blankCodes, List.mem_cons, List.not_mem_nil, or_false]
  omega

/-- Whether a token can begin with a character. -/
def beginsToken (c : Char) : Bool := marks.contains c || isSign c || c.isDigit || isNameStart c

theorem not_isBlank_of_beginsToken {c : Char} (h : beginsToken c = true) :
    Text.isBlank c = false := by
  have hblanks : ∀ n ∈ blankCodes, beginsToken (Char.ofNat n) = false := by decide +kernel
  by_contra hblank
  have hnone := hblanks c.toNat (toNat_mem_blankCodes (Bool.not_eq_false _ ▸ hblank))
  rw [Char.ofNat_toNat, h] at hnone
  cases hnone

theorem not_mem_marks {c : Char} {p : Char → Bool} (hmarks : (marks.all fun mark => !p mark) = true)
    (h : p c = true) : c ∉ marks := by
  intro hmem
  have hnone := List.all_eq_true.1 hmarks c hmem
  rw [h] at hnone
  cases hnone

theorem isSign_eq_false {c : Char} {p : Char → Bool} (hplus : p '+' = false)
    (hdash : p '-' = false) (h : p c = true) : isSign c = false := by
  unfold isSign
  rw [Bool.or_eq_false_iff, beq_eq_false_iff_ne, beq_eq_false_iff_ne]
  constructor
  · rintro rfl
    rw [hplus] at h
    cases h
  · rintro rfl
    rw [hdash] at h
    cases h

/-- A name begins with no mark, no sign and no digit. -/
theorem not_of_isNameStart {c : Char} (h : isNameStart c = true) :
    c ∉ marks ∧ isSign c = false ∧ c.isDigit = false := by
  have hplus : isNameStart '+' = false := by decide +kernel
  have hdash : isNameStart '-' = false := by decide +kernel
  have hdigits : ∀ n < 58, 48 ≤ n → isNameStart (Char.ofNat n) = false := by decide +kernel
  refine ⟨not_mem_marks (by decide +kernel) h, isSign_eq_false hplus hdash h, ?_⟩
  by_contra hdigit
  simp only [Char.isDigit, Bool.not_eq_false, Bool.and_eq_true, decide_eq_true_eq, ge_iff_le,
    UInt32.le_iff_toNat_le] at hdigit
  have hnone := hdigits c.toNat (Nat.lt_succ_of_le hdigit.2) hdigit.1
  rw [Char.ofNat_toNat, h] at hnone
  cases hnone

theorem isNameChar_of_isNameStart {c : Char} (h : isNameStart c = true) :
    isNameChar c = true := by
  unfold isNameStart at h
  unfold isNameChar
  rw [h, Bool.true_or]

theorem isNameStart_space : isNameStart ' ' = false := by decide +kernel

theorem isNameChar_point : isNameChar '.' = false := by decide +kernel

theorem isNameChar_space : isNameChar ' ' = false := by decide +kernel

/-! ## Names and chains are read back -/

section Reading

variable {rest : List Char}

theorem takeNames_append {name before after : List Char} (h : ∀ c ∈ name, isNameChar c = true) :
    takeNames before (name ++ after) = takeNames (name.reverse ++ before) after := by
  induction name generalizing before with
  | nil => rfl
  | cons c name ih =>
    rw [List.cons_append, takeNames, if_pos (h c List.mem_cons_self),
      ih fun d hd => h d (List.mem_cons_of_mem _ hd), List.reverse_cons, List.append_assoc,
      List.singleton_append]

theorem spellChain_cons (name : String) (chain : List String) :
    spellChain (name :: chain) = '.' :: (name.toList ++ spellChain chain) := rfl

theorem IsName.characters {name : List Char} (h : IsName name) :
    ∀ c ∈ name, isNameChar c = true := by
  cases name with
  | nil => exact h.elim
  | cons first name =>
    intro c hc
    rcases List.mem_cons.1 hc with rfl | hc
    · exact isNameChar_of_isNameStart h.1
    · exact h.2 c hc

theorem IsName.head? {name : List Char} (h : IsName name) (after : List Char) :
    (name ++ after).head?.any isNameStart = true := by
  cases name with
  | nil => exact h.elim
  | cons first name => exact h.1

/-- Neither a digit nor a point stands at the front of a name. -/
theorem IsName.begins {name : List Char} (h : IsName name) (after : List Char) :
    (name ++ after).head?.any Char.isDigit = false ∧ (name ++ after).head? ≠ some '.' := by
  cases name with
  | nil => exact h.elim
  | cons first name =>
    obtain ⟨hmarks, -, hdigit⟩ := not_of_isNameStart h.1
    refine ⟨hdigit, fun hpoint => hmarks ?_⟩
    rw [Option.some.inj hpoint]
    decide

/-- The names of a chain are read up to the blank after it. -/
theorem takeNames_spellChain {name : List Char} {chain : List String}
    (hname : ∀ c ∈ name, isNameChar c = true) (hchain : ∀ next ∈ chain, IsName next.toList) :
    takeNames [] (name ++ (spellChain chain ++ ' ' :: rest)) =
      (String.ofList name :: chain, ' ' :: rest) := by
  -- the name before the chain is general, since each name of the chain comes to stand there
  induction chain generalizing name with
  | nil =>
    have hblank : takeNames name.reverse (' ' :: rest) =
        ([String.ofList name.reverse.reverse], ' ' :: rest) := by
      rw [takeNames, if_neg (by simp [isNameChar_space]), if_neg (by simp)]
    rw [takeNames_append hname, List.append_nil]
    simpa [spellChain] using hblank
  | cons next chain ih =>
    have hnext := hchain next List.mem_cons_self
    have hpoint : '.' = '.' ∧
        (next.toList ++ (spellChain chain ++ ' ' :: rest)).head?.any isNameStart = true :=
      ⟨rfl, hnext.head? _⟩
    rw [takeNames_append hname, List.append_nil, spellChain_cons, List.cons_append,
      List.append_assoc, takeNames, if_neg (by simp [isNameChar_point]), if_pos hpoint,
      ih hnext.characters fun other hother => hchain other (List.mem_cons_of_mem _ hother),
      List.reverse_reverse, String.ofList_toList]

theorem takeChain_spellChain {chain : List String} (h : ∀ name ∈ chain, IsName name.toList) :
    takeChain (spellChain chain ++ ' ' :: rest) = (chain, ' ' :: rest) := by
  cases chain with
  | nil => rfl
  | cons name chain =>
    have hname := h name List.mem_cons_self
    have hchain : ∀ next ∈ chain, IsName next.toList := fun next hnext =>
      h next (List.mem_cons_of_mem _ hnext)
    rw [spellChain_cons, List.cons_append, List.append_assoc, takeChain, if_pos (hname.head? _),
      takeNames_spellChain hname.characters hchain, String.ofList_toList]

/-! ## Numbers are read back -/

theorem any_head?_append {p : Char → Bool} {cs : List Char} (rest : List Char)
    (h : cs.head?.any p = true) : (cs ++ rest).head?.any p = true := by
  cases cs with
  | nil => cases h
  | cons c cs => exact h

theorem first_of_beginsNumber {c : Char} {cs : List Char} (h : beginsNumber (c :: cs) = true) :
    isSign c = true ∨ c.isDigit = true ∨ c = '.' := by
  simp only [beginsNumber, Bool.or_eq_true, Bool.and_eq_true, beq_iff_eq] at h
  rcases h with (h | h) | h
  · exact .inr (.inl h)
  · exact .inr (.inr h.1)
  · exact .inl h.1

theorem takesSign_eq_true_iff {number : List Char} : takesSign number = true ↔
    number.getLast?.any isExponentMark = true ∧ ¬['0', 'x'] <+: number := by
  rw [← List.isPrefixOf_iff_prefix, Bool.not_eq_true, ← Bool.not_eq_true']
  exact Bool.and_eq_true_iff

/-- The characters of a number are read up to the blank after it. -/
theorem takeNumberTail_append {first : Char} {before tail : List Char}
    (h : NumeralCharacters (first :: before ++ tail)) :
    takeNumberTail (first :: before) (tail ++ ' ' :: rest) =
      (first :: before ++ tail, ' ' :: rest) := by
  -- a sign is judged by all characters before it, so they are kept in front of the tail
  induction tail generalizing before with
  | nil => simp [takeNumberTail]
  | cons c tail ih =>
    have hsign : isSign c = true → takesSign (first :: before) = true := by
      intro hc
      have hlast := List.getLast?_eq_some_getLast (List.cons_ne_nil first before)
      have hmark := (List.isChain_append.1 h.signs).2.2 _ hlast c rfl hc
      refine takesSign_eq_true_iff.2 ⟨by rwa [hlast], fun hhex => ?_⟩
      have hnone := h.hexadecimal (hhex.trans (List.prefix_append _ _)) c
        (List.mem_append_right _ List.mem_cons_self)
      rw [hc] at hnone
      cases hnone
    have hstep : (c.isAlphanum || c == '.' || c == '_' ||
        ((c == '+' || c == '-') && takesSign (first :: before))) = true := by
      rcases h.known c (List.mem_append_right _ List.mem_cons_self) with hc | hc
      · unfold isNumeralChar at hc
        rw [hc, Bool.true_or]
      · rw [hsign hc, Bool.and_true]
        unfold isSign at hc
        rw [hc, Bool.or_true]
    have hnext : first :: before ++ c :: tail = first :: (before ++ [c]) ++ tail := by simp
    rw [hnext] at h ⊢
    rw [List.cons_append, takeNumberTail, if_pos hstep]
    exact ih h

theorem takeNumber_cons {c : Char} {cs : List Char}
    (h : isSign c = true ∨ c.isDigit = true ∨ c = '.') :
    takeNumber (c :: cs) = takeNumberTail [c] cs := by
  simp only [takeNumber]
  split
  · rfl
  · rename_i hsign
    have hnumeral : isNumeralChar c = true := by
      rcases h with h | h | rfl
      · exact absurd h hsign
      · simp [isNumeralChar, Char.isAlphanum, h]
      · rfl
    unfold isNumeralChar at hnumeral
    rw [takeNumberTail, if_pos (by rw [hnumeral, Bool.true_or])]
    rfl

/-- A number is read up to the blank after it. -/
theorem takeNumber_append {cs : List Char} (h : IsNumeral cs) :
    takeNumber (cs ++ ' ' :: rest) = (cs, ' ' :: rest) := by
  have hbegins := h.begins
  cases cs with
  | nil => cases hbegins
  | cons c cs =>
    rw [List.cons_append, takeNumber_cons (first_of_beginsNumber hbegins)]
    exact takeNumberTail_append h.toNumeralCharacters

/-! ## Quoted text is read back -/

theorem escaped?_of_mem {c mark : Char} (h : (c, mark) ∈ escapes) : escaped? mark = some c := by
  have hall : (escapes.all fun p => escaped? p.2 = some p.1) = true := by decide
  simpa using List.all_eq_true.1 hall _ h

/-- A character between quotes is an escape, or no character that ends the quotes. -/
theorem spellChar_cases (c : Char) :
    (∃ mark, spellChar c = ['\\', mark] ∧ escaped? mark = some c) ∨
      spellChar c = [c] ∧ c ≠ '\\' ∧ c ≠ '"' ∧ c ≠ '\'' ∧ c ≠ '\n' := by
  unfold spellChar
  cases hmark : escapes.lookup c with
  | some mark =>
    obtain ⟨before, after, hescapes, -⟩ := List.lookup_eq_some_iff.1 hmark
    have hmem : (c, mark) ∈ escapes := hescapes ▸ List.mem_append_right _ List.mem_cons_self
    exact .inl ⟨mark, rfl, escaped?_of_mem hmem⟩
  | none =>
    rw [List.lookup_eq_none_iff] at hmark
    have hne : ∀ p ∈ escapes, c ≠ p.1 := fun p hp heq => by simpa [heq] using hmark p hp
    exact .inr ⟨rfl, hne ('\\', '\\') (by decide), hne ('"', '"') (by decide),
      hne ('\'', '\'') (by decide), hne ('\n', 'n') (by decide)⟩

theorem takeQuoted_flatMap (value : List Char) :
    takeQuoted (value.flatMap spellChar ++ '"' :: rest) = .ok (value, rest) := by
  induction value with
  | nil => rfl
  | cons c value ih =>
    rw [List.flatMap_cons, List.append_assoc]
    rcases spellChar_cases c with ⟨mark, hspelling, hmark⟩ | ⟨hspelling, hslash, hquote, -, hline⟩
    · simp only [hspelling, List.cons_append, List.nil_append, takeQuoted, hmark, ih]
    · rw [hspelling, List.cons_append, List.nil_append, takeQuoted, if_neg hquote, if_neg hline, ih]
      · intro h; exact absurd h hslash
      · intro _ _ h; exact absurd h hslash

theorem takeCharacter_spellChar (c : Char) :
    takeCharacter (spellChar c ++ '\'' :: rest) = .ok (c, rest) := by
  rcases spellChar_cases c with ⟨mark, hspelling, hmark⟩ | ⟨hspelling, hslash, -, hquote, hline⟩
  · simp only [hspelling, List.cons_append, List.nil_append, takeCharacter, takeEscape, hmark,
      closeCharacter]
  · rw [hspelling, List.cons_append, List.nil_append, takeCharacter,
      if_neg (by simp [hquote, hline]), closeCharacter]
    intro h
    exact absurd h hslash

/-! ## Tokens are read back -/

theorem takeToken_of_not_mem_marks {c : Char} {cs : List Char} (h : c ∉ marks) :
    takeToken (c :: cs) = takeWord c cs := by
  simp only [marks, List.mem_cons, List.not_mem_nil, or_false, not_or] at h
  simp only [takeToken, h, if_false]

/-- What is read as a token begins as one. -/
theorem beginsToken_of_takeToken {c : Char} {cs left : List Char} {kind : TokenKind}
    (h : takeToken (c :: cs) = .ok (kind, left)) : beginsToken c = true := by
  by_contra hnone
  simp only [beginsToken, Bool.or_eq_true, List.contains_eq_mem, decide_eq_true_eq, not_or,
    Bool.not_eq_true] at hnone
  obtain ⟨⟨⟨hmarks, hsign⟩, hdigit⟩, hname⟩ := hnone
  unfold isSign at hsign
  rw [takeToken_of_not_mem_marks hmarks, takeWord, hsign, hdigit, hname] at h
  cases h

/-- A name is read up to the blank after it. -/
theorem takeToken_name {name : List Char} (h : IsName name) :
    takeToken (name ++ ' ' :: rest) = .ok (nameToken name, ' ' :: rest) := by
  cases name with
  | nil => exact h.elim
  | cons first name =>
    obtain ⟨hmarks, hsign, hdigit⟩ := not_of_isNameStart h.1
    unfold isSign at hsign
    rw [List.cons_append, takeToken_of_not_mem_marks hmarks, takeWord, hsign, hdigit, h.1,
      List.takeWhile_append_of_pos h.2, List.dropWhile_append_of_pos h.2]
    simp [isNameChar_space]

theorem isName_of_mem_valueWords : ∀ word ∈ valueWords, IsName word.toList := by decide +kernel

theorem nameToken_of_not_mem {name : String} (h : name ∉ valueWords) :
    nameToken name.toList = .identifier name := by
  simp only [valueWords, List.mem_cons, List.not_mem_nil, or_false, not_or] at h
  unfold nameToken
  rw [String.ofList_toList]
  split
  · exact absurd rfl h.1
  · exact absurd rfl h.2.1
  · exact absurd rfl h.2.2
  · rfl

/-- A variable is read with its chain. -/
theorem takeToken_variable {name : String} {chain : List String}
    (hname : IsVariableName name.toList) (hchain : ∀ next ∈ chain, IsName next.toList) :
    takeToken (name.toList ++ spellChain chain ++ ' ' :: rest) =
      .ok (.variable name chain, ' ' :: rest) := by
  -- the name ends at the first point of the chain, or at the blank
  have hstop : (spellChain chain ++ ' ' :: rest).takeWhile isNameChar = [] ∧
      (spellChain chain ++ ' ' :: rest).dropWhile isNameChar = spellChain chain ++ ' ' :: rest := by
    cases chain with
    | nil => simp [spellChain, isNameChar_space]
    | cons next chain => simp [spellChain_cons, isNameChar_point]
  cases hcs : name.toList with
  | nil => simp [hcs, IsVariableName] at hname
  | cons first cs =>
    rw [hcs] at hname
    obtain ⟨rfl, hcharacters⟩ := hname
    have hvariable : ∀ after, takeToken ('$' :: after) = .ok (takeVariable after) := fun _ => rfl
    rw [List.cons_append, List.cons_append, List.append_assoc, hvariable, takeVariable,
      List.takeWhile_append_of_pos hcharacters, List.dropWhile_append_of_pos hcharacters, hstop.1,
      hstop.2, takeChain_spellChain hchain, List.append_nil, ← hcs, String.ofList_toList]

theorem takeToken_point (cs : List Char) : takeToken ('.' :: cs) = takePointed cs := rfl

theorem takeToken_chain {cs : List Char} (hdigit : cs.head?.any Char.isDigit = false)
    (hpoint : cs.head? ≠ some '.') :
    takeToken ('.' :: cs) = .ok (.field (takeChain ('.' :: cs)).1, (takeChain ('.' :: cs)).2) := by
  rw [takeToken_point, takePointed, hdigit, if_neg Bool.false_ne_true, if_neg hpoint]

/-- A number is read up to the blank after it, whatever it begins with. -/
theorem takeToken_number {number : List Char} (h : IsNumeral number) :
    takeToken (number ++ ' ' :: rest) = .ok (.number (String.ofList number), ' ' :: rest) := by
  have hread := @takeNumber_append rest number h
  have hbegins := h.begins
  cases number with
  | nil => cases hbegins
  | cons c number =>
    rw [List.cons_append] at hread ⊢
    simp only [beginsNumber, Bool.or_eq_true, Bool.and_eq_true, beq_iff_eq] at hbegins
    rcases hbegins with (hdigit | ⟨rfl, hdigit⟩) | ⟨hsign, hnext⟩
    · have hmarks := not_mem_marks (by decide) hdigit
      rw [takeToken_of_not_mem_marks hmarks, takeWord, hdigit, Bool.or_true, if_pos rfl, hread]
    · rw [takeToken_point, takePointed, if_pos (any_head?_append _ hdigit), hread]
    · have hmarks := not_mem_marks (by decide) hsign
      unfold isSign at hsign
      rw [takeToken_of_not_mem_marks hmarks, takeWord, hsign, any_head?_append _ hnext,
        Bool.true_and, Bool.true_or, if_pos rfl, hread]

/-- A token is read back from its spelling, if a blank stands after it. -/
theorem takeToken_spelling (rest : List Char) : ∀ {kind : TokenKind}, kind.IsWritable →
    takeToken (kind.spelling ++ ' ' :: rest) = .ok (kind, ' ' :: rest)
  | .field [], _ => by
    have hread : takeChain ('.' :: ' ' :: rest) = ([], ' ' :: rest) := by
      simp [takeChain, isNameStart_space]
    rw [TokenKind.spelling, List.singleton_append, takeToken_chain rfl (by simp), hread]
  | .field (first :: chain), h => by
    have hread := @takeChain_spellChain rest (first :: chain) h
    obtain ⟨hdigit, hpoint⟩ := (h first List.mem_cons_self).begins (spellChain chain ++ ' ' :: rest)
    rw [spellChain_cons, List.cons_append, List.append_assoc] at hread
    rw [TokenKind.spelling, spellChain_cons, List.cons_append, List.append_assoc,
      takeToken_chain hdigit hpoint, hread]
  | .variable name chain, h => takeToken_variable h.1 h.2
  | .identifier name, h => by
    rw [TokenKind.spelling, takeToken_name h.1, nameToken_of_not_mem h.2]
  | .text value, _ => by
    have hread := @takeQuoted_flatMap (' ' :: rest) value.toList
    simp [TokenKind.spelling, takeToken, hread]
  | .number spelling, h => by
    rw [TokenKind.spelling, takeToken_number h, String.ofList_toList]
  | .character value, _ => by
    have hread := @takeCharacter_spellChar (' ' :: rest) value
    simp [TokenKind.spelling, takeToken, rawQuote, hread]
  | .boolean true, _ => by
    rw [TokenKind.spelling, takeToken_name (isName_of_mem_valueWords "true" (by decide)),
      nameToken, String.ofList_toList]
    rfl
  | .boolean false, _ => by
    rw [TokenKind.spelling, takeToken_name (isName_of_mem_valueWords "false" (by decide)),
      nameToken, String.ofList_toList]
    rfl
  | .nil, _ => by
    rw [TokenKind.spelling, takeToken_name (isName_of_mem_valueWords "nil" (by decide)),
      nameToken, String.ofList_toList]
    rfl
  | .leftParen, _ => rfl
  | .rightParen, _ => rfl
  | .pipe, _ => rfl
  | .declare, _ => rfl
  | .assign, _ => rfl
  | .comma, _ => rfl

end Reading

end LayerLint.Template
