-- What colours do to a report for a reader. A look puts style sequences in front of a text and one
-- behind it, and nothing else; so a report without its style sequences is the plain report.
import LayerLint.Proofs.Text.Digits
import LayerLint.Report.Prose

namespace LayerLint

namespace Text

/-! ## Style sequences -/

/-- The character that a style sequence begins with. -/
def escapeSign : Char := '\x1b'

/-- What stands behind the style sequence that a text begins with: the escape sign, a bracket, one
digit or more, and the letter m. -/
def behindStyle? : List Char → Option (List Char)
  | '\x1b' :: '[' :: digit :: rest =>
    if digit.isDigit then
      match rest.dropWhile Char.isDigit with
      | 'm' :: behind => some behind
      | _ => none
    else none
  | _ => none

theorem length_behindStyle?_lt {text behind : List Char} (h : behindStyle? text = some behind) :
    behind.length < text.length := by
  unfold behindStyle? at h
  split at h
  · rename_i digit rest
    split at h
    · split at h
      · rename_i more hdrop
        cases h
        have hle : (rest.dropWhile Char.isDigit).length ≤ rest.length :=
          (List.dropWhile_suffix _).length_le
        rw [hdrop, List.length_cons] at hle
        simp only [List.length_cons]
        omega
      · cases h
    · cases h
  · cases h

/-- A text without its style sequences. -/
def withoutStyles (text : List Char) : List Char :=
  match _hbehind : behindStyle? text with
  | some behind => withoutStyles behind
  | none =>
    match text with
    | [] => []
    | c :: rest => c :: withoutStyles rest
termination_by text.length
decreasing_by
  · exact length_behindStyle?_lt _hbehind
  · simp

theorem withoutStyles_of_behind {text behind : List Char} (h : behindStyle? text = some behind) :
    withoutStyles text = withoutStyles behind := by
  rw [withoutStyles]
  split
  · rename_i other hother
    rw [h] at hother
    cases hother
    rfl
  · rename_i hnone
    rw [h] at hnone
    cases hnone

/-- No style sequence begins with another character than the escape sign. -/
theorem withoutStyles_cons {c : Char} (h : c ≠ escapeSign) (rest : List Char) :
    withoutStyles (c :: rest) = c :: withoutStyles rest := by
  have hnone : behindStyle? (c :: rest) = none := by
    unfold behindStyle?
    split
    · rename_i heq
      simp only [List.cons.injEq] at heq
      exact absurd heq.1 h
    · rfl
  rw [withoutStyles]
  split
  · rename_i behind hbehind
    rw [hnone] at hbehind
    cases hbehind
  · rfl

theorem withoutStyles_append {plain : List Char} (h : escapeSign ∉ plain) (more : List Char) :
    withoutStyles (plain ++ more) = plain ++ withoutStyles more := by
  induction plain with
  | nil => rfl
  | cons c rest ih =>
    simp only [List.mem_cons, not_or] at h
    rw [List.cons_append, withoutStyles_cons (Ne.symm h.1), ih h.2, List.cons_append]

/-! ## Decorated texts -/

/-- A text decorates a plain one if taking out the style sequences gives the plain one, whatever
stands behind it. -/
structure Decorates (styled plain : String) : Prop where
  unescaped : escapeSign ∉ plain.toList
  undone : ∀ more, withoutStyles (styled.toList ++ more) = plain.toList ++ withoutStyles more

namespace Decorates

variable {styled plain : String}

/-- A text without the escape sign has no styles to lose. -/
theorem refl (h : escapeSign ∉ plain.toList) : Decorates plain plain :=
  ⟨h, withoutStyles_append h⟩

theorem append {styled' plain' : String} (h : Decorates styled plain)
    (h' : Decorates styled' plain') : Decorates (styled ++ styled') (plain ++ plain') := by
  constructor
  · rw [String.toList_append, List.mem_append, not_or]
    exact ⟨h.unescaped, h'.unescaped⟩
  · intro more
    simp only [String.toList_append, List.append_assoc]
    rw [h.undone, h'.undone]

theorem withoutStyles_eq (h : Decorates styled plain) :
    withoutStyles styled.toList = plain.toList := by
  have hnil : withoutStyles [] = [] := by
    rw [withoutStyles]
    rfl
  have hend := h.undone []
  rwa [hnil, List.append_nil, List.append_nil] at hend

/-- The sequence of a code is taken out as a whole: its digits end at the letter. -/
theorem sequence (code : Nat) : Decorates (Look.sequence code) "" := by
  refine ⟨by simp, fun more => ?_⟩
  have hdigits : ∀ c ∈ (toString code).toList, c.isDigit = true := fun _ =>
    isDigit_of_mem_toString
  obtain ⟨digit, rest, hcode⟩ := exists_cons_toString code
  have hsequence : (Look.sequence code).toList ++ more =
      '\x1b' :: '[' :: digit :: (rest ++ 'm' :: more) := by
    rw [show Look.sequence code = "\x1b[" ++ toString code ++ "m" from rfl]
    simp only [String.toList_append, hcode]
    simp
  rw [hcode] at hdigits
  have hrest : (rest ++ 'm' :: more).dropWhile Char.isDigit = 'm' :: more := by
    rw [List.dropWhile_append_of_pos fun c hc => hdigits c (List.mem_cons_of_mem _ hc)]
    rfl
  have hbehind : behindStyle? ('\x1b' :: '[' :: digit :: (rest ++ 'm' :: more)) = some more := by
    simp only [behindStyle?, hdigits digit List.mem_cons_self, if_true, hrest]
  rw [hsequence, withoutStyles_of_behind hbehind]
  rfl

theorem join {α : Type} {styled plain : α → String} {parts : List α}
    (h : ∀ part ∈ parts, Decorates (styled part) (plain part)) :
    Decorates (String.join (parts.map styled)) (String.join (parts.map plain)) := by
  induction parts with
  | nil => exact refl (by simp)
  | cons part rest ih =>
    rw [List.map_cons, List.map_cons, String.join_cons, String.join_cons]
    exact (h part List.mem_cons_self).append (ih fun p hp => h p (List.mem_cons_of_mem _ hp))

theorem sequences (codes : List Nat) : Decorates (String.join (codes.map Look.sequence)) "" := by
  induction codes with
  | nil => exact refl (by simp)
  | cons code rest ih =>
    rw [List.map_cons, String.join_cons]
    exact (sequence code).append ih

/-- A look adds style sequences to a text and nothing else. -/
theorem apply (look : Look) (h : escapeSign ∉ plain.toList) :
    Decorates (look.apply plain) plain := by
  unfold Look.apply
  split
  · exact refl h
  · have hall := ((sequences look.codes).append (refl h)).append (sequence 0)
    rwa [String.empty_append, String.append_empty] at hall

end Decorates

end Text

open Text

/-! ## Reports -/

/-- The texts of a diagnostic. -/
def Diagnostic.texts (d : Diagnostic) : List String :=
  [d.file, d.path, d.message, d.rule] ++ d.hint.toList

namespace ProseStyle

/-- The same style without any look. -/
def undecorated (s : ProseStyle) : ProseStyle := { s with theme := .plain }

@[simp] theorem look_undecorated (s : ProseStyle) (severity : Severity) (text : String) :
    (s.undecorated.look severity).apply text = text := by
  cases severity <;> rfl

@[simp] theorem dim_undecorated (s : ProseStyle) (text : String) :
    s.undecorated.theme.dim.apply text = text := rfl

theorem escapeSign_not_mem_showPath {path : String} (h : escapeSign ∉ path.toList) :
    escapeSign ∉ (showPath path).toList := by
  unfold showPath
  split
  · decide
  · rw [String.toList_append, List.mem_append, not_or]
    exact ⟨by decide, h⟩

theorem decorates_look (s : ProseStyle) (severity : Severity) {text : String}
    (h : escapeSign ∉ text.toList) :
    Decorates ((s.look severity).apply text) ((s.undecorated.look severity).apply text) := by
  rw [look_undecorated]
  exact Decorates.apply _ h

theorem decorates_dim (s : ProseStyle) {text : String} (h : escapeSign ∉ text.toList) :
    Decorates (s.theme.dim.apply text) (s.undecorated.theme.dim.apply text) := by
  rw [dim_undecorated]
  exact Decorates.apply _ h

/-- The lines of a diagnostic are those of the plain report with looks added to three of the
parts. -/
theorem decorates_writeDiagnostic (s : ProseStyle) {d : Diagnostic}
    (h : ∀ text ∈ d.texts, escapeSign ∉ text.toList) :
    Decorates (s.writeDiagnostic d) (s.undecorated.writeDiagnostic d) := by
  have hfile : escapeSign ∉ d.file.toList := h _ (by simp [Diagnostic.texts])
  have hpath : escapeSign ∉ d.path.toList := h _ (by simp [Diagnostic.texts])
  have hmessage : escapeSign ∉ d.message.toList := h _ (by simp [Diagnostic.texts])
  have hrule : escapeSign ∉ d.rule.toList := h _ (by simp [Diagnostic.texts])
  have hplace : escapeSign ∉ (d.file ++ ": " ++ showPath d.path).toList := by
    simp only [String.toList_append, List.mem_append, not_or]
    exact ⟨⟨hfile, by decide⟩, escapeSign_not_mem_showPath hpath⟩
  have hname : escapeSign ∉ ("[" ++ d.rule ++ "]").toList := by
    simp only [String.toList_append, List.mem_append, not_or]
    exact ⟨⟨by decide, hrule⟩, by decide⟩
  unfold writeDiagnostic
  dsimp only
  apply Decorates.append
  · apply Decorates.append
    · apply Decorates.append
      · apply Decorates.append
        · exact (decorates_look s d.severity hplace).append (.refl (by decide))
        · exact .refl hmessage
      · -- The name of the rule.
        by_cases hnames : s.ruleNames = true
        · rw [if_pos hnames, if_pos (show s.undecorated.ruleNames = true from hnames)]
          exact .append (.refl (by decide)) (decorates_dim s hname)
        · rw [if_neg hnames, if_neg (show ¬s.undecorated.ruleNames = true from hnames)]
          exact .refl (by decide)
    · exact .refl (by decide)
  · -- The hint.
    cases hhint : d.hint with
    | none =>
      show Decorates "" ""
      exact .refl (by decide)
    | some hint =>
      dsimp only
      by_cases hhints : s.hints = true
      · rw [if_pos hhints, if_pos (show s.undecorated.hints = true from hhints)]
        refine .append (.append (.refl (by decide)) (decorates_dim s ?_)) (.refl (by decide))
        exact h hint (by simp [Diagnostic.texts, hhint])
      · rw [if_neg hhints, if_neg (show ¬s.undecorated.hints = true from hhints)]
        exact .refl (by decide)

theorem escapeSign_not_mem_writeHidden (r : Report) : escapeSign ∉ (writeHidden r).toList := by
  unfold writeHidden
  split
  · decide
  · simp only [String.toList_append, List.mem_append, not_or]
    exact ⟨⟨by decide, not_mem_toString (by decide)⟩, by decide⟩

theorem escapeSign_not_mem_writeSum (r : Report) : escapeSign ∉ (writeSum r).toList := by
  unfold writeSum
  split
  · decide
  · have hnumber (n : Nat) : escapeSign ∉ (toString n).toList := not_mem_toString (by decide)
    simp only [String.toList_append, List.mem_append, not_or]
    exact ⟨⟨⟨⟨⟨⟨by decide, hnumber _⟩, by decide⟩, hnumber _⟩, by decide⟩, hnumber _⟩, by decide⟩

theorem decorates_write (s : ProseStyle) {r : Report}
    (h : ∀ d ∈ r.shown, ∀ text ∈ d.texts, escapeSign ∉ text.toList) :
    Decorates (s.write r) (s.undecorated.write r) := by
  unfold write
  apply Decorates.append
  · apply Decorates.append
    · exact .join fun d hd => decorates_writeDiagnostic s (h d hd)
    · exact .refl (escapeSign_not_mem_writeHidden r)
  · exact .refl (escapeSign_not_mem_writeSum r)

/-- If no text of the diagnostics that are shown has an escape sign in it, the report in any theme,
the coloured one among them, is the plain report once its style sequences are taken out; and the
plain report has no escape sign in it. -/
theorem a_report_in_colours_is_the_plain_report_with_style_sequences {r : Report}
    (h : ∀ d ∈ r.shown, ∀ text ∈ d.texts, escapeSign ∉ text.toList) (hints ruleNames : Bool)
    (theme : Theme) :
    withoutStyles ((ProseStyle.mk hints ruleNames theme).write r).toList =
        ((ProseStyle.mk hints ruleNames .plain).write r).toList ∧
      escapeSign ∉ ((ProseStyle.mk hints ruleNames .plain).write r).toList := by
  have hdecorates := decorates_write ⟨hints, ruleNames, theme⟩ h
  exact ⟨hdecorates.withoutStyles_eq, hdecorates.unescaped⟩

/-- A report whose texts look like parts of style sequences. -/
def bracketReport : Report :=
  ⟨[⟨⟨.error, "m.yaml", "31m", "is [1m", some "0m"⟩, "r[2m"⟩], 1, false⟩

/-- Texts that look like parts of style sequences stay when the style sequences are taken out. -/
theorem the_bracket_report_is_plain_without_its_colours :
    ((ProseStyle.mk true true .coloured).write bracketReport).toList.head? = some escapeSign ∧
      withoutStyles ((ProseStyle.mk true true .coloured).write bracketReport).toList =
        ("m.yaml: .31m is [1m [r[2m]\n    0m\n\n" ++
          "Found 1 issue(s): 1 error(s), 0 suggestion(s)\n").toList := by
  have hplain := (a_report_in_colours_is_the_plain_report_with_style_sequences
    (r := bracketReport) (by decide) true true .coloured).1
  refine ⟨by decide +kernel, hplain.trans ?_⟩
  decide +kernel

end ProseStyle

end LayerLint
