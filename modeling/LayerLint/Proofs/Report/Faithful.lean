-- What can be told from a report in JSON. Every document ends where it says that it ends, whatever
-- stands behind it; so two documents that are written alike are one document, and two reports that
-- are written alike show the same diagnostics and the same counts.
import LayerLint.Proofs.Text.Digits
import LayerLint.Proofs.Text.Utf8
import LayerLint.Report.Json
import LayerLint.Yaml.Mark

namespace LayerLint

namespace JsonTree

open Text

variable {u v : List Char}

/-! ## Characters between quotes -/

/-- The character that stands first between quotes, and what stands behind it. -/
def unescape? : List Char → Option (Char × List Char)
  | '\\' :: 'b' :: rest => some ('\x08', rest)
  | '\\' :: 'f' :: rest => some ('\x0c', rest)
  | '\\' :: 'n' :: rest => some ('\n', rest)
  | '\\' :: 'r' :: rest => some ('\r', rest)
  | '\\' :: 't' :: rest => some ('\t', rest)
  | '\\' :: 'u' :: '0' :: '0' :: high :: low :: rest =>
    match Yaml.hexWorth? high, Yaml.hexWorth? low with
    | some h, some l => some (Char.ofNat (16 * h + l), rest)
    | _, _ => none
  | '\\' :: c :: rest => some (c, rest)
  | c :: rest => some (c, rest)
  | [] => none

theorem unescape?_cons {c : Char} (h : c ≠ '\\') (rest : List Char) :
    unescape? (c :: rest) = some (c, rest) := by
  unfold unescape?
  split <;> simp_all

/-- Two digits of base sixteen are read back as their number. -/
theorem hexWorth?_digitChar : ∀ n < 16, Yaml.hexWorth? n.digitChar = some n := by decide

theorem unescape?_escape (c : Char) (rest : List Char) :
    unescape? (escape c ++ rest) = some (c, rest) := by
  unfold escape
  split
  · rfl
  · rfl
  · rfl
  · rfl
  · rfl
  · rfl
  · rfl
  · rename_i hslash _ _ _ _ _
    split
    · rename_i hcontrol
      have hhigh := hexWorth?_digitChar (c.toNat / 16) (by omega)
      have hlow := hexWorth?_digitChar (c.toNat % 16) (by omega)
      have hchar : Char.ofNat (16 * (c.toNat / 16) + c.toNat % 16) = c := by
        rw [Nat.div_add_mod, Char.ofNat_toNat]
      simp only [twoDigits, List.cons_append, List.nil_append, unescape?, hhigh, hlow, hchar]
    · exact unescape?_cons hslash rest

theorem escape_append_inj {c d : Char} (h : escape c ++ u = escape d ++ v) : c = d ∧ u = v := by
  have hread := congrArg unescape? h
  rw [unescape?_escape, unescape?_escape] at hread
  simpa using hread

/-- No escaped character begins with a quote. -/
theorem escape_append_ne_quote (c : Char) (rest : List Char) : escape c ++ u ≠ '"' :: rest := by
  intro h
  have hread := congrArg unescape? h
  rw [unescape?_escape, unescape?_cons (by decide)] at hread
  simp only [Option.some.injEq, Prod.mk.injEq] at hread
  obtain ⟨rfl, rfl⟩ := hread
  simp [escape] at h

theorem flatMap_escape_inj {cs ds : List Char}
    (h : cs.flatMap escape ++ '"' :: u = ds.flatMap escape ++ '"' :: v) : cs = ds ∧ u = v := by
  induction cs generalizing ds with
  | nil =>
    cases ds with
    | nil => simpa using h
    | cons d ds =>
      rw [List.flatMap_cons, List.append_assoc] at h
      exact absurd h.symm (escape_append_ne_quote d _)
  | cons c cs ih =>
    cases ds with
    | nil =>
      rw [List.flatMap_cons, List.append_assoc] at h
      exact absurd h (escape_append_ne_quote c _)
    | cons d ds =>
      rw [List.flatMap_cons, List.flatMap_cons, List.append_assoc, List.append_assoc] at h
      obtain ⟨rfl, hrest⟩ := escape_append_inj h
      obtain ⟨rfl, huv⟩ := ih hrest
      exact ⟨rfl, huv⟩

theorem toList_writeText (s : String) :
    (writeText s).toList = '"' :: (s.toList.flatMap escape ++ ['"']) := by
  rw [writeText, String.toList_ofList, List.cons_append]

theorem writeText_append_inj {s t : String}
    (h : (writeText s).toList ++ u = (writeText t).toList ++ v) : s = t ∧ u = v := by
  rw [toList_writeText, toList_writeText] at h
  simp only [List.cons_append, List.append_assoc, List.nil_append, List.cons.injEq, true_and] at h
  obtain ⟨hst, huv⟩ := flatMap_escape_inj h
  exact ⟨String.toList_inj.1 hst, huv⟩

/-! ## Parts between brackets -/

/-- What is written for a value ends where it says that it ends: the value and what stands behind it
are known from both together. -/
def Legible {α : Type} (write : α → String) (a : α) : Prop :=
  ∀ {b : α} {u v : List Char}, NoDigitFirst u → NoDigitFirst v →
    (write a).toList ++ u = (write b).toList ++ v → a = b ∧ u = v

/-- What stands behind the first of some parts. -/
def behindPart (closing : String) (depth : Nat) : List String → List Char
  | [] => (newLine depth).toList ++ closing.toList
  | part :: rest =>
    ',' :: ((newLine (depth + 1)).toList ++ (part.toList ++ behindPart closing depth rest))

theorem toList_newLine (depth : Nat) :
    (newLine depth).toList = '\n' :: List.replicate (2 * depth) ' ' := by
  simp [newLine]

theorem toList_enclose (opening closing : String) (depth : Nat) (part : String)
    (rest : List String) : (enclose opening closing depth (part :: rest)).toList =
      opening.toList ++ ((newLine (depth + 1)).toList ++
        (part.toList ++ behindPart closing depth rest)) := by
  have hparts : ∀ part, (("," ++ newLine (depth + 1)).intercalate (part :: rest)).toList ++
      ((newLine depth).toList ++ closing.toList) =
        part.toList ++ behindPart closing depth rest := by
    induction rest with
    | nil =>
      intro part
      rw [String.intercalate_singleton, behindPart]
    | cons next rest ih =>
      intro part
      rw [String.intercalate_cons_cons, behindPart, ← ih next]
      simp [String.toList_append]
  rw [enclose, ← hparts part]
  · simp only [String.toList_append, List.append_assoc]
  · exact List.cons_ne_nil part rest

/-- Behind a part there is a comma or a new line. -/
theorem noDigitFirst_behindPart (closing : String) (depth : Nat) (rest : List String) :
    NoDigitFirst (behindPart closing depth rest ++ u) := by
  cases rest with
  | nil =>
    rw [behindPart, toList_newLine]
    intro c hc
    cases hc
    rfl
  | cons part rest =>
    intro c hc
    cases hc
    rfl

variable {α : Type} {write : α → String}

theorem behindPart_append_inj {closing : String} {depth : Nat} {items others : List α}
    (hitems : ∀ item ∈ items, Legible write item)
    (h : behindPart closing depth (items.map write) ++ u =
      behindPart closing depth (others.map write) ++ v) : items = others ∧ u = v := by
  induction items generalizing others with
  | nil =>
    cases others with
    | nil => exact ⟨rfl, List.append_cancel_left h⟩
    | cons other others =>
      simp [behindPart, toList_newLine] at h
  | cons item items ih =>
    cases others with
    | nil =>
      simp [behindPart, toList_newLine] at h
    | cons other others =>
      simp only [List.map_cons, behindPart, List.cons_append, List.append_assoc, List.cons.injEq,
        true_and, List.append_cancel_left_eq] at h
      obtain ⟨rfl, hrest⟩ := hitems item List.mem_cons_self
        (noDigitFirst_behindPart closing depth _) (noDigitFirst_behindPart closing depth _) h
      obtain ⟨rfl, huv⟩ := ih (fun i hi => hitems i (List.mem_cons_of_mem _ hi)) hrest
      exact ⟨rfl, huv⟩

/-- Behind the opening bracket stands a new line, unless there are no parts. -/
theorem enclose_nil_append_ne {opening closing : String} {depth : Nat} {part : String}
    {rest : List String} (hclosing : ∀ more rest, closing.toList ++ more ≠ '\n' :: rest) :
    (enclose opening closing depth []).toList ++ u ≠
      (enclose opening closing depth (part :: rest)).toList ++ v := by
  intro h
  have hempty : (enclose opening closing depth []).toList = opening.toList ++ closing.toList := by
    rw [enclose, String.toList_append]
  rw [hempty, toList_enclose, toList_newLine] at h
  simp only [List.append_assoc, List.append_cancel_left_eq, List.cons_append] at h
  exact hclosing _ _ h

/-- Parts that end where they say do so between brackets. -/
theorem enclose_append_inj {opening closing : String} {depth : Nat} {items others : List α}
    (hclosing : ∀ more rest, closing.toList ++ more ≠ '\n' :: rest)
    (hitems : ∀ item ∈ items, Legible write item)
    (h : (enclose opening closing depth (items.map write)).toList ++ u =
      (enclose opening closing depth (others.map write)).toList ++ v) :
    items = others ∧ u = v := by
  cases items with
  | nil =>
    cases others with
    | nil => exact ⟨rfl, List.append_cancel_left h⟩
    | cons other others => exact absurd h (enclose_nil_append_ne hclosing)
  | cons item items =>
    cases others with
    | nil => exact absurd h.symm (enclose_nil_append_ne hclosing)
    | cons other others =>
      rw [List.map_cons, List.map_cons, toList_enclose, toList_enclose] at h
      simp only [List.append_assoc, List.append_cancel_left_eq] at h
      obtain ⟨rfl, hrest⟩ := hitems item List.mem_cons_self
        (noDigitFirst_behindPart closing depth _) (noDigitFirst_behindPart closing depth _) h
      obtain ⟨rfl, huv⟩ :=
        behindPart_append_inj (fun i hi => hitems i (List.mem_cons_of_mem _ hi)) hrest
      exact ⟨rfl, huv⟩

/-! ## Documents -/

theorem writeItems_eq (depth : Nat) (items : List JsonTree) :
    writeItems depth items = items.map (JsonTree.write depth) := by
  induction items with
  | nil => rfl
  | cons item rest ih => rw [writeItems, List.map_cons, ih]

/-- Writes a field of an object. -/
def writeField (depth : Nat) (field : String × JsonTree) : String :=
  writeText field.1 ++ ": " ++ field.2.write depth

theorem writeFields_eq (depth : Nat) (fields : List (String × JsonTree)) :
    writeFields depth fields = fields.map (writeField depth) := by
  induction fields with
  | nil => rfl
  | cons field rest ih =>
    obtain ⟨name, value⟩ := field
    rw [writeFields, List.map_cons, ih, writeField]

theorem legible_writeField {depth : Nat} {field : String × JsonTree}
    (h : Legible (JsonTree.write depth) field.2) : Legible (writeField depth) field := by
  obtain ⟨name, value⟩ := field
  intro other u v hu hv heq
  obtain ⟨otherName, otherValue⟩ := other
  simp only [writeField, String.toList_append, List.append_assoc] at heq
  obtain ⟨rfl, hrest⟩ := writeText_append_inj heq
  obtain ⟨rfl, huv⟩ := h hu hv (List.append_cancel_left hrest)
  exact ⟨rfl, huv⟩

/-- The characters that a document begins with, by its kind. -/
def Opens : JsonTree → Char → Prop
  | .number _, c => c.isDigit = true
  | .text _, c => c = '"'
  | .array _, c => c = '['
  | .object _, c => c = '\x7b'

theorem exists_opens_enclose (opening : Char) (closing : String) (depth : Nat)
    (parts : List String) : ∃ rest,
      (enclose (String.singleton opening) closing depth parts).toList = opening :: rest := by
  cases parts with
  | nil => exact ⟨_, by rw [enclose, String.toList_append, String.toList_singleton]; rfl⟩
  | cons part rest => exact ⟨_, by rw [toList_enclose, String.toList_singleton]; rfl⟩

theorem exists_opens (t : JsonTree) (depth : Nat) :
    ∃ c rest, (t.write depth).toList = c :: rest ∧ t.Opens c := by
  cases t with
  | number n =>
    obtain ⟨digit, rest, hdigits⟩ := exists_cons_toString n
    exact ⟨digit, rest, hdigits, isDigit_of_mem_toString (hdigits ▸ List.mem_cons_self)⟩
  | text s => exact ⟨'"', _, toList_writeText s, rfl⟩
  | array items =>
    obtain ⟨rest, hrest⟩ :=
      exists_opens_enclose '[' "]" depth (writeItems (depth + 1) items)
    exact ⟨'[', rest, hrest, rfl⟩
  | object fields =>
    obtain ⟨rest, hrest⟩ :=
      exists_opens_enclose '\x7b' "\x7d" depth (writeFields (depth + 1) fields)
    exact ⟨'\x7b', rest, hrest, rfl⟩

/-- Documents of different kinds begin with different characters. -/
theorem exists_opens_of_append_eq {s t : JsonTree} {depth : Nat}
    (h : (s.write depth).toList ++ u = (t.write depth).toList ++ v) :
    ∃ c, s.Opens c ∧ t.Opens c := by
  obtain ⟨c, rest, hs, hc⟩ := exists_opens s depth
  obtain ⟨d, more, ht, hd⟩ := exists_opens t depth
  rw [hs, ht, List.cons_append, List.cons_append, List.cons.injEq] at h
  exact ⟨c, hc, h.1 ▸ hd⟩

/-- What holds of numbers and texts, and of a document if it holds of its parts, holds of every
document. -/
theorem partsInduction {motive : JsonTree → Prop} (number : ∀ n, motive (.number n))
    (text : ∀ s, motive (.text s))
    (array : ∀ items, (∀ item ∈ items, motive item) → motive (.array items))
    (object : ∀ fields, (∀ field ∈ fields, motive field.2) → motive (.object fields)) :
    ∀ t : JsonTree, motive t
  | .number n => number n
  | .text s => text s
  | .array items => array items fun item hitem =>
    have := List.sizeOf_lt_of_mem hitem
    partsInduction number text array object item
  | .object fields => object fields fun (name, value) hfield =>
    have hlt : sizeOf value < sizeOf fields := by
      have hfieldlt := List.sizeOf_lt_of_mem hfield
      simp only [Prod.mk.sizeOf_spec] at hfieldlt
      omega
    partsInduction number text array object value

/-- A document ends where it says that it ends, as its parts do. -/
theorem legible_write (depth : Nat) (s : JsonTree) : Legible (JsonTree.write depth) s := by
  induction s using partsInduction generalizing depth with
  | number m =>
    intro t u v hu hv h
    obtain ⟨c, hs, ht⟩ := exists_opens_of_append_eq h
    cases t with
    | number n =>
      obtain ⟨rfl, huv⟩ := toString_append_inj hu hv h
      exact ⟨rfl, huv⟩
    | text _ => cases ht; cases hs
    | array _ => cases ht; cases hs
    | object _ => cases ht; cases hs
  | text a =>
    intro t u v hu hv h
    obtain ⟨c, hs, ht⟩ := exists_opens_of_append_eq h
    cases t with
    | number _ => cases hs; cases ht
    | text b =>
      obtain ⟨rfl, huv⟩ := writeText_append_inj h
      exact ⟨rfl, huv⟩
    | array _ => cases hs; cases ht
    | object _ => cases hs; cases ht
  | array items ih =>
    intro t u v hu hv h
    obtain ⟨c, hs, ht⟩ := exists_opens_of_append_eq h
    cases t with
    | number _ => cases hs; cases ht
    | text _ => cases hs; cases ht
    | array others =>
      simp only [JsonTree.write, writeItems_eq] at h
      obtain ⟨rfl, huv⟩ :=
        enclose_append_inj (by simp) (fun item hitem => ih item hitem (depth + 1)) h
      exact ⟨rfl, huv⟩
    | object _ => cases hs; cases ht
  | object fields ih =>
    intro t u v hu hv h
    obtain ⟨c, hs, ht⟩ := exists_opens_of_append_eq h
    cases t with
    | number _ => cases hs; cases ht
    | text _ => cases hs; cases ht
    | array _ => cases hs; cases ht
    | object others =>
      simp only [JsonTree.write, writeFields_eq] at h
      obtain ⟨rfl, huv⟩ := enclose_append_inj (by simp)
        (fun field hfield => legible_writeField (ih field hfield (depth + 1))) h
      exact ⟨rfl, huv⟩

/-- Documents that are written alike are one document. -/
theorem write_inj {s t : JsonTree} {depth : Nat} (h : s.write depth = t.write depth) : s = t := by
  have hnil : NoDigitFirst [] := by simp [NoDigitFirst]
  exact (legible_write depth s hnil hnil (congrArg (fun x => x.toList ++ []) h)).1

end JsonTree

/-! ## Reports -/

theorem Severity.name_inj {a b : Severity} (h : a.name = b.name) : a = b := by
  revert h
  cases a <;> cases b <;> decide

/-- No field of a diagnostic is lost; a hint that is not there is told from one without text. -/
theorem Diagnostic.toJsonTree_inj {d e : Diagnostic} (h : d.toJsonTree = e.toJsonTree) : d = e := by
  obtain ⟨⟨severity, file, path, message, hint⟩, rule⟩ := d
  obtain ⟨⟨severity', file', path', message', hint'⟩, rule'⟩ := e
  simp only [toJsonTree, JsonTree.object.injEq, List.cons_append, List.nil_append, List.cons.injEq,
    Prod.mk.injEq, JsonTree.text.injEq, true_and] at h
  obtain ⟨rfl, hseverity, rfl, rfl, rfl, hhint⟩ := h
  obtain rfl := Severity.name_inj hseverity
  cases hint <;> cases hint' <;> simp_all

namespace Report

open JsonTree

/-- The counts of a report are told from its summary; where nothing is hidden the field is left
out, and only there. -/
theorem summary_eq_iff {r s : Report} :
    r.summary = s.summary ↔ r.total = s.total ∧ r.errors = s.errors ∧
      r.suggestions = s.suggestions ∧ r.hidden = s.hidden := by
  unfold summary
  constructor
  · intro h
    simp only [object.injEq, List.cons_append, List.nil_append, List.cons.injEq, Prod.mk.injEq,
      number.injEq, true_and] at h
    obtain ⟨htotal, herrors, hsuggestions, hhidden⟩ := h
    refine ⟨htotal, herrors, hsuggestions, ?_⟩
    by_cases hr : r.hidden = 0 <;> by_cases hs : s.hidden = 0
    · rw [hr, hs]
    · simp [hr, hs] at hhidden
    · simp [hr, hs] at hhidden
    · simpa [hr, hs] using hhidden
  · rintro ⟨htotal, herrors, hsuggestions, hhidden⟩
    rw [htotal, herrors, hsuggestions, hhidden]

theorem toJsonTree_eq_iff {r s : Report} :
    r.toJsonTree = s.toJsonTree ↔ r.shown = s.shown ∧ r.summary = s.summary := by
  have hshown : r.shown.map Diagnostic.toJsonTree = s.shown.map Diagnostic.toJsonTree ↔
      r.shown = s.shown := List.map_inj_right fun _ _ => Diagnostic.toJsonTree_inj
  simp [toJsonTree, hshown]

/-- The octets of two reports in JSON are the same exactly if the reports show the same diagnostics,
field for field and in the same order, and count as many in all, as many errors, as many suggestions
and as many that are hidden. -/
theorem reports_are_written_alike_exactly_if_they_say_the_same (r s : Report) :
    Text.encode r.writeJson = Text.encode s.writeJson ↔
      r.shown = s.shown ∧ r.total = s.total ∧ r.errors = s.errors ∧
        r.suggestions = s.suggestions ∧ r.hidden = s.hidden := by
  rw [← summary_eq_iff, ← toJsonTree_eq_iff]
  constructor
  · intro h
    have htext := congrArg String.toList (Text.encode_inj h)
    rw [writeJson, writeJson, String.toList_append, String.toList_append] at htext
    exact write_inj (String.toList_inj.1 (List.append_cancel_right htext))
  · intro h
    rw [writeJson, h, writeJson]

end Report

end LayerLint
