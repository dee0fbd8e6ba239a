-- Templates that are written and read again. Texts stand as they are, actions in their canonical
-- form, and what is read is what was written.
import LayerLint.Template.Item
import LayerLint.Proofs.Template.Spelling

namespace LayerLint.Template

/-! ## Written items -/

/-- The spellings of tokens, with a space between each two. -/
def spellTokens (tokens : List Token) : List Char :=
  [' '].intercalate (tokens.map fun t => t.kind.spelling)

/-- An action after its opening delimiter. -/
def writeAction (tokens : List Token) : List Char :=
  ' ' :: (spellTokens tokens ++ [' ', '\x7d', '\x7d'])

/-- How an item is written. -/
def Item.written : Item → List Char
  | .text value => value.toList
  | .action tokens _ => '\x7b' :: '\x7b' :: writeAction tokens

/-- The template of items. -/
def writeItems (items : List Item) : List Char := items.flatMap Item.written

/-- An item that can be written: a text that is not empty and has no opening brace, or an action
whose tokens have spellings. -/
def Item.IsWritable : Item → Prop
  | .text value => value ≠ "" ∧ '\x7b' ∉ value.toList
  | .action tokens _ => ∀ t ∈ tokens, t.kind.IsWritable

def Item.isText : Item → Bool
  | .text _ => true
  | .action _ _ => false

/-- Items that can be written one after the other. Of two texts next to each other one text would
be read. -/
structure Writable (items : List Item) : Prop where
  each : ∀ item ∈ items, item.IsWritable
  apart : items.IsChain fun item next => item.isText = true → next.isText = false

instance : DecidablePred Item.IsWritable
  | .text value => inferInstanceAs (Decidable (value ≠ "" ∧ '\x7b' ∉ value.toList))
  | .action tokens _ => inferInstanceAs (Decidable (∀ t ∈ tokens, t.kind.IsWritable))

instance (items : List Item) : Decidable (Writable items) :=
  decidable_of_iff
    ((∀ item ∈ items, item.IsWritable) ∧
      items.IsChain fun item next => item.isText = true → next.isText = false)
    ⟨fun ⟨heach, hapart⟩ => ⟨heach, hapart⟩, fun ⟨heach, hapart⟩ => ⟨heach, hapart⟩⟩

theorem Writable.tail {item : Item} {items : List Item} (h : Writable (item :: items)) :
    Writable items :=
  ⟨fun other hother => h.each other (List.mem_cons_of_mem _ hother), h.apart.tail⟩

/-- What is read of an item that is written on a line. -/
def Item.readAt (line : Nat) : Item → Item
  | .text value => .text value
  | .action tokens _ => .action (tokens.map fun t => ⟨t.kind, true⟩) line

/-- What is read of items when the first of them is written on a line. -/
def readFrom (line : Nat) (items : List Item) : List Item :=
  items.mapIdx fun i item => item.readAt (line + (writeItems (items.take i)).count '\n')

theorem readFrom_cons (line : Nat) (item : Item) (items : List Item) :
    readFrom line (item :: items) =
      item.readAt line :: readFrom (line + item.written.count '\n') items := by
  simp [readFrom, writeItems, List.mapIdx_cons, Nat.add_assoc]

namespace Lexer

/-! ## Tokens of an action -/

section Tokens

variable {start cs rest : List Char} {spaced : Bool}

theorem close?_of_isBlank {c : Char} (h : Text.isBlank c = true) :
    close? spaced (c :: cs) = none := by
  unfold close?
  split
  · rename_i heq
    cases heq
    cases h
  · rename_i heq
    cases heq
    cases h
  · rfl

theorem takeTokens_of_isBlank {c : Char} (h : Text.isBlank c = true) :
    takeTokens start spaced (c :: cs) = takeTokens start true cs := by
  rw [takeTokens, close?_of_isBlank h]
  simp only [h, if_true]

theorem takeTokens_dropWhile (cs : List Char) :
    takeTokens start true (cs.dropWhile Text.isBlank) = takeTokens start true cs := by
  induction cs with
  | nil => rfl
  | cons c cs ih =>
    by_cases h : Text.isBlank c = true
    · rw [List.dropWhile_cons_of_pos h, ih, takeTokens_of_isBlank h]
    · rw [List.dropWhile_cons_of_neg h]

/-- No delimiter is where a token is read. -/
theorem close?_of_takeToken {kind : TokenKind} (h : takeToken cs = .ok (kind, rest)) :
    close? spaced cs = none := by
  unfold close?
  split
  · have hbrace := beginsToken_of_takeToken h
    have hnone : beginsToken '\x7d' = false := by decide +kernel
    rw [hnone] at hbrace
    cases hbrace
  · have hdash : isNameStart '-' = false := by decide +kernel
    rw [takeToken_of_not_mem_marks (by decide), takeWord, hdash] at h
    cases h
  · rfl

theorem takeTokens_of_close? {trims : Bool} (h : close? spaced cs = some (trims, rest)) :
    takeTokens start spaced cs = .ok ([], trims, rest) := by
  rw [takeTokens.eq_def, h]

/-- A token is read, and then what comes after it. -/
theorem takeTokens_eq_map {left : List Char} {kind : TokenKind}
    (h : takeToken cs = .ok (kind, left)) :
    takeTokens start spaced cs =
      (takeTokens start false left).map fun read => (⟨kind, spaced⟩ :: read.1, read.2) := by
  cases cs with
  | nil => cases h
  | cons c cs =>
    have hblank := not_isBlank_of_beginsToken (beginsToken_of_takeToken h)
    rw [takeTokens, close?_of_takeToken h]
    simp only [hblank, Bool.false_eq_true, if_false]
    split
    · rename_i hfault
      rw [h] at hfault
      cases hfault
    · rename_i hread
      rw [h] at hread
      cases hread
      cases takeTokens start false left <;> rfl

/-- Where no token can be read, none are. -/
theorem takeTokens_of_fault {c : Char} {fault : LexFault} (hclose : close? spaced (c :: cs) = none)
    (hblank : Text.isBlank c = false) (h : takeToken (c :: cs) = .error fault) :
    takeTokens start spaced (c :: cs) = .error fault := by
  rw [takeTokens, hclose]
  simp only [hblank, Bool.false_eq_true, if_false]
  split
  · rename_i hfault
    rw [h] at hfault
    cases hfault
    rfl
  · rename_i hread
    rw [h] at hread
    cases hread

/-- A token is read before what is read after it. -/
theorem takeTokens_of_takeToken {left after : List Char} {kind : TokenKind} {tokens : List Token}
    {trims : Bool} (h : takeToken cs = .ok (kind, left))
    (hleft : takeTokens start false left = .ok (tokens, trims, after)) :
    takeTokens start spaced cs = .ok (⟨kind, spaced⟩ :: tokens, trims, after) := by
  rw [takeTokens_eq_map h, hleft]
  rfl

/-- The closing delimiter is read after a blank. -/
theorem takeTokens_close :
    takeTokens start spaced (' ' :: '\x7d' :: '\x7d' :: rest) = .ok ([], false, rest) := by
  rw [takeTokens_of_isBlank rfl, takeTokens]
  rfl

theorem spellTokens_singleton (token : Token) : spellTokens [token] = token.kind.spelling := by
  simp [spellTokens]

theorem spellTokens_cons (token next : Token) (tokens : List Token) :
    spellTokens (token :: next :: tokens) =
      token.kind.spelling ++ ' ' :: spellTokens (next :: tokens) := rfl

/-- Tokens are read back from their spellings up to the closing delimiter. -/
theorem takeTokens_spellTokens {tokens : List Token} (h : ∀ t ∈ tokens, t.kind.IsWritable) :
    takeTokens start true (spellTokens tokens ++ ' ' :: '\x7d' :: '\x7d' :: rest) =
      .ok (tokens.map fun t => ⟨t.kind, true⟩, false, rest) := by
  induction tokens with
  | nil => exact takeTokens_close
  | cons token tokens ih =>
    have hread := fun after => takeToken_spelling after (h token List.mem_cons_self)
    cases tokens with
    | nil =>
      rw [spellTokens_singleton]
      exact takeTokens_of_takeToken (hread _) takeTokens_close
    | cons next tokens =>
      rw [spellTokens_cons, List.append_assoc, List.cons_append]
      refine takeTokens_of_takeToken (hread _) ?_
      rw [takeTokens_of_isBlank rfl]
      exact ih fun t ht => h t (List.mem_cons_of_mem _ ht)

/-- What is read as tokens begins with a blank, with the delimiter or with a token. -/
theorem beginsToken_of_takeTokens {c : Char} {result : List Token × Bool × List Char}
    (h : takeTokens start spaced (c :: cs) = .ok result) (hblank : Text.isBlank c = false)
    (hclose : close? spaced (c :: cs) = none) : beginsToken c = true := by
  rw [takeTokens, hclose] at h
  simp only [hblank, Bool.false_eq_true, if_false] at h
  split at h
  · cases h
  · rename_i htoken
    exact beginsToken_of_takeToken htoken

/-- An action of tokens is no comment. -/
theorem takeAction_of_takeTokens {tokens : List Token} {trims : Bool}
    (h : takeTokens cs true cs = .ok (tokens, trims, rest)) :
    takeAction cs = .ok ⟨some tokens, trims, rest⟩ := by
  have hbody := (takeTokens_dropWhile cs).trans h
  have hcomment : List.isPrefixOf ['/', '*'] (cs.dropWhile Text.isBlank) = false := by
    by_contra hcomment
    obtain ⟨after, hafter⟩ := List.isPrefixOf_iff_prefix.1 (Bool.not_eq_false _ ▸ hcomment)
    rw [← hafter] at hbody
    have hslash := beginsToken_of_takeTokens hbody rfl rfl
    have hnone : beginsToken '/' = false := by decide +kernel
    rw [hnone] at hslash
    cases hslash
  simp only [takeAction, hcomment, Bool.false_eq_true, if_false, hbody]

theorem takeAction_writeAction {tokens : List Token} (h : ∀ t ∈ tokens, t.kind.IsWritable) :
    takeAction (writeAction tokens ++ rest) =
      .ok ⟨some (tokens.map fun t => ⟨t.kind, true⟩), false, rest⟩ := by
  have hbody : writeAction tokens ++ rest =
      ' ' :: (spellTokens tokens ++ ' ' :: '\x7d' :: '\x7d' :: rest) := by
    simp [writeAction]
  rw [hbody]
  apply takeAction_of_takeTokens
  rw [takeTokens_of_isBlank rfl]
  exact takeTokens_spellTokens h

end Tokens

/-! ## Items -/

section Items

variable {text rest : List Char} {lineFeeds : Nat}

theorem pair_infix_cons_iff {a b c : Char} {cs : List Char} :
    [a, b] <:+: c :: cs ↔ (c = a ∧ cs.head? = some b) ∨ [a, b] <:+: cs := by
  rw [List.infix_cons_iff, List.cons_prefix_cons]
  cases cs with
  | nil => simp
  | cons d cs => simp [eq_comm]

/-- The text before the first opening delimiter. -/
theorem takeText_append (h : ¬ ['\x7b', '\x7b'] <:+: text ++ ['\x7b']) :
    takeText (text ++ '\x7b' :: '\x7b' :: rest) = (text, some rest) := by
  induction text with
  | nil => rfl
  | cons c text ih =>
    rw [List.cons_append, pair_infix_cons_iff, not_or] at h
    rw [List.cons_append, takeText, ih h.2]
    intro after hc hrest
    apply h.1
    refine ⟨hc, ?_⟩
    cases text with
    | nil => rfl
    | cons d text => simp_all

theorem takeText_eq_none (h : ¬ ['\x7b', '\x7b'] <:+: text) :
    takeText text = (text, none) := by
  induction text with
  | nil => rfl
  | cons c text ih =>
    rw [pair_infix_cons_iff, not_or] at h
    rw [takeText, ih h.2]
    intro after hc hrest
    apply h.1
    rw [hrest]
    exact ⟨hc, rfl⟩

theorem not_infix_of_not_mem (h : '\x7b' ∉ text) : ¬ ['\x7b', '\x7b'] <:+: text ++ ['\x7b'] := by
  intro hpair
  have hcount := hpair.sublist.count_le '\x7b'
  simp [List.count_eq_zero.2 h] at hcount

theorem takeItems_text (h : '\x7b' ∉ text) :
    takeItems lineFeeds false text = .ok (textItem false false text) :=
  takeItems_of_takeText_none (takeText_eq_none fun hpair =>
    not_infix_of_not_mem h (hpair.trans (List.prefix_append _ _).isInfix))

/-- A text and the action after it are read, and then what is written after both. -/
theorem takeItems_of_takeAction {body : List Char} {tokens : List Token} {items : List Item}
    (htext : '\x7b' ∉ text) (htrims : opensTrimmed body = false)
    (haction : takeAction body = .ok ⟨some tokens, false, rest⟩)
    (hitems : takeItems lineFeeds false rest = .ok items) :
    takeItems lineFeeds false (text ++ '\x7b' :: '\x7b' :: body) =
      .ok (textItem false false text ++ .action tokens (lineOf lineFeeds body) :: items) := by
  have hbody : bodyOf body = body := by rw [bodyOf, htrims, if_neg Bool.false_ne_true]
  rw [takeItems_of_takeText_some (takeText_append (not_infix_of_not_mem htext)), hbody, haction]
  simp [hitems, htrims, Except.map]

/-- The line of what is left is the one after all line feeds before it. -/
theorem lineOf_append (before : Nat) (front body : List Char) :
    lineOf (before + (front ++ body).count '\n') body = before + front.count '\n' + 1 := by
  unfold lineOf
  rw [List.count_append]
  omega

theorem textItem_of_ne_empty {value : String} (h : value ≠ "") :
    textItem false false value.toList = [.text value] := by
  have hne : value.toList.isEmpty = false := by simpa using h
  simp [textItem, hne]

/-- A text, which may be empty, and an action are read before items that are read. -/
theorem takeItems_writeAction {tokens : List Token} {items : List Item} (before line : Nat)
    (htext : '\x7b' ∉ text) (htokens : ∀ t ∈ tokens, t.kind.IsWritable)
    (hrest : ∀ before, takeItems (before + rest.count '\n') false rest =
      .ok (readFrom (before + 1) items)) :
    takeItems (before + (text ++ ((Item.action tokens line).written ++ rest)).count '\n') false
        (text ++ ((Item.action tokens line).written ++ rest)) =
      .ok (textItem false false text ++
        readFrom (before + text.count '\n' + 1) (.action tokens line :: items)) := by
  -- the line is that of the text after the delimiter, which holds no line feed
  have hline : lineOf
      (before + (text ++ ((Item.action tokens line).written ++ rest)).count '\n')
      (writeAction tokens ++ rest) = before + text.count '\n' + 1 := by
    have h := lineOf_append before (text ++ ['\x7b', '\x7b']) (writeAction tokens ++ rest)
    simpa [Item.written] using h
  have hitems := hrest (before + (text ++ (Item.action tokens line).written).count '\n')
  rw [Nat.add_assoc before, ← List.count_append, List.append_assoc] at hitems
  have hread := takeItems_of_takeAction htext rfl (takeAction_writeAction htokens) hitems
  have hbefore : before + (text ++ (Item.action tokens line).written).count '\n' + 1 =
      before + text.count '\n' + 1 + (Item.action tokens line).written.count '\n' := by
    rw [List.count_append]
    omega
  rw [hline, hbefore] at hread
  rw [readFrom_cons]
  exact hread

/-- Items are read back from what is written of them. A text is read with the action after it, so
they are taken together. -/
theorem takeItems_writeItems : ∀ {items : List Item} (before : Nat), Writable items →
    takeItems (before + (writeItems items).count '\n') false (writeItems items) =
      .ok (readFrom (before + 1) items)
  | [], before, _ => takeItems_text List.not_mem_nil
  | [.text value], before, h => by
    obtain ⟨hne, hbrace⟩ := h.each _ List.mem_cons_self
    have hread : writeItems [.text value] = value.toList := List.append_nil _
    rw [hread, takeItems_text hbrace, textItem_of_ne_empty hne]
    rfl
  | .text value :: .text next :: rest, before, h => by
    have hapart := (List.isChain_cons_cons.1 h.apart).1 rfl
    cases hapart
  | .text value :: .action tokens line :: rest, before, h => by
    obtain ⟨hne, hbrace⟩ := h.each _ List.mem_cons_self
    have htokens := h.tail.each _ List.mem_cons_self
    have hread := takeItems_writeAction before line hbrace htokens
      fun before => takeItems_writeItems before h.tail.tail
    rw [textItem_of_ne_empty hne] at hread
    rw [readFrom_cons, Nat.add_right_comm]
    exact hread
  | .action tokens line :: rest, before, h =>
    takeItems_writeAction before line List.not_mem_nil (h.each _ List.mem_cons_self)
      fun before => takeItems_writeItems before h.tail

end Items

end Lexer

/-- A template that is written is read: its items come back in their order, with a blank before
each token, and each action has the line on which it is written. -/
theorem what_is_written_is_read_back {items : List Item} (h : Writable items) :
    Item.ofText (writeItems items) = .ok (items.mapIdx fun i item =>
      item.readAt (1 + (writeItems (items.take i)).count '\n')) := by
  have hread := Lexer.takeItems_writeItems 0 h
  rw [Nat.zero_add] at hread
  simp only [Item.ofText, hread]
  rfl

/-- Items with tokens of every kind, and two actions next to each other. -/
def spelledItems : List Item :=
  [.text "a:\n\n  ",
   .action [⟨.identifier "_f1", false⟩, ⟨.leftParen, false⟩, ⟨.field ["x", "y2"], false⟩,
      ⟨.field [], false⟩, ⟨.variable "$" [], false⟩, ⟨.variable "$v" ["w"], false⟩,
      ⟨.text "\"\\\n\x7d\x7d", false⟩, ⟨.character '\'', false⟩, ⟨.rightParen, false⟩] 9,
   .action [] 9,
   .text "\x7d\x7d\n",
   .action [⟨.number "-0x1F", false⟩, ⟨.number "1e+5", false⟩, ⟨.number ".5", false⟩,
      ⟨.boolean true, false⟩, ⟨.nil, false⟩, ⟨.pipe, false⟩, ⟨.declare, false⟩, ⟨.assign, false⟩,
      ⟨.comma, false⟩] 9]

/-- The items come back with the lines on which they are written. -/
theorem the_spelled_items_are_read_back :
    Writable spelledItems ∧
      Item.ofText (writeItems spelledItems) = .ok
        [.text "a:\n\n  ",
         .action [⟨.identifier "_f1", true⟩, ⟨.leftParen, true⟩, ⟨.field ["x", "y2"], true⟩,
            ⟨.field [], true⟩, ⟨.variable "$" [], true⟩, ⟨.variable "$v" ["w"], true⟩,
            ⟨.text "\"\\\n\x7d\x7d", true⟩, ⟨.character '\'', true⟩, ⟨.rightParen, true⟩] 3,
         .action [] 3,
         .text "\x7d\x7d\n",
         .action [⟨.number "-0x1F", true⟩, ⟨.number "1e+5", true⟩, ⟨.number ".5", true⟩,
            ⟨.boolean true, true⟩, ⟨.nil, true⟩, ⟨.pipe, true⟩, ⟨.declare, true⟩, ⟨.assign, true⟩,
            ⟨.comma, true⟩] 4] := by
  have hwritable : Writable spelledItems := by decide +kernel
  refine ⟨hwritable, ?_⟩
  rw [what_is_written_is_read_back hwritable]
  decide +kernel

end LayerLint.Template
