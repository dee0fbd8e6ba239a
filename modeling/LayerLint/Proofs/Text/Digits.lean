-- Numbers in texts. A number is written in digits and in nothing else; so in front of anything but
-- a digit it ends where its digits end, and it is known together with what stands behind it.

namespace LayerLint.Text

variable {m n : Nat} {c : Char} {u v : List Char}

theorem toList_toString (n : Nat) : (toString n).toList = Nat.toDigits 10 n := by
  rw [Nat.toString_eq_ofList_toDigits, String.toList_ofList]

theorem toString_inj (h : toString m = toString n) : m = n := by
  have hdigits := congrArg String.toList h
  rw [toList_toString, toList_toString] at hdigits
  calc
    m = Nat.ofDigitChars 10 (Nat.toDigits 10 m) 0 := Nat.ofDigitChars_ten_toDigits.symm
    _ = Nat.ofDigitChars 10 (Nat.toDigits 10 n) 0 := by rw [hdigits]
    _ = n := Nat.ofDigitChars_ten_toDigits

theorem isDigit_of_mem_toString (h : c ∈ (toString n).toList) : c.isDigit = true := by
  rw [toList_toString] at h
  exact Nat.isDigit_of_mem_toDigits (by decide) (by decide) h

theorem not_mem_toString (h : c.isDigit = false) : c ∉ (toString n).toList := by
  intro hmem
  rw [isDigit_of_mem_toString hmem] at h
  cases h

theorem exists_cons_toString (n : Nat) : ∃ digit rest, (toString n).toList = digit :: rest := by
  rw [toList_toString]
  exact List.exists_cons_of_ne_nil Nat.toDigits_ne_nil

/-- What may stand behind a number: no digit, which the number would take for its own. -/
def NoDigitFirst (more : List Char) : Prop := ∀ c ∈ more.head?, c.isDigit = false

theorem takeWhile_toString_append (n : Nat) (h : NoDigitFirst u) :
    ((toString n).toList ++ u).takeWhile Char.isDigit = (toString n).toList := by
  rw [List.takeWhile_append_of_pos fun _ hc => isDigit_of_mem_toString hc]
  cases u with
  | nil => simp
  | cons c rest => simp [h c rfl]

/-- Two numbers with something behind them are told apart, and so is what stands behind them. -/
theorem toString_append_inj (hu : NoDigitFirst u) (hv : NoDigitFirst v)
    (h : (toString m).toList ++ u = (toString n).toList ++ v) : m = n ∧ u = v := by
  have hdigits := congrArg (List.takeWhile Char.isDigit) h
  rw [takeWhile_toString_append m hu, takeWhile_toString_append n hv] at hdigits
  obtain rfl := toString_inj (String.toList_inj.1 hdigits)
  exact ⟨rfl, List.append_cancel_left h⟩

end LayerLint.Text
