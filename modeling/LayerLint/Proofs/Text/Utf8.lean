-- Texts and their octets. The octets of a text are read back as the text, so that nothing is lost
-- between a text that is written and the text that is read.
import LayerLint.Text.Utf8

namespace LayerLint.Text

/-! ## The octets of a text -/

theorem toList_loop (bytes : ByteArray) (i : Nat) (out : List UInt8) :
    ByteArray.toList.loop bytes i out = out.reverse ++ bytes.data.toList.drop i := by
  fun_induction ByteArray.toList.loop bytes i out with
  | case1 i out hi ih =>
    have hlength : i < bytes.data.toList.length := by simpa using hi
    rw [ih, List.drop_eq_getElem_cons hlength]
    simp [ByteArray.get!, hi]
  | case2 i out hi =>
    rw [List.drop_eq_nil_of_le (by simpa using Nat.le_of_not_lt hi), List.append_nil]

/-- The octets of a text are those of its characters, one after the other. -/
theorem encode_ofList (cs : List Char) :
    encode (String.ofList cs) = cs.flatMap String.utf8EncodeChar := by
  rw [encode, String.toUTF8_eq_toByteArray, String.toByteArray_ofList, ByteArray.toList,
    toList_loop, List.drop_zero, List.reverse_nil, List.nil_append, List.utf8Encode,
    List.toList_data_toByteArray]

/-! ## One character -/

theorem leadingOctet_ofNat {n : Nat} (h : n < 0x100) :
    leadingOctet (UInt8.ofNat n) =
      if n < 0x80 then some (1, n)
      else if n < 0xC0 then none
      else if n < 0xE0 then some (2, n % 0x20)
      else if n < 0xF0 then some (3, n % 0x10)
      else if n < 0xF8 then some (4, n % 0x08)
      else none := by
  have hn : (UInt8.ofNat n).toNat = n := UInt8.toNat_ofNat_of_lt' h
  simp only [leadingOctet, hn]

/-- A trailing octet adds six bits. -/
theorem addTrailing_ofNat (n : Nat) (rest : List UInt8) (place code : Nat) :
    addTrailing (UInt8.ofNat (n % 0x40 + 0x80) :: rest) place code =
      addTrailing rest (place + 1) (code * 0x40 + n % 0x40) := by
  have hlt : n % 0x40 < 0x40 := Nat.mod_lt _ (by decide)
  have hn : (UInt8.ofNat (n % 0x40 + 0x80)).toNat = n % 0x40 + 0x80 :=
    UInt8.toNat_ofNat_of_lt' (Nat.lt_of_lt_of_le (Nat.add_lt_add_right hlt _) (by decide))
  have hrange : (decide (0x80 ≤ n % 0x40 + 0x80) && decide (n % 0x40 + 0x80 < 0xC0)) = true := by
    simp only [Bool.and_eq_true, decide_eq_true_eq]
    omega
  have hbits : (n % 0x40 + 0x80) % 0x40 = n % 0x40 := by omega
  rw [addTrailing, hn, if_pos hrange, hbits]

theorem firstChar_of_addTrailing {b : UInt8} {trailing rest : List UInt8} {code : Nat}
    (width start : Nat) (hlead : leadingOctet b = some (width, start))
    (hwidth : trailing.length + 1 = width)
    (htrailing : addTrailing trailing 1 start = .ok code) (hleast : leastOfLength width ≤ code)
    (hvalid : code.isValidChar) :
    firstChar (b :: trailing ++ rest) = .ok (Char.ofNat code, width) := by
  subst hwidth
  have htake : (trailing ++ rest).take (trailing.length + 1 - 1) = trailing :=
    List.take_left
  simp only [List.cons_append, firstChar, hlead, htake, Nat.lt_irrefl, if_false, htrailing,
    Nat.not_lt.2 hleast, hvalid, if_true]

/-- The octets of a character are read as the character. -/
theorem firstChar_utf8EncodeChar (c : Char) (rest : List UInt8) :
    firstChar (String.utf8EncodeChar c ++ rest) = .ok (c, (String.utf8EncodeChar c).length) := by
  have hvalid : c.toNat.isValidChar := c.valid
  have hlimit : c.toNat < 0x110000 := by
    rcases hvalid with h | ⟨_, h⟩
    · exact Nat.lt_trans h (by decide)
    · exact h
  have hchar : Char.ofNat c.toNat = c := Char.ofNat_toNat c
  have hval : c.val.toNat = c.toNat := rfl
  unfold String.utf8EncodeChar
  simp only [hval]
  generalize c.toNat = n at hvalid hlimit hchar
  subst hchar
  split
  · rename_i h
    refine firstChar_of_addTrailing 1 n ?_ rfl rfl (Nat.zero_le _) hvalid
    rw [leadingOctet_ofNat (by omega), if_pos (by omega)]
  split
  · rename_i h
    refine firstChar_of_addTrailing 2 (n / 64 % 0x20) ?_ rfl ?_ ?_ hvalid
    · rw [leadingOctet_ofNat (by omega), if_neg (by omega), if_neg (by omega), if_pos (by omega)]
      congr 2
      omega
    · rw [addTrailing_ofNat, addTrailing]
      congr 1
      omega
    · simp only [leastOfLength]
      omega
  split
  · rename_i h
    refine firstChar_of_addTrailing 3 (n / 4096 % 0x10) ?_ rfl ?_ ?_ hvalid
    · rw [leadingOctet_ofNat (by omega), if_neg (by omega), if_neg (by omega), if_neg (by omega),
        if_pos (by omega)]
      congr 2
      omega
    · rw [addTrailing_ofNat, addTrailing_ofNat, addTrailing]
      congr 1
      omega
    · simp only [leastOfLength]
      omega
  · rename_i h
    refine firstChar_of_addTrailing 4 (n / 262144 % 0x08) ?_ rfl ?_ ?_ hvalid
    · rw [leadingOctet_ofNat (by omega), if_neg (by omega), if_neg (by omega), if_neg (by omega),
        if_neg (by omega), if_pos (by omega)]
      congr 2
      omega
    · rw [addTrailing_ofNat, addTrailing_ofNat, addTrailing_ofNat, addTrailing]
      congr 1
      omega
    · simp only [leastOfLength]
      omega

/-! ## All characters -/

/-- A character that is read is followed by what is read after it. -/
theorem decodeAllLossy_of_firstChar {bytes : List UInt8} {c : Char} {width : Nat} (fuel : Nat)
    (h : firstChar bytes = .ok (c, width)) :
    decodeAllLossy (fuel + 1) bytes = c :: decodeAllLossy fuel (bytes.drop width) := by
  cases bytes with
  | nil => cases h
  | cons b rest =>
    rw [decodeAllLossy]
    · simp only [h]
    · exact List.cons_ne_nil b rest

theorem decodeAllLossy_flatMap (cs : List Char) (fuel : Nat)
    (h : (cs.flatMap String.utf8EncodeChar).length ≤ fuel) :
    decodeAllLossy fuel (cs.flatMap String.utf8EncodeChar) = cs := by
  induction cs generalizing fuel with
  | nil => cases fuel <;> rfl
  | cons c cs ih =>
    have hpositive : 0 < (String.utf8EncodeChar c).length :=
      List.length_pos_iff.2 String.utf8EncodeChar_ne_nil
    rw [List.flatMap_cons, List.length_append] at h
    obtain ⟨fuel, rfl⟩ := Nat.exists_eq_add_one_of_ne_zero (n := fuel) (by omega)
    rw [List.flatMap_cons, decodeAllLossy_of_firstChar fuel (firstChar_utf8EncodeChar c _),
      List.drop_left, ih fuel (by omega)]

/-- The octets of a text are read back as the text. -/
theorem decodeLossy_encode (s : String) : decodeLossy (encode s) = s.toList := by
  have hencode : encode s = s.toList.flatMap String.utf8EncodeChar := by
    rw [← encode_ofList, String.ofList_toList]
  rw [decodeLossy, hencode, decodeAllLossy_flatMap _ _ (Nat.le_refl _)]

/-- Texts with the same octets are one text. -/
theorem encode_inj {s t : String} (h : encode s = encode t) : s = t := by
  have hread := congrArg decodeLossy h
  rw [decodeLossy_encode, decodeLossy_encode] at hread
  exact String.toList_inj.1 hread

end LayerLint.Text
