import Mathlib.Tactic.IntervalCases
import DefUse.Text.Utf8

/-!
# Proofs/Text/Utf8 — a text reads back from its bytes

The bytes of a text are those of its characters in a row, and reading takes them in character by
character (`readAll_utf8EncodeChar`).  A first byte asks for exactly the bytes that were written
after it, the narrower ranges after some of them included: they leave out what has a shorter form,
the halves of pairs, and what is beyond the last code point.
-/

namespace DefUse.Utf8

variable {c : Char} {cs : List Char} {rest : List UInt8} {fuel pos : Nat}

/-- The bytes of a text are those of its characters. -/
theorem encode_eq (s : String) : encode s = s.toList.flatMap String.utf8EncodeChar := by
  rw [encode, String.toUTF8_eq_toByteArray, ← String.utf8Encode_toList, List.utf8Encode,
    List.data_toByteArray]

/-! ## First bytes -/

theorem toNat_ofNat {n : Nat} (h : n < 256) : (UInt8.ofNat n).toNat = n := by
  simp
  omega

theorem readMore_cons {bits more low high width n : Nat} (hn : n < 256) (hlow : low ≤ n)
    (hhigh : n ≤ high) :
    readMore bits (more + 1) low high width (UInt8.ofNat n :: rest) =
      readMore (bits * 64 + n % 64) more 0x80 0xBF (width + 1) rest := by
  rw [readMore, toNat_ofNat hn, if_pos ⟨hlow, hhigh⟩]

theorem lead?_two {k : Nat} (hk : 2 ≤ k) (hk' : k < 32) :
    lead? (k + 0xC0) = some ⟨k, 1, 0x80, 0xBF⟩ := by
  rw [lead?, if_neg (by omega), if_neg (by omega), if_pos (by omega), Nat.add_sub_cancel]

theorem lead?_three {k : Nat} (hk : k < 16) :
    lead? (k + 0xE0) =
      some ⟨k, 2, if k = 0 then 0xA0 else 0x80, if k = 13 then 0x9F else 0xBF⟩ := by
  interval_cases k <;> rfl

theorem lead?_four {k : Nat} (hk : k < 5) :
    lead? (k + 0xF0) =
      some ⟨k, 3, if k = 0 then 0x90 else 0x80, if k = 4 then 0x8F else 0xBF⟩ := by
  interval_cases k <;> rfl

/-! ## Characters -/

/-- A character is read if its first byte asks for the bytes after it. -/
theorem readAll_cons {n bits more low high : Nat} {bytes : List UInt8} (hn : n < 256)
    (hlead : lead? n = some ⟨bits, more, low, high⟩)
    (hmore : readMore bits more low high 1 (bytes ++ rest) = (.ok c.toNat, rest)) :
    readAll (fuel + 1) pos (UInt8.ofNat n :: (bytes ++ rest)) =
      .ok c :: readAll fuel (pos + 1 + more) rest := by
  rw [readAll, toNat_ofNat hn, hlead]
  simp only [hmore, Char.ofNat_toNat]

/-- **The bytes of a character are read as that character.** -/
theorem readAll_utf8EncodeChar (c : Char) (fuel pos : Nat) (rest : List UInt8) :
    ∃ pos', readAll (fuel + 1) pos (String.utf8EncodeChar c ++ rest) =
      .ok c :: readAll fuel pos' rest := by
  have hvalid : c.toNat < 0xD800 ∨ 0xDFFF < c.toNat ∧ c.toNat < 0x110000 := c.valid
  have hval : c.val.toNat = c.toNat := rfl
  unfold String.utf8EncodeChar
  dsimp only
  rw [hval]
  generalize hn : c.toNat = n at hvalid ⊢
  split
  · exact ⟨_, readAll_cons (by omega) (if_pos (by omega)) (hn ▸ rfl)⟩
  split
  · refine ⟨_, readAll_cons (by omega) (lead?_two (by omega) (by omega)) ?_⟩
    rw [List.cons_append, readMore_cons (by omega) (by omega) (by omega), readMore, hn,
      show n / 64 % 32 * 64 + (n % 64 + 128) % 64 = n by omega]
    rfl
  split
  · refine ⟨_, readAll_cons (by omega) (lead?_three (by omega)) ?_⟩
    rw [List.cons_append, readMore_cons (by omega) (by split <;> omega) (by split <;> omega),
      List.cons_append, readMore_cons (by omega) (by omega) (by omega), readMore, hn,
      show (n / 4096 % 16 * 64 + (n / 64 % 64 + 128) % 64) * 64 + (n % 64 + 128) % 64 = n by omega]
    rfl
  · refine ⟨_, readAll_cons (by omega) (lead?_four (by omega)) ?_⟩
    rw [List.cons_append, readMore_cons (by omega) (by split <;> omega) (by split <;> omega),
      List.cons_append, readMore_cons (by omega) (by omega) (by omega),
      List.cons_append, readMore_cons (by omega) (by omega) (by omega), readMore, hn,
      show ((n / 262144 % 8 * 64 + (n / 4096 % 64 + 128) % 64) * 64 +
        (n / 64 % 64 + 128) % 64) * 64 + (n % 64 + 128) % 64 = n by omega]
    rfl

/-! ## Texts -/

theorem readAll_flatMap (h : (cs.flatMap String.utf8EncodeChar).length ≤ fuel) :
    readAll fuel pos (cs.flatMap String.utf8EncodeChar) = cs.map .ok := by
  induction cs generalizing fuel pos with
  | nil => cases fuel <;> rfl
  | cons c cs ih =>
    rw [List.flatMap_cons] at h ⊢
    rw [List.length_append, String.length_utf8EncodeChar] at h
    have hpos := c.utf8Size_pos
    obtain ⟨fuel, rfl⟩ : ∃ k, fuel = k + 1 := ⟨fuel - 1, by omega⟩
    obtain ⟨pos', hread⟩ := readAll_utf8EncodeChar c fuel pos (cs.flatMap String.utf8EncodeChar)
    rw [hread, ih (by omega), List.map_cons]

theorem mapM_id_map_ok (cs : List Char) :
    (cs.map (Except.ok : Char → Except Error Char)).mapM id = .ok cs := by
  induction cs with
  | nil => rfl
  | cons c cs ih =>
    rw [List.map_cons, List.mapM_cons, ih]
    rfl

/-- **A text reads back from its bytes.** -/
theorem decode_encode (s : String) : decode (encode s) = .ok s := by
  rw [decode, encode_eq, readAll_flatMap (Nat.le_refl _), mapM_id_map_ok]
  exact congrArg Except.ok String.ofList_toList

/-- …and without a replacement character. -/
theorem decodeLossy_encode (s : String) : decodeLossy (encode s) = s := by
  rw [decodeLossy, encode_eq, readAll_flatMap (Nat.le_refl _), List.map_map]
  exact (congrArg String.ofList (List.map_id _)).trans String.ofList_toList

/-! ## Line ends -/

/-- A text without carriage returns has only line feeds at its line ends. -/
theorem unifyLineEnds_of_notMem (h : '\r' ∉ cs) : unifyLineEnds cs = cs := by
  fun_induction unifyLineEnds cs with
  | case1 => rfl
  | case2 rest ih => exact absurd List.mem_cons_self h
  | case3 rest _ ih => exact absurd List.mem_cons_self h
  | case4 c rest _ _ ih => rw [ih fun hmem => h (List.mem_cons_of_mem _ hmem)]

end DefUse.Utf8
