import Liquid.Text.Utf8

/-!
# Reading UTF-8 back

- `Utf8.next_eq_next2`, `Utf8.next_eq_next3`, `Utf8.next_eq_next4`: the first byte says how many
  there are.
- `Utf8.next_encodeChar`: what stands in front of bytes that begin with those of a character.
- `Utf8.decodeLossy_encode`: text is read back from its bytes.
-/

namespace Liquid.Text.Utf8

/-! ### Bytes as numbers -/

theorem toNat_ofNat {n : Nat} (h : n < 256) : (UInt8.ofNat n).toNat = n :=
  UInt8.toNat_ofNat_of_lt' h

theorem toNat_charOfNat {n : Nat} (h : n.isValidChar) : (Char.ofNat n).toNat = n := by
  show (dite n.isValidChar _ _ : Char).toNat = n
  rw [dif_pos h]
  rfl

theorem between_iff {low b high : UInt8} :
    (decide (low ≤ b) && decide (b ≤ high)) = true ↔
      low.toNat ≤ b.toNat ∧ b.toNat ≤ high.toNat := by
  rw [Bool.and_eq_true, decide_eq_true_iff, decide_eq_true_iff, UInt8.le_iff_toNat_le,
    UInt8.le_iff_toNat_le]

/-- The last six bits of a number, as a byte that continues a character. -/
theorem isContinuation_ofNat (n : Nat) : isContinuation (UInt8.ofNat (n % 64 + 128)) = true := by
  rw [isContinuation, between_iff, toNat_ofNat (by omega)]
  show 128 ≤ _ ∧ _ ≤ 191
  omega

theorem payload_ofNat (n : Nat) : payload (UInt8.ofNat (n % 64 + 128)) = n % 64 := by
  rw [payload, toNat_ofNat (by omega)]
  omega

/-! ### The first byte -/

theorem next_eq_char {a : UInt8} (h : a.toNat < 0x80) (rest : List UInt8) :
    next a rest = .char (Char.ofNat a.toNat) rest :=
  if_pos (UInt8.lt_iff_toNat_lt.2 h)

theorem not_lt_of_le {a : UInt8} (h : 0x80 ≤ a.toNat) : ¬a < 0x80 := fun hlt =>
  Nat.not_lt.2 h (UInt8.lt_iff_toNat_lt.1 hlt)

theorem not_between_of_lt {a low high : UInt8} (h : high.toNat < a.toNat) :
    ¬(decide (low ≤ a) && decide (a ≤ high)) = true := fun hin =>
  Nat.not_le.2 h (between_iff.1 hin).2

theorem next_eq_next2 {a : UInt8} (h : 0xC2 ≤ a.toNat) (h' : a.toNat ≤ 0xDF)
    (rest : List UInt8) : next a rest = next2 a rest := by
  have hin : (decide (0xC2 ≤ a) && decide (a ≤ 0xDF)) = true := between_iff.2 ⟨h, h'⟩
  rw [next, if_neg (not_lt_of_le (by omega)), if_pos hin]

theorem next_eq_next3 {a : UInt8} (h : 0xE0 ≤ a.toNat) (h' : a.toNat ≤ 0xEF)
    (rest : List UInt8) : next a rest = next3 a rest := by
  have hin : (decide (0xE0 ≤ a) && decide (a ≤ 0xEF)) = true := between_iff.2 ⟨h, h'⟩
  have hbeyond2 : (0xDF : UInt8).toNat < a.toNat := by
    show 0xDF < _
    omega
  rw [next, if_neg (not_lt_of_le (by omega)), if_neg (not_between_of_lt hbeyond2), if_pos hin]

theorem next_eq_next4 {a : UInt8} (h : 0xF0 ≤ a.toNat) (h' : a.toNat ≤ 0xF4)
    (rest : List UInt8) : next a rest = next4 a rest := by
  have hin : (decide (0xF0 ≤ a) && decide (a ≤ 0xF4)) = true := between_iff.2 ⟨h, h'⟩
  have hbeyond2 : (0xDF : UInt8).toNat < a.toNat := by
    show 0xDF < _
    omega
  have hbeyond3 : (0xEF : UInt8).toNat < a.toNat := by
    show 0xEF < _
    omega
  rw [next, if_neg (not_lt_of_le (by omega)), if_neg (not_between_of_lt hbeyond2),
    if_neg (not_between_of_lt hbeyond3), if_pos hin]

/-! ### Characters of several bytes -/

/-- A character of two bytes is read from them. -/
theorem next_of_two {n : Nat} (h : 0x80 ≤ n) (h' : n < 0x800) (rest : List UInt8) :
    next (UInt8.ofNat (n / 64 % 32 + 192)) (UInt8.ofNat (n % 64 + 128) :: rest) =
      .char (Char.ofNat n) rest := by
  have ha : (UInt8.ofNat (n / 64 % 32 + 192)).toNat = n / 64 + 192 := by
    rw [toNat_ofNat (by omega)]
    omega
  rw [next_eq_next2 (by omega) (by omega), next2, if_pos (isContinuation_ofNat n), payload_ofNat,
    ha, show (n / 64 + 192) % 32 * 64 + n % 64 = n by omega]

/-- The second byte of three says that the character is not overlong, and no surrogate. -/
theorem begins3_of {a b : UInt8} (hb : 0x80 ≤ b.toNat) (hb' : b.toNat ≤ 0xBF)
    (hlong : a.toNat = 0xE0 → 0xA0 ≤ b.toNat) (hsurrogate : a.toNat = 0xED → b.toNat ≤ 0x9F) :
    begins3 a b = true := by
  unfold begins3
  split
  · next h =>
    exact between_iff.2 ⟨hlong (congrArg UInt8.toNat (beq_iff_eq.1 h)), hb'⟩
  · split
    · next h =>
      exact between_iff.2 ⟨hb, hsurrogate (congrArg UInt8.toNat (beq_iff_eq.1 h))⟩
    · exact between_iff.2 ⟨hb, hb'⟩

/-- A character of three bytes is read from them. -/
theorem next_of_three {n : Nat} (h : 0x800 ≤ n) (h' : n < 0x10000)
    (hsurrogate : n < 0xD800 ∨ 0xDFFF < n) (rest : List UInt8) :
    next (UInt8.ofNat (n / 4096 % 16 + 224))
        (UInt8.ofNat (n / 64 % 64 + 128) :: UInt8.ofNat (n % 64 + 128) :: rest) =
      .char (Char.ofNat n) rest := by
  have ha : (UInt8.ofNat (n / 4096 % 16 + 224)).toNat = n / 4096 + 224 := by
    rw [toNat_ofNat (by omega)]
    omega
  have hb : (UInt8.ofNat (n / 64 % 64 + 128)).toNat = n / 64 % 64 + 128 := toNat_ofNat (by omega)
  have hbegins : begins3 (UInt8.ofNat (n / 4096 % 16 + 224)) (UInt8.ofNat (n / 64 % 64 + 128)) =
      true := begins3_of (by omega) (by omega) (by omega) (by omega)
  rw [next_eq_next3 (by omega) (by omega), next3, hbegins, if_neg (by decide)]
  simp only [isContinuation_ofNat, if_true, payload_ofNat, ha]
  rw [show ((n / 4096 + 224) % 16 * 64 + n / 64 % 64) * 64 + n % 64 = n by omega]

/-- The second byte of four says that the character is not overlong, and not beyond the last one. -/
theorem begins4_of {a b : UInt8} (hb : 0x80 ≤ b.toNat) (hb' : b.toNat ≤ 0xBF)
    (hlong : a.toNat = 0xF0 → 0x90 ≤ b.toNat) (hlast : a.toNat = 0xF4 → b.toNat ≤ 0x8F) :
    begins4 a b = true := by
  unfold begins4
  split
  · next h =>
    exact between_iff.2 ⟨hlong (congrArg UInt8.toNat (beq_iff_eq.1 h)), hb'⟩
  · split
    · next h =>
      exact between_iff.2 ⟨hb, hlast (congrArg UInt8.toNat (beq_iff_eq.1 h))⟩
    · exact between_iff.2 ⟨hb, hb'⟩

/-- A character of four bytes is read from them. -/
theorem next_of_four {n : Nat} (h : 0x10000 ≤ n) (h' : n < 0x110000) (rest : List UInt8) :
    next (UInt8.ofNat (n / 262144 % 8 + 240))
        (UInt8.ofNat (n / 4096 % 64 + 128) :: UInt8.ofNat (n / 64 % 64 + 128) ::
          UInt8.ofNat (n % 64 + 128) :: rest) =
      .char (Char.ofNat n) rest := by
  have ha : (UInt8.ofNat (n / 262144 % 8 + 240)).toNat = n / 262144 + 240 := by
    rw [toNat_ofNat (by omega)]
    omega
  have hb : (UInt8.ofNat (n / 4096 % 64 + 128)).toNat = n / 4096 % 64 + 128 :=
    toNat_ofNat (by omega)
  have hbegins : begins4 (UInt8.ofNat (n / 262144 % 8 + 240)) (UInt8.ofNat (n / 4096 % 64 + 128)) =
      true := begins4_of (by omega) (by omega) (by omega) (by omega)
  rw [next_eq_next4 (by omega) (by omega), next4, hbegins, if_neg (by decide)]
  simp only [isContinuation_ofNat, Bool.not_true, Bool.false_eq_true, if_true, if_false,
    payload_ofNat, ha]
  rw [show (((n / 262144 + 240) % 8 * 64 + n / 4096 % 64) * 64 + n / 64 % 64) * 64 + n % 64 = n by
    omega]

/-! ### Text -/

/-- What stands in front of bytes that begin with those of a character. -/
theorem next_encodeChar (c : Char) (rest : List UInt8) :
    ∃ a bytes, String.utf8EncodeChar c = a :: bytes ∧ next a (bytes ++ rest) = .char c rest := by
  have hvalid : c.toNat < 0xD800 ∨ 0xDFFF < c.toNat ∧ c.toNat < 0x110000 := c.valid
  have hc : Char.ofNat c.toNat = c := Char.ofNat_toNat c
  unfold String.utf8EncodeChar
  extract_lets n
  have hn : n = c.toNat := rfl
  clear_value n
  subst hn
  by_cases hone : c.toNat ≤ 127
  · rw [if_pos hone]
    have ha : (UInt8.ofNat c.toNat).toNat = c.toNat := toNat_ofNat (by omega)
    refine ⟨_, _, rfl, ?_⟩
    rw [next_eq_char (by omega), ha, hc]
    rfl
  rw [if_neg hone]
  by_cases htwo : c.toNat ≤ 2047
  · rw [if_pos htwo]
    exact ⟨_, _, rfl, (next_of_two (by omega) (by omega) rest).trans (by rw [hc])⟩
  rw [if_neg htwo]
  by_cases hthree : c.toNat ≤ 65535
  · rw [if_pos hthree]
    exact ⟨_, _, rfl, (next_of_three (by omega) (by omega) (by omega) rest).trans (by rw [hc])⟩
  · rw [if_neg hthree]
    exact ⟨_, _, rfl, (next_of_four (by omega) (by omega) rest).trans (by rw [hc])⟩

/-- A character of ASCII is one byte. -/
theorem encode_cons_of_ascii {c : Char} (hc : c.toNat < 0x80) (s : List Char) :
    encode (c :: s) = UInt8.ofNat c.toNat :: encode s := by
  have hchar : String.utf8EncodeChar c = [UInt8.ofNat c.toNat] :=
    if_pos (Nat.le_of_lt_succ hc)
  rw [encode, List.flatMap_cons, hchar]
  rfl

/-- A byte of a character is its number, or lies beyond ASCII. -/
theorem toNat_of_mem_encodeChar {c : Char} {b : UInt8} (h : b ∈ String.utf8EncodeChar c) :
    b.toNat = c.toNat ∨ 0x80 ≤ b.toNat := by
  have hbeyond : ∀ m, 0x80 ≤ m → m < 256 → b = UInt8.ofNat m → 0x80 ≤ b.toNat := by
    rintro m hm hlt rfl
    rwa [toNat_ofNat hlt]
  unfold String.utf8EncodeChar at h
  extract_lets n at h
  by_cases hone : n ≤ 127
  · rw [if_pos hone, List.mem_singleton] at h
    rw [h]
    exact .inl (toNat_ofNat (by omega))
  rw [if_neg hone] at h
  right
  by_cases htwo : n ≤ 2047
  · simp only [if_pos htwo, List.mem_cons, List.not_mem_nil, or_false] at h
    rcases h with h | h <;> exact hbeyond _ (by omega) (by omega) h
  rw [if_neg htwo] at h
  by_cases hthree : n ≤ 65535
  · simp only [if_pos hthree, List.mem_cons, List.not_mem_nil, or_false] at h
    rcases h with h | h | h <;> exact hbeyond _ (by omega) (by omega) h
  · simp only [if_neg hthree, List.mem_cons, List.not_mem_nil, or_false] at h
    rcases h with h | h | h | h <;> exact hbeyond _ (by omega) (by omega) h

/-- Text is read back from its bytes. -/
theorem decodeLossy_encode (s : List Char) : decodeLossy (encode s) = s := by
  induction s with
  | nil => rw [encode, List.flatMap_nil, decodeLossy]
  | cons c rest ih =>
    obtain ⟨a, bytes, hbytes, hnext⟩ := next_encodeChar c (encode rest)
    have hencode : encode (c :: rest) = a :: (bytes ++ encode rest) := by
      rw [encode, List.flatMap_cons, hbytes]
      rfl
    rw [hencode, decodeLossy]
    split
    · next c' rest' h =>
      cases hnext.symm.trans h
      rw [ih]
    · next rest' h =>
      cases hnext.symm.trans h

end Liquid.Text.Utf8
