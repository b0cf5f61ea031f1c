import Mathlib.Data.List.Forall2
import Liquid.Proofs.Text.Blank
import Liquid.Proofs.Text.Replace
import Liquid.Proofs.Text.Utf8
import Liquid.Text.Html
import Liquid.Text.Percent

/-!
# Percent encoding and back

Encoding works on bytes, and the two replacements around it work on text. Neither meets anything but
what it is meant for: a `%` or `+` of the text is escaped itself, so that `%20` and `+` stand for
spaces only.

- `Percent.readBytes_escapeByte`: an escaped byte is read back.
- `Percent.encode_eq_flatMap`: every byte is written on its own.
- `Percent.decode_encode`: encoded text is read back.
- `Percent.Encoded`, `Percent.Writes`: what encoded text consists of, and what it has for each
  character; `Percent.exists_pieces` puts both together.
-/

namespace Liquid.Text.Percent

/-! ### What is written -/

theorem hexDigit_spec (n : Nat) :
    Html.isHexDigit (hexDigit n) = true ∧ (hexDigit n).toNat < 0x80 ∧
      hexValue? (UInt8.ofNat (hexDigit n).toNat) = some (UInt8.ofNat (n % 16)) := by
  have hdigits : ∀ m < 16, Html.isHexDigit (hexDigit m) = true ∧ (hexDigit m).toNat < 0x80 ∧
      hexValue? (UInt8.ofNat (hexDigit m).toNat) = some (UInt8.ofNat m) := by decide
  have hmod : hexDigit (n % 16) = hexDigit n := by rw [hexDigit, hexDigit, Nat.mod_mod]
  rw [← hmod]
  exact hdigits (n % 16) (Nat.mod_lt n (by decide))

theorem hexDigit_ne (n : Nat) {c : Char} (hc : Html.isHexDigit c = false) : hexDigit n ≠ c :=
  ne_of_class (hexDigit_spec n).1 hc

theorem isKept_spec {c : Char} (h : isKept c = true) :
    c.toNat < 0x80 ∧ c ≠ '%' ∧ c ≠ '+' ∧ c ≠ ' ' := by
  refine ⟨?_, ?_, ?_, ?_⟩
  · simp only [isKept, isAsciiAlphanumeric, isAsciiLetter, isAsciiDigit, Bool.or_eq_true,
      Bool.and_eq_true, decide_eq_true_iff, beq_iff_eq] at h
    have hle : ∀ d : Char, c ≤ d → d.toNat < 0x80 → c.toNat < 0x80 := fun d hcd hd =>
      Nat.lt_of_le_of_lt (UInt32.le_iff_toNat_le.1 hcd) hd
    rcases h with ((((((⟨-, h⟩ | ⟨-, h⟩) | ⟨-, h⟩) | rfl) | rfl) | rfl) | rfl)
    · exact hle _ h (by decide)
    · exact hle _ h (by decide)
    · exact hle _ h (by decide)
    all_goals decide
  all_goals
    rintro rfl
    exact absurd h (by decide)

/-! ### Reading bytes -/

/-- The bytes that are read from text, with `+` for a space. -/
def readBytes (s : List Char) : List UInt8 :=
  decodeBytes (Utf8.encode (s.map fun c => if c = '+' then ' ' else c))

theorem decodeBytes_cons {b : UInt8} (hb : b ≠ 0x25) (bytes : List UInt8) :
    decodeBytes (b :: bytes) = b :: decodeBytes bytes := by
  rw [decodeBytes]
  rintro a c rest h -
  exact hb h

theorem readBytes_cons {c : Char} (hc : c.toNat < 0x80) (hpercent : c ≠ '%') (hplus : c ≠ '+')
    (s : List Char) : readBytes (c :: s) = UInt8.ofNat c.toNat :: readBytes s := by
  have hbyte : UInt8.ofNat c.toNat ≠ 0x25 := fun h => by
    have htoNat := congrArg UInt8.toNat h
    rw [Utf8.toNat_ofNat (by omega)] at htoNat
    exact hpercent (Char.toNat_inj.1 htoNat)
  rw [readBytes, List.map_cons, if_neg hplus, Utf8.encode_cons_of_ascii hc, decodeBytes_cons hbyte]
  rfl

theorem readBytes_plus (s : List Char) : readBytes ('+' :: s) = 0x20 :: readBytes s := by
  rw [readBytes, List.map_cons, if_pos rfl, Utf8.encode_cons_of_ascii (by decide),
    decodeBytes_cons (by decide)]
  rfl

/-- An escaped byte is read back. -/
theorem readBytes_escapeByte (b : UInt8) (s : List Char) :
    readBytes (escapeByte b ++ s) = b :: readBytes s := by
  obtain ⟨-, hhigh, hhighValue⟩ := hexDigit_spec (b.toNat / 16)
  obtain ⟨-, hlow, hlowValue⟩ := hexDigit_spec b.toNat
  have hplus : ∀ n, hexDigit n ≠ '+' := fun n => hexDigit_ne n (by decide)
  have hvalue : UInt8.ofNat (b.toNat / 16 % 16) * 16 + UInt8.ofNat (b.toNat % 16) = b := by
    have hlt := b.toNat_lt
    refine UInt8.toNat_inj.1 ?_
    rw [UInt8.toNat_add, UInt8.toNat_mul, Utf8.toNat_ofNat (by omega), Utf8.toNat_ofNat (by omega)]
    show (b.toNat / 16 % 16 * 16 % 256 + b.toNat % 16) % 256 = b.toNat
    omega
  have hbytes : readBytes (escapeByte b ++ s) =
      decodeBytes (0x25 :: UInt8.ofNat (hexDigit (b.toNat / 16)).toNat ::
        UInt8.ofNat (hexDigit b.toNat).toNat ::
          Utf8.encode (s.map fun c => if c = '+' then ' ' else c)) := by
    rw [readBytes, escapeByte, List.cons_append, List.cons_append, List.cons_append,
      List.nil_append, List.map_cons, List.map_cons, List.map_cons, if_neg (by decide),
      if_neg (hplus _), if_neg (hplus _), Utf8.encode_cons_of_ascii (by decide),
      Utf8.encode_cons_of_ascii hhigh, Utf8.encode_cons_of_ascii hlow]
    rfl
  rw [hbytes, decodeBytes, hhighValue, hlowValue]
  show _ :: readBytes s = _
  rw [hvalue]

/-! ### Byte by byte -/

/-- What stands for a byte in encoded text. -/
def writeByte (b : UInt8) : List Char := if b = 0x20 then ['+'] else encodeByte b

/-- No other byte is escaped as a space is. -/
theorem escapeByte_eq_space {b : UInt8} (h : escapeByte b = ['%', '2', '0']) : b = 0x20 := by
  have hread := readBytes_escapeByte b []
  rw [h] at hread
  exact (List.cons.inj hread).1.symm

/-- The `+` is put in the place of escaped spaces only. -/
theorem encode_eq_flatMap (s : List Char) : encode s = (Utf8.encode s).flatMap writeByte := by
  have hp : ['%', '2', '0'] ≠ [] := List.cons_ne_nil _ _
  have hpass : ∀ {c : Char}, c ≠ '%' → ∀ t, replaceAll ['%', '2', '0'] ['+'] (c :: t) =
      c :: replaceAll ['%', '2', '0'] ['+'] t := fun hc t =>
    replaceAll_cons hp _ fun hpre => hc (List.cons_prefix_cons.1 hpre).1.symm
  rw [encode]
  induction Utf8.encode s with
  | nil => exact replaceAll_nil hp _
  | cons b bytes ih =>
    rw [List.flatMap_cons, List.flatMap_cons, writeByte, ← ih]
    by_cases hspace : b = 0x20
    · subst hspace
      exact replaceAll_append_self hp ['+'] (bytes.flatMap encodeByte)
    rw [if_neg hspace, encodeByte]
    by_cases hkept : isKept (Char.ofNat b.toNat) = true
    · rw [if_pos hkept]
      exact hpass (isKept_spec hkept).2.1 _
    · rw [if_neg hkept]
      -- an occurrence would begin with the whole byte, for no digit is a `%`
      have hnot : ¬['%', '2', '0'] <+: escapeByte b ++ bytes.flatMap encodeByte := fun hpre => by
        obtain ⟨-, hrest⟩ := List.cons_prefix_cons.1 hpre
        obtain ⟨hhigh, hrest⟩ := List.cons_prefix_cons.1 hrest
        obtain ⟨hlow, -⟩ := List.cons_prefix_cons.1 hrest
        exact hspace (escapeByte_eq_space (by rw [escapeByte, ← hhigh, ← hlow]))
      refine (replaceAll_cons hp _ hnot).trans (congrArg (List.cons '%') ?_)
      exact (hpass (hexDigit_ne _ (by decide)) _).trans
        (congrArg (List.cons _) (hpass (hexDigit_ne _ (by decide)) _))

/-- Every byte is read back. -/
theorem readBytes_writeByte (b : UInt8) (s : List Char) :
    readBytes (writeByte b ++ s) = b :: readBytes s := by
  rw [writeByte]
  by_cases hspace : b = 0x20
  · rw [if_pos hspace, hspace]
    exact readBytes_plus s
  rw [if_neg hspace, encodeByte]
  by_cases hkept : isKept (Char.ofNat b.toNat) = true
  · rw [if_pos hkept]
    obtain ⟨hlt, hpercent, hplus, -⟩ := isKept_spec hkept
    refine (readBytes_cons hlt hpercent hplus s).trans ?_
    have hvalid : b.toNat.isValidChar := .inl (Nat.lt_trans b.toNat_lt (by decide))
    rw [Utf8.toNat_charOfNat hvalid, UInt8.ofNat_toNat]
  · rw [if_neg hkept]
    exact readBytes_escapeByte b s

/-- Encoded text is read back. -/
theorem decode_encode (s : List Char) : decode (encode s) = s := by
  have hbytes : ∀ bytes : List UInt8, readBytes (bytes.flatMap writeByte) = bytes := by
    intro bytes
    induction bytes with
    | nil => rfl
    | cons b bytes ih => rw [List.flatMap_cons, readBytes_writeByte, ih]
  show Utf8.decodeLossy (readBytes (encode s)) = s
  rw [encode_eq_flatMap, hbytes, Utf8.decodeLossy_encode]

/-! ### Encoded text -/

/-- Text of characters that stay, of `+`, and of bytes in hexadecimal digits. -/
inductive Encoded : List Char → Prop where
  /-- Nothing. -/
  | nil : Encoded []
  /-- A character that stays, or `+`. -/
  | char {c : Char} {s : List Char}
    (hc : isAsciiAlphanumeric c = true ∨ c ∈ ['*', '-', '.', '_', '+']) (h : Encoded s) :
    Encoded (c :: s)
  /-- A byte. -/
  | byte {high low : Char} {s : List Char} (hhigh : Html.isHexDigit high = true)
    (hlow : Html.isHexDigit low = true) (h : Encoded s) : Encoded ('%' :: high :: low :: s)

theorem Encoded.append {s t : List Char} (hs : Encoded s) (ht : Encoded t) : Encoded (s ++ t) := by
  induction hs with
  | nil => exact ht
  | char hc _ ih => exact .char hc ih
  | byte hhigh hlow _ ih => exact .byte hhigh hlow ih

theorem encoded_writeByte (b : UInt8) : Encoded (writeByte b) := by
  rw [writeByte]
  by_cases hspace : b = 0x20
  · rw [if_pos hspace]
    exact .char (.inr (by simp)) .nil
  rw [if_neg hspace, encodeByte]
  by_cases hkept : isKept (Char.ofNat b.toNat) = true
  · rw [if_pos hkept]
    refine .char ?_ .nil
    simp only [isKept, Bool.or_eq_true, beq_iff_eq, or_assoc] at hkept
    refine hkept.imp_right fun hmark => ?_
    simp only [List.mem_cons, List.not_mem_nil, or_false]
    tauto
  · rw [if_neg hkept]
    exact .byte (hexDigit_spec _).1 (hexDigit_spec _).1 .nil

theorem encoded_flatMap (bytes : List UInt8) : Encoded (bytes.flatMap writeByte) := by
  induction bytes with
  | nil => exact .nil
  | cons b bytes ih =>
    rw [List.flatMap_cons]
    exact (encoded_writeByte b).append ih

theorem encoded_encode (s : List Char) : Encoded (encode s) := by
  rw [encode_eq_flatMap]
  exact encoded_flatMap (Utf8.encode s)

theorem not_mem_writeByte {b : UInt8} (hb : b ≠ 0x20) : '+' ∉ writeByte b := by
  rw [writeByte, if_neg hb, encodeByte]
  intro hmem
  by_cases hkept : isKept (Char.ofNat b.toNat) = true
  · rw [if_pos hkept, List.mem_singleton] at hmem
    exact (isKept_spec hkept).2.2.1 hmem.symm
  · rw [if_neg hkept] at hmem
    rcases List.mem_cons.1 hmem with h | hmem
    · cases h
    rcases List.mem_cons.1 hmem with h | hmem
    · exact hexDigit_ne _ (by decide) h.symm
    · exact hexDigit_ne _ (by decide) (List.mem_singleton.1 hmem).symm

/-- The text `piece` stands for a character: `+` stands for a space, and occurs in nothing else. -/
structure Writes (c : Char) (piece : List Char) : Prop where
  /-- The text is encoded. -/
  encoded : Encoded piece
  /-- There is something for every character. -/
  ne_nil : piece ≠ []
  /-- A space is written as `+`. -/
  eq_plus : c = ' ' → piece = ['+']
  /-- Nothing else has a `+` in it. -/
  not_mem : c ≠ ' ' → '+' ∉ piece

theorem writeByte_ne_nil (b : UInt8) : writeByte b ≠ [] := fun h => by
  have hread := readBytes_writeByte b []
  rw [h] at hread
  cases hread

theorem writes_flatMap (c : Char) : Writes c ((String.utf8EncodeChar c).flatMap writeByte) where
  encoded := encoded_flatMap (String.utf8EncodeChar c)
  ne_nil hnil := by
    obtain ⟨a, bytes, hbytes, -⟩ := Utf8.next_encodeChar c []
    rw [hbytes] at hnil
    exact writeByte_ne_nil a (List.flatMap_eq_nil_iff.1 hnil a List.mem_cons_self)
  eq_plus := by
    rintro rfl
    rfl
  not_mem hc hmem := by
    obtain ⟨b, hb, hmem⟩ := List.mem_flatMap.1 hmem
    have hspace : b.toNat ≠ 32 := by
      rcases Utf8.toNat_of_mem_encodeChar hb with heq | hbeyond
      · exact fun h => hc (Char.toNat_inj.1 (heq.symm.trans h))
      · omega
    exact not_mem_writeByte (fun h => hspace (congrArg UInt8.toNat h)) hmem

/-- Encoded text is put together from what stands for its characters. -/
theorem exists_pieces (s : List Char) :
    ∃ pieces : List (List Char), encode s = pieces.flatten ∧ List.Forall₂ Writes s pieces := by
  refine ⟨s.map fun c => (String.utf8EncodeChar c).flatMap writeByte, ?_, ?_⟩
  · rw [encode_eq_flatMap, Utf8.encode, List.flatMap_assoc, List.flatMap_def]
  · rw [List.forall₂_map_right_iff, List.forall₂_same]
    exact fun c _ => writes_flatMap c

end Liquid.Text.Percent
