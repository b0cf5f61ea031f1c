/-!
# UTF-8

- `Utf8.encode`: the bytes of a text.
- `Utf8.next`: the character in front of a sequence of bytes, or how many bytes begin one that is
  never completed.
- `Utf8.decode?`: the text of well-formed bytes.
- `Utf8.decodeLossy`: a text for any bytes, with U+FFFD in the place of each beginning of a
  character that is not completed and of each byte that begins none.
-/

namespace Liquid.Text.Utf8

/-- The bytes of a text. -/
def encode (s : List Char) : List UInt8 := s.flatMap String.utf8EncodeChar

/-- What stands in front of a sequence of bytes. -/
inductive Next where
  /-- A character, and the bytes behind it. -/
  | char (c : Char) (rest : List UInt8)
  /-- Bytes that are no character, and the bytes behind them. -/
  | invalid (rest : List UInt8)

/-- A byte that continues a character. -/
def isContinuation (b : UInt8) : Bool := 0x80 ≤ b && b ≤ 0xBF

/-- The payload of a byte that continues a character. -/
def payload (b : UInt8) : Nat := b.toNat % 64

/-- Whether the first two bytes can begin a character of three. Overlong forms and surrogates are
ruled out by the second byte. -/
def begins3 (a b : UInt8) : Bool :=
  if a == 0xE0 then 0xA0 ≤ b && b ≤ 0xBF
  else if a == 0xED then 0x80 ≤ b && b ≤ 0x9F
  else isContinuation b

/-- Whether the first two bytes can begin a character of four. -/
def begins4 (a b : UInt8) : Bool :=
  if a == 0xF0 then 0x90 ≤ b && b ≤ 0xBF
  else if a == 0xF4 then 0x80 ≤ b && b ≤ 0x8F
  else isContinuation b

/-- Reads a character of two bytes. -/
def next2 (a : UInt8) : List UInt8 → Next
  | b :: rest =>
    if isContinuation b then .char (Char.ofNat (a.toNat % 32 * 64 + payload b)) rest
    else .invalid (b :: rest)
  | [] => .invalid []

/-- Reads a character of three bytes. -/
def next3 (a : UInt8) : List UInt8 → Next
  | b :: rest =>
    if !begins3 a b then .invalid (b :: rest)
    else
      match rest with
      | c :: rest =>
        if isContinuation c then
          .char (Char.ofNat ((a.toNat % 16 * 64 + payload b) * 64 + payload c)) rest
        else .invalid (c :: rest)
      | [] => .invalid []
  | [] => .invalid []

/-- Reads a character of four bytes. -/
def next4 (a : UInt8) : List UInt8 → Next
  | b :: rest =>
    if !begins4 a b then .invalid (b :: rest)
    else
      match rest with
      | c :: rest =>
        if !isContinuation c then .invalid (c :: rest)
        else
          match rest with
          | d :: rest =>
            if isContinuation d then
              .char (Char.ofNat
                (((a.toNat % 8 * 64 + payload b) * 64 + payload c) * 64 + payload d)) rest
            else .invalid (d :: rest)
          | [] => .invalid []
      | [] => .invalid []
  | [] => .invalid []

/-- What stands in front, when the first byte is `a`. -/
def next (a : UInt8) (rest : List UInt8) : Next :=
  if a < 0x80 then .char (Char.ofNat a.toNat) rest
  else if 0xC2 ≤ a && a ≤ 0xDF then next2 a rest
  else if 0xE0 ≤ a && a ≤ 0xEF then next3 a rest
  else if 0xF0 ≤ a && a ≤ 0xF4 then next4 a rest
  else .invalid rest

/-- What is left behind. -/
def Next.rest : Next → List UInt8
  | char _ rest => rest
  | invalid rest => rest

theorem length_next2_le (a : UInt8) (rest : List UInt8) :
    (next2 a rest).rest.length ≤ rest.length := by
  fun_cases next2 a rest <;> simp [Next.rest]

theorem length_next3_le (a : UInt8) (rest : List UInt8) :
    (next3 a rest).rest.length ≤ rest.length := by
  fun_cases next3 a rest <;> grind [Next.rest]

theorem length_next4_le (a : UInt8) (rest : List UInt8) :
    (next4 a rest).rest.length ≤ rest.length := by
  fun_cases next4 a rest <;> grind [Next.rest]

/-- Reading never puts bytes back. -/
theorem length_next_le (a : UInt8) (rest : List UInt8) :
    (next a rest).rest.length ≤ rest.length := by
  unfold next
  split
  · exact Nat.le_refl _
  · split
    · exact length_next2_le a rest
    · split
      · exact length_next3_le a rest
      · split
        · exact length_next4_le a rest
        · exact Nat.le_refl _

/-- The text of bytes, with U+FFFD for what is no character. -/
def decodeLossy (bytes : List UInt8) : List Char :=
  match bytes with
  | [] => []
  | a :: rest =>
    match _h : next a rest with
    | .char c rest' => c :: decodeLossy rest'
    | .invalid rest' => '\ufffd' :: decodeLossy rest'
termination_by bytes.length
decreasing_by
  all_goals
    have := length_next_le a rest
    rw [_h] at this
    simp only [Next.rest] at this
    simp only [List.length_cons]
    omega

/-- The text of bytes that are well-formed throughout. -/
def decode? (bytes : List UInt8) : Option (List Char) :=
  match bytes with
  | [] => some []
  | a :: rest =>
    match _h : next a rest with
    | .char c rest' => (decode? rest').map (c :: ·)
    | .invalid _ => none
termination_by bytes.length
decreasing_by
  have := length_next_le a rest
  rw [_h] at this
  simp only [Next.rest] at this
  simp only [List.length_cons]
  omega

end Liquid.Text.Utf8
