/-!
# Decoding UTF-8

Files hold bytes. Reading a file as text needs its bytes to be well-formed UTF-8;
listing a file shows its text with each ill-formed piece replaced by U+FFFD.

A piece is replaced the way Unicode recommends ("maximal subparts"): a lead byte
followed by the longest run of continuation bytes that could still begin a
well-formed sequence becomes one replacement character, and decoding resumes at the
first byte that does not fit. A byte that can never start a sequence is one
replacement character on its own.

Main results:

* `decodeStep_pos`: every step consumes at least one byte, so decoding ends.
* `decodeUtf8_ascii`: bytes below 128 decode to the characters they code.
-/

namespace BqnEdit.Files

/-- The byte lies between `lo` and `hi`, both included. -/
def inRange (lo hi : UInt8) (b : UInt8) : Bool := lo ≤ b && b ≤ hi

/-- The low six bits of a continuation byte. -/
def payload (b : UInt8) : Nat := b.toNat % 64

/-- For the lead byte of a sequence of two to four bytes: the number of continuation
    bytes after it and the range the first of them must lie in. Other bytes above
    127 give none. -/
def leadShape (b : UInt8) : Option (Nat × UInt8 × UInt8) :=
  if inRange 0xC2 0xDF b then some (1, 0x80, 0xBF)
  else if b = 0xE0 then some (2, 0xA0, 0xBF)
  else if inRange 0xE1 0xEC b || inRange 0xEE 0xEF b then some (2, 0x80, 0xBF)
  else if b = 0xED then some (2, 0x80, 0x9F)
  else if b = 0xF0 then some (3, 0x90, 0xBF)
  else if inRange 0xF1 0xF3 b then some (3, 0x80, 0xBF)
  else if b = 0xF4 then some (3, 0x80, 0x8F)
  else none

/-- The value of the lead byte of a sequence with `k` continuation bytes. -/
def leadPayload (k : Nat) (b : UInt8) : Nat :=
  match k with
  | 1 => b.toNat % 32
  | 2 => b.toNat % 16
  | _ => b.toNat % 8

/-- Read `k` more continuation bytes onto the value `acc`; the first must lie between
    `lo` and `hi`. Gives the value and the bytes read, or, when a byte does not fit,
    the number of bytes that did. -/
def continueSeq (lo hi : UInt8) : Nat → Nat → List UInt8 → Except Nat Nat
  | 0, acc, _ => .ok acc
  | _ + 1, _, [] => .error 0
  | k + 1, acc, b :: bs =>
    if inRange lo hi b then
      match continueSeq 0x80 0xBF k (acc * 64 + payload b) bs with
      | .ok v => .ok v
      | .error n => .error (n + 1)
    else .error 0

/-- Decode the character at the head of the bytes: the character, or none for an
    ill-formed piece, and the number of bytes taken. -/
def decodeStep : List UInt8 → Option Char × Nat
  | [] => (none, 0)
  | b :: bs =>
    if b < 0x80 then (some (Char.ofNat b.toNat), 1)
    else
      match leadShape b with
      | none => (none, 1)
      | some (k, lo, hi) =>
        match continueSeq lo hi k (leadPayload k b) bs with
        | .ok v => (some (Char.ofNat v), k + 1)
        | .error n => (none, n + 1)

theorem continueSeq_error_le (lo hi : UInt8) (k acc : Nat) (bs : List UInt8) (n : Nat)
    (h : continueSeq lo hi k acc bs = .error n) : n ≤ bs.length := by
  induction k generalizing lo hi acc bs n with
  | zero => simp [continueSeq] at h
  | succ k ih =>
    cases bs with
    | nil => simp [continueSeq] at h; omega
    | cons b bs =>
      simp only [continueSeq] at h
      split at h
      · split at h
        · simp at h
        · rename_i m hm
          simp at h
          have := ih 0x80 0xBF _ bs m hm
          simp; omega
      · simp at h; omega

theorem decodeStep_pos (b : UInt8) (bs : List UInt8) : 0 < (decodeStep (b :: bs)).2 := by
  simp only [decodeStep]
  split
  · simp
  · split
    · simp
    · split <;> simp

/-- Decode bytes, each ill-formed piece becoming one U+FFFD. -/
def decodeLossyChars : List UInt8 → List Char
  | [] => []
  | b :: bs =>
    have : (b :: bs).length - (decodeStep (b :: bs)).2 < (b :: bs).length := by
      have := decodeStep_pos b bs
      simp only [List.length_cons]
      omega
    (decodeStep (b :: bs)).1.getD '\uFFFD' ::
      decodeLossyChars ((b :: bs).drop (decodeStep (b :: bs)).2)
termination_by bs => bs.length

/-- Decode well-formed UTF-8, or give none. -/
def decodeChars? : List UInt8 → Option (List Char)
  | [] => some []
  | b :: bs =>
    have : (b :: bs).length - (decodeStep (b :: bs)).2 < (b :: bs).length := by
      have := decodeStep_pos b bs
      simp only [List.length_cons]
      omega
    match (decodeStep (b :: bs)).1 with
    | none => none
    | some c => (decodeChars? ((b :: bs).drop (decodeStep (b :: bs)).2)).map (c :: ·)
termination_by bs => bs.length

/-- The text the bytes code, with ill-formed pieces replaced. -/
def decodeLossy (bs : List UInt8) : String := String.ofList (decodeLossyChars bs)

/-- The text the bytes code, if they are well-formed UTF-8. -/
def decodeUtf8? (bs : List UInt8) : Option String := (decodeChars? bs).map String.ofList

/-- The UTF-8 bytes of a text. -/
def encodeUtf8 (s : String) : List UInt8 := s.toUTF8.toList

theorem decodeUtf8_ascii (b : UInt8) (h : b < 0x80) :
    decodeUtf8? [b] = some (String.ofList [Char.ofNat b.toNat]) := by
  simp [decodeUtf8?, decodeChars?, decodeStep, h]

end BqnEdit.Files
