import Mathlib
import BqnEdit.Files.System

/-!
# Text written to a file reads back

Text is written to a file as its UTF-8 bytes and read back by decoding them, and a file of
the tree of files reads as the bytes last written to it. Together: after text is written to
a path, the path reads as that text.

The decoder is the program's own, which checks every sequence against the well-formed ranges
of UTF-8. The bytes of a character, one to four by the size of its code, always lie in those
ranges: the lead byte carries the high bits of the code under its marker, and each
continuation byte six more bits under `10`. The lead bytes `0xE0`, `0xED`, `0xF0` and `0xF4`
ask for a narrower second byte, which the code of a character always gives, since a
character is never a surrogate and never above `0x10FFFF`.

Main results:

* `decodeStep_utf8EncodeChar`: the bytes of a character decode to the character.
* `decodeUtf8_encodeUtf8`: the bytes of a text decode to the text.
* `FileTree.readBytes_writeBytes`: after bytes are written to a path, the path reads as them.
* `readText_writeText`: after text is written to a path of a disk, the path reads as it.
-/

namespace BqnEdit.Files

/-! ## UTF-8 -/

theorem and_or_eq_add (x k m : Nat) : x &&& (2 ^ k - 1) ||| 2 ^ k * m = 2 ^ k * m + x % 2 ^ k := by
  rw [Nat.and_two_pow_sub_one_eq_mod, Nat.or_comm,
    Nat.two_pow_add_eq_or_of_lt (Nat.mod_lt _ (Nat.two_pow_pos k))]

theorem toNat_markByte (b : UInt8) {mask marker : UInt8} (k m : Nat)
    (hmask : mask.toNat = 2 ^ k - 1) (hmarker : marker.toNat = 2 ^ k * m) :
    (b &&& mask ||| marker).toNat = 2 ^ k * m + b.toNat % 2 ^ k := by
  rw [UInt8.toNat_or, UInt8.toNat_and, hmask, hmarker, and_or_eq_add]

theorem toNat_markByte_low (v : UInt32) {mask marker : UInt8} (k m : Nat) (hk : k ≤ 8)
    (hmask : mask.toNat = 2 ^ k - 1) (hmarker : marker.toNat = 2 ^ k * m) :
    (v.toUInt8 &&& mask ||| marker).toNat = 2 ^ k * m + v.toNat % 2 ^ k := by
  rw [toNat_markByte _ k m hmask hmarker, UInt32.toNat_toUInt8,
    Nat.mod_mod_of_dvd _ (Nat.pow_dvd_pow 2 hk)]

theorem toNat_markByte_shiftRight (v : UInt32) {s : UInt32} {mask marker : UInt8} (n k m : Nat)
    (hs : s.toNat = n) (hn : n < 32) (hk : k ≤ 8)
    (hmask : mask.toNat = 2 ^ k - 1) (hmarker : marker.toNat = 2 ^ k * m) :
    ((v >>> s).toUInt8 &&& mask ||| marker).toNat = 2 ^ k * m + v.toNat / 2 ^ n % 2 ^ k := by
  rw [toNat_markByte_low _ k m hk hmask hmarker, UInt32.toNat_shiftRight, hs, Nat.mod_eq_of_lt hn,
    Nat.shiftRight_eq_div_pow]

theorem leadShape_two : ∀ q < 32, 2 ≤ q → leadShape (UInt8.ofNat (192 + q)) = some (1, 0x80, 0xBF) := by
  decide

theorem leadShape_three : ∀ q < 16, leadShape (UInt8.ofNat (224 + q)) =
    some (2, if q = 0 then 0xA0 else 0x80, if q = 13 then 0x9F else 0xBF) := by
  decide

theorem leadShape_four : ∀ q < 5, leadShape (UInt8.ofNat (240 + q)) =
    some (3, if q = 0 then 0x90 else 0x80, if q = 4 then 0x8F else 0xBF) := by
  decide

theorem continueSeq_cons {lo hi b : UInt8} {k acc v : Nat} {bs : List UInt8}
    (hb : lo.toNat ≤ b.toNat ∧ b.toNat ≤ hi.toNat)
    (h : continueSeq 0x80 0xBF k (acc * 64 + payload b) bs = .ok v) :
    continueSeq lo hi (k + 1) acc (b :: bs) = .ok v := by
  have hin : inRange lo hi b = true := by
    simp only [inRange, Bool.and_eq_true, decide_eq_true_eq, UInt8.le_iff_toNat_le]
    exact hb
  rw [continueSeq, if_pos hin, h]

/-- A lead byte of a sequence, with continuation bytes that fit, decodes to the code they
    carry. -/
theorem decodeStep_lead {b : UInt8} {bs : List UInt8} {k : Nat} {lo hi : UInt8} (hb : 128 ≤ b.toNat)
    (hshape : leadShape b = some (k, lo, hi)) {v : Nat}
    (hv : continueSeq lo hi k (leadPayload k b) bs = .ok v) :
    decodeStep (b :: bs) = (some (Char.ofNat v), k + 1) := by
  have hlt : ¬b < 0x80 := by
    rw [UInt8.lt_iff_toNat_lt]
    exact Nat.not_lt.mpr hb
  rw [decodeStep, if_neg hlt, hshape]
  dsimp only
  rw [hv]

/-- A character of one byte is written as its code. -/
theorem decodeStep_utf8EncodeChar_one {c : Char} (h : c.utf8Size = 1) (rest : List UInt8) :
    decodeStep (String.utf8EncodeChar c ++ rest) = (some c, c.utf8Size) := by
  have hn : c.toNat ≤ 127 := by
    simpa [UInt32.le_iff_toNat_le] using Char.utf8Size_eq_one_iff.mp h
  have hb : c.val.toUInt8.toNat = c.toNat := by
    rw [UInt32.toNat_toUInt8]
    exact Nat.mod_eq_of_lt (show c.toNat < 2 ^ 8 by omega)
  rw [String.utf8EncodeChar_eq_singleton h, List.cons_append, List.nil_append, decodeStep,
    if_pos (by rw [UInt8.lt_iff_toNat_lt, hb]; simp only [UInt8.reduceToNat]; omega), hb,
    Char.ofNat_toNat, h]

/-- A character of two bytes: `110` and five bits of the code, then `10` and six. -/
theorem decodeStep_utf8EncodeChar_two {c : Char} (h : c.utf8Size = 2) (rest : List UInt8) :
    decodeStep (String.utf8EncodeChar c ++ rest) = (some c, c.utf8Size) := by
  have hn : 127 < c.toNat ∧ c.toNat ≤ 0x7ff := by
    simpa [UInt32.lt_iff_toNat_lt, UInt32.le_iff_toNat_le] using Char.utf8Size_eq_two_iff.mp h
  have h0 : ((c.val >>> 6).toUInt8 &&& 0x1f ||| 0xc0).toNat = 192 + c.toNat / 64 % 32 :=
    toNat_markByte_shiftRight _ 6 5 6 rfl (by decide) (by decide) rfl rfl
  have h1 : (c.val.toUInt8 &&& 0x3f ||| 0x80).toNat = 128 + c.toNat % 64 :=
    toNat_markByte_low _ 6 2 (by decide) rfl rfl
  have hshape := leadShape_two (c.toNat / 64) (by omega) (by omega)
  rw [← h0.trans (by omega : 192 + c.toNat / 64 % 32 = 192 + c.toNat / 64),
    UInt8.ofNat_toNat] at hshape
  rw [String.utf8EncodeChar_eq_cons_cons h, List.cons_append, List.cons_append, List.nil_append,
    decodeStep_lead (by omega) hshape
      (continueSeq_cons (by rw [h1]; simp only [UInt8.reduceToNat]; omega) rfl)]
  have hv : leadPayload 1 ((c.val >>> 6).toUInt8 &&& 0x1f ||| 0xc0) * 64 +
      payload (c.val.toUInt8 &&& 0x3f ||| 0x80) = c.toNat := by
    simp only [leadPayload, payload, h0, h1]
    omega
  rw [hv, Char.ofNat_toNat, h]

/-- A character of three bytes: `1110` and four bits, then two continuation bytes. -/
theorem decodeStep_utf8EncodeChar_three {c : Char} (h : c.utf8Size = 3) (rest : List UInt8) :
    decodeStep (String.utf8EncodeChar c ++ rest) = (some c, c.utf8Size) := by
  have hvalid : c.toNat < 0xd800 ∨ (0xdfff < c.toNat ∧ c.toNat < 0x110000) := c.valid
  have hn : 0x7ff < c.toNat ∧ c.toNat ≤ 0xffff := by
    simpa [UInt32.lt_iff_toNat_lt, UInt32.le_iff_toNat_le] using Char.utf8Size_eq_three_iff.mp h
  have h0 : ((c.val >>> 12).toUInt8 &&& 0x0f ||| 0xe0).toNat = 224 + c.toNat / 4096 % 16 :=
    toNat_markByte_shiftRight _ 12 4 14 rfl (by decide) (by decide) rfl rfl
  have h1 : ((c.val >>> 6).toUInt8 &&& 0x3f ||| 0x80).toNat = 128 + c.toNat / 64 % 64 :=
    toNat_markByte_shiftRight _ 6 6 2 rfl (by decide) (by decide) rfl rfl
  have h2 : (c.val.toUInt8 &&& 0x3f ||| 0x80).toNat = 128 + c.toNat % 64 :=
    toNat_markByte_low _ 6 2 (by decide) rfl rfl
  have hshape := leadShape_three (c.toNat / 4096) (by omega)
  rw [← h0.trans (by omega : 224 + c.toNat / 4096 % 16 = 224 + c.toNat / 4096),
    UInt8.ofNat_toNat] at hshape
  rw [String.utf8EncodeChar_eq_cons_cons_cons h, List.cons_append, List.cons_append, List.cons_append,
    List.nil_append, decodeStep_lead (by omega) hshape
      (continueSeq_cons ?_ (continueSeq_cons (by rw [h2]; simp only [UInt8.reduceToNat]; omega) rfl))]
  · have hv : (leadPayload 2 ((c.val >>> 12).toUInt8 &&& 0x0f ||| 0xe0) * 64 +
        payload ((c.val >>> 6).toUInt8 &&& 0x3f ||| 0x80)) * 64 +
        payload (c.val.toUInt8 &&& 0x3f ||| 0x80) = c.toNat := by
      simp only [leadPayload, payload, h0, h1, h2]
      omega
    rw [hv, Char.ofNat_toNat, h]
  · -- after `0xE0` the code is at least `0x800`, after `0xED` it is below the surrogates
    rw [h1]
    split <;> split <;> simp only [UInt8.reduceToNat] <;> omega

/-- A character of four bytes: `11110` and three bits, then three continuation bytes. -/
theorem decodeStep_utf8EncodeChar_four {c : Char} (h : c.utf8Size = 4) (rest : List UInt8) :
    decodeStep (String.utf8EncodeChar c ++ rest) = (some c, c.utf8Size) := by
  have hvalid : c.toNat < 0xd800 ∨ (0xdfff < c.toNat ∧ c.toNat < 0x110000) := c.valid
  have hn : 0xffff < c.toNat := by
    simpa [UInt32.lt_iff_toNat_lt] using Char.utf8Size_eq_four_iff.mp h
  have h0 : ((c.val >>> 18).toUInt8 &&& 0x07 ||| 0xf0).toNat = 240 + c.toNat / 262144 % 8 :=
    toNat_markByte_shiftRight _ 18 3 30 rfl (by decide) (by decide) rfl rfl
  have h1 : ((c.val >>> 12).toUInt8 &&& 0x3f ||| 0x80).toNat = 128 + c.toNat / 4096 % 64 :=
    toNat_markByte_shiftRight _ 12 6 2 rfl (by decide) (by decide) rfl rfl
  have h2 : ((c.val >>> 6).toUInt8 &&& 0x3f ||| 0x80).toNat = 128 + c.toNat / 64 % 64 :=
    toNat_markByte_shiftRight _ 6 6 2 rfl (by decide) (by decide) rfl rfl
  have h3 : (c.val.toUInt8 &&& 0x3f ||| 0x80).toNat = 128 + c.toNat % 64 :=
    toNat_markByte_low _ 6 2 (by decide) rfl rfl
  have hshape := leadShape_four (c.toNat / 262144) (by omega)
  rw [← h0.trans (by omega : 240 + c.toNat / 262144 % 8 = 240 + c.toNat / 262144),
    UInt8.ofNat_toNat] at hshape
  rw [String.utf8EncodeChar_eq_cons_cons_cons_cons h, List.cons_append, List.cons_append,
    List.cons_append, List.cons_append, List.nil_append, decodeStep_lead (by omega) hshape
      (continueSeq_cons ?_ (continueSeq_cons (by rw [h2]; simp only [UInt8.reduceToNat]; omega)
        (continueSeq_cons (by rw [h3]; simp only [UInt8.reduceToNat]; omega) rfl)))]
  · have hv : ((leadPayload 3 ((c.val >>> 18).toUInt8 &&& 0x07 ||| 0xf0) * 64 +
        payload ((c.val >>> 12).toUInt8 &&& 0x3f ||| 0x80)) * 64 +
        payload ((c.val >>> 6).toUInt8 &&& 0x3f ||| 0x80)) * 64 +
        payload (c.val.toUInt8 &&& 0x3f ||| 0x80) = c.toNat := by
      simp only [leadPayload, payload, h0, h1, h2, h3]
      omega
    rw [hv, Char.ofNat_toNat, h]
  · -- after `0xF0` the code is at least `0x10000`, after `0xF4` at most `0x10FFFF`
    rw [h1]
    split <;> split <;> simp only [UInt8.reduceToNat] <;> omega

/-- The bytes of a character decode to the character, taking as many bytes as its size. -/
theorem decodeStep_utf8EncodeChar (c : Char) (rest : List UInt8) :
    decodeStep (String.utf8EncodeChar c ++ rest) = (some c, c.utf8Size) := by
  rcases Char.utf8Size_eq c with h | h | h | h
  · exact decodeStep_utf8EncodeChar_one h rest
  · exact decodeStep_utf8EncodeChar_two h rest
  · exact decodeStep_utf8EncodeChar_three h rest
  · exact decodeStep_utf8EncodeChar_four h rest

/-- The bytes of characters decode to the characters. -/
theorem decodeChars_flatMap (cs : List Char) :
    decodeChars? (cs.flatMap String.utf8EncodeChar) = some cs := by
  induction cs with
  | nil => rw [List.flatMap_nil, decodeChars?.eq_1]
  | cons c cs ih =>
    obtain ⟨b, bs, hbs⟩ : ∃ b bs, String.utf8EncodeChar c = b :: bs := by
      cases h : String.utf8EncodeChar c with
      | nil => exact absurd h String.utf8EncodeChar_ne_nil
      | cons b bs => exact ⟨b, bs, rfl⟩
    have hstep := decodeStep_utf8EncodeChar c (cs.flatMap String.utf8EncodeChar)
    rw [List.flatMap_cons, hbs, List.cons_append, decodeChars?.eq_2, ← List.cons_append, ← hbs, hstep]
    dsimp only
    rw [← String.length_utf8EncodeChar, List.drop_left, ih]
    rfl

theorem toList_byteArray (bs : ByteArray) : bs.toList = bs.data.toList := by
  -- the loop has put the bytes before `i` onto `r`, last first
  have hloop : ∀ i r, ByteArray.toList.loop bs i r = r.reverse ++ bs.data.toList.drop i := by
    intro i r
    fun_induction ByteArray.toList.loop bs i r with
    | case1 i r hi ih =>
      rw [ih, List.reverse_cons, List.append_assoc, List.singleton_append]
      have hlt : i < bs.data.toList.length := by simpa using hi
      rw [List.drop_eq_getElem_cons hlt]
      congr 1
      simp [ByteArray.get!, hi]
    | case2 i r hi =>
      rw [List.drop_eq_nil_of_le (by simpa using Nat.le_of_not_lt hi), List.append_nil]
  rw [ByteArray.toList, hloop, List.reverse_nil, List.nil_append, List.drop_zero]

theorem encodeUtf8_eq (s : String) : encodeUtf8 s = s.toList.flatMap String.utf8EncodeChar := by
  rw [encodeUtf8, String.toUTF8_eq_toByteArray, ← String.utf8Encode_toList, toList_byteArray]
  exact List.toList_data_toByteArray

theorem decodeUtf8_encodeUtf8 (s : String) : decodeUtf8? (encodeUtf8 s) = some s := by
  rw [decodeUtf8?, encodeUtf8_eq, decodeChars_flatMap, Option.map_some, String.ofList_toList]

/-! ## Files of the tree -/

namespace FileTree

theorem node_put_of_ne (t : FileTree) {p q : List String} (n : Node) (h : p ≠ q) :
    (t.put q n).node? p = t.node? p := by
  unfold node? put
  by_cases hp : p = []
  · rw [if_pos hp, if_pos hp]
  · rw [if_neg hp, if_neg hp]
    dsimp only
    have hlast : [(q, n)].find? (·.1 == p) = none := by
      simp [Ne.symm h]
    rw [List.find?_append, hlast, Option.or_none, List.find?_filter]
    congr 2
    funext e
    by_cases he : e.1 = p
    · simp [he, h]
    · simp [he]

/-- Putting a node where no directory is keeps every walk, which goes through directories
    only. -/
theorem walk_put {t : FileTree} {q : List String} (hq : t.node? q ≠ some .dir) (n : Node) :
    ∀ (cur ns r : List String), t.walk cur ns = .ok r → (t.put q n).walk cur ns = .ok r := by
  intro cur ns
  induction ns generalizing cur with
  | nil => exact fun r h => h
  | cons x ns ih =>
    intro r h
    cases ns with
    | nil => exact h
    | cons y ns =>
      rw [walk] at h ⊢
      split at h
      · next hdir =>
        have hne : (if x = "." then cur else if x = ".." then cur.dropLast else cur ++ [x]) ≠ q := by
          rintro heq
          rw [heq] at hdir
          exact hq hdir
        rw [node_put_of_ne t n hne, hdir]
        exact ih _ r h
      · cases h
      · cases h

theorem resolve_put {t : FileTree} {q : List String} (hq : t.node? q ≠ some .dir) (n : Node)
    {cwd : List String} {pp : PathParts} {r : List String} (h : t.resolve cwd pp = .ok r) :
    (t.put q n).resolve cwd pp = .ok r := by
  unfold resolve at h ⊢
  split at h
  · cases h
  · next hne =>
    rw [if_neg hne]
    exact walk_put hq n _ _ r h

/-- A file put at the path a name resolves to, where no directory was, is read back by the
    name. -/
theorem readBytes_put {t : FileTree} {cwd : List String} {p : String} {q : List String}
    (hr : t.resolve cwd (PathParts.ofString p) = .ok q) (hq : t.node? q ≠ some .dir)
    (htrail : (PathParts.ofString p).trailing = false) (bs : List UInt8) :
    (t.put q (.file bs)).readBytes cwd p = .ok bs := by
  -- the root is a directory, so the file is not at the root
  have hq0 : q ≠ [] := by
    rintro rfl
    exact hq (node_root t)
  unfold readBytes
  dsimp only
  rw [resolve_put hq _ hr, show (Except.ok q : Except IoError (List String)) = pure q from rfl,
    pure_bind, node_put t q _ hq0]
  dsimp only
  rw [htrail]
  rfl

/-- A write that succeeds puts the file at the path the name resolves to, where no
    directory is, and the name has no final slash. -/
theorem writeBytes_ok {t t' : FileTree} {cwd : List String} {p : String} {bs : List UInt8}
    (h : t.writeBytes cwd p bs = .ok t') :
    ∃ q, t.resolve cwd (PathParts.ofString p) = .ok q ∧ t.node? q ≠ some .dir ∧
      (PathParts.ofString p).trailing = false ∧ t' = t.put q (.file bs) := by
  unfold writeBytes at h
  dsimp only at h
  cases hr : t.resolve cwd (PathParts.ofString p) with
  | error e =>
    rw [hr] at h
    cases h
  | ok q =>
    rw [hr, show (Except.ok q : Except IoError (List String)) = pure q from rfl, pure_bind] at h
    split at h
    · cases h
    · next hfile =>
      split at h
      · cases h
      · next htrail =>
        cases h
        exact ⟨q, rfl, by rw [hfile]; nofun, by simpa using htrail, rfl⟩
    · next hnone =>
      split at h
      · cases h
      · next htrail =>
        cases h
        exact ⟨q, rfl, by rw [hnone]; nofun, by simpa using htrail, rfl⟩

theorem readBytes_writeBytes {t t' : FileTree} {cwd : List String} {p : String} {bs : List UInt8}
    (h : t.writeBytes cwd p bs = .ok t') : t'.readBytes cwd p = .ok bs := by
  obtain ⟨q, hr, hq, htrail, rfl⟩ := writeBytes_ok h
  exact readBytes_put hr hq htrail bs

end FileTree

/-! ## Text on a disk -/

theorem run_bind_stateM {σ α β : Type} (x : StateM σ α) (f : α → StateM σ β) (s : σ) :
    (x >>= f).run s = (f (x.run s).1).run (x.run s).2 := rfl

/-- Writing text to a disk writes its bytes into the tree of files, or fails and leaves the
    disk as it was. -/
theorem run_writeText (d : Disk) (p s : String) :
    (FileSystem.writeText p s : StateM Disk _).run d =
      match d.files.writeBytes d.cwd p (encodeUtf8 s) with
      | .ok t => (.ok (), { d with files := t })
      | .error e => (.error e, d) := rfl

/-- Reading text from a disk decodes the bytes of the file, and leaves the disk as it is. -/
theorem run_readText (d : Disk) (p : String) :
    (FileSystem.readText p : StateM Disk _).run d =
      (match d.files.readBytes d.cwd p with
      | .ok bs =>
        match decodeUtf8? bs with
        | some s => .ok s
        | none => .error .invalidData
      | .error e => .error e, d) := by
  show (do
    match d.files.readBytes d.cwd p with
    | .ok bs =>
      match decodeUtf8? bs with
      | some s => pure (.ok s)
      | none => pure (.error .invalidData)
    | .error e => pure (.error e) : StateM Disk (Except IoError String)).run d = _
  split
  · split <;> rfl
  · rfl

/-- After text is written to a path of a disk, the path holds the text's bytes. -/
theorem readBytes_of_writeText {d d' : Disk} {p s : String}
    (h : (FileSystem.writeText p s : StateM Disk _).run d = (.ok (), d')) :
    d'.files.readBytes d'.cwd p = .ok (encodeUtf8 s) := by
  rw [run_writeText] at h
  split at h
  · next t hw =>
    cases h
    exact FileTree.readBytes_writeBytes hw
  · cases h

/-- After text is written to a path of a disk, the path reads as the text. -/
theorem readText_writeText {d d' : Disk} {p s : String}
    (h : (FileSystem.writeText p s : StateM Disk _).run d = (.ok (), d')) :
    (FileSystem.readText p : StateM Disk _).run d' = (.ok s, d') := by
  rw [run_readText, readBytes_of_writeText h]
  dsimp only
  rw [decodeUtf8_encodeUtf8]

end BqnEdit.Files
