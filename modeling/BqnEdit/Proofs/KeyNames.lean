import BqnEdit.Input.Key

/-!
# Reading back the names of keys

A key is written by its name (`Key.display`) and read back by `Key.parse`. Names are read
back for every key but some of the function keys: a function key is written `F` and its
number whatever the number, while a name is read as a function key only for the numbers 1
to 24. So `F0` and `F25` to `F255`, which a terminal can report, are written but not read.

Main results:

* `readDigits_eq`, `parseByte_toString`: a number written in decimal reads back as itself
  when it is below the bound.
* `Key.parse_display`: reading a key's name gives the key back exactly when the key has a
  name (`Key.hasName`), and otherwise the error for an unknown key.
-/

namespace BqnEdit

namespace Text

/-- Reading decimal digits below a bound gives their value, or the fault that it is too
    large: every value read on the way is at most the last one. -/
theorem readDigits_eq {bound acc : Nat} (hacc : acc < bound) {cs : List Char}
    (hcs : ∀ c ∈ cs, c.isDigit = true) :
    readDigits bound acc cs =
      if Nat.ofDigitChars 10 cs acc < bound then .ok (Nat.ofDigitChars 10 cs acc) else .error .tooLarge := by
  induction cs generalizing acc with
  | nil => simp [readDigits, hacc]
  | cons c cs ih =>
    have hc : c.isDigit = true := hcs c List.mem_cons_self
    rw [readDigits, if_pos hc, Nat.ofDigitChars_cons]
    dsimp only
    split
    · next hv => exact ih hv (fun c' h => hcs c' (List.mem_cons_of_mem _ h))
    · next hv =>
      -- the value only grows with more digits, so it stays too large
      have hgrow := @Nat.ofDigitChars_eq_ofDigitChars_zero cs (10 * acc + (c.toNat - '0'.toNat))
      have hpos : 1 ≤ 10 ^ cs.length := Nat.one_le_pow _ _ (by decide)
      have hge : 10 * acc + (c.toNat - '0'.toNat) ≤ Nat.ofDigitChars 10 cs (10 * acc + (c.toNat - '0'.toNat)) := by
        rw [hgrow]
        exact Nat.le_add_right_of_le (Nat.le_mul_of_pos_left _ hpos)
      rw [if_neg (by omega)]

theorem isDigit_of_mem_toDigits_ten {n : Nat} {c : Char} (hc : c ∈ Nat.toDigits 10 n) :
    c.isDigit = true :=
  Nat.isDigit_of_mem_toDigits (by decide) (by decide) hc

theorem toDigits_ten_eq_cons (n : Nat) : ∃ d ds, Nat.toDigits 10 n = d :: ds := by
  cases h : Nat.toDigits 10 n with
  | nil => exact absurd h Nat.toDigits_ne_nil
  | cons d ds => exact ⟨d, ds, rfl⟩

/-- A number written in decimal reads back as itself below the bound, and is too large
    from the bound on. -/
theorem parseUnsigned_toString {bound : Nat} (hbound : 0 < bound) (n : Nat) :
    parseUnsigned bound (toString n) = if n < bound then .ok n else .error .tooLarge := by
  obtain ⟨d, ds, hdds⟩ := toDigits_ten_eq_cons n
  -- the first character is a digit, so no sign is read
  have hd : d ≠ '+' := by
    intro hplus
    have := isDigit_of_mem_toDigits_ten (show d ∈ Nat.toDigits 10 n by rw [hdds]; exact List.mem_cons_self)
    rw [hplus] at this
    exact absurd this (by decide)
  have hread := readDigits_eq hbound (fun c (hc : c ∈ Nat.toDigits 10 n) => isDigit_of_mem_toDigits_ten hc)
  rw [Nat.ofDigitChars_ten_toDigits] at hread
  unfold parseUnsigned
  rw [Nat.toString_eq_ofList_toDigits, String.toList_ofList]
  split
  · next h => exact absurd h Nat.toDigits_ne_nil
  · next h => rw [hdds] at h; cases h; exact absurd rfl hd
  · next cs h => rw [hdds] at h; cases h; exact absurd rfl hd
  · exact hread

theorem parseByte_toString (n : Nat) :
    parseByte? (toString n) = if n < 256 then some n else none := by
  unfold parseByte?
  rw [parseUnsigned_toString (by decide)]
  split <;> rfl

end Text

namespace Input

namespace Key

/-- Whether a key's name reads back as the key: all keys but the function keys outside
    `F1` to `F24`. -/
def hasName : Key → Bool
  | function n => 1 ≤ n && n ≤ 24
  | _ => true

theorem namedKeys_no_digit : ∀ p ∈ namedKeys, p.1.toList.any Char.isDigit = false := by
  decide

theorem modifier_name_no_digit : ∀ m ∈ ModifierKey.all, m.name.toList.any Char.isDigit = false := by
  decide

theorem toList_functionName (n : Nat) : ("F" ++ toString n).toList = 'F' :: Nat.toDigits 10 n := by
  have hF : ("F" : String).toList = ['F'] := by decide
  rw [String.toList_append, hF, Nat.toString_eq_ofList_toDigits, String.toList_ofList]
  rfl

/-- The name `F` and a number names a function key exactly for the numbers 1 to 24: the
    name has a digit in it, and no named key or modifier key has. -/
theorem ofName_function (n : Nat) :
    ofName? ("F" ++ toString n) = if 1 ≤ n ∧ n ≤ 24 then some (function n) else none := by
  obtain ⟨d, ds, hdds⟩ := Text.toDigits_ten_eq_cons n
  have hdigit : ("F" ++ toString n).toList.any Char.isDigit = true := by
    have hd : d.isDigit = true :=
      Text.isDigit_of_mem_toDigits_ten (show d ∈ Nat.toDigits 10 n by rw [hdds]; exact List.mem_cons_self)
    rw [toList_functionName, hdds, List.any_cons, List.any_cons, hd]
    rfl
  have hnamed : namedKeys.lookup ("F" ++ toString n) = none := by
    rw [List.lookup_eq_none_iff]
    intro p hp
    rw [bne_iff_ne]
    intro heq
    have := namedKeys_no_digit p hp
    rw [← heq, hdigit] at this
    exact Bool.noConfusion this
  have hmod : ModifierKey.all.find? (·.name == "F" ++ toString n) = none := by
    rw [List.find?_eq_none]
    intro m hm heq
    have := modifier_name_no_digit m hm
    rw [beq_iff_eq.mp heq, hdigit] at this
    exact Bool.noConfusion this
  have hbyte : Text.parseByte? (String.ofList (Nat.toDigits 10 n)) = if n < 256 then some n else none := by
    rw [← Nat.toString_eq_ofList_toDigits, Text.parseByte_toString]
  unfold ofName?
  rw [hnamed, hmod, toList_functionName]
  dsimp only
  split
  · next ds' heq =>
    obtain ⟨-, rfl⟩ := List.cons.inj heq
    rw [hbyte]
    by_cases hsmall : n < 256
    · rw [if_pos hsmall]
    · rw [if_neg hsmall, if_neg (by omega)]
  · next hne => exact absurd rfl (hne (Nat.toDigits 10 n))

/-- Reading a key's name gives the key back when the key has a name, and otherwise fails
    with the error for an unknown key, which names what was written. -/
theorem parse_display (k : Key) :
    parse k.display = if k.hasName then .ok k else .error (.unknownKey k.display) := by
  cases k with
  | char c => simp only [parse, display, String.toList_singleton, hasName, if_true]
  | function n =>
    obtain ⟨d, ds, hdds⟩ := Text.toDigits_ten_eq_cons n
    -- the name is `F` and at least one digit, so it is not read as a character
    unfold parse
    rw [display, toList_functionName, hdds]
    dsimp only
    rw [ofName_function, hasName]
    by_cases hn : 1 ≤ n ∧ n ≤ 24
    · rw [if_pos hn, if_pos (by simp [hn.1, hn.2])]
    · rw [if_neg hn, if_neg (by simpa using hn)]
  | modifier m => cases m <;> rfl
  | _ => rfl

end Key

end Input

end BqnEdit
