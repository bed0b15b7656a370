import BqnEdit.Proofs.KeyNames

/-!
# Writing key presses and reading them back

A binding is written as its held modifiers, each followed by `+`, and then its key: the
space key as `space`, the plus key as `plus` when a modifier is held, any other key by its
name. Reading cuts the text at every `+`, takes each part that is a modifier word (compared
without regard to ASCII case) as a modifier and the one other part as the key. So a binding
reads back exactly when its key's name reads back as that key and is not itself a modifier
word: the function keys outside `F1` to `F24`, and the modifier keys Shift, Control, Alt,
Meta and Super, whose names are the words `shift`, `control`, `alt`, `meta` and `super`, do
not. A sequence of presses is written with a space between two presses and read by cutting
at blanks, so it reads back when moreover no press is a character key that is a blank other
than the space: such a key's text is cut away.

Main results:

* `KeyPress.parse_display_eq`: what reading a binding's text gives, for every binding.
* `KeyPress.readsBack_of_parse`: every press the notation reads is a press that reads back.
* `parseKeySequence_displays_iff`: a written sequence of presses reads back exactly when
  every press reads back and none is a blank other than the space.
-/

namespace BqnEdit.Text

/-! ## Cutting texts -/

/-- A run of characters with no blank in it only grows the current word. -/
theorem wordsFrom_append_of_blank_free {w : List Char} (rest acc : List Char)
    (hw : ∀ c ∈ w, isBlank c = false) : wordsFrom (w ++ rest) acc = wordsFrom rest (w.reverse ++ acc) := by
  induction w generalizing acc with
  | nil => rfl
  | cons c w ih =>
    have hc := hw c List.mem_cons_self
    rw [List.cons_append, wordsFrom, hc, if_neg Bool.false_ne_true,
      ih _ fun d hd => hw d (List.mem_cons_of_mem _ hd), List.reverse_cons, List.append_assoc,
      List.singleton_append]

/-- Words joined by single spaces are cut back into those words, as long as none is empty or
    holds a blank. -/
theorem words_intercalate_space (ws : List String) (hne : ∀ w ∈ ws, w ≠ "")
    (hblank : ∀ w ∈ ws, ∀ c ∈ w.toList, isBlank c = false) : words (" ".intercalate ws) = ws := by
  induction ws with
  | nil => rfl
  | cons w ws ih =>
    have hw : w.toList.reverse.isEmpty = false := by
      simpa [String.toList_eq_nil_iff] using hne w List.mem_cons_self
    have hword : String.ofList w.toList.reverse.reverse = w := by
      rw [List.reverse_reverse, String.ofList_toList]
    cases ws with
    | nil =>
      rw [String.intercalate_singleton, words, ← List.append_nil w.toList,
        wordsFrom_append_of_blank_free _ _ (hblank w List.mem_cons_self), List.append_nil]
      simp only [wordsFrom, hw, Bool.false_eq_true, if_false, hword]
    | cons v vs =>
      -- the first word, then the space that ends it, then the other words
      have hrest := ih (fun u hu => hne u (List.mem_cons_of_mem _ hu))
        (fun u hu => hblank u (List.mem_cons_of_mem _ hu))
      rw [words] at hrest ⊢
      rw [String.intercalate_cons_cons, String.append_assoc, String.toList_append,
        wordsFrom_append_of_blank_free _ _ (hblank w List.mem_cons_self), List.append_nil,
        String.toList_append, show " ".toList = [' '] by decide, List.singleton_append, wordsFrom,
        if_pos (by decide), hw, if_neg Bool.false_ne_true, hrest, hword]

/-- A list of characters holds no blank when checking each character finds none. The check
    is what a closed list is decided by: a bounded quantifier over characters may be decided
    by running through every character. -/
theorem forall_not_isBlank_of_all {l : List Char} (h : (l.all fun c => !isBlank c) = true) :
    ∀ c ∈ l, isBlank c = false := by
  intro c hc
  simpa using List.all_eq_true.mp h c hc

/-- A character of a piece cut from a list is a character of the list. -/
theorem mem_of_mem_splitOn {xs l : List Char} {a c : Char} (hl : l ∈ xs.splitOn a) (hc : c ∈ l) :
    c ∈ xs := by
  have hxs : [a].intercalate (xs.splitOn a) = xs := List.intercalate_splitOn a
  rw [← hxs]
  generalize xs.splitOn a = L at hl
  induction L with
  | nil => cases hl
  | cons l' L ih =>
    cases L with
    | nil =>
      rw [List.intercalate_singleton]
      rw [List.mem_singleton] at hl
      exact hl ▸ hc
    | cons l'' L =>
      rw [List.intercalate_cons_of_ne_nil (List.cons_ne_nil _ _)]
      rcases List.mem_cons.mp hl with rfl | hl
      · exact List.mem_append_left _ (List.mem_append_left _ hc)
      · exact List.mem_append_right _ (ih hl)

end BqnEdit.Text

namespace BqnEdit.Input

/-! ## Keys that read back -/

namespace Key

/-- The modifier keys whose names are modifier words of the notation. -/
def namesModifier : Key → Bool
  | modifier .shift | modifier .control | modifier .alt | modifier .metaKey | modifier .super => true
  | _ => false

/-- A key whose binding reads back from its text: it has a name, and the name is no
    modifier word. -/
def readsBack (k : Key) : Bool := k.hasName && !k.namesModifier

/-- A character key that is a blank other than the space: in a written sequence its text is
    cut away. -/
def isCutBlank : Key → Bool
  | char c => c != ' ' && Text.isBlank c
  | _ => false

end Key

/-- The words of the notation that name modifiers, in lowercase. -/
def modifierWords : List (List Char) :=
  ["ctrl", "control", "alt", "option", "shift", "meta", "cmd", "super"].map String.toList

theorem isSome_modifierOf (part : String) :
    (KeyPress.modifierOf? part).isSome = decide (part.toList.map Char.toLower ∈ modifierWords) := by
  unfold KeyPress.modifierOf?
  split <;> simp_all [modifierWords]

theorem three_le_length_of_mem_modifierWords : ∀ w ∈ modifierWords, 3 ≤ w.length := by
  decide

/-- A decimal digit is no blank. -/
theorem isBlank_of_isDigit {c : Char} (h : c.isDigit = true) : Text.isBlank c = false := by
  have hrange : ∀ n ∈ Text.blankCodePoints, n < 48 ∨ 57 < n := by decide
  have hc : 48 ≤ c.toNat ∧ c.toNat ≤ 57 := by
    simp only [Char.isDigit, Bool.and_eq_true, decide_eq_true_eq, UInt32.le_iff_toNat_le] at h
    exact h
  rw [Text.isBlank, Bool.eq_false_iff]
  intro hmem
  rw [List.contains_iff_mem] at hmem
  have := hrange _ hmem
  omega

namespace Key

/-- The name of a function key: `F`, then decimal digits. -/
theorem function_display_facts (n : Nat) :
    (function n).display.toList ≠ [] ∧ '+' ∉ (function n).display.toList ∧
      (∀ c ∈ (function n).display.toList, Text.isBlank c = false) ∧
      (function n).display ≠ "space" ∧ (function n).display ≠ "plus" ∧
      (KeyPress.modifierOf? (function n).display).isSome = false := by
  have hl : (function n).display.toList = 'F' :: Nat.toDigits 10 n := toList_functionName n
  have hdig : ∀ c ∈ Nat.toDigits 10 n, c.isDigit = true := fun c hc => Text.isDigit_of_mem_toDigits_ten hc
  -- the name starts with `F`, which neither `space`, `plus` nor any modifier word does
  have hhead : ∀ s : String, (function n).display = s → s.toList.head? = some 'F' := by
    rintro s rfl
    rw [hl]
    rfl
  refine ⟨by simp [hl], ?_, ?_, fun h => absurd (hhead _ h) (by decide),
    fun h => absurd (hhead _ h) (by decide), ?_⟩
  · rw [hl]
    rintro (h | ⟨_, h⟩)
    have := hdig _ h
    exact absurd this (by decide)
  · rw [hl]
    rintro c (h | ⟨_, h⟩)
    · decide
    · exact isBlank_of_isDigit (hdig c h)
  · have hf : ∀ w ∈ modifierWords, w.head? ≠ some 'f' := by decide
    rw [isSome_modifierOf, hl, List.map_cons, decide_eq_false_iff_not]
    intro hmem
    exact hf _ hmem (by rw [List.head?_cons]; rfl)

/-- The name of a key other than a character: not empty, free of `+` and of blanks, neither
    `space` nor `plus`, and a modifier word exactly for the keys `namesModifier` lists. -/
theorem display_facts_of_toChar {k : Key} (hk : k.toChar? = none) :
    k.display.toList ≠ [] ∧ '+' ∉ k.display.toList ∧ (∀ c ∈ k.display.toList, Text.isBlank c = false) ∧
      k.display ≠ "space" ∧ k.display ≠ "plus" ∧
      (KeyPress.modifierOf? k.display).isSome = k.namesModifier := by
  cases k with
  | char c => simp [toChar?] at hk
  | function n => exact function_display_facts n
  | modifier m => refine ⟨?_, ?_, Text.forall_not_isBlank_of_all ?_, ?_⟩ <;> cases m <;> decide
  | _ => refine ⟨?_, ?_, Text.forall_not_isBlank_of_all ?_, ?_⟩ <;> decide

theorem isCutBlank_of_toChar {k : Key} (hk : k.toChar? = none) : k.isCutBlank = false := by
  cases k <;> simp_all [toChar?, isCutBlank]

/-- A name read as a key that is no modifier word gives a key that reads back. -/
theorem readsBack_of_ofName {s : String} {k : Key} (h : ofName? s = some k)
    (hm : KeyPress.modifierOf? s = none) : k.readsBack = true ∧ k.toChar? = none := by
  have hnamed : ∀ p ∈ namedKeys, p.2.readsBack = true ∧ p.2.toChar? = none := by decide
  unfold ofName? at h
  split at h
  · -- a named key
    next k' hk =>
    obtain ⟨l₁, l₂, hl, -⟩ := List.lookup_eq_some_iff.mp hk
    cases h
    exact hnamed _ (hl ▸ List.mem_append_right _ List.mem_cons_self)
  · split at h
    · -- a modifier key: its name is no modifier word, so it is none of the five that are
      next m hfind =>
      cases h
      have hname : m.name = s := by simpa using List.find?_some hfind
      subst hname
      have hmod := (display_facts_of_toChar (k := modifier m) rfl).2.2.2.2.2
      change (KeyPress.modifierOf? m.name).isSome = _ at hmod
      rw [hm, Option.isSome_none] at hmod
      simp [readsBack, hasName, ← hmod, toChar?]
    · -- a function key, numbered from 1 to 24
      split at h
      · split at h
        · split at h
          · next n _ hn =>
            cases h
            simp [readsBack, hasName, namesModifier, hn.1, hn.2, toChar?]
          · cases h
        · cases h
      · cases h

/-- A key read from a part that is no modifier word reads back, and is a blank only when the
    part holds that blank. -/
theorem readsBack_of_parse {s : String} {k : Key} (h : parse s = .ok k)
    (hm : KeyPress.modifierOf? s = none) :
    k.readsBack = true ∧ (k.isCutBlank = true → ∃ c ∈ s.toList, Text.isBlank c = true) := by
  unfold parse at h
  split at h
  · next c hc =>
    cases h
    refine ⟨rfl, fun hcut => ⟨c, by simp [hc], ?_⟩⟩
    simp only [isCutBlank, Bool.and_eq_true] at hcut
    exact hcut.2
  · split at h
    · next k' hk =>
      cases h
      obtain ⟨hr, hc⟩ := readsBack_of_ofName hk hm
      exact ⟨hr, fun hcut => absurd hcut (by simp [isCutBlank_of_toChar hc])⟩
    · cases h

end Key

/-! ## The text of a binding -/

namespace Modifiers

/-- The modifier words a binding writes for its held modifiers, in the order ctrl, alt,
    shift, meta. -/
def words (m : Modifiers) : List String :=
  (if m.ctrlKey then ["ctrl"] else []) ++ (if m.altKey then ["alt"] else []) ++
    (if m.shiftKey then ["shift"] else []) ++ (if m.metaKey then ["meta"] else [])

/-- The text a binding writes before its key. -/
def text (m : Modifiers) : String :=
  (if m.ctrlKey then "ctrl+" else "") ++ (if m.altKey then "alt+" else "") ++
    (if m.shiftKey then "shift+" else "") ++ (if m.metaKey then "meta+" else "")

theorem toList_text (m : Modifiers) : m.text.toList = m.words.flatMap (·.toList ++ ['+']) := by
  obtain ⟨c, a, s, t⟩ := m
  cases c <;> cases a <;> cases s <;> cases t <;> decide

theorem eq_empty_of_isNone {m : Modifiers} (h : m.isNone = true) : m = {} := by
  obtain ⟨c, a, s, t⟩ := m
  simp only [isNone, Bool.not_eq_true', Bool.or_eq_false_iff] at h
  obtain ⟨⟨⟨rfl, rfl⟩, rfl⟩, rfl⟩ := h
  rfl

/-- Every modifier word a binding writes is one the notation reads, free of `+` and of
    blanks. -/
theorem mem_words {m : Modifiers} {w : String} (hw : w ∈ m.words) :
    w.toList.map Char.toLower ∈ modifierWords ∧ w ≠ "" ∧ '+' ∉ w.toList ∧
      ∀ c ∈ w.toList, Text.isBlank c = false := by
  have hall : ∀ w ∈ ["ctrl", "alt", "shift", "meta"], w.toList.map Char.toLower ∈ modifierWords ∧
      w ≠ "" ∧ '+' ∉ w.toList ∧ (w.toList.all fun c => !Text.isBlank c) = true := by
    decide
  have hsub : ∀ w ∈ m.words, w ∈ ["ctrl", "alt", "shift", "meta"] := by
    obtain ⟨c, a, s, t⟩ := m
    cases c <;> cases a <;> cases s <;> cases t <;> decide
  obtain ⟨hlower, hne, hplus, hblank⟩ := hall w (hsub w hw)
  exact ⟨hlower, hne, hplus, Text.forall_not_isBlank_of_all hblank⟩

end Modifiers

namespace KeyPress

/-- The text a binding writes for its key. -/
def keyText (b : KeyPress) : String :=
  match b.key with
  | .char ' ' => "space"
  | .char '+' => if b.mods.isNone then "+" else "plus"
  | k => k.display

theorem display_eq (b : KeyPress) : b.display = b.mods.text ++ b.keyText := rfl

/-- What a binding writes for its key: `space`, `+` alone, `plus`, the character itself, or
    the key's name. -/
theorem keyText_cases (b : KeyPress) :
    (b.key = .char ' ' ∧ b.keyText = "space") ∨
      (b.key = .char '+' ∧ b.mods.isNone = true ∧ b.keyText = "+") ∨
      (b.key = .char '+' ∧ b.mods.isNone = false ∧ b.keyText = "plus") ∨
      (∃ c, b.key = .char c ∧ c ≠ ' ' ∧ c ≠ '+' ∧ b.keyText = String.singleton c) ∨
      (b.key.toChar? = none ∧ b.keyText = b.key.display) := by
  unfold keyText
  split
  · next h => exact .inl ⟨h, rfl⟩
  · next h =>
    cases hm : b.mods.isNone
    · exact .inr (.inr (.inl ⟨h, rfl, rfl⟩))
    · exact .inr (.inl ⟨h, rfl, rfl⟩)
  · next _ hsp hpl =>
    cases hk : b.key with
    | char c =>
      refine .inr (.inr (.inr (.inl ⟨c, rfl, ?_, ?_, rfl⟩)))
      · rintro rfl
        exact hsp hk
      · rintro rfl
        exact hpl hk
    | _ => exact .inr (.inr (.inr (.inr ⟨rfl, rfl⟩)))

/-- A binding's key text, unless it is the lone `+`, is not empty and free of `+`, and free
    of blanks unless the key is a blank other than the space. -/
theorem keyText_facts (b : KeyPress) (hb : b.keyText ≠ "+") :
    b.keyText.toList ≠ [] ∧ '+' ∉ b.keyText.toList ∧
      (b.key.isCutBlank = false → ∀ c ∈ b.keyText.toList, Text.isBlank c = false) := by
  rcases keyText_cases b with ⟨_, h⟩ | ⟨_, _, h⟩ | ⟨_, _, h⟩ | ⟨c, hk, hsp, hpl, h⟩ | ⟨hk, h⟩
  · rw [h]
    exact ⟨by decide, by decide, fun _ => Text.forall_not_isBlank_of_all (by decide)⟩
  · exact absurd h hb
  · rw [h]
    exact ⟨by decide, by decide, fun _ => Text.forall_not_isBlank_of_all (by decide)⟩
  · rw [h, String.toList_singleton]
    refine ⟨List.cons_ne_nil _ _, by simpa using Ne.symm hpl, fun hcut d hd => ?_⟩
    rw [List.mem_singleton] at hd
    subst hd
    simpa [Key.isCutBlank, hk, hsp] using hcut
  · obtain ⟨hne, hplus, hblank, -⟩ := Key.display_facts_of_toChar hk
    exact ⟨h ▸ hne, h ▸ hplus, fun _ => h ▸ hblank⟩

/-- Only the plus key, with no modifier held, writes its key as a lone `+`. -/
theorem eq_plain_plus_of_keyText {b : KeyPress} (hb : b.keyText = "+") : b = plain (.char '+') := by
  rcases keyText_cases b with ⟨_, h⟩ | ⟨hk, hm, _⟩ | ⟨_, _, h⟩ | ⟨c, _, _, hpl, h⟩ | ⟨hk, h⟩
  · exact absurd (h.symm.trans hb) (by decide)
  · obtain ⟨k, m⟩ := b
    obtain rfl : k = _ := hk
    obtain rfl : m = {} := Modifiers.eq_empty_of_isNone hm
    rfl
  · exact absurd (h.symm.trans hb) (by decide)
  · have hc := congrArg String.toList (h.symm.trans hb)
    rw [String.toList_singleton] at hc
    exact absurd (List.singleton_inj.mp (hc.trans (by decide))) hpl
  · have hplus := (Key.display_facts_of_toChar hk).2.1
    rw [← h, hb] at hplus
    exact (hplus (by decide)).elim

/-- Cutting at `+` a text of `+`-free words, each followed by `+`, gives the words and then
    the pieces of the rest. -/
theorem splitOn_flatMap_plus (ws : List String) (rest : List Char) (hws : ∀ w ∈ ws, '+' ∉ w.toList) :
    (ws.flatMap (·.toList ++ ['+']) ++ rest).splitOn '+' = ws.map String.toList ++ rest.splitOn '+' := by
  induction ws with
  | nil => rfl
  | cons w ws ih =>
    have hw := hws w List.mem_cons_self
    rw [List.flatMap_cons, List.append_assoc, List.append_assoc, List.singleton_append,
      List.splitOn_append_cons_self_of_not_mem hw, ih fun v hv => hws v (List.mem_cons_of_mem _ hv)]
    rfl

theorem readParts_words (whole : String) (m : Modifiers) (rest : List String) :
    readParts whole {} none (m.words ++ rest) = readParts whole m none rest := by
  obtain ⟨c, a, s, t⟩ := m
  cases c <;> cases a <;> cases s <;> cases t <;> rfl

theorem readParts_single_of_isSome {whole part : String} (m : Modifiers)
    (h : (modifierOf? part).isSome = true) : readParts whole m none [part] = .error (.missingKey whole) := by
  obtain ⟨f, hf⟩ := Option.isSome_iff_exists.mp h
  simp [readParts, hf]

theorem readParts_single_of_isNone {whole part : String} (m : Modifiers)
    (h : modifierOf? part = none) : readParts whole m none [part] = (keyOfPart part).map (⟨·, m⟩) := by
  simp only [readParts, h]
  cases keyOfPart part <;> rfl

/-- A part of one character is no modifier word, nor `space` or `plus`: those have at least
    three letters. -/
theorem singleton_part_facts (c : Char) :
    modifierOf? (String.singleton c) = none ∧ String.singleton c ≠ "space" ∧
      String.singleton c ≠ "plus" := by
  have hlen : ∀ s : String, String.singleton c = s → s.length = 1 := by
    rintro s rfl
    exact String.length_singleton
  refine ⟨?_, fun he => absurd (hlen _ he) (by decide), fun he => absurd (hlen _ he) (by decide)⟩
  rw [← Option.not_isSome_iff_eq_none, isSome_modifierOf, String.toList_singleton,
    decide_eq_true_iff]
  intro hmem
  have := three_le_length_of_mem_modifierWords _ hmem
  simp at this

theorem keyOfPart_of_ne {part : String} (hs : part ≠ "space") (hp : part ≠ "plus") :
    keyOfPart part = Key.parse part := by
  unfold keyOfPart
  split
  · exact absurd rfl hs
  · exact absurd rfl hp
  · rfl

/-- Reading the key part of a binding's text, after its modifiers: a modifier word leaves the
    binding without a key, a name that is not read fails as an unknown key, and otherwise the
    binding comes back. -/
theorem readParts_keyText (whole : String) (b : KeyPress) (hb : b.keyText ≠ "+") :
    readParts whole b.mods none [b.keyText] =
      if b.key.namesModifier then .error (.missingKey whole)
      else if b.key.hasName then .ok b else .error (.unknownKey b.key.display) := by
  rcases keyText_cases b with ⟨hk, h⟩ | ⟨_, _, h⟩ | ⟨hk, _, h⟩ | ⟨c, hk, hsp, hpl, h⟩ | ⟨hk, h⟩
  · obtain ⟨k, m⟩ := b
    obtain rfl : k = _ := hk
    rw [h, readParts_single_of_isNone _ rfl]
    rfl
  · exact absurd h hb
  · obtain ⟨k, m⟩ := b
    obtain rfl : k = _ := hk
    rw [h, readParts_single_of_isNone _ rfl]
    rfl
  · -- one character: no modifier word, and read as itself
    obtain ⟨hnone, hs, hp⟩ := singleton_part_facts c
    have hparse := Key.parse_display (.char c)
    simp only [Key.display, Key.hasName, if_true] at hparse
    obtain ⟨k, m⟩ := b
    obtain rfl : k = _ := hk
    rw [h, readParts_single_of_isNone _ hnone, keyOfPart_of_ne hs hp, hparse]
    rfl
  · obtain ⟨-, -, -, hs, hp, hmod⟩ := Key.display_facts_of_toChar hk
    rw [h]
    cases hn : b.key.namesModifier
    · rw [hn] at hmod
      rw [readParts_single_of_isNone _ (Option.not_isSome_iff_eq_none.mp (by simp [hmod])),
        keyOfPart_of_ne hs hp, Key.parse_display]
      simp only [Bool.false_eq_true, if_false]
      split <;> rfl
    · rw [hn] at hmod
      rw [readParts_single_of_isSome _ hmod]
      rfl

/-- Reading the text of a binding: a modifier key named by a modifier word leaves no key, a
    function key outside `F1` to `F24` is an unknown key, and every other binding comes back. -/
theorem parse_display_eq (b : KeyPress) :
    parse b.display =
      if b.key.namesModifier then .error (.missingKey b.display)
      else if b.key.hasName then .ok b else .error (.unknownKey b.key.display) := by
  by_cases hb : b.keyText = "+"
  · obtain rfl := eq_plain_plus_of_keyText hb
    rfl
  · obtain ⟨hne, hplus, -⟩ := keyText_facts b hb
    -- the key text is not empty and free of `+`, so the text is no lone `+`
    have hdisp : b.display ≠ "+" := fun h => by
      obtain ⟨x, hx⟩ := List.exists_mem_of_ne_nil _ hne
      have hx' : x ∈ b.display.toList := by
        rw [display_eq, String.toList_append]
        exact List.mem_append_right _ hx
      rw [h, show "+".toList = ['+'] by decide, List.mem_singleton] at hx'
      exact hplus (hx' ▸ hx)
    have hsplit : (b.display.toList.splitOn '+').map String.ofList = b.mods.words ++ [b.keyText] := by
      rw [display_eq, String.toList_append, Modifiers.toList_text,
        splitOn_flatMap_plus _ _ fun w hw => (Modifiers.mem_words hw).2.2.1,
        List.splitOn_eq_singleton hplus]
      simp [Function.comp_def]
    rw [parse, if_neg hdisp, hsplit, readParts_words, readParts_keyText _ _ hb]

theorem parse_display_iff (b : KeyPress) : parse b.display = .ok b ↔ b.key.readsBack = true := by
  rw [parse_display_eq, Key.readsBack]
  cases b.key.namesModifier <;> cases b.key.hasName <;> simp

/-- The text of a binding is not empty, and it holds a blank only when its key is a blank
    other than the space. -/
theorem display_facts (b : KeyPress) (hb : b.key.isCutBlank = false) :
    b.display ≠ "" ∧ ∀ c ∈ b.display.toList, Text.isBlank c = false := by
  by_cases hplus : b.keyText = "+"
  · obtain rfl := eq_plain_plus_of_keyText hplus
    exact ⟨by decide, Text.forall_not_isBlank_of_all (by decide)⟩
  · obtain ⟨hne, -, hblank⟩ := keyText_facts b hplus
    rw [display_eq]
    refine ⟨fun h => hne ?_, fun c hc => ?_⟩
    · have h' := congrArg String.toList h
      rw [String.toList_append, String.toList_empty] at h'
      exact (List.append_eq_nil_iff.mp h').2
    rw [String.toList_append] at hc
    rcases List.mem_append.mp hc with hc | hc
    · -- a modifier word or the `+` after it
      rw [Modifiers.toList_text, List.mem_flatMap] at hc
      obtain ⟨w, hw, hc⟩ := hc
      rcases List.mem_append.mp hc with hc | hc
      · exact (Modifiers.mem_words hw).2.2.2 c hc
      · rw [List.mem_singleton.mp hc]
        decide
    · exact hblank hb c hc

/-! ## Reading back -/

/-- A key read from a part that is no modifier word reads back, and is a blank only when the
    part holds that blank. -/
theorem readsBack_of_keyOfPart {part : String} {k : Key} (h : keyOfPart part = .ok k)
    (hm : modifierOf? part = none) :
    k.readsBack = true ∧ (k.isCutBlank = true → ∃ c ∈ part.toList, Text.isBlank c = true) := by
  unfold keyOfPart at h
  split at h
  · cases h
    exact ⟨rfl, fun hcut => absurd hcut (by decide)⟩
  · cases h
    exact ⟨rfl, fun hcut => absurd hcut (by decide)⟩
  · exact Key.readsBack_of_parse h hm

/-- The key of a press read from parts is the key held before, or the key of one of the
    parts that is no modifier word. -/
theorem readParts_key {whole : String} {m : Modifiers} {key : Option Key} {parts : List String}
    {p : KeyPress} (h : readParts whole m key parts = .ok p) :
    key = some p.key ∨ ∃ part ∈ parts, modifierOf? part = none ∧ keyOfPart part = .ok p.key := by
  induction parts generalizing m key with
  | nil =>
    unfold readParts at h
    split at h
    · cases h
      exact .inl rfl
    · cases h
  | cons part rest ih =>
    unfold readParts at h
    split at h
    · rcases ih h with hk | ⟨q, hq, hqm, hqk⟩
      · exact .inl hk
      · exact .inr ⟨q, List.mem_cons_of_mem _ hq, hqm, hqk⟩
    · next hpm =>
      split at h
      · cases h
      · split at h
        · next k hk =>
          -- the part is the key; no later part may be one
          rcases ih h with hk' | ⟨q, hq, hqm, hqk⟩
          · cases hk'
            exact .inr ⟨part, List.mem_cons_self, hpm, hk⟩
          · exact .inr ⟨q, List.mem_cons_of_mem _ hq, hqm, hqk⟩
        · cases h

/-- Every press the notation reads reads back, and its key is a blank only when the text
    holds that blank. -/
theorem readsBack_of_parse {w : String} {p : KeyPress} (h : parse w = .ok p) :
    p.key.readsBack = true ∧ (p.key.isCutBlank = true → ∃ c ∈ w.toList, Text.isBlank c = true) := by
  unfold parse at h
  split at h
  · cases h
    exact ⟨rfl, fun hcut => absurd hcut (by decide)⟩
  · rcases readParts_key h with hk | ⟨part, hpart, hm, hkey⟩
    · cases hk
    · obtain ⟨hr, hcut⟩ := readsBack_of_keyOfPart hkey hm
      refine ⟨hr, fun hc => ?_⟩
      obtain ⟨c, hc, hb⟩ := hcut hc
      obtain ⟨l, hl, rfl⟩ := List.mem_map.mp hpart
      rw [String.toList_ofList] at hc
      exact ⟨c, Text.mem_of_mem_splitOn hl hc, hb⟩

end KeyPress

/-! ## Sequences of presses -/

section MapM
variable {α β ε : Type} {f : α → Except ε β}

/-- Each value a successful `mapM` returns is the value of one of the inputs. -/
theorem exists_of_mapM_eq_ok {xs : List α} {ys : List β} (h : xs.mapM f = .ok ys) :
    ∀ y ∈ ys, ∃ x ∈ xs, f x = .ok y := by
  induction xs generalizing ys with
  | nil =>
    rw [List.mapM_nil] at h
    cases h
    simp
  | cons x xs ih =>
    rw [List.mapM_cons] at h
    cases hfx : f x with
    | error e =>
      rw [hfx] at h
      cases h
    | ok b =>
      cases hrest : xs.mapM f with
      | error e =>
        rw [hfx, hrest] at h
        cases h
      | ok bs =>
        rw [hfx, hrest] at h
        cases h
        intro y hy
        rcases List.mem_cons.mp hy with rfl | hy
        · exact ⟨x, List.mem_cons_self, hfx⟩
        · obtain ⟨x', hx', hfx'⟩ := ih hrest y hy
          exact ⟨x', List.mem_cons_of_mem _ hx', hfx'⟩

end MapM

theorem mapM_eq_ok_self {α ε : Type} {f : α → Except ε α} {xs : List α} (h : ∀ x ∈ xs, f x = .ok x) :
    xs.mapM f = .ok xs := by
  induction xs with
  | nil => rfl
  | cons x xs ih =>
    rw [List.mapM_cons, h x List.mem_cons_self, ih fun y hy => h y (List.mem_cons_of_mem _ hy)]
    rfl

/-- Every press read from any text reads back, and none is a blank other than the space:
    the words read are free of blanks. -/
theorem readsBack_of_parseKeySequence {s : String} {ps : List KeyPress} (h : parseKeySequence s = .ok ps) :
    ∀ p ∈ ps, p.key.readsBack = true ∧ p.key.isCutBlank = false := by
  intro p hp
  obtain ⟨w, hw, hparse⟩ := exists_of_mapM_eq_ok h p hp
  obtain ⟨hr, hcut⟩ := KeyPress.readsBack_of_parse hparse
  refine ⟨hr, Bool.eq_false_iff.mpr fun hc => ?_⟩
  obtain ⟨c, hc, hb⟩ := hcut hc
  rw [Text.blank_free_words s w hw c hc] at hb
  exact Bool.false_ne_true hb

/-- A written sequence of presses none of which is a blank other than the space is cut back
    into the presses' texts, each read on its own. -/
theorem parseKeySequence_displays {ps : List KeyPress} (h : ∀ p ∈ ps, p.key.isCutBlank = false) :
    parseKeySequence (" ".intercalate (ps.map KeyPress.display)) = ps.mapM fun p => KeyPress.parse p.display := by
  have hfacts : ∀ w ∈ ps.map KeyPress.display, w ≠ "" ∧ ∀ c ∈ w.toList, Text.isBlank c = false := by
    intro w hw
    obtain ⟨p, hp, rfl⟩ := List.mem_map.mp hw
    exact KeyPress.display_facts p (h p hp)
  rw [parseKeySequence, Text.words_intercalate_space _ (fun w hw => (hfacts w hw).1)
    (fun w hw => (hfacts w hw).2), List.mapM_map]
  rfl

/-- Writing presses with a space between two of them and reading the text gives the presses
    back exactly when each press reads back and none is a blank other than the space; a single
    binding reads back from its text exactly when its key does. -/
theorem parseKeySequence_displays_iff (ps : List KeyPress) (b : KeyBind) :
    (parseKeySequence (" ".intercalate (ps.map KeyPress.display)) = .ok ps ↔
      ∀ p ∈ ps, p.key.readsBack = true ∧ p.key.isCutBlank = false) ∧
    (KeyPress.parse b.display = .ok b ↔ b.key.readsBack = true) := by
  refine ⟨⟨readsBack_of_parseKeySequence, fun h => ?_⟩, KeyPress.parse_display_iff b⟩
  rw [parseKeySequence_displays fun p hp => (h p hp).2]
  exact mapM_eq_ok_self fun p hp => (KeyPress.parse_display_iff p).mpr (h p hp).1

/-- The Shift key pressed alone is written `Shift`, which reads as a modifier word and leaves
    the binding without a key. -/
theorem parseKeySequence_display_shiftKey :
    parseKeySequence (" ".intercalate ([KeyPress.plain (.modifier .shift)].map KeyPress.display)) =
      .error (.missingKey "Shift") := by
  rw [parseKeySequence_displays (by decide), List.mapM_cons, KeyPress.parse_display_eq]
  rfl

end BqnEdit.Input
