import BqnEdit.Syntax.Lexer

/-!
# What each lexical rule can match

Two facts about the rules carry the laws of the lexer. No rule matches past the end of
its input (`Bounded`), so every step of the scan cuts the input at one of its characters.
And every rule but three never looks past a line break (`LineLocal`): what follows a line
break cannot change its match, so its match holds no line break. The three are the line
break rule itself, which only looks at the first character, and the two quoted string
rules, which run through line breaks while their closing quote is missing.

Main results:

* `bounded_of_mem_rules`: no rule matches past the end of its input.
* `rule_kinds`: every rule is the line break rule, a quoted string rule, or line-local
  and of a class other than line breaks.
-/

namespace BqnEdit.Syntax

open BqnEdit.Text

/-- A match that never reaches past the end of its input. -/
def Bounded (p : List Char → Nat) : Prop := ∀ cs, p cs ≤ cs.length

/-- A match that never looks past a line break: it is the same whatever follows the
    break, and the same as where the input ends. -/
def LineLocal (p : List Char → Nat) : Prop := ∀ x b, p (x ++ '\n' :: b) = p x

/-- The input starts a quoted string that it never closes. -/
def opensLiteral : List Char → Bool
  | q :: rest => (q == '"' || q == '\'') && !rest.contains q
  | [] => false

/-! ## Runs of characters -/

theorem takeWhile_append_newline {p : Char → Bool} (hp : p '\n' = false) (x b : List Char) :
    (x ++ '\n' :: b).takeWhile p = x.takeWhile p := by
  induction x with
  | nil => simp [hp]
  | cons c x ih => simp [List.takeWhile_cons, ih]

theorem bounded_takeWhile (p : Char → Bool) : Bounded fun cs => (cs.takeWhile p).length :=
  fun _ => (List.takeWhile_prefix p).length_le

theorem lineLocal_takeWhile {p : Char → Bool} (hp : p '\n' = false) :
    LineLocal fun cs => (cs.takeWhile p).length := by
  intro x b
  simp only [takeWhile_append_newline hp]

theorem isNameChar_newline : isNameChar '\n' = false := by decide

theorem isInlineBlank_newline : isInlineBlank '\n' = false := by decide

theorem isDigit_newline : Char.isDigit '\n' = false := by decide

/-! ## One character of a set -/

@[simp] theorem Rule.matchLen_oneOf_nil (set : List Char) (cls : TokenClass) :
    (Rule.oneOf set cls).matchLen [] = 0 := rfl

@[simp] theorem Rule.matchLen_oneOf_cons (set : List Char) (cls : TokenClass) (c : Char)
    (cs : List Char) : (Rule.oneOf set cls).matchLen (c :: cs) = if set.contains c then 1 else 0 :=
  rfl

theorem bounded_oneOf (set : List Char) (cls : TokenClass) : Bounded (Rule.oneOf set cls).matchLen := by
  intro cs
  cases cs with
  | nil => simp
  | cons c cs =>
    rw [Rule.matchLen_oneOf_cons]
    split <;> simp

theorem lineLocal_oneOf {set : List Char} (hset : '\n' ∉ set) (cls : TokenClass) :
    LineLocal (Rule.oneOf set cls).matchLen := by
  intro x b
  cases x with
  | nil => simp [hset]
  | cons c x => rfl

/-! ## Blanks, comments and quoted strings -/

theorem bounded_blankRunLen : Bounded blankRunLen := bounded_takeWhile isInlineBlank

theorem lineLocal_blankRunLen : LineLocal blankRunLen := lineLocal_takeWhile isInlineBlank_newline

theorem bounded_commentLen : Bounded commentLen := by
  intro cs
  unfold commentLen
  split
  · rename_i rest
    have : (rest.takeWhile (· != '\n')).length ≤ rest.length := bounded_takeWhile _ rest
    simp only [List.length_cons]
    omega
  · simp

theorem lineLocal_commentLen : LineLocal commentLen := by
  intro x b
  cases x with
  | nil => simp [commentLen]
  | cons c x =>
    by_cases hc : c = '#'
    · subst hc
      simp [commentLen, takeWhile_append_newline (p := (· != '\n')) (by decide)]
    · simp [commentLen, hc]

theorem bounded_quotedLen (q : Char) : Bounded (quotedLen q) := by
  intro cs
  cases cs with
  | nil => simp [quotedLen]
  | cons c rest =>
    simp only [quotedLen]
    split
    · have : (rest.takeWhile (· != q)).length ≤ rest.length := bounded_takeWhile _ rest
      -- the closing quote is counted only when the body stops short of the end
      split
      · simp only [List.length_cons]
        omega
      · simp only [List.length_cons]
        omega
    · simp

/-- A run up to a character that occurs stops inside the list. -/
theorem takeWhile_ne_append_of_mem {q : Char} {r : List Char} (h : q ∈ r) (s : List Char) :
    (r ++ s).takeWhile (· != q) = r.takeWhile (· != q) ∧ (r.takeWhile (· != q)).length < r.length := by
  induction r with
  | nil => simp at h
  | cons c r ih =>
    by_cases hc : c = q
    · subst hc
      simp
    · have hr : q ∈ r := by
        rcases List.mem_cons.mp h with h | h
        · exact absurd h.symm hc
        · exact h
      obtain ⟨h1, h2⟩ := ih hr
      simp [hc, h1, h2]

/-- A quoted string that closes before a line break does not see the break. -/
theorem quotedLen_append_newline {q : Char} (hq : q = '"' ∨ q = '\'') {x : List Char}
    (hx : opensLiteral x = false) (b : List Char) :
    quotedLen q (x ++ '\n' :: b) = quotedLen q x := by
  cases x with
  | nil => rcases hq with rfl | rfl <;> simp [quotedLen]
  | cons c r =>
    by_cases hc : c = q
    · subst hc
      have hr : c ∈ r := by
        rcases hq with rfl | rfl <;> simpa [opensLiteral] using hx
      obtain ⟨htw, hlt⟩ := takeWhile_ne_append_of_mem hr ('\n' :: b)
      simp only [List.cons_append, quotedLen, if_true, htw, List.length_append]
      rw [if_pos (by omega), if_pos hlt]
    · simp [quotedLen, hc]

/-! ## The special name `𝕣` -/

theorem bounded_literal (w : List Char) :
    Bounded fun cs => if cs.take w.length = w then w.length else 0 := by
  intro cs
  dsimp only
  split
  · rename_i h
    have := congrArg List.length h
    simp only [List.length_take] at this
    omega
  · simp

/-- A fixed word without line breaks is matched or not before any line break. -/
theorem lineLocal_literal {w : List Char} (hw : '\n' ∉ w) :
    LineLocal fun cs => if cs.take w.length = w then w.length else 0 := by
  intro x b
  have hiff : (x ++ '\n' :: b).take w.length = w ↔ x.take w.length = w := by
    rcases Nat.lt_or_ge x.length w.length with hlt | hle
    · rw [List.take_append, List.take_of_length_le (Nat.le_of_lt hlt)]
      constructor
      · intro h
        have hmem : '\n' ∈ (x ++ ('\n' :: b).take (w.length - x.length)) := by
          obtain ⟨k, hk⟩ := Nat.exists_eq_add_of_lt (Nat.sub_pos_of_lt hlt)
          simp [hk]
        exact absurd (h ▸ hmem) hw
      · intro h
        exact absurd (congrArg List.length h) (by omega)
    · rw [List.take_append_of_le_length hle]
  simp only [hiff]

/-! ## Names -/

theorem bounded_bulleted {p : List Char → Nat} (hp : Bounded p) : Bounded (bulleted p) := by
  intro cs
  unfold bulleted
  split
  · rename_i rest
    split
    · exact hp _
    · have := hp rest
      simp only [List.length_cons]
      omega
  · exact hp _

theorem lineLocal_bulleted {p : List Char → Nat} (hp : LineLocal p) : LineLocal (bulleted p) := by
  intro x b
  cases x with
  | nil => simpa [bulleted] using hp [] b
  | cons c x =>
    by_cases hc : c = '•'
    · subst hc
      have hcons := hp ('•' :: x) b
      simp only [List.cons_append] at hcons
      simp only [List.cons_append, bulleted, hp x b, hcons]
    · have hcons := hp (c :: x) b
      simp only [List.cons_append] at hcons
      simp [bulleted, hc, hcons]

theorem bounded_modifier2NameLen : Bounded modifier2NameLen := by
  intro cs
  unfold modifier2NameLen
  split
  · rename_i rest
    dsimp only
    split
    · have hword : (rest.takeWhile isNameChar).length ≤ rest.length := bounded_takeWhile _ rest
      have hdrop : (((rest.takeWhile isNameChar).reverse).dropWhile (· != '_')).length ≤
          (rest.takeWhile isNameChar).length := by
        simpa using (List.dropWhile_suffix (l := (rest.takeWhile isNameChar).reverse) (· != '_')).length_le
      simp only [List.length_cons]
      omega
    · simp
  · simp

theorem lineLocal_modifier2NameLen : LineLocal modifier2NameLen := by
  intro x b
  cases x with
  | nil => simp [modifier2NameLen]
  | cons c x =>
    by_cases hc : c = '_'
    · subst hc
      simp only [List.cons_append, modifier2NameLen, takeWhile_append_newline isNameChar_newline]
    · simp [modifier2NameLen, hc]

theorem bounded_modifierNameLen : Bounded modifierNameLen := by
  intro cs
  unfold modifierNameLen
  split
  · rename_i rest
    have : (rest.takeWhile isNameChar).length ≤ rest.length := bounded_takeWhile _ rest
    dsimp only
    split
    · simp
    · simp only [List.length_cons]
      omega
  · simp

theorem lineLocal_modifierNameLen : LineLocal modifierNameLen := by
  intro x b
  cases x with
  | nil => simp [modifierNameLen]
  | cons c x =>
    by_cases hc : c = '_'
    · subst hc
      simp only [List.cons_append, modifierNameLen, takeWhile_append_newline isNameChar_newline]
    · simp [modifierNameLen, hc]

theorem bounded_wordLen (first : Char → Bool) : Bounded (wordLen first) := by
  intro cs
  cases cs with
  | nil => simp [wordLen]
  | cons c rest =>
    have : (rest.takeWhile isNameChar).length ≤ rest.length := bounded_takeWhile _ rest
    simp only [wordLen]
    split
    · simp only [List.length_cons]
      omega
    · simp

theorem lineLocal_wordLen {first : Char → Bool} (hfirst : first '\n' = false) :
    LineLocal (wordLen first) := by
  intro x b
  cases x with
  | nil => simp [wordLen, hfirst]
  | cons c x => simp [wordLen, takeWhile_append_newline isNameChar_newline]

/-! ## Numbers -/

theorem bounded_digitsLen : Bounded digitsLen := bounded_takeWhile Char.isDigit

theorem lineLocal_digitsLen : LineLocal digitsLen := lineLocal_takeWhile isDigit_newline

theorem markedDigits_le (k : Nat) (ds : List Char) :
    (if digitsLen ds = 0 then 0 else k + digitsLen ds) ≤ k + ds.length := by
  have := bounded_digitsLen ds
  split <;> omega

theorem bounded_exponentLen : Bounded exponentLen := by
  intro cs
  cases cs with
  | nil => simp [exponentLen]
  | cons e rest =>
    simp only [exponentLen]
    split
    · split
      · rename_i ds
        have := markedDigits_le 2 ds
        simp only [List.length_cons]
        omega
      · have := markedDigits_le 1 rest
        simp only [List.length_cons]
        omega
    · simp

theorem lineLocal_exponentLen : LineLocal exponentLen := by
  intro x b
  cases x with
  | nil => simp [exponentLen]
  | cons e x =>
    simp only [List.cons_append, exponentLen]
    split
    · cases x with
      | nil => simp [digitsLen]
      | cons c ds =>
        have hds := lineLocal_digitsLen ds b
        have hcds := lineLocal_digitsLen (c :: ds) b
        simp only [List.cons_append] at hcds
        by_cases hc : c = '¯'
        · subst hc
          simp [hds]
        · simp [hc, hcds]
    · rfl

theorem bounded_fractionLen : Bounded fractionLen := by
  intro cs
  unfold fractionLen
  split
  · rename_i ds
    have := markedDigits_le 1 ds
    simp only [List.length_cons]
    omega
  · simp

theorem lineLocal_fractionLen : LineLocal fractionLen := by
  intro x b
  cases x with
  | nil => simp [fractionLen]
  | cons c x =>
    by_cases hc : c = '.'
    · subst hc
      simp [fractionLen, lineLocal_digitsLen x b]
    · simp [fractionLen, hc]

theorem magnitudeLen_of_ne {cs : List Char} (hinf : ∀ t, cs ≠ '∞' :: t) (hpi : ∀ t, cs ≠ 'π' :: t) :
    magnitudeLen cs =
      if digitsLen cs = 0 then 0
      else digitsLen cs + fractionLen (cs.drop (digitsLen cs)) +
        exponentLen (cs.drop (digitsLen cs + fractionLen (cs.drop (digitsLen cs)))) :=
  magnitudeLen.eq_3 cs (fun t h => hinf t h) (fun t h => hpi t h)

theorem bounded_magnitudeLen : Bounded magnitudeLen := by
  intro cs
  by_cases hinf : ∃ t, cs = '∞' :: t
  · obtain ⟨t, rfl⟩ := hinf
    simp [magnitudeLen]
  by_cases hpi : ∃ t, cs = 'π' :: t
  · obtain ⟨t, rfl⟩ := hpi
    have := bounded_exponentLen t
    simp only [magnitudeLen, List.length_cons]
    omega
  simp only [not_exists] at hinf hpi
  rw [magnitudeLen_of_ne hinf hpi]
  split
  · simp
  · -- each part ends within what the parts before it left
    have hd := bounded_digitsLen cs
    have hf := bounded_fractionLen (cs.drop (digitsLen cs))
    have he := bounded_exponentLen (cs.drop (digitsLen cs + fractionLen (cs.drop (digitsLen cs))))
    simp only [List.length_drop] at hf he
    omega

/-- Digits, a fraction and an exponent stop before a line break. -/
theorem lineLocal_decimal :
    LineLocal fun cs => if digitsLen cs = 0 then 0
      else digitsLen cs + fractionLen (cs.drop (digitsLen cs)) +
        exponentLen (cs.drop (digitsLen cs + fractionLen (cs.drop (digitsLen cs)))) := by
  intro x b
  dsimp only
  rw [lineLocal_digitsLen x b]
  split
  · rfl
  · have hd := bounded_digitsLen x
    have hf := bounded_fractionLen (x.drop (digitsLen x))
    rw [List.length_drop] at hf
    rw [List.drop_append_of_le_length hd, lineLocal_fractionLen,
      List.drop_append_of_le_length (by omega), lineLocal_exponentLen]

theorem lineLocal_magnitudeLen : LineLocal magnitudeLen := by
  intro x b
  cases x with
  | nil => simp [digitsLen, magnitudeLen]
  | cons c x =>
    by_cases hinf : c = '∞'
    · subst hinf
      simp [magnitudeLen]
    by_cases hpi : c = 'π'
    · subst hpi
      simp [magnitudeLen, lineLocal_exponentLen x b]
    rw [List.cons_append, magnitudeLen_of_ne (by simp [hinf]) (by simp [hpi]),
      magnitudeLen_of_ne (by simp [hinf]) (by simp [hpi]), ← List.cons_append]
    exact lineLocal_decimal (c :: x) b

theorem bounded_numberLen : Bounded numberLen := by
  intro cs
  unfold numberLen
  split
  · rename_i rest
    split
    · exact bounded_magnitudeLen _
    · have := bounded_magnitudeLen rest
      simp only [List.length_cons]
      omega
  · exact bounded_magnitudeLen _

theorem lineLocal_numberLen : LineLocal numberLen := by
  intro x b
  cases x with
  | nil => simpa [numberLen] using lineLocal_magnitudeLen [] b
  | cons c x =>
    have hcons := lineLocal_magnitudeLen (c :: x) b
    simp only [List.cons_append] at hcons
    by_cases hc : c = '¯'
    · subst hc
      simp only [List.cons_append, numberLen, lineLocal_magnitudeLen x b, hcons]
    · simp [numberLen, hc, hcons]

/-! ## The rules -/

/-- The three kinds of rule: the line break rule, a quoted string rule, and a rule that
    never looks past a line break and gives no line break token. -/
inductive Rule.Kind : Rule → Prop
  | newline : Rule.Kind (Rule.oneOf ['\n'] .newline)
  | quoted {q : Char} (hq : q = '"' ∨ q = '\'') : Rule.Kind ⟨quotedLen q, some .string⟩
  | lineLocal {r : Rule} (hr : LineLocal r.matchLen) (hcls : r.cls ≠ some .newline) : Rule.Kind r

/-- No rule matches past the end of its input. -/
theorem bounded_of_mem_rules : ∀ r ∈ rules, Bounded r.matchLen := by
  simp only [rules, List.forall_mem_cons, List.not_mem_nil, false_imp_iff, implies_true,
    and_true]
  exact ⟨bounded_oneOf _ _, bounded_blankRunLen, bounded_commentLen, bounded_oneOf _ _,
    bounded_oneOf _ _, bounded_oneOf _ _, bounded_oneOf _ _, bounded_oneOf _ _, bounded_oneOf _ _,
    bounded_oneOf _ _, bounded_oneOf _ _, bounded_oneOf _ _, bounded_oneOf _ _, bounded_oneOf _ _,
    bounded_oneOf _ _, bounded_oneOf _ _, bounded_oneOf _ _, bounded_quotedLen _,
    bounded_quotedLen _, bounded_literal ['_', '𝕣', '_'], bounded_literal ['_', '𝕣'],
    bounded_literal ['𝕣'], bounded_bulleted bounded_modifier2NameLen,
    bounded_bulleted bounded_modifierNameLen, bounded_bulleted (bounded_wordLen _),
    bounded_bulleted (bounded_wordLen _), bounded_numberLen⟩

/-- Every rule is the line break rule, a quoted string rule, or line-local and of a class
    other than line breaks. -/
theorem rule_kinds : ∀ r ∈ rules, Rule.Kind r := by
  simp only [rules, List.forall_mem_cons, List.not_mem_nil, false_imp_iff, implies_true,
    and_true]
  exact ⟨.newline, .lineLocal lineLocal_blankRunLen (by decide),
    .lineLocal lineLocal_commentLen (by decide),
    .lineLocal (lineLocal_oneOf (by decide) _) (by decide),
    .lineLocal (lineLocal_oneOf (by decide) _) (by decide),
    .lineLocal (lineLocal_oneOf (by decide) _) (by decide),
    .lineLocal (lineLocal_oneOf (by decide) _) (by decide),
    .lineLocal (lineLocal_oneOf (by decide) _) (by decide),
    .lineLocal (lineLocal_oneOf (by decide) _) (by decide),
    .lineLocal (lineLocal_oneOf (by decide) _) (by decide),
    .lineLocal (lineLocal_oneOf (by decide) _) (by decide),
    .lineLocal (lineLocal_oneOf (by decide) _) (by decide),
    .lineLocal (lineLocal_oneOf (by decide) _) (by decide),
    .lineLocal (lineLocal_oneOf (by decide) _) (by decide),
    .lineLocal (lineLocal_oneOf (by decide) _) (by decide),
    .lineLocal (lineLocal_oneOf (by decide) _) (by decide),
    .lineLocal (lineLocal_oneOf (by decide) _) (by decide),
    .quoted (.inl rfl), .quoted (.inr rfl),
    .lineLocal (lineLocal_literal (w := ['_', '𝕣', '_']) (by decide)) (by decide),
    .lineLocal (lineLocal_literal (w := ['_', '𝕣']) (by decide)) (by decide),
    .lineLocal (lineLocal_literal (w := ['𝕣']) (by decide)) (by decide),
    .lineLocal (lineLocal_bulleted lineLocal_modifier2NameLen) (by decide),
    .lineLocal (lineLocal_bulleted lineLocal_modifierNameLen) (by decide),
    .lineLocal (lineLocal_bulleted (lineLocal_wordLen (by decide))) (by decide),
    .lineLocal (lineLocal_bulleted (lineLocal_wordLen (by decide))) (by decide),
    .lineLocal lineLocal_numberLen (by decide)⟩

end BqnEdit.Syntax
