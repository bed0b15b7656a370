import BqnEdit.Json.Read
import BqnEdit.Json.Write

/-!
# Reading text step by step

A reader goes through text from left to right. `Reads r cs a rest` says that from every
cursor at the text `cs`, the reader `r` gives `a` and leaves the cursor at the text `rest`;
`Fails r cs` says that it gives an error. Both look at the characters only, and at the count
of them the cursor keeps: lines and columns serve error messages alone.

The two relations follow `>>=`, so a reader built from smaller ones is followed along its
own definition, one lemma per step, and no proof runs the reader by hand.

Main results:

* `Reads.bind`, `Reads.bind_fails`, `Fails.bind`: reading through a sequence.
* `reads_blank`: blanks are skipped up to the next character, which is looked at.
* `reads_readStringBody`: the body of a written string literal reads back as the string,
  every escape included.
* `reads_readString`: a written string literal, after blanks, reads as its string.
-/

namespace BqnEdit.Json

open Reader

/-! ## Reading and failing -/

/-- From every cursor at the text `cs` the reader `r` gives `a`, and leaves the cursor at
    `rest`. -/
def Reads (r : Reader α) (cs : List Char) (a : α) (rest : List Char) : Prop :=
  ∀ c : Cursor, c.rest = cs → c.left = cs.length →
    ∃ c' : Cursor, r.run.run c = (.ok a, c') ∧ c'.rest = rest ∧ c'.left = rest.length

/-- From every cursor at the text `cs` the reader `r` gives an error. -/
def Fails (r : Reader α) (cs : List Char) : Prop :=
  ∀ c : Cursor, c.rest = cs → c.left = cs.length → ∃ e c', r.run.run c = (.error e, c')

/-- From every cursor at the text `cs`, running `r` is running `r'` from a cursor at `cs'`:
    `r` reads up to `cs'` and goes on as `r'`. -/
def Steps (r r' : Reader α) (cs cs' : List Char) : Prop :=
  ∀ c : Cursor, c.rest = cs → c.left = cs.length →
    ∃ c' : Cursor, c'.rest = cs' ∧ c'.left = cs'.length ∧ r.run.run c = r'.run.run c'

theorem run_bind (x : Reader α) (f : α → Reader β) (c : Cursor) :
    (x >>= f).run.run c = match x.run.run c with
      | (.ok a, c') => (f a).run.run c'
      | (.error e, c') => (.error e, c') := by
  simp only [ExceptT.run_bind, StateT.run_bind]
  rcases h : x.run.run c with ⟨_ | a, c'⟩ <;> rfl

theorem run_tryCatch (r : Reader α) (h : ReadError → Reader α) (c : Cursor) :
    (tryCatch r h : Reader α).run.run c = match r.run.run c with
      | (.ok a, c') => (.ok a, c')
      | (.error e, c') => (h e).run.run c' := by
  show (ExceptT.tryCatch r h).run.run c = _
  simp only [ExceptT.tryCatch, ExceptT.run_mk, StateT.run_bind]
  rcases hr : r.run.run c with ⟨_ | a, c'⟩ <;>
  · rw [show StateT.run r c = r.run.run c from rfl, hr]
    rfl

theorem Reads.bind {x : Reader α} {f : α → Reader β} {cs cs' cs'' : List Char} {a : α} {b : β}
    (hx : Reads x cs a cs') (hf : Reads (f a) cs' b cs'') : Reads (x >>= f) cs b cs'' := by
  intro c hc hl
  obtain ⟨c', hrun, hrest, hleft⟩ := hx c hc hl
  obtain ⟨c'', hrun', hrest', hleft'⟩ := hf c' hrest hleft
  exact ⟨c'', by rw [run_bind, hrun]; exact hrun', hrest', hleft'⟩

theorem Reads.bind_fails {x : Reader α} {f : α → Reader β} {cs cs' : List Char} {a : α}
    (hx : Reads x cs a cs') (hf : Fails (f a) cs') : Fails (x >>= f) cs := by
  intro c hc hl
  obtain ⟨c', hrun, hrest, hleft⟩ := hx c hc hl
  obtain ⟨e, c'', hrun'⟩ := hf c' hrest hleft
  exact ⟨e, c'', by rw [run_bind, hrun]; exact hrun'⟩

theorem Fails.bind {x : Reader α} {cs : List Char} (hx : Fails x cs) (f : α → Reader β) :
    Fails (x >>= f) cs := by
  intro c hc hl
  obtain ⟨e, c', hrun⟩ := hx c hc hl
  exact ⟨e, c', by rw [run_bind, hrun]⟩

theorem Steps.reads {r r' : Reader α} {cs cs' rest : List Char} {a : α} (h : Steps r r' cs cs')
    (h' : Reads r' cs' a rest) : Reads r cs a rest := by
  intro c hc hl
  obtain ⟨c', hc', hl', hrun⟩ := h c hc hl
  rw [hrun]
  exact h' c' hc' hl'

theorem Steps.fails {r r' : Reader α} {cs cs' : List Char} (h : Steps r r' cs cs')
    (h' : Fails r' cs') : Fails r cs := by
  intro c hc hl
  obtain ⟨c', hc', hl', hrun⟩ := h c hc hl
  rw [hrun]
  exact h' c' hc' hl'

theorem Steps.trans {r r' r'' : Reader α} {cs cs' cs'' : List Char} (h : Steps r r' cs cs')
    (h' : Steps r' r'' cs' cs'') : Steps r r'' cs cs'' := by
  intro c hc hl
  obtain ⟨c', hc', hl', hrun⟩ := h c hc hl
  obtain ⟨c'', hc'', hl'', hrun'⟩ := h' c' hc' hl'
  exact ⟨c'', hc'', hl'', hrun.trans hrun'⟩

theorem Reads.steps {x : Reader α} {cs cs' : List Char} {a : α} (hx : Reads x cs a cs')
    (f : α → Reader β) : Steps (x >>= f) (f a) cs cs' := by
  intro c hc hl
  obtain ⟨c', hrun, hrest, hleft⟩ := hx c hc hl
  exact ⟨c', hrest, hleft, by rw [run_bind, hrun]⟩

theorem Reads.pure (a : α) (cs : List Char) : Reads (pure a : Reader α) cs a cs :=
  fun c hc hl => ⟨c, rfl, hc, hl⟩

theorem Reads.map {x : Reader α} {cs rest : List Char} {a : α} (hx : Reads x cs a rest)
    (f : α → β) : Reads (f <$> x) cs (f a) rest := by
  rw [← bind_pure_comp]
  exact hx.bind (Reads.pure _ _)

theorem Fails.map {x : Reader α} {cs : List Char} (hx : Fails x cs) (f : α → β) :
    Fails (f <$> x) cs := by
  rw [← bind_pure_comp]
  exact hx.bind _

theorem fails_throw (e : ReadError) (cs : List Char) : Fails (throw e : Reader α) cs :=
  fun c _ _ => ⟨e, c, rfl⟩

theorem fails_failUnplaced (msg : String) (cs : List Char) : Fails (failUnplaced msg : Reader α) cs :=
  fails_throw _ cs

/-- Placing an error changes no reading, and leaves an error an error. -/
theorem Reads.placed {r : Reader α} {cs rest : List Char} {a : α} (h : Reads r cs a rest) :
    Reads (placed r) cs a rest := by
  intro c hc hl
  obtain ⟨c', hrun, hrest, hleft⟩ := h c hc hl
  exact ⟨c', by rw [Reader.placed, run_tryCatch, hrun], hrest, hleft⟩

theorem Fails.placed {r : Reader α} {cs : List Char} (h : Fails r cs) : Fails (placed r) cs := by
  intro c hc hl
  obtain ⟨e, c', hrun⟩ := h c hc hl
  rw [Reader.placed, run_tryCatch, hrun]
  dsimp only
  split
  · exact ⟨e, c', rfl⟩
  · exact ⟨_, _, rfl⟩

theorem Reads.attempt {r : Reader α} {cs rest : List Char} {a : α} (h : Reads r cs a rest) :
    Reads (attempt r) cs (.ok a) rest := by
  intro c hc hl
  obtain ⟨c', hrun, hrest, hleft⟩ := h c hc hl
  refine ⟨c', ?_, hrest, hleft⟩
  rw [Reader.attempt, run_tryCatch, ← bind_pure_comp, run_bind, hrun]
  rfl

/-! ## Single steps -/

theorem Cursor.advance_of_cons {c : Cursor} {ch : Char} {cs : List Char} (h : c.rest = ch :: cs) :
    c.advance.rest = cs ∧ c.advance.left = c.left - 1 := by
  unfold Cursor.advance
  rw [h]
  by_cases hch : ch = '\n' <;> simp [hch]

theorem reads_eat (ch : Char) (cs : List Char) : Reads eat (ch :: cs) () cs := by
  intro c hc hl
  obtain ⟨hrest, hleft⟩ := Cursor.advance_of_cons hc
  exact ⟨c.advance, rfl, hrest, by rw [hleft, hl]; rfl⟩

theorem reads_peek (cs : List Char) : Reads peek cs cs.head? cs :=
  fun c hc hl => ⟨c, by rw [← hc]; rfl, hc, hl⟩

theorem run_get (c : Cursor) : (get : Reader Cursor).run.run c = (.ok c, c) := rfl

theorem run_set (c c' : Cursor) : (set c' : Reader PUnit).run.run c = (.ok (), c') := rfl

theorem reads_remaining (cs : List Char) : Reads remaining cs cs.length cs :=
  fun c hc hl => ⟨c, by rw [← hl]; rfl, hc, hl⟩

theorem reads_readWord (w cs : List Char) : Reads (readWord w) (w ++ cs) () cs := by
  induction w with
  | nil => exact Reads.pure _ _
  | cons ch w ih =>
    rw [readWord]
    refine (reads_peek _).bind ?_
    dsimp only [List.cons_append, List.head?_cons]
    rw [if_pos rfl]
    exact (reads_eat _ _).bind ih

/-- Skipping blanks at a character that is no blank skips nothing. -/
theorem Cursor.skipBlanks_of_not_blank {c : Cursor} (hc : ∀ x ∈ c.rest.head?, ¬IsBlank x) :
    ∀ n, c.skipBlanks n = c
  | 0 => rfl
  | n + 1 => by
    unfold Cursor.skipBlanks
    split
    · next ch tail h =>
      have hch : ¬(ch = ' ' ∨ ch = '\n' ∨ ch = '\t' ∨ ch = '\r') := hc ch (by simp [h])
      rw [if_neg hch]
    · rfl

/-- Skipping blanks stops at the first character that is not one. -/
theorem Cursor.skipBlanks_append {ws cs : List Char} (hws : ∀ x ∈ ws, IsBlank x)
    (hcs : ∀ x ∈ cs.head?, ¬IsBlank x) :
    ∀ (n : Nat) (c : Cursor), c.rest = ws ++ cs → c.left = c.rest.length → ws.length ≤ n →
      (c.skipBlanks n).rest = cs ∧ (c.skipBlanks n).left = cs.length := by
  induction ws with
  | nil =>
    intro n c hc hl _
    rw [List.nil_append] at hc
    rw [Cursor.skipBlanks_of_not_blank (hc ▸ hcs) n]
    exact ⟨hc, by rw [hl, hc]⟩
  | cons w ws ih =>
    intro n c hc hl hn
    obtain ⟨n, rfl⟩ : ∃ m, n = m + 1 := ⟨n - 1, by simp at hn; omega⟩
    obtain ⟨hrest, hleft⟩ := Cursor.advance_of_cons hc
    have hw : w = ' ' ∨ w = '\n' ∨ w = '\t' ∨ w = '\r' := hws w (List.mem_cons_self)
    unfold Cursor.skipBlanks
    split
    · next ch tail hct =>
      rw [hc, List.cons_append, List.cons.injEq] at hct
      rw [← hct.1, if_pos hw]
      refine ih (fun x hx => hws x (List.mem_cons_of_mem _ hx)) n c.advance hrest ?_ ?_
      · rw [hrest, hleft, hl, hc]
        simp
      · simp at hn
        omega
    · next hnil =>
      rw [hc] at hnil
      cases hnil

theorem reads_blank {ws cs : List Char} (hws : ∀ x ∈ ws, IsBlank x)
    (hcs : ∀ x ∈ cs.head?, ¬IsBlank x) : Reads blank (ws ++ cs) cs.head? cs := by
  intro c hc hl
  have hlen : ws.length ≤ c.left := by rw [hl]; simp
  obtain ⟨hrest, hleft⟩ := Cursor.skipBlanks_append hws hcs c.left c hc (hc ▸ hl) hlen
  exact ⟨c.skipBlanks c.left, by rw [← hrest]; rfl, hrest, hleft⟩

theorem not_isBlank_head {ch : Char} (h : ¬IsBlank ch) (cs : List Char) :
    ∀ x ∈ (ch :: cs).head?, ¬IsBlank x := by
  intro x hx
  simp only [List.head?_cons, Option.mem_def, Option.some.injEq] at hx
  exact hx ▸ h

/-! ## Strings -/

theorem hexValue_digitChar : ∀ d < 16, hexValue? (Nat.digitChar d) = some d := by decide

/-- The four digits of a code below 256: two zeros and the two hexadecimal digits. -/
theorem toList_hex4 {n : Nat} (h : n < 256) :
    (hex4 n).toList = ['0', '0', (n / 16).digitChar, (n % 16).digitChar] := by
  unfold hex4 Text.hexDigits
  rw [String.toList_append, String.toList_ofList, String.toList_ofList]
  by_cases h16 : n < 16
  · rw [Nat.toDigits_of_lt_base h16, Nat.div_eq_of_lt h16, Nat.mod_eq_of_lt h16,
      String.length_ofList]
    rfl
  · have hdiv : n / 16 < 16 := by omega
    rw [Nat.toDigits_of_base_le (by decide) (by omega), Nat.toDigits_of_lt_base hdiv,
      String.length_ofList]
    rfl

theorem utf8Size_digitChar : ∀ d < 16, (Nat.digitChar d).utf8Size = 1 := by decide

/-- Stepping over bytes of one-byte characters steps over as many characters. -/
theorem Cursor.advanceBytes_ascii {ds cs : List Char} (hds : ∀ d ∈ ds, d.utf8Size = 1) :
    ∀ (fuel : Nat) (c : Cursor), c.rest = ds ++ cs → c.left = c.rest.length → ds.length ≤ fuel →
      (c.advanceBytes fuel ds.length).rest = cs ∧ (c.advanceBytes fuel ds.length).left = cs.length := by
  induction ds with
  | nil =>
    intro fuel c hc hl _
    rw [List.nil_append] at hc
    have hstay : c.advanceBytes fuel ([] : List Char).length = c := by cases fuel <;> rfl
    rw [hstay]
    exact ⟨hc, by rw [hl, hc]⟩
  | cons d ds ih =>
    intro fuel c hc hl hfuel
    obtain ⟨fuel, rfl⟩ : ∃ m, fuel = m + 1 := ⟨fuel - 1, by simp at hfuel; omega⟩
    obtain ⟨hrest, hleft⟩ := Cursor.advance_of_cons hc
    have hd : d.utf8Size = 1 := hds d List.mem_cons_self
    unfold Cursor.advanceBytes
    rw [if_neg (by simp), hc, List.cons_append]
    dsimp only
    rw [if_pos (by simp [hd]), List.length_cons, hd, Nat.add_sub_cancel]
    refine ih (fun x hx => hds x (List.mem_cons_of_mem _ hx)) fuel c.advance hrest ?_ ?_
    · rw [hrest, hleft, hl, hc]
      simp
    · simp at hfuel
      omega

/-- Four hexadecimal digits, the first two zeros, read as their value. -/
theorem reads_readHex4 {a b : Nat} (ha : a < 16) (hb : b < 16) (cs : List Char) :
    Reads readHex4 (['0', '0', a.digitChar, b.digitChar] ++ cs) (a * 16 + b) cs := by
  intro c hc hl
  have hsizes : ∀ d ∈ ['0', '0', a.digitChar, b.digitChar], d.utf8Size = 1 := by
    simp [utf8Size_digitChar a ha, utf8Size_digitChar b hb]
    rfl
  obtain ⟨hrest, hleft⟩ :=
    Cursor.advanceBytes_ascii hsizes 4 c hc (hc ▸ hl) (by simp)
  refine ⟨c.advanceBytes 4 4, ?_, hrest, hleft⟩
  unfold readHex4
  rw [run_bind, run_get]
  dsimp only
  rw [hc]
  have htake : (['0', '0', a.digitChar, b.digitChar] ++ cs).take 4 =
      ['0', '0', a.digitChar, b.digitChar] := by simp
  have hsum : ¬@List.sum Nat _ Zero.ofOfNat0
      ((['0', '0', a.digitChar, b.digitChar] ++ cs).take 4 |>.map Char.utf8Size) < 4 := by
    rw [htake]
    simp [utf8Size_digitChar a ha, utf8Size_digitChar b hb]
    decide
  have hmap : ((['0', '0', a.digitChar, b.digitChar] ++ cs).take 4).mapM hexValue? =
      some [0, 0, a, b] := by
    have h0 : hexValue? '0' = some 0 := by decide
    rw [htake]
    simp [h0, hexValue_digitChar a ha, hexValue_digitChar b hb]
  rw [if_neg hsum, hmap]
  dsimp only
  rw [run_bind, run_set]
  show (Except.ok (((0 * 16 + 0) * 16 + a) * 16 + b), c.advanceBytes 4 4) = _
  rw [show ((0 * 16 + 0) * 16 + a) * 16 + b = a * 16 + b by omega]

/-- A `\\u` escape of a control character reads back as the character. -/
theorem reads_readUnicodeEscape {ch : Char} (h : ch.toNat < 0x20) (cs : List Char) :
    Reads readUnicodeEscape ((hex4 ch.toNat).toList ++ cs) ch cs := by
  have hv : ch.toNat / 16 * 16 + ch.toNat % 16 = ch.toNat := by omega
  have hhex := reads_readHex4 (a := ch.toNat / 16) (b := ch.toNat % 16) (by omega) (by omega) cs
  rw [hv] at hhex
  rw [toList_hex4 (by omega)]
  unfold readUnicodeEscape
  refine hhex.bind ?_
  -- a control character is neither half of a surrogate pair
  have hlow : ¬(0xDC00 ≤ ch.toNat ∧ ch.toNat ≤ 0xDFFF) := by omega
  have hbmp : ch.toNat < 0xD800 ∨ 0xDBFF < ch.toNat := by omega
  simp only [if_neg hlow, if_pos hbmp, Char.ofNat_toNat]
  exact Reads.pure _ _

/-- One written character of a string literal reads back as the character. -/
theorem reads_readStringBody_escapeChar {fuel : Nat} {acc cs rest : List Char} {s : String}
    (ch : Char) (h : Reads (readStringBody fuel (ch :: acc)) cs s rest) :
    Reads (readStringBody (fuel + 1) acc) ((escapeChar ch).toList ++ cs) s rest := by
  unfold escapeChar
  split
  -- a backslash and a letter that names the character
  case h_1 | h_2 | h_3 | h_4 | h_5 | h_6 | h_7 =>
    rw [readStringBody]
    exact (reads_peek _).bind ((reads_eat _ _).bind ((reads_peek _).bind ((reads_eat _ _).bind h)))
  case h_8 hquote hbackslash _ _ _ _ _ =>
    by_cases hctl : ch.toNat < 0x20
    · -- a control character without a letter of its own: its code in four digits
      have hu : ("\\u" : String).toList = ['\\', 'u'] := by decide
      rw [if_pos hctl, String.toList_append, hu]
      simp only [List.cons_append, List.nil_append]
      rw [readStringBody]
      refine (reads_peek _).bind ((reads_eat _ _).bind ((reads_peek _).bind ((reads_eat _ _).bind ?_)))
      exact (reads_readUnicodeEscape hctl cs).bind h
    · -- any other character stands for itself
      rw [if_neg hctl, String.toList_singleton, List.singleton_append, readStringBody]
      refine (reads_peek _).bind ?_
      dsimp only [List.head?_cons]
      split
      · next heq => cases heq
      · next heq => exact absurd (Option.some.inj heq) hquote
      · next heq => exact absurd (Option.some.inj heq) hbackslash
      · next c _ _ heq =>
        cases heq
        rw [if_neg hctl]
        exact (reads_eat _ _).bind h

/-- The written body of a string, after the characters `acc` already read (the last first),
    reads back as the whole string, given a step of fuel for each character. -/
theorem reads_readStringBody (str : List Char) {fuel : Nat} (hfuel : str.length < fuel)
    (acc cs : List Char) :
    Reads (readStringBody fuel acc) ((str.flatMap fun ch => (escapeChar ch).toList) ++ '"' :: cs)
      (String.ofList (acc.reverse ++ str)) cs := by
  induction str generalizing fuel acc with
  | nil =>
    obtain ⟨fuel, rfl⟩ : ∃ f, fuel = f + 1 := ⟨fuel - 1, by simp at hfuel; omega⟩
    rw [readStringBody, List.flatMap_nil, List.nil_append, List.append_nil]
    exact (reads_peek _).bind ((reads_eat _ _).bind (Reads.pure _ _))
  | cons ch str ih =>
    obtain ⟨fuel, rfl⟩ : ∃ f, fuel = f + 1 := ⟨fuel - 1, by simp at hfuel; omega⟩
    have hrest := ih (show str.length < fuel by simp at hfuel; omega) (ch :: acc)
    rw [List.reverse_cons, List.append_assoc, List.singleton_append] at hrest
    rw [List.flatMap_cons, List.append_assoc]
    exact reads_readStringBody_escapeChar ch hrest

theorem length_escapeChar_pos (ch : Char) : 0 < (escapeChar ch).toList.length := by
  unfold escapeChar
  split
  all_goals try decide
  split <;> simp

theorem length_le_flatMap_escapeChar (str : List Char) :
    str.length ≤ (str.flatMap fun ch => (escapeChar ch).toList).length := by
  induction str with
  | nil => simp
  | cons ch str ih =>
    have := length_escapeChar_pos ch
    simp only [List.flatMap_cons, List.length_append, List.length_cons]
    omega

/-- The rest of a written string literal, after its opening quote, reads as the string. -/
theorem reads_readStringRest (str : List Char) (cs : List Char) :
    Reads readStringRest ((str.flatMap fun ch => (escapeChar ch).toList) ++ '"' :: cs)
      (String.ofList str) cs := by
  have hlen := length_le_flatMap_escapeChar str
  refine (reads_remaining _).bind ?_
  have hbody := reads_readStringBody str
    (show str.length < ((str.flatMap fun ch => (escapeChar ch).toList) ++ '"' :: cs).length + 1 by
      simp only [List.length_append, List.length_cons]
      omega) [] cs
  simpa using hbody

theorem toList_quoteString (str : String) :
    (quoteString str).toList =
      '"' :: (str.toList.flatMap fun ch => (escapeChar ch).toList) ++ ['"'] := by
  simp [quoteString, String.toList_join, List.flatMap_map]

/-- A written string literal, after blanks, reads as its string. -/
theorem reads_readString {ws : List Char} (hws : ∀ x ∈ ws, IsBlank x) (str : String)
    (cs : List Char) : Reads readString (ws ++ (quoteString str).toList ++ cs) str cs := by
  rw [toList_quoteString]
  simp only [List.append_assoc, List.cons_append, List.nil_append]
  refine Reads.placed ((reads_blank hws (not_isBlank_head (by decide) _)).bind ?_)
  refine (reads_eat _ _).bind ?_
  simpa using reads_readStringRest str.toList cs

end BqnEdit.Json
