import Mathlib
import BqnEdit.Proofs.Rules
import BqnEdit.Proofs.Tokens

/-!
# The tokenizer

A lexeme is the match of the first rule that matches, or else one character with no
class. From what each rule can match, a lexeme takes at least one character and at most
all that are left, holds a line feed only in a line break or a string token, and stays the
same when a line break and anything else follow the input, unless the input opens a
string it never closes. The scan cuts the input into lexemes, and the merge joins
neighbours of one class.

Main results:

* `tokenize_lossless`: every step of the scan takes at least one character and no more
  than are left, and the contents of the tokens give back the text.
* `tokenize_wellFormed`: no token is empty, no two neighbours share a class unless both
  are line breaks, a line break token is one line feed, and only line break and string
  tokens hold a line feed.
* `tokenize_append_newline`: the tokens of two texts joined by a line feed are the tokens
  of each with a line break token between them, when the scan of the first does not end
  inside an unclosed string.
* `merge_laws`: merging keeps the text, is idempotent and agrees with merging the parts of
  a joined list first; the tokens of a text are merged already.
-/

namespace BqnEdit.Syntax

/-! ## Lexemes -/

/-- A lexeme is the match of a rule that matches, or one character with no class when no
    rule matches. -/
theorem lexeme_cases (cs : List Char) :
    (∃ r ∈ rules, r.matchLen cs ≠ 0 ∧ lexeme cs = (r.matchLen cs, r.cls)) ∨
      ((∀ r ∈ rules, r.matchLen cs = 0) ∧ lexeme cs = (1, none)) := by
  unfold lexeme
  cases h : rules.findSome?
      (fun r => if r.matchLen cs = 0 then none else some (r.matchLen cs, r.cls)) with
  | none =>
    refine .inr ⟨fun r hr => ?_, rfl⟩
    have hnone := List.findSome?_eq_none_iff.mp h r hr
    simpa using hnone
  | some m =>
    obtain ⟨l₁, r, l₂, hrules, hr, -⟩ := List.findSome?_eq_some_iff.mp h
    refine .inl ⟨r, by simp [hrules], ?_⟩
    split at hr
    · cases hr
    · cases hr
      exact ⟨‹_›, rfl⟩

theorem one_le_lexeme (cs : List Char) : 1 ≤ (lexeme cs).1 := by
  rcases lexeme_cases cs with ⟨r, -, hne, heq⟩ | ⟨-, heq⟩
  · rw [heq]
    exact Nat.pos_of_ne_zero hne
  · simp [heq]

theorem lexeme_le_length (c : Char) (cs : List Char) :
    (lexeme (c :: cs)).1 ≤ (c :: cs).length := by
  rcases lexeme_cases (c :: cs) with ⟨r, hr, -, heq⟩ | ⟨-, heq⟩
  · rw [heq]
    exact bounded_of_mem_rules r hr _
  · simp [heq]

/-- A lexeme depends only on what the rules match. -/
theorem lexeme_congr {cs cs' : List Char} (h : ∀ r ∈ rules, r.matchLen cs = r.matchLen cs') :
    lexeme cs = lexeme cs' := by
  have hview : ∀ cs, rules.findSome?
      (fun r => if r.matchLen cs = 0 then none else some (r.matchLen cs, r.cls)) =
      (rules.map fun r => (r.matchLen cs, r.cls)).findSome?
        (fun m => if m.1 = 0 then none else some m) := by
    intro cs
    rw [List.findSome?_map]
    rfl
  have hmap : (rules.map fun r => (r.matchLen cs, r.cls)) = rules.map fun r => (r.matchLen cs', r.cls) :=
    List.map_congr_left fun r hr => by rw [h r hr]
  unfold lexeme
  rw [hview cs, hview cs', hmap]

theorem lexeme_newline (b : List Char) : lexeme ('\n' :: b) = (1, some .newline) := by
  unfold lexeme
  rw [show rules = Rule.oneOf ['\n'] .newline :: rules.tail from rfl, List.findSome?_cons]
  rfl

/-- The rules before the quoted string rules look only at the first character, unless it
    is a blank or `#`. -/
theorem matchLen_early_rules {c : Char} (hblank : isInlineBlank c = false) (hhash : c ≠ '#')
    (rest : List Char) : ∀ r ∈ rules.take 17, r.matchLen (c :: rest) = r.matchLen [c] := by
  have hrun : blankRunLen (c :: rest) = blankRunLen [c] := by
    simp [blankRunLen, hblank]
  have hcomment : commentLen (c :: rest) = commentLen [c] := by
    simp [commentLen, hhash]
  simp only [rules, List.take, List.forall_mem_cons, List.not_mem_nil, false_imp_iff,
    implies_true, and_true]
  exact ⟨rfl, hrun, hcomment, rfl, rfl, rfl, rfl, rfl, rfl, rfl, rfl, rfl, rfl, rfl, rfl, rfl, rfl⟩

/-- At a quote no rule before the quoted string rules matches, so a quote starts a string
    token that runs to the closing quote, or to the end of the input when there is none. -/
theorem lexeme_quote {q : Char} (hq : q = '"' ∨ q = '\'') (rest : List Char) :
    lexeme (q :: rest) = (quotedLen q (q :: rest), some .string) := by
  have hearly : ∀ r ∈ rules.take 17, r.matchLen (q :: rest) = 0 := by
    intro r hr
    rcases hq with rfl | rfl
    · rw [matchLen_early_rules (by decide) (by decide) rest r hr]
      revert r
      decide +kernel
    · rw [matchLen_early_rules (by decide) (by decide) rest r hr]
      revert r
      decide +kernel
  have hsplit : rules = rules.take 17 ++ ⟨quotedLen '"', some .string⟩ ::
      ⟨quotedLen '\'', some .string⟩ :: rules.drop 19 := rfl
  have hpos : quotedLen q (q :: rest) ≠ 0 := by simp [quotedLen]
  unfold lexeme
  rw [hsplit, List.findSome?_append, List.findSome?_eq_none_iff.mpr (fun r hr => by simp [hearly r hr]),
    Option.none_or]
  rcases hq with rfl | rfl
  · simp [hpos]
  · simp [quotedLen]

/-- A lexeme does not change when a line break and anything else follow the input, unless
    the input opens a string it never closes. -/
theorem lexeme_append_newline {x : List Char} (hx : x ≠ []) (hopen : opensLiteral x = false)
    (b : List Char) : lexeme (x ++ '\n' :: b) = lexeme x := by
  apply lexeme_congr
  intro r hr
  cases rule_kinds r hr with
  | newline =>
    obtain ⟨c, x, rfl⟩ := List.exists_cons_of_ne_nil hx
    rfl
  | quoted hq => exact quotedLen_append_newline hq hopen b
  | lineLocal hlocal _ => exact hlocal x b

/-- A lexeme from a rule that never looks past a line break holds no line break. -/
theorem newline_not_mem_take {p : List Char → Nat} (hlocal : LineLocal p) (hbound : Bounded p)
    (cs : List Char) : '\n' ∉ cs.take (p cs) := by
  intro hmem
  induction hlen : cs.length using Nat.strong_induction_on generalizing cs with
  | _ n ih =>
    obtain ⟨x, y, rfl⟩ := List.append_of_mem (List.mem_of_mem_take hmem)
    have hx := hbound x
    rw [hlocal x y, List.take_append_of_le_length hx] at hmem
    exact ih x.length (by simp [← hlen]) x hmem rfl

/-! ## Well-formed tokens -/

/-- A token as the lexer makes them: not empty, a line break token is one line feed, and
    a line feed stands only in a line break or a string token. -/
structure Token.WellFormed (t : Token) : Prop where
  ne_empty : t.content ≠ ""
  newline_eq : t.cls = some .newline → t.content = "\n"
  newline_mem : '\n' ∈ t.content.toList → t.cls = some .newline ∨ t.cls = some .string

theorem ofList_ne_empty {cs : List Char} (h : cs ≠ []) : String.ofList cs ≠ "" := by
  intro hempty
  have := congrArg String.toList hempty
  simp [h] at this

/-- Joining two tokens of one class that is not a line break keeps them well formed. -/
theorem Token.WellFormed.join {a b : Token} (hj : a.joins b = true) (ha : a.WellFormed)
    (hb : b.WellFormed) : Token.WellFormed ⟨a.content ++ b.content, a.cls⟩ := by
  obtain ⟨hcls, hnl⟩ := Token.joins_eq_true.mp hj
  refine ⟨?_, fun h => absurd (hcls ▸ h) hnl, ?_⟩
  · intro hempty
    apply ha.ne_empty
    have hnil := congrArg String.toList hempty
    rw [String.toList_append, String.toList_empty, List.append_eq_nil_iff] at hnil
    rw [String.ext_iff, hnil.1, String.toList_empty]
  · intro hmem
    rw [String.toList_append, List.mem_append] at hmem
    rcases hmem with hmem | hmem
    · exact ha.newline_mem hmem
    · exact hcls ▸ hb.newline_mem hmem

/-- Every lexeme makes a well-formed token. -/
theorem wellFormed_lexeme (c : Char) (cs : List Char) :
    Token.WellFormed
      ⟨String.ofList ((c :: cs).take (lexeme (c :: cs)).1), (lexeme (c :: cs)).2⟩ := by
  have hne : ∀ n, n ≠ 0 → String.ofList ((c :: cs).take n) ≠ "" := fun n hn =>
    ofList_ne_empty (by simp [hn])
  rcases lexeme_cases (c :: cs) with ⟨r, hr, hlen, heq⟩ | ⟨hzero, heq⟩
  · rw [heq]
    cases rule_kinds r hr with
    | newline =>
      -- the line break rule matches only at a line feed, and takes it alone
      have hc : c = '\n' := by simpa using hlen
      subst hc
      refine ⟨hne _ hlen, fun _ => rfl, fun _ => .inl rfl⟩
    | quoted hq => exact ⟨hne _ hlen, by simp, fun _ => .inr rfl⟩
    | lineLocal hlocal hcls =>
      refine ⟨hne _ hlen, fun h => absurd h hcls, fun hmem => ?_⟩
      rw [String.toList_ofList] at hmem
      exact absurd hmem (newline_not_mem_take hlocal (bounded_of_mem_rules r hr) _)
  · -- no rule matches, not even the line break rule, so the character is no line feed
    rw [heq]
    have hc : c ≠ '\n' := by
      have := hzero (Rule.oneOf ['\n'] .newline) (by simp [rules])
      simpa using this
    refine ⟨hne 1 Nat.one_ne_zero, fun h => by simp at h, fun hmem => ?_⟩
    simp only [List.take_succ_cons, List.take_zero, String.toList_ofList, List.mem_singleton] at hmem
    exact absurd hmem.symm hc

/-! ## The scan -/

/-- The scan's guard against an empty step never fires. -/
theorem max_lexeme_one (cs : List Char) : max (lexeme cs).1 1 = (lexeme cs).1 :=
  Nat.max_eq_left (one_le_lexeme cs)

/-- One step of the scan takes exactly the lexeme at the front. -/
theorem scan_cons (c : Char) (cs : List Char) :
    scan (c :: cs) =
      ⟨String.ofList ((c :: cs).take (lexeme (c :: cs)).1), (lexeme (c :: cs)).2⟩ ::
        scan ((c :: cs).drop (lexeme (c :: cs)).1) := by
  rw [scan, max_lexeme_one]

theorem contents_scan (cs : List Char) : contents (scan cs) = String.ofList cs := by
  induction cs using scan.induct with
  | case1 => simp [scan]
  | case2 c cs n ih =>
    rw [scan, contents_cons, ih, ← String.ofList_append, List.take_append_drop]

theorem wellFormed_scan (cs : List Char) : ∀ t ∈ scan cs, t.WellFormed := by
  induction cs using scan.induct with
  | case1 => simp [scan]
  | case2 c cs n ih =>
    rw [show n = (lexeme (c :: cs)).1 from max_lexeme_one _] at ih
    rw [scan_cons, List.forall_mem_cons]
    exact ⟨wellFormed_lexeme c cs, ih⟩

/-- An unclosed string runs to the end of the input: it is the last token of the scan. -/
theorem scan_of_opensLiteral {x : List Char} (h : opensLiteral x = true) :
    scan x = [⟨String.ofList x, some .string⟩] := by
  obtain ⟨q, rest, rfl⟩ : ∃ q rest, x = q :: rest := by
    cases x with
    | nil => simp [opensLiteral] at h
    | cons q rest => exact ⟨q, rest, rfl⟩
  simp only [opensLiteral, Bool.and_eq_true, Bool.or_eq_true, beq_iff_eq, Bool.not_eq_true',
    List.contains_eq_mem, decide_eq_false_iff_not] at h
  obtain ⟨hq, hrest⟩ := h
  have hbody : rest.takeWhile (· != q) = rest := List.takeWhile_eq_self_iff.mpr fun c hc => by
    have hcq : c ≠ q := fun hcq => hrest (hcq ▸ hc)
    simpa using hcq
  have hlen : quotedLen q (q :: rest) = (q :: rest).length := by
    simp [quotedLen, hbody]
    omega
  rw [scan_cons, lexeme_quote hq, hlen, List.take_length, List.drop_length]
  simp [scan]

/-- The scan of a text, a line feed and more is the scan of the text, a line break token,
    and the scan of the rest, unless the text ends inside an unclosed string. -/
theorem scan_append_newline (x b : List Char)
    (hx : ∀ t ∈ (scan x).getLast?, opensLiteral t.content.toList = false) :
    scan (x ++ '\n' :: b) = scan x ++ ⟨"\n", some .newline⟩ :: scan b := by
  induction x using scan.induct with
  | case1 =>
    rw [List.nil_append, scan_cons, lexeme_newline]
    simp [scan]
  | case2 c cs n ih =>
    rw [show n = (lexeme (c :: cs)).1 from max_lexeme_one _] at ih
    -- the front of the text opens no string it leaves open, so its lexeme is unchanged
    have hopen : opensLiteral (c :: cs) = false := by
      rw [Bool.eq_false_iff]
      intro hopen
      have hlast := hx ⟨String.ofList (c :: cs), some .string⟩ (by simp [scan_of_opensLiteral hopen])
      simp [hopen] at hlast
    have hlex := lexeme_append_newline (List.cons_ne_nil c cs) hopen b
    have hle := lexeme_le_length c cs
    -- the rest of the scan ends where the whole scan ends
    have hlast : ∀ t ∈ (scan ((c :: cs).drop (lexeme (c :: cs)).1)).getLast?,
        opensLiteral t.content.toList = false := by
      intro t ht
      apply hx t
      rw [scan_cons, List.getLast?_cons, Option.mem_def.mp ht]
      rfl
    calc scan ((c :: cs) ++ '\n' :: b)
        = ⟨String.ofList ((c :: cs).take (lexeme (c :: cs)).1), (lexeme (c :: cs)).2⟩ ::
            scan ((c :: cs).drop (lexeme (c :: cs)).1 ++ '\n' :: b) := by
          rw [List.cons_append, scan_cons, ← List.cons_append, hlex,
            List.take_append_of_le_length hle, List.drop_append_of_le_length hle]
      _ = scan (c :: cs) ++ ⟨"\n", some .newline⟩ :: scan b := by
          rw [ih hlast, scan_cons c cs, List.cons_append]

/-! ## The tokens of a text -/

/-- The contents of the tokens of a text give back the text. -/
theorem contents_tokenize (s : String) : contents (tokenize s) = s := by
  rw [tokenize, contents_merge, contents_scan, String.ofList_toList]

/-- Every token of a text is well formed: the merge joins well-formed lexemes only. -/
theorem wellFormed_tokenize (s : String) : ∀ t ∈ tokenize s, t.WellFormed :=
  forall_merge _ (fun _ _ hj ha hb => ha.join hj hb) (wellFormed_scan _)

/-- The tokenizer never fails: every step of the scan takes at least one character and no
    more than are left, so it cuts the text only between characters, and the contents of
    the tokens, in order, give back the text. -/
theorem tokenize_lossless (s : String) :
    (∀ c cs, 1 ≤ (lexeme (c :: cs)).1 ∧ (lexeme (c :: cs)).1 ≤ (c :: cs).length) ∧
      contents (tokenize s) = s := by
  refine ⟨fun c cs => ⟨one_le_lexeme _, lexeme_le_length c cs⟩, ?_⟩
  rw [tokenize, contents_merge, contents_scan, String.ofList_toList]

/-- The tokens of every text are well formed: none is empty, no two neighbours share a
    class unless both are line breaks, a line break token is exactly one line feed, and a
    line feed of the text stands only in a line break or a string token. -/
theorem tokenize_wellFormed (s : String) :
    (∀ t ∈ tokenize s, t.content ≠ "") ∧
      (tokenize s).IsChain
        (fun a b => a.cls = b.cls → a.cls = some .newline ∧ b.cls = some .newline) ∧
      (∀ t ∈ tokenize s, t.cls = some .newline → t.content = "\n") ∧
      (∀ t ∈ tokenize s, '\n' ∈ t.content.toList → t.cls = some .newline ∨ t.cls = some .string) := by
  have hwf : ∀ t ∈ tokenize s, t.WellFormed :=
    forall_merge _ (fun _ _ hj ha hb => ha.join hj hb) (wellFormed_scan _)
  exact ⟨fun t ht => (hwf t ht).ne_empty, isChain_merge _, fun t ht => (hwf t ht).newline_eq,
    fun t ht => (hwf t ht).newline_mem⟩

example : tokenize "a  \n b" =
    [⟨"a", some .value⟩, ⟨"  ", none⟩, ⟨"\n", some .newline⟩, ⟨" ", none⟩, ⟨"b", some .value⟩] := by
  cbv

/-- Two texts joined by a line feed are tokenized as each text on its own with a line break
    token between them, when the scan of the first does not end inside a string whose
    closing quote is missing. So a view may tokenize line by line. -/
theorem tokenize_append_newline (a b : String)
    (ha : ∀ t ∈ (scan a.toList).getLast?, opensLiteral t.content.toList = false) :
    tokenize (a ++ "\n" ++ b) = tokenize a ++ [⟨"\n", some .newline⟩] ++ tokenize b := by
  have htext : (a ++ "\n" ++ b).toList = a.toList ++ '\n' :: b.toList := by simp
  rw [tokenize, htext, scan_append_newline _ _ ha, merge_append_newline _ _ rfl, tokenize, tokenize]
  simp

/-- A closed string before the line feed. -/
theorem tokenize_append_newline_closed :
    (∀ t ∈ (scan "s←'a b'".toList).getLast?, opensLiteral t.content.toList = false) ∧
      tokenize ("s←'a b'" ++ "\n" ++ "t") =
        tokenize "s←'a b'" ++ [⟨"\n", some .newline⟩] ++ tokenize "t" := by
  have hlast : (scan "s←'a b'".toList).getLast? = some ⟨"'a b'", some .string⟩ := by cbv
  have hclosed : ∀ t ∈ (scan "s←'a b'".toList).getLast?, opensLiteral t.content.toList = false := by
    rw [hlast]
    decide
  exact ⟨hclosed, tokenize_append_newline "s←'a b'" "t" hclosed⟩

/-- Merging keeps the text, leaves no two neighbours of one class unless both are line
    breaks, changes nothing the second time, and merging a joined list is merging its merged
    parts, whatever the contents, empty ones too. The tokens of a text are merged already. -/
theorem merge_laws (ts xs ys : List Token) (s : String) :
    contents (merge ts) = contents ts ∧
      (merge ts).IsChain
        (fun a b => a.cls = b.cls → a.cls = some .newline ∧ b.cls = some .newline) ∧
      merge (merge ts) = merge ts ∧
      merge (xs ++ ys) = merge (merge xs ++ merge ys) ∧
      merge (tokenize s) = tokenize s :=
  ⟨contents_merge ts, isChain_merge ts, merge_merge ts, merge_append xs ys,
    merge_merge (scan s.toList)⟩

end BqnEdit.Syntax
