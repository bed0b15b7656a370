import BqnEdit.Syntax.Ansi
import BqnEdit.Proofs.Tokenize

/-!
# Reading ANSI-coloured tokens back as text

A terminal sees coloured text as characters and select-graphic-rendition sequences
`ESC [ params m`, whose parameters are digits and `;`; deleting the sequences leaves the
characters it draws. A terminal library that writes only such sequences around a text
(`SgrCodes.Lawful`) writes nothing that deleting them leaves, so the ANSI text of tokens reads
back as their text, whatever codes the library uses. With the 256-colour codes, a token in the
terminal's default style is written as its bare text, and any other as one foreground colour
sequence, one dim or italic sequence when its style has that modifier, the text, and one reset.

Main results:

* `Style.stripSgr_wrapWith_append`: deleting the sequences from a token written in any style
  leaves its text, for every lawful set of codes.
* `stripSgr_toAnsiWith`: deleting the sequences from the ANSI text of tokens leaves their text,
  for every lawful set of codes.
* `palette_cases`: the palette gives every class the default style, a foreground colour, or a
  foreground colour with dim or italic; never a background.
* `written_wrap`: with the 256-colour codes, every token is written in one of the three forms
  of `Written`.
* `toAnsi_tokenize`: for a text without escape characters, deleting the sequences from the
  ANSI text of its tokens gives back the text, and every token is written in its form.
-/

namespace BqnEdit.Syntax

/-! ## Deleting escape sequences -/

/-- What follows a select-graphic-rendition sequence whose escape character has been read:
    the text after `[`, the parameters and `m`, or none when the text does not go on so. -/
def afterSgr : List Char → Option (List Char)
  | '[' :: rest =>
    match rest.dropWhile isSgrParam with
    | 'm' :: after => some after
    | _ => none
  | _ => none

theorem length_afterSgr_lt {cs after : List Char} (h : afterSgr cs = some after) :
    after.length < cs.length := by
  unfold afterSgr at h
  split at h
  · next rest =>
    split at h
    · next after' hdrop =>
      cases h
      have hsuffix : ('m' :: after) <:+ rest := hdrop ▸ List.dropWhile_suffix isSgrParam
      have := hsuffix.length_le
      simp only [List.length_cons] at this ⊢
      omega
    · cases h
  · cases h

/-- Delete every select-graphic-rendition sequence from a text. An escape character that
    opens no such sequence stays. -/
def stripSgr : List Char → List Char
  | [] => []
  | c :: cs =>
    if c = escChar then
      match h : afterSgr cs with
      | some after =>
        have : after.length < cs.length := length_afterSgr_lt h
        stripSgr after
      | none => c :: stripSgr cs
    else c :: stripSgr cs
termination_by cs => cs.length

theorem afterSgr_params_append {ps : List Char} (hps : ∀ c ∈ ps, isSgrParam c) (rest : List Char) :
    afterSgr ('[' :: (ps ++ 'm' :: rest)) = some rest := by
  rw [afterSgr, List.dropWhile_append_of_pos hps, List.dropWhile_cons_of_neg (by decide)]
  rfl

/-- A sequence at the front of a text is deleted. -/
theorem stripSgr_sgr_append {p : String} (hp : ∀ c ∈ p.toList, isSgrParam c) (rest : List Char) :
    stripSgr ((sgr p).toList ++ rest) = stripSgr rest := by
  have hsgr : (sgr p).toList ++ rest = escChar :: ('[' :: (p.toList ++ 'm' :: rest)) := by
    simp [sgr]
  rw [hsgr, stripSgr]
  simp only [if_true]
  split
  · next after h =>
    rw [afterSgr_params_append hp] at h
    cases h
    rfl
  · next h => rw [afterSgr_params_append hp] at h; cases h

theorem stripSgr_append_of_not_mem {cs : List Char} (h : escChar ∉ cs) (rest : List Char) :
    stripSgr (cs ++ rest) = cs ++ stripSgr rest := by
  induction cs with
  | nil => rfl
  | cons c cs ih =>
    have hc : c ≠ escChar := fun hc => h (hc ▸ List.mem_cons_self)
    rw [List.cons_append, stripSgr, if_neg hc, ih fun hm => h (List.mem_cons_of_mem c hm),
      List.cons_append]

/-! ## Text that deleting the sequences removes -/

/-- Text that deleting the sequences removes entirely, whatever follows it. -/
def Vanishes (w : String) : Prop := ∀ rest, stripSgr (w.toList ++ rest) = stripSgr rest

theorem vanishes_empty : Vanishes "" := fun _ => rfl

theorem vanishes_sgr {p : String} (hp : ∀ c ∈ p.toList, isSgrParam c) : Vanishes (sgr p) :=
  stripSgr_sgr_append hp

theorem vanishes_ite (c : Prop) [Decidable c] {p : String} (hp : ∀ ch ∈ p.toList, isSgrParam ch) :
    Vanishes (if c then sgr p else "") := by
  split
  · exact vanishes_sgr hp
  · exact vanishes_empty

theorem Vanishes.append {v w : String} (hv : Vanishes v) (hw : Vanishes w) : Vanishes (v ++ w) := by
  intro rest
  rw [String.toList_append, List.append_assoc, hv, hw]

theorem vanishes_join {ws : List String} (h : ∀ w ∈ ws, Vanishes w) : Vanishes (String.join ws) := by
  induction ws with
  | nil => exact vanishes_empty
  | cons w ws ih =>
    rw [String.join_cons]
    exact (h w List.mem_cons_self).append (ih fun v hv => h v (List.mem_cons_of_mem w hv))

theorem stripSgr_between {pre post content : String} (hpre : Vanishes pre) (hpost : Vanishes post)
    (ht : escChar ∉ content.toList) (rest : List Char) :
    stripSgr ((pre ++ content ++ post).toList ++ rest) = content.toList ++ stripSgr rest := by
  simp only [String.toList_append, List.append_assoc]
  rw [hpre, stripSgr_append_of_not_mem ht, hpost]

/-! ## Tokens written by a lawful library -/

section Lawful

variable {codes : SgrCodes} (hc : codes.Lawful)
include hc

/-- What the library writes before the text of a style. -/
theorem Style.vanishes_setting (s : Style) :
    Vanishes ((match s.bg with
        | some c => sgr (codes.background c)
        | none => "") ++
      (match s.fg with
        | some c => sgr (codes.foreground c)
        | none => "") ++
      String.join (s.attributes.map fun m => sgr (codes.modifier m))) := by
  refine (Vanishes.append ?_ ?_).append (vanishes_join ?_)
  · split
    · exact vanishes_sgr (hc.background _)
    · exact vanishes_empty
  · split
    · exact vanishes_sgr (hc.foreground _)
    · exact vanishes_empty
  · intro w hw
    obtain ⟨m, -, rfl⟩ := List.mem_map.mp hw
    exact vanishes_sgr (hc.modifier m)

/-- What the library writes after the text of a style. -/
theorem Style.vanishes_reset (s : Style) :
    Vanishes (if s.attributes.isEmpty then
      (if s.bg.isSome then sgr codes.defaultBackground else "") ++
        (if s.fg.isSome then sgr codes.defaultForeground else "")
    else sgr codes.reset) := by
  split
  · exact (vanishes_ite _ hc.defaultBackground).append (vanishes_ite _ hc.defaultForeground)
  · exact vanishes_sgr hc.reset

/-- Deleting the sequences from a token written in any style leaves its text. -/
theorem Style.stripSgr_wrapWith_append (s : Style) {content : String}
    (ht : escChar ∉ content.toList) (rest : List Char) :
    stripSgr ((s.wrapWith codes content).toList ++ rest) = content.toList ++ stripSgr rest := by
  unfold Style.wrapWith
  split
  · exact stripSgr_append_of_not_mem ht rest
  · exact stripSgr_between (s.vanishes_setting hc) (s.vanishes_reset hc) ht rest

/-- Deleting the sequences from the ANSI text of tokens whose texts hold no escape character
    leaves the tokens' text. -/
theorem stripSgr_toAnsiWith (bg : Background) {ts : List Token}
    (h : ∀ t ∈ ts, escChar ∉ t.content.toList) :
    stripSgr (toAnsiWith codes bg ts).toList = (contents ts).toList := by
  induction ts with
  | nil => simp [toAnsiWith, stripSgr]
  | cons t ts ih =>
    have htail := ih fun u hu => h u (List.mem_cons_of_mem t hu)
    have hwrap := (palette bg t.cls).stripSgr_wrapWith_append hc (h t List.mem_cons_self)
    simp only [toAnsiWith, List.map_cons, String.join_cons, String.toList_append] at htail ⊢
    rw [hwrap, htail, contents_cons, String.toList_append]

end Lawful

/-! ## How a token is written with the 256-colour codes -/

/-- The sequence that sets the foreground to a colour of the 256-colour table. -/
def foregroundSeq (c : Color) : String := sgr ("38;5;" ++ toString c.code)

/-- How a token is written on a background: in the terminal's default style, as its bare
    text; otherwise as one foreground colour sequence, then one dim or italic sequence when
    its style has that modifier, the text, and one reset (of the foreground alone when no
    modifier was set, of everything when one was). -/
inductive Written (bg : Background) : Token → String → Prop
  | plain {t : Token} : palette bg t.cls = Style.plain → Written bg t t.content
  | colored {t : Token} {c : Color} : palette bg t.cls = Style.fgOnly c →
      Written bg t (foregroundSeq c ++ t.content ++ sgr "39")
  | marked {t : Token} {c : Color} {m : TextModifier} : m = .dim ∨ m = .italic →
      palette bg t.cls = { fg := some c, modifiers := [m] } →
      Written bg t (foregroundSeq c ++ sgr (toString m.code) ++ t.content ++ sgr "0")

/-- The palette gives every class the default style, a foreground colour alone, or a
    foreground colour with dim or italic; never a background. -/
theorem palette_cases (bg : Background) (cls : Option TokenClass) :
    palette bg cls = Style.plain ∨ (∃ c, palette bg cls = Style.fgOnly c) ∨
      ∃ c m, (m = .dim ∨ m = .italic) ∧ palette bg cls = { fg := some c, modifiers := [m] } := by
  cases cls with
  | none => exact .inl rfl
  | some cls =>
    cases cls <;> cases bg <;> simp [palette, Style.fgOnly, Style.plain]

theorem Style.wrapWith_fgOnly (codes : SgrCodes) (c : Color) (content : String) :
    (Style.fgOnly c).wrapWith codes content =
      sgr (codes.foreground c) ++ content ++ sgr codes.defaultForeground := by
  simp [Style.wrapWith, Style.writeWith, Style.attributes, Style.fgOnly, Style.plain,
    Style.modifierList, TextModifier.all]

theorem Style.wrapWith_marked (codes : SgrCodes) (c : Color) {m : TextModifier}
    (hm : m = .dim ∨ m = .italic) (content : String) :
    ({ fg := some c, modifiers := [m] } : Style).wrapWith codes content =
      sgr (codes.foreground c) ++ sgr (codes.modifier m) ++ content ++ sgr codes.reset := by
  rcases hm with rfl | rfl <;>
    simp [Style.wrapWith, Style.writeWith, Style.attributes, Style.plain, Style.modifierList,
      TextModifier.all]

/-- With the 256-colour codes, every token is written in one of the three forms. -/
theorem written_wrap (bg : Background) (t : Token) :
    Written bg t ((palette bg t.cls).wrapWith SgrCodes.indexed t.content) := by
  rcases palette_cases bg t.cls with h | ⟨c, h⟩ | ⟨c, m, hm, h⟩
  · rw [h, Style.wrapWith, if_pos rfl]
    exact .plain h
  · rw [h, Style.wrapWith_fgOnly]
    exact .colored h
  · rw [h, Style.wrapWith_marked _ c hm]
    exact .marked hm h

/-! ## The ANSI text of a text's tokens -/

theorem mem_contents_of_mem {ts : List Token} {t : Token} (ht : t ∈ ts) {c : Char}
    (hc : c ∈ t.content.toList) : c ∈ (contents ts).toList := by
  rw [contents, String.toList_join, List.mem_flatMap]
  exact ⟨t.content, List.mem_map_of_mem ht, hc⟩

/-- The ANSI text of a text's tokens: for a text without escape characters, deleting the
    select-graphic-rendition sequences gives the text back, and the ANSI text is the tokens
    written one after another, each in its form: bare in the default style, and otherwise
    between one foreground colour sequence, with one dim or italic sequence when its style
    has that modifier, and one reset. -/
theorem toAnsi_tokenize (bg : Background) (s : String) (hs : escChar ∉ s.toList) :
    stripSgr (toAnsi bg (tokenize s)).toList = s.toList ∧
      ∃ pieces, toAnsi bg (tokenize s) = String.join pieces ∧
        List.Forall₂ (Written bg) (tokenize s) pieces := by
  refine ⟨?_, (tokenize s).map (fun t => (palette bg t.cls).wrapWith SgrCodes.indexed t.content),
    rfl, ?_⟩
  · have hfree : ∀ t ∈ tokenize s, escChar ∉ t.content.toList := fun t ht hc =>
      hs (by simpa [contents_tokenize] using mem_contents_of_mem ht hc)
    rw [toAnsi, stripSgr_toAnsiWith SgrCodes.lawful_indexed bg hfree, contents_tokenize]
  · rw [List.forall₂_map_right_iff, List.forall₂_same]
    exact fun t _ => written_wrap bg t

/-- On a dark background `a+b` is written with its function glyph in green, and reads back. -/
theorem toAnsi_tokenize_sum :
    escChar ∉ "a+b".toList ∧ (stripSgr (toAnsi .dark (tokenize "a+b")).toList = "a+b".toList ∧
      ∃ pieces, toAnsi .dark (tokenize "a+b") = String.join pieces ∧
        List.Forall₂ (Written .dark) (tokenize "a+b") pieces) :=
  ⟨by decide, toAnsi_tokenize .dark "a+b" (by decide)⟩

end BqnEdit.Syntax
