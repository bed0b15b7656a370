import Mathlib.Data.List.Chain
import BqnEdit.Syntax.Token

/-!
# Merging tokens

`merge` is a left fold of `pushMerged` over a list kept in reverse. One push either
extends the last token by the new one, when the classes agree and are not a line break,
or puts the new token after it. Every law of `merge` follows from what one push does.

Main results:

* `contents_merge`: merging keeps the text.
* `isChain_merge`: no two neighbours of a merged list share a class, unless both are
  line breaks.
* `forall_merge`: a property of tokens that survives joining two tokens of one class
  holds of every merged token when it holds of every token merged.
* `merge_append_newline`: merging never reaches across a line break token.
* `merge_merge`, `merge_append`: merging is idempotent, and merging a joined list is
  merging the merged parts.
-/

namespace BqnEdit.Syntax

/-! ## The text of a token list -/

@[simp] theorem contents_nil : contents [] = "" := rfl

@[simp] theorem contents_cons (t : Token) (ts : List Token) :
    contents (t :: ts) = t.content ++ contents ts := by
  simp [contents]

@[simp] theorem contents_append (ts us : List Token) :
    contents (ts ++ us) = contents ts ++ contents us := by
  simp [contents]

/-! ## One push -/

theorem Token.joins_eq_true {a b : Token} :
    a.joins b = true ↔ a.cls = b.cls ∧ b.cls ≠ some .newline := by
  simp [Token.joins]

theorem Token.joins_newline (a : Token) {b : Token} (hb : b.cls = some .newline) :
    a.joins b = false := by
  simp [Token.joins, hb]

theorem Token.newline_joins {a : Token} (ha : a.cls = some .newline) (b : Token) :
    a.joins b = false := by
  rw [Bool.eq_false_iff]
  intro h
  obtain ⟨hab, hb⟩ := Token.joins_eq_true.mp h
  exact hb (hab ▸ ha)

theorem contents_pushMerged (acc : List Token) (t : Token) :
    contents (pushMerged acc t).reverse = contents acc.reverse ++ t.content := by
  cases acc with
  | nil => simp [pushMerged]
  | cons last rest =>
    simp only [pushMerged]
    split <;> simp [String.append_assoc]

/-- A push only looks at the last token, so whatever lies below it stays. -/
theorem pushMerged_append {acc : List Token} (hacc : acc ≠ []) (base : List Token) (t : Token) :
    pushMerged (acc ++ base) t = pushMerged acc t ++ base := by
  obtain ⟨last, rest, rfl⟩ := List.exists_cons_of_ne_nil hacc
  simp only [List.cons_append, pushMerged]
  split <;> simp

theorem pushMerged_ne_nil (acc : List Token) (t : Token) : pushMerged acc t ≠ [] := by
  cases acc with
  | nil => simp [pushMerged]
  | cons last rest =>
    simp only [pushMerged]
    split <;> simp

theorem pushMerged_of_joins_false {last : Token} (rest : List Token) {t : Token}
    (h : last.joins t = false) : pushMerged (last :: rest) t = t :: last :: rest := by
  simp [pushMerged, h]

/-! ## The fold -/

theorem contents_foldl_pushMerged (acc ts : List Token) :
    contents (ts.foldl pushMerged acc).reverse = contents acc.reverse ++ contents ts := by
  induction ts generalizing acc with
  | nil => simp
  | cons t ts ih =>
    rw [List.foldl_cons, ih, contents_pushMerged, contents_cons, String.append_assoc]

theorem contents_merge (ts : List Token) : contents (merge ts) = contents ts := by
  simp [merge, contents_foldl_pushMerged]

theorem foldl_pushMerged_append {acc : List Token} (hacc : acc ≠ []) (base ts : List Token) :
    ts.foldl pushMerged (acc ++ base) = ts.foldl pushMerged acc ++ base := by
  induction ts generalizing acc with
  | nil => rfl
  | cons t ts ih =>
    rw [List.foldl_cons, List.foldl_cons, pushMerged_append hacc, ih (pushMerged_ne_nil acc t)]

theorem foldl_pushMerged_newline {nl : Token} (hnl : nl.cls = some .newline) (ts : List Token) :
    ts.foldl pushMerged [nl] = ts.foldl pushMerged [] ++ [nl] := by
  cases ts with
  | nil => rfl
  | cons t ts =>
    rw [List.foldl_cons, List.foldl_cons, pushMerged_of_joins_false [] (Token.newline_joins hnl t),
      ← foldl_pushMerged_append (pushMerged_ne_nil [] t) [nl] ts]
    rfl

/-- Merging never reaches across a line break token. -/
theorem merge_append_newline (ts us : List Token) {nl : Token} (hnl : nl.cls = some .newline) :
    merge (ts ++ nl :: us) = merge ts ++ nl :: merge us := by
  have hpush : pushMerged (ts.foldl pushMerged []) nl = [nl] ++ ts.foldl pushMerged [] := by
    cases ts.foldl pushMerged [] with
    | nil => rfl
    | cons last rest => exact pushMerged_of_joins_false rest (Token.joins_newline last hnl)
  simp only [merge, List.foldl_append, List.foldl_cons, hpush]
  rw [foldl_pushMerged_append (by simp), foldl_pushMerged_newline hnl]
  simp

/-! ## Merging what is merged -/

/-- Whether two tokens join depends only on their classes. -/
theorem Token.joins_congr_left (a : Token) {b b' : Token} (h : b.cls = b'.cls) :
    a.joins b = a.joins b' := by
  simp [Token.joins, h]

/-- Pushing two tokens that join is pushing the token they join into: the push after it
    sees the same class. -/
theorem pushMerged_pushMerged_of_joins (acc : List Token) {a b : Token} (h : a.joins b = true) :
    pushMerged (pushMerged acc a) b = pushMerged acc ⟨a.content ++ b.content, a.cls⟩ := by
  obtain ⟨hcls, hnl⟩ := Token.joins_eq_true.mp h
  cases acc with
  | nil => simp [pushMerged, h]
  | cons last rest =>
    have hsame : last.joins ⟨a.content ++ b.content, a.cls⟩ = last.joins a :=
      Token.joins_congr_left last rfl
    by_cases hla : last.joins a = true
    · -- `a` joins the last token, and `b` joins what that made
      have hb : Token.joins ⟨last.content ++ a.content, last.cls⟩ b = true := by
        obtain ⟨hla', -⟩ := Token.joins_eq_true.mp hla
        exact Token.joins_eq_true.mpr ⟨hla'.trans hcls, hnl⟩
      simp [pushMerged, hla, hb, hsame, String.append_assoc]
    · simp [pushMerged, hla, h, hsame]

/-- Folding the merge of a list pushes the same as folding the list: every token the merge
    joined would have been joined by the pushes anyway. -/
theorem foldl_pushMerged_merge (ts acc : List Token) :
    (merge ts).foldl pushMerged acc = ts.foldl pushMerged acc := by
  induction ts using List.reverseRecOn with
  | nil => rfl
  | append_singleton ts t ih =>
    have hmerge : merge ts = (ts.foldl pushMerged []).reverse := rfl
    rw [merge, List.foldl_append, List.foldl_append, List.foldl_cons, List.foldl_nil,
      List.foldl_cons, List.foldl_nil, ← ih, hmerge]
    cases hfold : ts.foldl pushMerged [] with
    | nil => rfl
    | cons last rest =>
      by_cases hj : last.joins t = true
      · have hpush : pushMerged (last :: rest) t = ⟨last.content ++ t.content, last.cls⟩ :: rest := by
          simp [pushMerged, hj]
        simp only [hpush, List.reverse_cons, List.foldl_append, List.foldl_cons, List.foldl_nil]
        rw [pushMerged_pushMerged_of_joins _ hj]
      · rw [pushMerged_of_joins_false rest (Bool.eq_false_iff.mpr hj)]
        simp only [List.reverse_cons, List.foldl_append, List.foldl_cons, List.foldl_nil]

/-- Merging is idempotent. -/
theorem merge_merge (ts : List Token) : merge (merge ts) = merge ts :=
  congrArg List.reverse (foldl_pushMerged_merge ts [])

/-- Merging a joined list merges the merged parts: merging each part first changes nothing. -/
theorem merge_append (xs ys : List Token) : merge (xs ++ ys) = merge (merge xs ++ merge ys) := by
  have hfold : (merge xs ++ merge ys).foldl pushMerged [] = (xs ++ ys).foldl pushMerged [] := by
    rw [List.foldl_append, List.foldl_append, foldl_pushMerged_merge, foldl_pushMerged_merge]
  exact congrArg List.reverse hfold.symm

/-! ## What every merged list satisfies -/

/-- One push keeps the reversed list free of neighbours of one class, line breaks apart. -/
theorem isChain_pushMerged {acc : List Token}
    (h : acc.IsChain fun a b => b.cls = a.cls → b.cls = some .newline ∧ a.cls = some .newline)
    (t : Token) :
    (pushMerged acc t).IsChain
      fun a b => b.cls = a.cls → b.cls = some .newline ∧ a.cls = some .newline := by
  cases acc with
  | nil => simp [pushMerged]
  | cons last rest =>
    simp only [pushMerged]
    split
    · -- the joined token keeps the class of the last one
      refine List.IsChain.cons_of_imp ?_ h
      exact fun c hc => hc
    · rename_i hjoin
      refine List.isChain_cons_cons.mpr ⟨fun hcls => ?_, h⟩
      have hnl : t.cls = some .newline := by
        by_contra hne
        exact hjoin (Token.joins_eq_true.mpr ⟨hcls, hne⟩)
      exact ⟨hcls ▸ hnl, hnl⟩

/-- No two neighbours of a merged list share a class, unless both are line breaks. -/
theorem isChain_merge (ts : List Token) :
    (merge ts).IsChain
      fun a b => a.cls = b.cls → a.cls = some .newline ∧ b.cls = some .newline := by
  have hfold : ∀ acc : List Token,
      acc.IsChain (fun a b => b.cls = a.cls → b.cls = some .newline ∧ a.cls = some .newline) →
      (ts.foldl pushMerged acc).IsChain
        fun a b => b.cls = a.cls → b.cls = some .newline ∧ a.cls = some .newline := by
    induction ts with
    | nil => exact fun _ h => h
    | cons t ts ih => exact fun acc h => ih _ (isChain_pushMerged h t)
  rw [merge, List.isChain_reverse]
  exact hfold [] .nil

/-- A property of tokens that survives joining two tokens of one class holds of every
    merged token when it holds of every token merged. -/
theorem forall_merge (P : Token → Prop)
    (hjoin : ∀ a b, a.joins b = true → P a → P b → P ⟨a.content ++ b.content, a.cls⟩)
    {ts : List Token} (hts : ∀ t ∈ ts, P t) : ∀ t ∈ merge ts, P t := by
  have hpush : ∀ acc t, (∀ u ∈ acc, P u) → P t → ∀ u ∈ pushMerged acc t, P u := by
    intro acc t hacc ht
    cases acc with
    | nil => simpa [pushMerged] using ht
    | cons last rest =>
      simp only [pushMerged]
      split
      · rename_i hj
        simp only [List.forall_mem_cons] at hacc ⊢
        exact ⟨hjoin last t hj hacc.1 ht, hacc.2⟩
      · simp only [List.forall_mem_cons] at hacc ⊢
        exact ⟨ht, hacc⟩
  have hfold : ∀ acc, (∀ u ∈ acc, P u) → ∀ u ∈ ts.foldl pushMerged acc, P u := by
    induction ts with
    | nil => exact fun _ h => h
    | cons t ts ih =>
      intro acc hacc
      exact ih (fun u hu => hts u (List.mem_cons_of_mem t hu)) _
        (hpush acc t hacc (hts t List.mem_cons_self))
  intro u hu
  exact hfold [] (by simp) u (List.mem_reverse.mp hu)

end BqnEdit.Syntax
