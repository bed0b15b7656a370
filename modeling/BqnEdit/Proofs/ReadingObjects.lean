import BqnEdit.Json.Record
import BqnEdit.Proofs.Reading

/-!
# Reading back written objects

An object is written as its members, each the text the formatter puts before it, a quoted
key, a colon, the text the formatter puts after the colon, and a value, with a comma before
every member but the first, and then the text the formatter puts before the closing brace.
A lawful formatter writes only blanks, and a reader skips blanks between tokens, so the
readers of records and maps are followed through the text of any lawful formatter, member by
member: the compact and the pretty text are two cases of one proof.

A record's fields are read in the order written, each by the field its key names, so what a
written object reads as is given by a relation over its members, `ReadsMembers`: each member
is read by its field, taking the state one step on. A written object then reads as a record
exactly when its keys are distinct and name fields, and every required field is among them.

Main results:

* `Formatter.text_obj`: the text of an object with members, as `Formatter.objectBody`.
* `ReadsValue`, `FailsValue`: a reader reads back, or fails on, a value written by a
  formatter, after any blanks and before any text.
* `reads_readMembersSeen`, `reads_readRecordOf`: a written object reads as the record its
  members build.
* `fails_readRecordOf`: a member that fails to read makes the whole record fail.
* `reads_readEntries`, `reads_readMap`: a written map reads as its entries, in order.
-/

namespace BqnEdit.Json

open Reader

variable {σ : Type}

/-! ## Written text -/

namespace Formatter

variable (sf : Float → String)

/-- The text of a value at a nesting level, as characters. -/
def text (fmt : Formatter) (l : Nat) (v : Json) : List Char := (writeWith fmt sf l v).toList

/-- One member at a nesting level: the text before it, the quoted key, the colon and the
    text after it, and the value. -/
def memberText (fmt : Formatter) (l : Nat) (kv : String × Json) : List Char :=
  (fmt.beforeItem l).toList ++ (quoteString kv.1).toList ++ ':' :: fmt.afterColon.toList ++
    fmt.text sf l kv.2

/-- Members at a nesting level followed by `tail`, with a comma before each one but the
    first when `first` holds. -/
def objectBody (fmt : Formatter) (l : Nat) : Bool → List (String × Json) → List Char → List Char
  | _, [], tail => tail
  | first, kv :: kvs, tail =>
    (if first then [] else [',']) ++ memberText sf fmt l kv ++ objectBody fmt l false kvs tail

theorem objectBody_append (fmt : Formatter) (l : Nat) (first : Bool) (kvs : List (String × Json))
    (tail more : List Char) :
    objectBody sf fmt l first kvs tail ++ more = objectBody sf fmt l first kvs (tail ++ more) := by
  induction kvs generalizing first with
  | nil => rfl
  | cons kv kvs ih => simp only [objectBody, List.append_assoc, ih]

theorem writeMembers_append (fmt : Formatter) (l : Nat) (first : Bool) (kvs : List (String × Json))
    (tail : List Char) :
    (writeMembers fmt sf l first kvs).toList ++ tail = objectBody sf fmt l first kvs tail := by
  induction kvs generalizing first with
  | nil => rw [writeMembers, objectBody]; rfl
  | cons kv kvs ih =>
    obtain ⟨k, v⟩ := kv
    rw [writeMembers, objectBody, memberText, text, ← ih false]
    cases first <;> simp

/-- An object with members: its brace, the members one level deeper, the text before the
    closing brace, and the brace. -/
theorem text_obj (fmt : Formatter) (l : Nat) (kv : String × Json) (kvs : List (String × Json))
    (tail : List Char) :
    fmt.text sf l (.obj (kv :: kvs)) ++ tail =
      '{' :: objectBody sf fmt (l + 1) true (kv :: kvs) ((fmt.beforeClose l).toList ++ '}' :: tail) := by
  rw [text, writeWith, ← writeMembers_append]
  · simp
  · nofun

theorem text_bool (fmt : Formatter) (l : Nat) (b : Bool) :
    fmt.text sf l (.bool b) = if b then ['t', 'r', 'u', 'e'] else ['f', 'a', 'l', 's', 'e'] := by
  rw [text, writeWith]
  cases b <;> decide

theorem text_null (fmt : Formatter) (l : Nat) : fmt.text sf l .null = ['n', 'u', 'l', 'l'] := by
  rw [text, writeWith]
  decide

theorem text_str (fmt : Formatter) (l : Nat) (s : String) :
    fmt.text sf l (.str s) = (quoteString s).toList := by
  rw [text, writeWith]

/-- Every member takes a character at least. -/
theorem length_le_objectBody (fmt : Formatter) (l : Nat) (first : Bool) (kvs : List (String × Json))
    (tail : List Char) : kvs.length ≤ (objectBody sf fmt l first kvs tail).length := by
  induction kvs generalizing first with
  | nil => simp
  | cons kv kvs ih =>
    have := ih false
    rw [objectBody, memberText, List.length_cons, List.length_append, List.length_append]
    simp only [List.length_append, List.length_cons]
    omega

end Formatter

/-! ## Values read back -/

/-- After any blanks and before any text, `r` reads the value `v`, written by the formatter
    at nesting level `l`, as `a`. -/
def ReadsValue (r : Reader α) (sf : Float → String) (fmt : Formatter) (l : Nat) (v : Json) (a : α) : Prop :=
  ∀ ws, (∀ x ∈ ws, IsBlank x) → ∀ cs, Reads r (ws ++ (fmt.text sf l v ++ cs)) a cs

/-- After any blanks and before any text, `r` fails on the value `v` written by the formatter
    at nesting level `l`. -/
def FailsValue (r : Reader α) (sf : Float → String) (fmt : Formatter) (l : Nat) (v : Json) : Prop :=
  ∀ ws, (∀ x ∈ ws, IsBlank x) → ∀ cs, Fails r (ws ++ (fmt.text sf l v ++ cs))

variable {sf : Float → String} {fmt : Formatter} {l : Nat} {v : Json}

theorem ReadsValue.map {r : Reader α} {a : α} (h : ReadsValue r sf fmt l v a) (f : α → β) :
    ReadsValue (f <$> r) sf fmt l v (f a) :=
  fun ws hws cs => (h ws hws cs).map f

theorem FailsValue.map {r : Reader α} (h : FailsValue r sf fmt l v) (f : α → β) :
    FailsValue (f <$> r) sf fmt l v :=
  fun ws hws cs => (h ws hws cs).map f

theorem ReadsValue.bind {x : Reader α} {a : α} (h : ReadsValue x sf fmt l v a) {f : α → Reader β}
    {b : β} (hf : ∀ cs, Reads (f a) cs b cs) : ReadsValue (x >>= f) sf fmt l v b :=
  fun ws hws cs => (h ws hws cs).bind (hf cs)

theorem ReadsValue.bind_fails {x : Reader α} {a : α} (h : ReadsValue x sf fmt l v a)
    {f : α → Reader β} (hf : ∀ cs, Fails (f a) cs) : FailsValue (x >>= f) sf fmt l v :=
  fun ws hws cs => (h ws hws cs).bind_fails (hf cs)

theorem readsValue_readString (s : String) : ReadsValue readString sf fmt l (.str s) s := by
  intro ws hws cs
  rw [Formatter.text_str, ← List.append_assoc]
  exact reads_readString hws s cs

theorem readsValue_readBool (b : Bool) : ReadsValue readBool sf fmt l (.bool b) b := by
  intro ws hws cs
  rw [Formatter.text_bool]
  cases b with
  | true =>
    refine Reads.placed ((reads_blank hws (not_isBlank_head (by decide) (['r', 'u', 'e'] ++ cs))).bind ?_)
    exact (reads_eat _ _).bind ((reads_readWord _ _).bind (Reads.pure _ _))
  | false =>
    refine Reads.placed ((reads_blank hws (not_isBlank_head (by decide) (['a', 'l', 's', 'e'] ++ cs))).bind ?_)
    exact (reads_eat _ _).bind ((reads_readWord _ _).bind (Reads.pure _ _))

theorem readsValue_readOption_null (r : Reader α) : ReadsValue (readOption r) sf fmt l .null none := by
  intro ws hws cs
  rw [Formatter.text_null]
  refine (reads_blank hws (not_isBlank_head (by decide) (['u', 'l', 'l'] ++ cs))).bind ?_
  exact (reads_eat _ _).bind ((reads_readWord _ _).bind (Reads.pure _ _))

theorem steps_readOption_obj (r : Reader α) (fmt : Formatter) (l : Nat) (kv : String × Json)
    (kvs : List (String × Json)) {ws : List Char} (hws : ∀ x ∈ ws, IsBlank x) (cs : List Char) :
    Steps (readOption r) (some <$> r) (ws ++ (fmt.text sf l (.obj (kv :: kvs)) ++ cs))
      ([] ++ (fmt.text sf l (.obj (kv :: kvs)) ++ cs)) := by
  rw [Formatter.text_obj]
  exact (reads_blank hws (not_isBlank_head (by decide) _)).steps _

theorem ReadsValue.option_obj {r : Reader α} {a : α} {kv : String × Json} {kvs : List (String × Json)}
    (h : ReadsValue r sf fmt l (.obj (kv :: kvs)) a) :
    ReadsValue (readOption r) sf fmt l (.obj (kv :: kvs)) (some a) :=
  fun _ hws cs => (steps_readOption_obj r fmt l kv kvs hws cs).reads
    ((h [] (fun _ h => nomatch h) cs).map some)

theorem FailsValue.option_obj {r : Reader α} {kv : String × Json} {kvs : List (String × Json)}
    (h : FailsValue r sf fmt l (.obj (kv :: kvs))) :
    FailsValue (readOption r) sf fmt l (.obj (kv :: kvs)) :=
  fun _ hws cs => (steps_readOption_obj r fmt l kv kvs hws cs).fails
    ((h [] (fun _ h => nomatch h) cs).map some)

/-- A whole text read: the value, then nothing but blanks. -/
theorem parseWith_of_reads {r : Reader α} {text : String} {a : α} {ws : List Char}
    (h : Reads r text.toList a ws) (hws : ∀ x ∈ ws, IsBlank x) : parseWith r text = .ok a := by
  obtain ⟨c, hrun, hrest, hleft⟩ := h { rest := text.toList } rfl rfl
  have hend := reads_blank hws (show ∀ x ∈ ([] : List Char).head?, ¬IsBlank x from nofun)
  rw [List.append_nil] at hend
  obtain ⟨c', hrun', -, -⟩ := hend c hrest hleft
  unfold parseWith
  dsimp only
  rw [run_bind, hrun]
  dsimp only
  rw [run_bind, hrun']
  rfl

theorem parseWith_of_fails {r : Reader α} {text : String} (h : Fails r text.toList) :
    ∃ e, parseWith r text = .error e := by
  obtain ⟨e, c, hrun⟩ := h { rest := text.toList } rfl rfl
  refine ⟨e, ?_⟩
  unfold parseWith
  dsimp only
  rw [run_bind, hrun]

/-! ## Punctuation -/

section Punctuation

variable {ws : List Char} (hws : ∀ x ∈ ws, IsBlank x)
include hws

theorem reads_readColon (cs : List Char) : Reads readColon (ws ++ ':' :: cs) () cs :=
  (reads_blank hws (not_isBlank_head (by decide) _)).bind (reads_eat _ _)

theorem reads_closeObject (cs : List Char) : Reads closeObject (ws ++ '}' :: cs) () cs :=
  (reads_blank hws (not_isBlank_head (by decide) _)).bind (reads_eat _ _)

theorem reads_nextKey_close (first : Bool) (cs : List Char) :
    Reads (nextKey first) (ws ++ '}' :: cs) none ('}' :: cs) :=
  (reads_blank hws (not_isBlank_head (by decide) _)).bind ((Reads.pure _ _).bind (Reads.pure _ _))

end Punctuation

/-- The key of a member, after the comma for all members but the first, and the blanks. -/
theorem reads_nextKey_key (first : Bool) {ws : List Char} (hws : ∀ x ∈ ws, IsBlank x) (k : String)
    (cs : List Char) :
    Reads (nextKey first) ((if first then [] else [',']) ++ (ws ++ ((quoteString k).toList ++ cs)))
      (some k) cs := by
  rw [toList_quoteString]
  simp only [List.append_assoc, List.cons_append, List.nil_append]
  have hkey := reads_readStringRest k.toList cs
  rw [String.ofList_toList] at hkey
  have hquote := reads_blank hws (not_isBlank_head (show ¬IsBlank '"' by decide)
    ((k.toList.flatMap fun ch => (escapeChar ch).toList) ++ '"' :: cs))
  cases first with
  | true => exact hquote.bind ((Reads.pure _ _).bind ((reads_eat _ _).bind (hkey.map _)))
  | false =>
    have hnone : ∀ x ∈ ([] : List Char), IsBlank x := fun _ h => nomatch h
    have hcomma := reads_blank hnone (not_isBlank_head (show ¬IsBlank ',' by decide)
      (ws ++ '"' :: ((k.toList.flatMap fun ch => (escapeChar ch).toList) ++ '"' :: cs)))
    exact hcomma.bind ((reads_eat _ _).bind (hquote.bind ((Reads.pure _ _).bind
      ((reads_eat _ _).bind (hkey.map _)))))

/-! ## Records -/

/-- The members `kvs` of a written object, each read after its colon by the field its key
    names, take the state `acc` to `acc'`. -/
inductive ReadsMembers (fields : List (FieldSpec σ)) (sf : Float → String) (fmt : Formatter) (l : Nat) :
    List (String × Json) → σ → σ → Prop
  | nil (acc : σ) : ReadsMembers fields sf fmt l [] acc acc
  | cons {k : String} {v : Json} {kvs : List (String × Json)} {acc acc' acc'' : σ}
      (f : FieldSpec σ) (hf : fields.find? (·.name == k) = some f)
      (hv : ReadsValue (f.read acc) sf fmt l v acc')
      (hrest : ReadsMembers fields sf fmt l kvs acc' acc'') :
      ReadsMembers fields sf fmt l ((k, v) :: kvs) acc acc''

theorem ReadsMembers.append {fields : List (FieldSpec σ)} {kvs kvs' : List (String × Json)}
    {acc acc' acc'' : σ} (h : ReadsMembers fields sf fmt l kvs acc acc')
    (h' : ReadsMembers fields sf fmt l kvs' acc' acc'') :
    ReadsMembers fields sf fmt l (kvs ++ kvs') acc acc'' := by
  induction h with
  | nil => exact h'
  | cons f hf hv _ ih => exact .cons f hf hv (ih h')

/-- A member whose key names a field not seen yet: reading the members reads its key and the
    colon, and goes on with the field's reader at the value. -/
theorem steps_readMembersSeen_field (hfmt : fmt.Lawful) {fields : List (FieldSpec σ)} {k : String}
    {f : FieldSpec σ} (hf : fields.find? (·.name == k) = some f) {seen : List String} (hk : k ∉ seen)
    (fuel : Nat) (first : Bool) (acc : σ) (v : Json) (rest : List Char) :
    Steps (readMembersSeen fields (fuel + 1) first seen acc)
      (f.read acc >>= readMembersSeen fields fuel false (k :: seen))
      ((if first then [] else [',']) ++ fmt.memberText sf l (k, v) ++ rest)
      (fmt.afterColon.toList ++ (fmt.text sf l v ++ rest)) := by
  rw [readMembersSeen, Formatter.memberText]
  simp only [List.append_assoc, List.cons_append]
  refine ((reads_nextKey_key first (hfmt.beforeItem l) k _).steps _).trans ?_
  dsimp only
  rw [hf]
  dsimp only
  rw [if_neg (by simpa using hk)]
  exact (reads_readColon (show ∀ x ∈ ([] : List Char), IsBlank x from fun _ h => nomatch h) _).steps _

/-- Written members with distinct keys, none seen before, read as the state their fields
    build, each key seen once. -/
theorem reads_readMembersSeen (hfmt : fmt.Lawful) {fields : List (FieldSpec σ)}
    {kvs : List (String × Json)} {acc acc' : σ} (h : ReadsMembers fields sf fmt l kvs acc acc')
    (hnodup : (kvs.map Prod.fst).Nodup) {seen : List String}
    (hseen : ∀ k ∈ kvs.map Prod.fst, k ∉ seen) {fuel : Nat} (hfuel : kvs.length < fuel)
    (first : Bool) {ws : List Char} (hws : ∀ x ∈ ws, IsBlank x) (cs : List Char) :
    Reads (readMembersSeen fields fuel first seen acc)
      (fmt.objectBody sf l first kvs (ws ++ '}' :: cs))
      (acc', (kvs.map Prod.fst).reverse ++ seen) ('}' :: cs) := by
  induction h generalizing first seen fuel with
  | nil acc =>
    obtain ⟨fuel, rfl⟩ : ∃ m, fuel = m + 1 := ⟨fuel - 1, by simp at hfuel; omega⟩
    rw [readMembersSeen, Formatter.objectBody]
    exact (reads_nextKey_close hws first cs).bind (Reads.pure _ _)
  | @cons k v kvs acc acc' acc'' f hf hv hrest ih =>
    obtain ⟨fuel, rfl⟩ : ∃ m, fuel = m + 1 := ⟨fuel - 1, by simp at hfuel; omega⟩
    have hk : k ∉ seen := hseen k (by simp)
    simp only [List.map_cons, List.nodup_cons] at hnodup
    -- the later members are read with this key seen
    have hseen' : ∀ k' ∈ kvs.map Prod.fst, k' ∉ k :: seen := by
      intro k' hk' hmem
      rcases List.mem_cons.mp hmem with rfl | hmem
      · exact hnodup.1 hk'
      · exact hseen k' (by simp [hk']) hmem
    have hnext := ih hnodup.2 hseen' (show kvs.length < fuel by simp at hfuel; omega) false
    rw [Formatter.objectBody]
    refine (steps_readMembersSeen_field hfmt hf hk fuel first acc v _).reads
      ((hv _ hfmt.afterColon _).bind ?_)
    simpa using hnext

theorem reads_readRecord {fromObject fromArray : Reader α} {cs rest : List Char} {a : α}
    (hobj : Reads fromObject cs a ('}' :: rest)) (name : String) {ws : List Char}
    (hws : ∀ x ∈ ws, IsBlank x) :
    Reads (readRecord name fromObject fromArray) (ws ++ '{' :: cs) a rest := by
  refine Reads.placed ((reads_blank hws (not_isBlank_head (by decide) _)).bind ?_)
  refine (reads_eat _ _).bind (hobj.attempt.bind ?_)
  have hclose := reads_closeObject (show ∀ x ∈ ([] : List Char), IsBlank x from fun _ h => nomatch h) rest
  exact hclose.attempt.bind (Reads.pure _ _)

/-- A written object whose keys are distinct, name fields, and include every required
    field, read as a record: the state its members build from the start. -/
theorem reads_readRecordOf (hfmt : fmt.Lawful) (record : String) {fields : List (FieldSpec σ)}
    {kv : String × Json} {kvs : List (String × Json)} {init final : σ}
    (h : ReadsMembers fields sf fmt (l + 1) (kv :: kvs) init final)
    (hnodup : ((kv :: kvs).map Prod.fst).Nodup)
    (hreq : ∀ f ∈ fields, f.required = true → f.name ∈ (kv :: kvs).map Prod.fst) :
    ReadsValue (readRecordOf record fields init) sf fmt l (.obj (kv :: kvs)) final := by
  intro ws hws cs
  rw [Formatter.text_obj]
  have hlen := fmt.length_le_objectBody sf (l + 1) true (kv :: kvs) ((fmt.beforeClose l).toList ++ '}' :: cs)
  have hmembers := reads_readMembersSeen hfmt h hnodup
    (show ∀ k ∈ (kv :: kvs).map Prod.fst, k ∉ ([] : List String) by simp)
    (Nat.lt_succ_of_le hlen) true (hfmt.beforeClose l) cs
  -- every required field was seen
  have hfind : fields.find? (fun f => f.required && !decide (f.name ∈ ((kv :: kvs).map Prod.fst).reverse ++ [])) = none := by
    rw [List.find?_eq_none]
    intro f hf
    cases hr : f.required
    · simp
    · have hin : f.name ∈ ((kv :: kvs).map Prod.fst).reverse ++ [] := by
        rw [List.append_nil, List.mem_reverse]
        exact hreq f hf hr
      simp only [hin, decide_true, Bool.not_true, Bool.and_false]
      decide
  unfold readRecordOf
  refine reads_readRecord ?_ record hws
  refine (reads_remaining _).bind (hmembers.bind ?_)
  dsimp only
  rw [hfind]
  exact Reads.pure _ _

/-! ## Records that fail -/

theorem run_attempt (r : Reader α) (c : Cursor) :
    (attempt r).run.run c = (.ok (r.run.run c).1, (r.run.run c).2) := by
  rw [Reader.attempt, run_tryCatch, ← bind_pure_comp, run_bind]
  rcases h : r.run.run c with ⟨_ | a, c'⟩ <;> rfl

/-- The members after a failing one are never reached: members read up to one whose field
    fails make the reading of the members fail. -/
theorem fails_readMembersSeen (hfmt : fmt.Lawful) {fields : List (FieldSpec σ)}
    {pre : List (String × Json)} {acc mid : σ} (hpre : ReadsMembers fields sf fmt l pre acc mid)
    {k : String} {f : FieldSpec σ} (hf : fields.find? (·.name == k) = some f)
    (hbad : FailsValue (f.read mid) sf fmt l v)
    (hnodup : (pre.map Prod.fst ++ [k]).Nodup) {seen : List String}
    (hseen : ∀ k' ∈ pre.map Prod.fst ++ [k], k' ∉ seen) {fuel : Nat} (hfuel : pre.length < fuel)
    (first : Bool) (post : List (String × Json)) (tail : List Char) :
    Fails (readMembersSeen fields fuel first seen acc)
      (fmt.objectBody sf l first (pre ++ (k, v) :: post) tail) := by
  induction hpre generalizing first seen fuel with
  | nil acc =>
    obtain ⟨fuel, rfl⟩ : ∃ m, fuel = m + 1 := ⟨fuel - 1, by simp at hfuel; omega⟩
    have hk : k ∉ seen := hseen k (by simp)
    rw [List.nil_append, Formatter.objectBody]
    exact (steps_readMembersSeen_field hfmt hf hk fuel first acc v _).fails
      ((hbad _ hfmt.afterColon _).bind _)
  | @cons k' v' kvs acc acc' acc'' f' hf' hv hrest ih =>
    obtain ⟨fuel, rfl⟩ : ∃ m, fuel = m + 1 := ⟨fuel - 1, by simp at hfuel; omega⟩
    have hk' : k' ∉ seen := hseen k' (by simp)
    simp only [List.map_cons, List.cons_append, List.nodup_cons] at hnodup
    have hseen' : ∀ k'' ∈ kvs.map Prod.fst ++ [k], k'' ∉ k' :: seen := by
      intro k'' hk'' hmem
      rcases List.mem_cons.mp hmem with rfl | hmem
      · exact hnodup.1 hk''
      · exact hseen k'' (List.mem_cons_of_mem _ hk'') hmem
    have hnext := ih hbad hnodup.2 hseen' (show kvs.length < fuel by simp at hfuel; omega) false
    rw [List.cons_append, Formatter.objectBody]
    exact (steps_readMembersSeen_field hfmt hf' hk' fuel first acc v' _).fails
      ((hv _ hfmt.afterColon _).bind_fails hnext)

/-- A record whose object fails to read fails, once the closing brace has been looked for. -/
theorem fails_readRecord {fromObject fromArray : Reader α} {cs : List Char}
    (hobj : Fails fromObject cs) (name : String) {ws : List Char} (hws : ∀ x ∈ ws, IsBlank x) :
    Fails (readRecord name fromObject fromArray) (ws ++ '{' :: cs) := by
  refine Fails.placed ((reads_blank hws (not_isBlank_head (by decide) _)).bind_fails ?_)
  refine (reads_eat _ _).bind_fails ?_
  intro c hc hl
  obtain ⟨e, c', hrun⟩ := hobj c hc hl
  rw [run_bind, run_attempt, hrun]
  dsimp only
  rw [run_bind, run_attempt]
  exact ⟨e, _, rfl⟩

/-- A written object read as a record fails when, after members its fields read, comes a
    member its field fails to read. -/
theorem fails_readRecordOf (hfmt : fmt.Lawful) (record : String) {fields : List (FieldSpec σ)}
    {pre : List (String × Json)} {init mid : σ}
    (hpre : ReadsMembers fields sf fmt (l + 1) pre init mid) {k : String} {v : Json} {f : FieldSpec σ}
    (hf : fields.find? (·.name == k) = some f)
    (hbad : FailsValue (f.read mid) sf fmt (l + 1) v)
    (hnodup : (pre.map Prod.fst ++ [k]).Nodup) (post : List (String × Json)) :
    FailsValue (readRecordOf record fields init) sf fmt l (.obj (pre ++ (k, v) :: post)) := by
  intro ws hws cs
  obtain ⟨kv, kvs, heq⟩ : ∃ kv kvs, pre ++ (k, v) :: post = kv :: kvs := by
    cases pre with
    | nil => exact ⟨_, _, rfl⟩
    | cons kv pre => exact ⟨_, _, rfl⟩
  rw [heq, Formatter.text_obj, ← heq]
  have hlen := fmt.length_le_objectBody sf (l + 1) true (pre ++ (k, v) :: post) ((fmt.beforeClose l).toList ++ '}' :: cs)
  have hfuel : pre.length <
      (fmt.objectBody sf (l + 1) true (pre ++ (k, v) :: post) ((fmt.beforeClose l).toList ++ '}' :: cs)).length + 1 := by
    simp only [List.length_append, List.length_cons] at hlen
    omega
  have hmembers := fails_readMembersSeen hfmt hpre hf hbad hnodup
    (show ∀ k' ∈ pre.map Prod.fst ++ [k], k' ∉ ([] : List String) by simp)
    hfuel true post ((fmt.beforeClose l).toList ++ '}' :: cs)
  exact fails_readRecord ((reads_remaining _).bind_fails (hmembers.bind _)) record hws

/-! ## Maps -/

/-- A written variant name, after blanks, reads as the variant it names. -/
theorem reads_readVariantName {variants : List (String × α)} {s : String} {a : α}
    (h : variants.lookup s = some a) {ws : List Char} (hws : ∀ x ∈ ws, IsBlank x) (cs : List Char) :
    Reads (readVariantName variants)
      (ws ++ '"' :: ((s.toList.flatMap fun ch => (escapeChar ch).toList) ++ '"' :: cs)) a cs := by
  have hrest := reads_readStringRest s.toList cs
  rw [String.ofList_toList] at hrest
  refine Reads.placed ((reads_blank hws (not_isBlank_head (by decide) _)).bind ?_)
  refine (reads_eat _ _).bind (hrest.bind ?_)
  rw [pickVariant, h]
  exact Reads.pure _ _

/-- An entry of a written map, up to its value: the key is read, then the colon, and the
    reader goes on with the value. -/
theorem steps_readEntries_entry [BEq κ] {keys : List (String × κ)} (value : Reader ν) {k : κ}
    {s : String} (hk : keys.lookup s = some k) (fuel : Nat) (first : Bool) (acc : List (κ × ν))
    {ws : List Char} (hws : ∀ x ∈ ws, IsBlank x) (body : List Char) :
    Steps (readEntries keys value (fuel + 1) first acc)
      (value >>= fun v => readEntries keys value fuel false (acc.filter (fun e => !(e.1 == k)) ++ [(k, v)]))
      ((if first then [] else [',']) ++ (ws ++ ((quoteString s).toList ++ ':' :: body)))
      body := by
  have hnone : ∀ x ∈ ([] : List Char), IsBlank x := fun _ h => nomatch h
  have hname := reads_readVariantName hk hnone (':' :: body)
  have hcolon := reads_readColon hnone body
  rw [readEntries, toList_quoteString]
  simp only [List.append_assoc, List.cons_append, List.nil_append]
  cases first with
  | true =>
    -- the first entry: the blanks, then the key
    refine ((reads_blank hws (not_isBlank_head (show ¬IsBlank '"' by decide) _)).steps _).trans ?_
    rw [if_neg (by simp)]
    refine ((reads_blank hnone (not_isBlank_head (show ¬IsBlank '"' by decide) _)).steps _).trans ?_
    exact ((Reads.pure _ _).steps _).trans ((hname.steps _).trans (hcolon.steps _))
  | false =>
    -- a later entry: the comma, the blanks, then the key
    rw [if_neg (by decide)]
    refine ((reads_blank hnone (not_isBlank_head (show ¬IsBlank ',' by decide) _)).steps _).trans ?_
    rw [if_neg (by simp)]
    refine ((reads_blank hnone (not_isBlank_head (show ¬IsBlank ',' by decide) _)).steps _).trans ?_
    refine ((reads_eat _ _).steps _).trans ?_
    refine ((reads_blank hws (not_isBlank_head (show ¬IsBlank '"' by decide) _)).steps _).trans ?_
    exact (hname.steps _).trans (hcolon.steps _)

/-- Written entries with distinct keys, none among those read before, read as the entries,
    after those. -/
theorem reads_readEntries [BEq κ] [LawfulBEq κ] (hfmt : fmt.Lawful) {keys : List (String × κ)}
    {value : Reader ν} (name : κ → String) (json : ν → Json) {es : List (κ × ν)}
    (hkeys : ∀ e ∈ es, keys.lookup (name e.1) = some e.1)
    (hvalue : ∀ e ∈ es, ReadsValue value sf fmt l (json e.2) e.2)
    (hnodup : (es.map Prod.fst).Nodup) {acc : List (κ × ν)}
    (hacc : ∀ e ∈ es, ∀ a ∈ acc, a.1 ≠ e.1) {fuel : Nat} (hfuel : es.length < fuel) (first : Bool)
    {ws : List Char} (hws : ∀ x ∈ ws, IsBlank x) (cs : List Char) :
    Reads (readEntries keys value fuel first acc)
      (fmt.objectBody sf l first (es.map fun e => (name e.1, json e.2)) (ws ++ '}' :: cs)) (acc ++ es)
      ('}' :: cs) := by
  induction es generalizing acc first fuel with
  | nil =>
    obtain ⟨fuel, rfl⟩ : ∃ m, fuel = m + 1 := ⟨fuel - 1, by simp at hfuel; omega⟩
    rw [readEntries, List.map_nil, Formatter.objectBody, List.append_nil]
    refine (reads_blank hws (not_isBlank_head (by decide) _)).bind ?_
    exact Reads.pure _ _
  | cons e es ih =>
    obtain ⟨fuel, rfl⟩ : ∃ m, fuel = m + 1 := ⟨fuel - 1, by simp at hfuel; omega⟩
    simp only [List.map_cons, List.nodup_cons] at hnodup
    -- no entry read before has this key, so the entry is added as it is
    have hfilter : acc.filter (fun a => !(a.1 == e.1)) = acc := by
      rw [List.filter_eq_self]
      intro a ha
      simpa using hacc e List.mem_cons_self a ha
    have hacc' : ∀ e' ∈ es, ∀ a ∈ acc ++ [e], a.1 ≠ e'.1 := by
      intro e' he' a ha
      rcases List.mem_append.mp ha with ha | ha
      · exact hacc e' (List.mem_cons_of_mem _ he') a ha
      · rw [List.mem_singleton.mp ha]
        intro heq
        exact hnodup.1 (heq ▸ List.mem_map_of_mem he')
    have hnext := ih (fun e' he' => hkeys e' (List.mem_cons_of_mem _ he'))
      (fun e' he' => hvalue e' (List.mem_cons_of_mem _ he')) hnodup.2 hacc'
      (show es.length < fuel by simp at hfuel; omega) false
    rw [List.append_assoc, List.singleton_append] at hnext
    have hval := hvalue e List.mem_cons_self fmt.afterColon.toList hfmt.afterColon
      (fmt.objectBody sf l false (es.map fun e => (name e.1, json e.2)) (ws ++ '}' :: cs))
    rw [List.map_cons, Formatter.objectBody, Formatter.memberText]
    simp only [List.append_assoc, List.cons_append]
    refine (steps_readEntries_entry value (hkeys e List.mem_cons_self) fuel first acc
      (hfmt.beforeItem l) _).reads ?_
    refine hval.bind ?_
    rw [hfilter]
    exact hnext

/-- Entries read up to one whose value fails make the reading of the entries fail. -/
theorem fails_readEntries [BEq κ] (hfmt : fmt.Lawful) {keys : List (String × κ)}
    {value : Reader ν} (name : κ → String) (json : ν → Json) {pre : List (κ × ν)}
    (hkeys : ∀ e ∈ pre, keys.lookup (name e.1) = some e.1)
    (hvalue : ∀ e ∈ pre, ReadsValue value sf fmt l (json e.2) e.2)
    {k : κ} (hk : keys.lookup (name k) = some k) {j : Json}
    (hbad : FailsValue value sf fmt l j) (post : List (String × Json))
    {acc : List (κ × ν)} {fuel : Nat} (hfuel : pre.length < fuel) (first : Bool) (tail : List Char) :
    Fails (readEntries keys value fuel first acc)
      (fmt.objectBody sf l first (pre.map (fun e => (name e.1, json e.2)) ++ (name k, j) :: post) tail) := by
  induction pre generalizing acc first fuel with
  | nil =>
    obtain ⟨fuel, rfl⟩ : ∃ m, fuel = m + 1 := ⟨fuel - 1, by simp at hfuel; omega⟩
    rw [List.map_nil, List.nil_append, Formatter.objectBody, Formatter.memberText]
    simp only [List.append_assoc, List.cons_append]
    exact (steps_readEntries_entry value hk fuel first acc (hfmt.beforeItem l) _).fails
      ((hbad _ hfmt.afterColon _).bind _)
  | cons e pre ih =>
    obtain ⟨fuel, rfl⟩ : ∃ m, fuel = m + 1 := ⟨fuel - 1, by simp at hfuel; omega⟩
    have hnext := @ih (fun e' he' => hkeys e' (List.mem_cons_of_mem _ he'))
      (fun e' he' => hvalue e' (List.mem_cons_of_mem _ he'))
      (acc.filter (fun a => !(a.1 == e.1)) ++ [(e.1, e.2)]) fuel
      (show pre.length < fuel by simp at hfuel; omega) false
    have hval := hvalue e List.mem_cons_self fmt.afterColon.toList hfmt.afterColon
      (fmt.objectBody sf l false (pre.map (fun e => (name e.1, json e.2)) ++ (name k, j) :: post) tail)
    rw [List.map_cons, List.cons_append, Formatter.objectBody, Formatter.memberText]
    simp only [List.append_assoc, List.cons_append]
    exact (steps_readEntries_entry value (hkeys e List.mem_cons_self) fuel first acc
      (hfmt.beforeItem l) _).fails (hval.bind_fails hnext)

/-- A written map with distinct keys, each naming its key, reads as its entries in order. -/
theorem reads_readMap [BEq κ] [LawfulBEq κ] (hfmt : fmt.Lawful) {keys : List (String × κ)}
    {value : Reader ν} (name : κ → String) (json : ν → Json) {e : κ × ν}
    {es : List (κ × ν)} (hkeys : ∀ e' ∈ e :: es, keys.lookup (name e'.1) = some e'.1)
    (hvalue : ∀ e' ∈ e :: es, ReadsValue value sf fmt (l + 1) (json e'.2) e'.2)
    (hnodup : ((e :: es).map Prod.fst).Nodup) :
    ReadsValue (readMap keys value) sf fmt l (.obj ((e :: es).map fun e => (name e.1, json e.2)))
      (e :: es) := by
  intro ws hws cs
  rw [List.map_cons, Formatter.text_obj]
  have hlen := fmt.length_le_objectBody sf (l + 1) true ((e :: es).map fun e => (name e.1, json e.2))
    ((fmt.beforeClose l).toList ++ '}' :: cs)
  rw [List.length_map] at hlen
  have hentries := reads_readEntries hfmt name json hkeys hvalue hnodup
    (show ∀ e' ∈ e :: es, ∀ a ∈ ([] : List (κ × ν)), a.1 ≠ e'.1 by simp)
    (Nat.lt_succ_of_le hlen) true (hfmt.beforeClose l) cs
  have hclose := reads_closeObject (show ∀ x ∈ ([] : List Char), IsBlank x from fun _ h => nomatch h) cs
  refine Reads.placed ((reads_blank hws (not_isBlank_head (by decide) _)).bind ?_)
  refine (reads_eat _ _).bind ?_
  exact ((reads_remaining _).bind hentries).attempt.bind (hclose.attempt.bind (Reads.pure _ _))

/-- A written map whose entries read up to one whose value fails to read fails. -/
theorem fails_readMap [BEq κ] (hfmt : fmt.Lawful) {keys : List (String × κ)} {value : Reader ν}
    (name : κ → String) (json : ν → Json) {pre : List (κ × ν)}
    (hkeys : ∀ e ∈ pre, keys.lookup (name e.1) = some e.1)
    (hvalue : ∀ e ∈ pre, ReadsValue value sf fmt (l + 1) (json e.2) e.2)
    {k : κ} (hk : keys.lookup (name k) = some k) {j : Json}
    (hbad : FailsValue value sf fmt (l + 1) j) (post : List (String × Json)) :
    FailsValue (readMap keys value) sf fmt l
      (.obj (pre.map (fun e => (name e.1, json e.2)) ++ (name k, j) :: post)) := by
  intro ws hws cs
  obtain ⟨kv, kvs, heq⟩ : ∃ kv kvs, pre.map (fun e => (name e.1, json e.2)) ++ (name k, j) :: post = kv :: kvs := by
    cases pre with
    | nil => exact ⟨_, _, rfl⟩
    | cons e pre => exact ⟨_, _, rfl⟩
  rw [heq, Formatter.text_obj, ← heq]
  have hlen := fmt.length_le_objectBody sf (l + 1) true
    (pre.map (fun e => (name e.1, json e.2)) ++ (name k, j) :: post) ((fmt.beforeClose l).toList ++ '}' :: cs)
  have hfuel : pre.length < (fmt.objectBody sf (l + 1) true
      (pre.map (fun e => (name e.1, json e.2)) ++ (name k, j) :: post) ((fmt.beforeClose l).toList ++ '}' :: cs)).length + 1 := by
    simp only [List.length_append, List.length_cons, List.length_map] at hlen
    omega
  have hentries : Fails (readEntries keys value _ true ([] : List (κ × ν))) _ :=
    fails_readEntries hfmt name json hkeys hvalue hk hbad post hfuel true ((fmt.beforeClose l).toList ++ '}' :: cs)
  refine Fails.placed ((reads_blank hws (not_isBlank_head (by decide) _)).bind_fails ?_)
  refine (reads_eat _ _).bind_fails ?_
  intro c hc hl
  obtain ⟨e, c', hrun⟩ :=
    ((reads_remaining _).bind_fails (f := fun n => readEntries keys value (n + 1) true []) hentries) c hc hl
  rw [run_bind, run_attempt, hrun]
  dsimp only
  rw [run_bind, run_attempt]
  exact ⟨e, _, rfl⟩

end BqnEdit.Json
