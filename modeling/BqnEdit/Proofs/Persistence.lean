import BqnEdit.Settings.Store

/-!
# No change to a kept value is lost

A kept value is changed in memory and saved later: a change marks it pending, a tick saves
it once the delay has passed since the latest change, and a flush saves it at once. The
store may fail. A failed save never drops the change: a tick that fails queues it again,
and a flush that fails leaves it pending. A save that succeeds clears the pending mark, and
only a change sets it again, so the store is written at most once per change.

To speak of the last value saved, whatever the store, a store is wrapped so that it also
records every value it saves successfully; the wrapped store behaves as the store itself.

Main results:

* `Persisted.tick_eq`: a tick tries to save exactly when a change is pending and the delay
  has passed since it was queued (`now ≥ queued + delay`, or no delay), and otherwise
  changes nothing.
* `Persisted.tick_error`, `Persisted.flush_error`: a failed save keeps the value and leaves
  the change pending.
* `Persisted.Kept.runCalls`: along any run of calls, a value with nothing pending is the
  last value saved, or the loaded one, and the successful saves never outnumber the
  changes.
* `Persisted.keeps_every_change`: all of it, for any store.
-/

namespace BqnEdit.Settings

namespace Debouncer

/-- A change is taken when it is pending and the delay has passed since it was queued, and
    taking it drops the pending mark; a clock that went back counts as no time passed. -/
theorem takeReady_eq (d : Debouncer) (now : Nat) :
    d.takeReady now =
      if ∃ q, d.pending = some q ∧ (d.delay = 0 ∨ q + d.delay ≤ now) then (true, d.cancel)
      else (false, d) := by
  unfold takeReady
  cases d.pending with
  | none => simp
  | some q =>
    dsimp only
    by_cases h : d.delay ≤ now - q
    · rw [if_pos h, if_pos ⟨q, rfl, by omega⟩]
    · rw [if_neg h, if_neg ?_]
      rintro ⟨q', hq', hready⟩
      cases hq'
      omega

end Debouncer

namespace Persisted

variable {α σ : Type}

@[simp] theorem isDirty_update (p : Persisted α σ) (now : Nat) (f : α → α) :
    (p.update now f).isDirty = true := rfl

@[simp] theorem value_update (p : Persisted α σ) (now : Nat) (f : α → α) :
    (p.update now f).value = f p.value := rfl

@[simp] theorem store_update (p : Persisted α σ) (now : Nat) (f : α → α) :
    (p.update now f).store = p.store := rfl

theorem isDirty_load {load : σ → Except StoreError α} {store : σ} {p : Persisted α σ}
    (h : Persisted.load load store = .ok p) : p.isDirty = false := by
  unfold Persisted.load at h
  cases hl : load store with
  | error e =>
    rw [hl] at h
    cases h
  | ok v =>
    rw [hl] at h
    cases h
    rfl

theorem isDirty_withDelay (p : Persisted α σ) (delay : Nat) : (p.withDelay delay).isDirty = false := rfl

/-! ## Ticks and flushes -/

/-- A tick tries to save exactly when a change is pending and the delay has passed since it
    was queued. A save that succeeds clears the pending mark; one that fails queues the
    change again at the tick's time. A tick that does not try changes nothing. -/
theorem tick_eq (save : σ → α → Except StoreError σ) (p : Persisted α σ) (now : Nat) :
    p.tick save now =
      if ∃ q, p.debouncer.pending = some q ∧ (p.debouncer.delay = 0 ∨ q + p.debouncer.delay ≤ now) then
        match save p.store p.value with
        | .ok st => (.ok true, { p with store := st, debouncer := p.debouncer.cancel })
        | .error e => (.error e, { p with debouncer := p.debouncer.cancel.queue now })
      else (.ok false, p) := by
  unfold tick
  rw [Debouncer.takeReady_eq]
  by_cases hready : ∃ q, p.debouncer.pending = some q ∧ (p.debouncer.delay = 0 ∨ q + p.debouncer.delay ≤ now)
  · rw [if_pos hready, if_pos hready]
    rfl
  · rw [if_neg hready, if_neg hready]
    rfl

/-- A failed tick keeps the value and leaves the change pending. -/
theorem tick_error {save : σ → α → Except StoreError σ} {p : Persisted α σ} {now : Nat}
    {e : StoreError} (h : (p.tick save now).1 = .error e) :
    (p.tick save now).2.value = p.value ∧ (p.tick save now).2.isDirty = true := by
  rw [tick_eq] at h ⊢
  split at h
  · split at h
    · cases h
    · simp only [*]
      exact ⟨rfl, rfl⟩
  · cases h

/-- A failed flush changes nothing, and the change stays pending. -/
theorem flush_error {save : σ → α → Except StoreError σ} {p : Persisted α σ} {e : StoreError}
    (h : (p.flush save).1 = .error e) : (p.flush save).2 = p ∧ p.isDirty = true := by
  unfold flush at h ⊢
  by_cases hp : p.debouncer.isPending = true
  · rw [if_pos hp] at h ⊢
    split at h
    · cases h
    · exact ⟨by simp [*], hp⟩
  · rw [if_neg hp] at h
    cases h

/-! ## Runs of calls -/

/-- A call on a kept value: change it, replace it, tick at a time, or flush. -/
inductive Call (α : Type) where
  | update (now : Nat) (f : α → α)
  | set (v : α) (now : Nat)
  | tick (now : Nat)
  | flush

/-- Whether a call changes the value. -/
def Call.changes : Call α → Bool
  | .update _ _ | .set _ _ => true
  | .tick _ | .flush => false

/-- Carry out a call with `save` writing the store, keeping the new state. -/
def perform (save : σ → α → Except StoreError σ) (p : Persisted α σ) : Call α → Persisted α σ
  | .update now f => p.update now f
  | .set v now => p.set v now
  | .tick now => (p.tick save now).2
  | .flush => (p.flush save).2

/-- Carry out calls in order. -/
def runCalls (save : σ → α → Except StoreError σ) (p : Persisted α σ) (cs : List (Call α)) :
    Persisted α σ :=
  cs.foldl (perform save) p

/-- A store that also records every value saved to it successfully, oldest first. -/
def recording (save : σ → α → Except StoreError σ) (st : σ × List α) (v : α) :
    Except StoreError (σ × List α) :=
  (fun st' => (st', st.2 ++ [v])) <$> save st.1 v

/-- A kept value whose store records its saves, none yet. -/
def recordSaves (p : Persisted α σ) : Persisted α (σ × List α) := { p with store := (p.store, []) }

/-- A kept value whose store records its saves, with the record forgotten. -/
def forget (p : Persisted α (σ × List α)) : Persisted α σ := { p with store := p.store.1 }

theorem recording_of_ok {save : σ → α → Except StoreError σ} {st : σ × List α} {v : α} {s : σ}
    (h : save st.1 v = .ok s) : recording save st v = .ok (s, st.2 ++ [v]) := by
  rw [recording, h]
  rfl

theorem recording_of_error {save : σ → α → Except StoreError σ} {st : σ × List α} {v : α}
    {e : StoreError} (h : save st.1 v = .error e) : recording save st v = .error e := by
  rw [recording, h]
  rfl

@[simp] theorem value_forget (p : Persisted α (σ × List α)) : p.forget.value = p.value := rfl

@[simp] theorem store_forget (p : Persisted α (σ × List α)) : p.forget.store = p.store.1 := rfl

@[simp] theorem debouncer_forget (p : Persisted α (σ × List α)) :
    p.forget.debouncer = p.debouncer := rfl

/-- The recording store behaves as the store itself. -/
theorem forget_perform (save : σ → α → Except StoreError σ) (p : Persisted α (σ × List α))
    (c : Call α) : (perform (recording save) p c).forget = perform save p.forget c := by
  cases c with
  | update now f => rfl
  | set v now => rfl
  | tick now =>
    -- rewrite under the decision of readiness too, so that both sides decide it alike
    rw [perform, perform, tick_eq, tick_eq, value_forget, store_forget, debouncer_forget]
    by_cases hready : ∃ q, p.debouncer.pending = some q ∧ (p.debouncer.delay = 0 ∨ q + p.debouncer.delay ≤ now)
    · rw [if_pos hready, if_pos hready]
      cases hs : save p.store.1 p.value with
      | ok s => rw [recording_of_ok hs]; rfl
      | error e => rw [recording_of_error hs]; rfl
    · rw [if_neg hready, if_neg hready]
  | flush =>
    rw [perform, perform, Persisted.flush, Persisted.flush, value_forget, store_forget,
      debouncer_forget]
    by_cases hp : p.debouncer.isPending = true
    · rw [if_pos hp, if_pos hp]
      cases hs : save p.store.1 p.value with
      | ok s => rw [recording_of_ok hs]; rfl
      | error e => rw [recording_of_error hs]
    · rw [if_neg hp, if_neg hp]

theorem forget_recordSaves (p : Persisted α σ) : p.recordSaves.forget = p := rfl

theorem runCalls_cons (save : σ → α → Except StoreError σ) (p : Persisted α σ) (c : Call α)
    (cs : List (Call α)) : runCalls save p (c :: cs) = runCalls save (perform save p c) cs := rfl

theorem forget_runCalls (save : σ → α → Except StoreError σ) (p : Persisted α (σ × List α))
    (cs : List (Call α)) : (runCalls (recording save) p cs).forget = runCalls save p.forget cs := by
  induction cs generalizing p with
  | nil => rfl
  | cons c cs ih => rw [runCalls_cons, runCalls_cons, ih, forget_perform]

/-- What a run keeps true of a kept value loaded as `loaded`, after `changes` changes, on a
    store that records its saves: with nothing pending, the value is the last one saved, or
    the loaded one when none was saved; and the saves, with one more for a pending change,
    are no more than the changes. -/
structure Kept (loaded : α) (changes : Nat) (p : Persisted α (σ × List α)) : Prop where
  clean : p.isDirty = false → p.value = p.store.2.getLast?.getD loaded
  bounded : p.store.2.length + (if p.isDirty then 1 else 0) ≤ changes

theorem Kept.recordSaves {p : Persisted α σ} (h : p.isDirty = false) :
    Kept p.value 0 p.recordSaves where
  clean _ := rfl
  bounded := by
    have h' : p.recordSaves.isDirty = false := h
    rw [h']
    simp [Persisted.recordSaves]

/-- A change is pending after it, and one more change is counted. -/
theorem Kept.update {loaded : α} {n : Nat} {p : Persisted α (σ × List α)} (h : Kept loaded n p)
    (now : Nat) (f : α → α) : Kept loaded (n + 1) (p.update now f) where
  clean hd := by simp at hd
  bounded := by
    have hb := h.bounded
    simp only [isDirty_update, if_true, store_update]
    split at hb <;> omega

/-- A successful save of a pending change records the value and clears the mark. -/
theorem Kept.save {loaded : α} {n : Nat} {p : Persisted α (σ × List α)} (h : Kept loaded n p)
    (hdirty : p.isDirty = true) (s : σ) {d : Debouncer} (hd : d.isPending = false) :
    Kept loaded n { p with store := (s, p.store.2 ++ [p.value]), debouncer := d } where
  clean _ := by simp
  bounded := by
    have hb := h.bounded
    rw [hdirty, if_pos rfl] at hb
    have hd' : ({ p with store := (s, p.store.2 ++ [p.value]), debouncer := d } : Persisted α _).isDirty
      = false := hd
    simp only [hd', Bool.false_eq_true, if_false, List.length_append, List.length_singleton]
    omega

/-- Marking a pending change again, at any time, keeps the invariant. -/
theorem Kept.requeue {loaded : α} {n : Nat} {p : Persisted α (σ × List α)} (h : Kept loaded n p)
    (hdirty : p.isDirty = true) {d : Debouncer} (hd : d.isPending = true) :
    Kept loaded n { p with debouncer := d } where
  clean hd' := absurd (hd.symm.trans hd') (by decide)
  bounded := by
    have hb := h.bounded
    rw [hdirty] at hb
    exact hd ▸ hb

/-- A successful save records the value and clears the pending mark; a failed one records
    nothing and leaves the change pending. -/
theorem Kept.tick {save : σ → α → Except StoreError σ} {loaded : α} {n : Nat}
    {p : Persisted α (σ × List α)} (h : Kept loaded n p) (now : Nat) :
    Kept loaded n (p.tick (recording save) now).2 := by
  rw [tick_eq]
  split
  · next hready =>
    -- a change is ready only when it is pending
    obtain ⟨q, hq, -⟩ := hready
    have hdirty : p.isDirty = true := by simp [isDirty, Debouncer.isPending, hq]
    cases hs : save p.store.1 p.value with
    | ok s =>
      rw [recording_of_ok hs]
      exact h.save hdirty s rfl
    | error e =>
      rw [recording_of_error hs]
      exact h.requeue hdirty rfl
  · exact h

/-- A flush saves a pending change as a tick does, and does nothing otherwise. -/
theorem Kept.flush {save : σ → α → Except StoreError σ} {loaded : α} {n : Nat}
    {p : Persisted α (σ × List α)} (h : Kept loaded n p) :
    Kept loaded n (p.flush (recording save)).2 := by
  unfold Persisted.flush
  by_cases hp : p.debouncer.isPending = true
  · rw [if_pos hp]
    cases hs : save p.store.1 p.value with
    | ok s =>
      rw [recording_of_ok hs]
      exact h.save hp s rfl
    | error e =>
      rw [recording_of_error hs]
      exact h
  · rw [if_neg hp]
    exact h

/-- One call keeps the invariant, counting the call if it changes the value. -/
theorem Kept.perform {save : σ → α → Except StoreError σ} {loaded : α} {n : Nat}
    {p : Persisted α (σ × List α)} (h : Kept loaded n p) (c : Call α) :
    Kept loaded (n + if c.changes then 1 else 0) (Persisted.perform (recording save) p c) := by
  cases c with
  | update now f => exact h.update now f
  | set v now => exact h.update now fun _ => v
  | tick now => exact h.tick now
  | flush => exact h.flush

/-- A run keeps the invariant, counting its changes. -/
theorem Kept.runCalls {save : σ → α → Except StoreError σ} {loaded : α} {n : Nat}
    {p : Persisted α (σ × List α)} (h : Kept loaded n p) (cs : List (Call α)) :
    Kept loaded (n + cs.countP Call.changes) (Persisted.runCalls (recording save) p cs) := by
  induction cs generalizing n p with
  | nil => exact h
  | cons c cs ih =>
    rw [runCalls_cons, List.countP_cons, Nat.add_comm (cs.countP _), ← Nat.add_assoc]
    exact ih (h.perform c)

/-- Whatever the store, and whatever it does on each save: after a value is loaded, and
    perhaps given another delay, every run of changes, ticks and flushes keeps it in step
    with the store. With nothing pending, the value is the last one saved, or the loaded one
    when none was saved; the store is written successfully at most once per change; and
    recording the saves leaves the run as it is. A tick tries to save exactly when a change
    is pending and the delay has passed since it was queued, and a failed tick or flush
    keeps the value and leaves the change pending. -/
theorem keeps_every_change (load : σ → Except StoreError α) (save : σ → α → Except StoreError σ)
    (store : σ) (p₀ : Persisted α σ) (hload : Persisted.load load store = .ok p₀)
    (delay : Option Nat) (cs : List (Call α)) :
    let start := delay.elim p₀ p₀.withDelay
    let p := runCalls (recording save) start.recordSaves cs
    p.forget = runCalls save start cs ∧
      (p.isDirty = false → p.value = p.store.2.getLast?.getD p₀.value) ∧
      p.store.2.length ≤ cs.countP Call.changes ∧
      (∀ (q : Persisted α σ) now, q.tick save now =
        if ∃ t, q.debouncer.pending = some t ∧ (q.debouncer.delay = 0 ∨ t + q.debouncer.delay ≤ now) then
          match save q.store q.value with
          | .ok st => (.ok true, { q with store := st, debouncer := q.debouncer.cancel })
          | .error e => (.error e, { q with debouncer := q.debouncer.cancel.queue now })
        else (.ok false, q)) ∧
      (∀ (q : Persisted α σ) now e, (q.tick save now).1 = .error e →
        (q.tick save now).2.value = q.value ∧ (q.tick save now).2.isDirty = true) ∧
      (∀ (q : Persisted α σ) e, (q.flush save).1 = .error e → (q.flush save).2 = q ∧ q.isDirty = true) := by
  intro start p
  have hclean : start.isDirty = false := by
    cases delay with
    | none => exact isDirty_load hload
    | some d => exact isDirty_withDelay p₀ d
  have hkept : Kept p₀.value (cs.countP Call.changes) p := by
    have hrun : Kept start.value (0 + cs.countP Call.changes) p :=
      (Kept.recordSaves hclean).runCalls cs
    rw [Nat.zero_add] at hrun
    cases delay <;> exact hrun
  refine ⟨by rw [forget_runCalls, forget_recordSaves], hkept.clean, ?_, tick_eq save,
    fun _ _ _ => tick_error, fun _ _ => flush_error⟩
  -- the bound counts a pending change too
  have hb := hkept.bounded
  split at hb <;> omega

example :
    (runCalls (recording MemoryStore.save)
      ({ value := 0, store := ({} : MemoryStore Nat) } : Persisted Nat _).recordSaves
      [.set 3 0, .tick 50, .tick 600, .update 700 (· + 1), .set 9 800, .flush]).store.2 = [3, 9] := by
  decide

/-- A value loaded from an empty memory store with a delay of 100, set to 3, ticked too
    early and then on time, changed again and flushed. -/
theorem keeps_every_change_memory :
    let load : MemoryStore Nat → Except StoreError Nat := fun m => .ok m.load
    let save : MemoryStore Nat → Nat → Except StoreError (MemoryStore Nat) := MemoryStore.save
    let p₀ : Persisted Nat (MemoryStore Nat) := { value := 0, store := {} }
    let cs : List (Call Nat) := [.set 3 0, .tick 50, .tick 100, .update 150 (· + 1), .flush]
    Persisted.load load {} = .ok p₀ ∧
      let start := (some 100).elim p₀ p₀.withDelay
      let p := runCalls (recording save) start.recordSaves cs
      p.forget = runCalls save start cs ∧
        (p.isDirty = false → p.value = p.store.2.getLast?.getD p₀.value) ∧
        p.store.2.length ≤ cs.countP Call.changes ∧
        (∀ (q : Persisted Nat (MemoryStore Nat)) now, q.tick save now =
          if ∃ t, q.debouncer.pending = some t ∧ (q.debouncer.delay = 0 ∨ t + q.debouncer.delay ≤ now) then
            match save q.store q.value with
            | .ok st => (.ok true, { q with store := st, debouncer := q.debouncer.cancel })
            | .error e => (.error e, { q with debouncer := q.debouncer.cancel.queue now })
          else (.ok false, q)) ∧
        (∀ (q : Persisted Nat (MemoryStore Nat)) now e, (q.tick save now).1 = .error e →
          (q.tick save now).2.value = q.value ∧ (q.tick save now).2.isDirty = true) ∧
        (∀ (q : Persisted Nat (MemoryStore Nat)) e, (q.flush save).1 = .error e →
          (q.flush save).2 = q ∧ q.isDirty = true) :=
  ⟨rfl, keeps_every_change (fun m : MemoryStore Nat => .ok m.load) MemoryStore.save {}
    { value := 0, store := {} } rfl (some 100) [.set 3 0, .tick 50, .tick 100, .update 150 (· + 1), .flush]⟩

end Persisted

end BqnEdit.Settings
