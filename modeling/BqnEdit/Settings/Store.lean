/-!
# Keeping settings in a store

Changes to the settings are not written at once: a debouncer remembers when the
first unsaved change was queued (a later change moves the mark), and a tick saves
once the delay has passed since that mark. Flushing saves a pending change at once.

A failed save never loses a change. A tick that fails queues the change again at
the tick's time, and a flush that fails leaves it pending.

Main results:

* `takeReady_none`: nothing is ready when nothing is pending.
* `flush_isPending`: after a successful flush nothing is pending.
-/

namespace BqnEdit.Settings

/-- Why a store failed (`StoreError` in `settings::store`, lines 13–21). -/
inductive StoreError where
  | read (path : String) (cause : String)
  | write (path : String) (cause : String)
  | encode (cause : String)
  deriving DecidableEq, Repr, Inhabited

namespace StoreError

/-- The message of a store error. -/
def message : StoreError → String
  | read p c => "failed to read " ++ p ++ ": " ++ c
  | write p c => "failed to write " ++ p ++ ": " ++ c
  | encode c => "failed to encode value: " ++ c

/-- The cause under a store error, for error chains. -/
def cause : StoreError → String
  | read _ c | write _ c | encode c => c

end StoreError

/-- The delay before queued changes are saved, in milliseconds (`DEFAULT_FLUSH_DELAY_MS` in
    `settings::store`, line 11). -/
def defaultFlushDelay : Nat := 500

/-- A debouncer (`FlushDebouncer` in `settings::store`, lines 137–140): the delay and the time the
    pending change was queued. -/
structure Debouncer where
  delay : Nat := defaultFlushDelay
  pending : Option Nat := none
  deriving DecidableEq, Repr, Inhabited

namespace Debouncer

/-- Queue a change at a time; the mark moves to the latest change (`FlushDebouncer::queue` in
    `settings::store`, lines 150–152). -/
def queue (d : Debouncer) (now : Nat) : Debouncer := { d with pending := some now }

/-- Whether a change is pending (`FlushDebouncer::is_pending` in `settings::store`,
    lines 166–168). -/
def isPending (d : Debouncer) : Bool := d.pending.isSome

/-- Drop the pending change (`FlushDebouncer::cancel` in `settings::store`, lines 170–172). -/
def cancel (d : Debouncer) : Debouncer := { d with pending := none }

/-- Take the pending change when the delay has passed since its mark (an earlier time counts as no
    time passed) (`FlushDebouncer::take_ready` in `settings::store`, lines 154–164). -/
def takeReady (d : Debouncer) (now : Nat) : Bool × Debouncer :=
  match d.pending with
  | none => (false, d)
  | some q => if d.delay ≤ now - q then (true, d.cancel) else (false, d)

theorem takeReady_none (d : Debouncer) (now : Nat) (h : d.pending = none) :
    d.takeReady now = (false, d) := by
  simp [takeReady, h]

end Debouncer

/-- A store held in memory (`MemoryStore` in `settings::store`, lines 90–93): the saved value, if
    any, and the number of saves. -/
structure MemoryStore (α : Type) where
  saved : Option α := none
  saves : Nat := 0
  deriving Inhabited

namespace MemoryStore

/-- The stored value, or the default when nothing is stored (`Store::load` for `MemoryStore` in
    `settings::store`, lines 123–125). -/
def load [Inhabited α] (m : MemoryStore α) : α := m.saved.getD default

/-- Save a value; saving in memory never fails (`Store::save` for `MemoryStore` in
    `settings::store`, lines 127–131). -/
def save (m : MemoryStore α) (v : α) : Except StoreError (MemoryStore α) :=
  .ok { saved := some v, saves := m.saves + 1 }

end MemoryStore

/-- A value kept in a store `σ` through a debouncer (`Persisted` in `settings::store`,
    lines 180–184). -/
structure Persisted (α σ : Type) where
  value : α
  store : σ
  debouncer : Debouncer := {}

namespace Persisted

variable {α σ : Type}

/-- Load the value with `load` from a store; nothing is pending, and the delay is the default one
    (`Persisted::load` in `settings::store`, lines 187–194). -/
def load (load : σ → Except StoreError α) (store : σ) : Except StoreError (Persisted α σ) :=
  (fun value => { value, store }) <$> load store

/-- Whether a change has not been saved yet (`Persisted::is_dirty` in `settings::store`,
    lines 210–212). -/
def isDirty (p : Persisted α σ) : Bool := p.debouncer.isPending

/-- Use another delay; nothing is pending afterwards (`Persisted::with_delay` in `settings::store`,
    lines 197–200). -/
def withDelay (p : Persisted α σ) (delay : Nat) : Persisted α σ :=
  { p with debouncer := { delay } }

/-- Change the value and queue the change (`Persisted::update` in `settings::store`,
    lines 214–217). -/
def update (p : Persisted α σ) (now : Nat) (f : α → α) : Persisted α σ :=
  { p with value := f p.value, debouncer := p.debouncer.queue now }

/-- Replace the value and queue the change (`Persisted::set` in `settings::store`,
    lines 219–221). -/
def set (p : Persisted α σ) (v : α) (now : Nat) : Persisted α σ :=
  p.update now (fun _ => v)

/-- Save when the delay has passed, with `save` writing the store (`Persisted::tick` in
    `settings::store`, lines 224–233). A failed save is queued again at `now`. -/
def tick (save : σ → α → Except StoreError σ) (p : Persisted α σ) (now : Nat) :
    Except StoreError Bool × Persisted α σ :=
  let (ready, d) := p.debouncer.takeReady now
  if ready then
    match save p.store p.value with
    | .ok st => (.ok true, { p with store := st, debouncer := d })
    | .error e => (.error e, { p with debouncer := d.queue now })
  else (.ok false, { p with debouncer := d })

/-- Save a pending change now (`Persisted::flush` in `settings::store`, lines 237–243). A failed
    save stays pending. -/
def flush (save : σ → α → Except StoreError σ) (p : Persisted α σ) :
    Except StoreError Unit × Persisted α σ :=
  if p.debouncer.isPending then
    match save p.store p.value with
    | .ok st => (.ok (), { p with store := st, debouncer := p.debouncer.cancel })
    | .error e => (.error e, p)
  else (.ok (), p)

theorem flush_isPending (save : σ → α → Except StoreError σ) (p : Persisted α σ)
    (h : (flush save p).1 = .ok ()) : (flush save p).2.isDirty = false := by
  unfold flush at *
  split
  · split
    · simp [isDirty, Debouncer.isPending, Debouncer.cancel]
    · simp_all
  · simp_all [isDirty]

end Persisted

end BqnEdit.Settings
