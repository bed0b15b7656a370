import BqnEdit.App.Model

/-!
# Numbering of the output log

The output log numbers every output it receives with the count of outputs it received
before, and clearing the log keeps the count. So at any moment the log holds the outputs
appended since the last clear, each numbered by its place among all the outputs ever
appended: the numbers increase along the log, and a number once given is never given to
another output. Every message and every run of the code either appends outputs to the log
or clears it, so this holds of every model the editor reaches from a fresh log. Running
clears the log first unless the outputs persist, so after a run the log is the earlier
outputs, or nothing, followed by the run's outputs in order.

Main results:

* `OutputLog.Numbered.append`, `OutputLog.Numbered.clear`: appending and clearing keep
  the numbering.
* `Model.update_outputs_cases`: a message appends its outputs to the log, or clears it.
* `Model.Logged.numbered`: every model reached from a fresh log numbers its outputs by
  their place among all the outputs appended.
* `Model.outputs_numbered`: the numbering and what a run leaves in the log.
-/

namespace BqnEdit

namespace Eval.OutputLog

/-- A log holds the outputs appended last, each numbered by its place among all the
    outputs `hist` ever appended to it, in order. -/
def Numbered (log : OutputLog) (hist : List Output) : Prop :=
  log.nextId = hist.length ∧ ∃ k ≤ hist.length, log.outputs = (number 0 hist).drop k

@[simp] theorem length_number (n : Nat) (os : List Output) : (number n os).length = os.length := by
  induction os generalizing n with
  | nil => rfl
  | cons o os ih => simp [number, ih]

theorem number_append (n : Nat) (a b : List Output) :
    number n (a ++ b) = number n a ++ number (n + a.length) b := by
  induction a generalizing n with
  | nil => rfl
  | cons o a ih =>
    simp only [List.cons_append, number, ih, List.length_cons, List.cons.injEq, true_and]
    congr 2
    omega

@[simp] theorem append_nil (log : OutputLog) : log.append [] = log := by
  simp [append, number]

theorem numbered_empty : Numbered {} [] := ⟨rfl, 0, Nat.le_refl _, rfl⟩

/-- Appending numbers the new outputs after all those appended before. -/
theorem Numbered.append {log : OutputLog} {hist : List Output} (h : Numbered log hist)
    (os : List Output) : Numbered (log.append os) (hist ++ os) := by
  obtain ⟨hnext, k, hk, hout⟩ := h
  refine ⟨by simp [OutputLog.append, hnext], k, by simp; omega, ?_⟩
  rw [OutputLog.append, hout, hnext, number_append, Nat.zero_add,
    List.drop_append_of_le_length (by simpa using hk)]

/-- Clearing drops every output and keeps the count. -/
theorem Numbered.clear {log : OutputLog} {hist : List Output} (h : Numbered log hist) :
    Numbered log.clear hist := by
  obtain ⟨hnext, -⟩ := h
  exact ⟨hnext, hist.length, Nat.le_refl _, by simp [OutputLog.clear]⟩

/-- The numbers increase along the log. -/
theorem Numbered.ids_pairwise {log : OutputLog} {hist : List Output} (h : Numbered log hist) :
    (log.outputs.map Output.id).Pairwise (· < ·) := by
  obtain ⟨-, k, -, hout⟩ := h
  rw [hout, List.map_drop, ids_number]
  exact (List.pairwise_lt_range' (s := 0) (n := hist.length)).drop

end Eval.OutputLog

namespace App

open BqnEdit.Editor BqnEdit.Eval

/-- The outputs a message appends to the log. -/
def Message.appended : Message → List Output
  | .outputs os => os
  | _ => []

namespace Model

/-- The outputs a run of the code appends to the log; none without an editor. -/
def runOutputs (eval : Evaluator) (m : Model) : List Output :=
  match m.code with
  | none => []
  | some code => Eval.run eval Value.display code m.inputFile

@[simp] theorem outputs_pushEffect (m : Model) (e : Effect) : (m.pushEffect e).outputs = m.outputs := by
  unfold pushEffect; split <;> rfl

@[simp] theorem outputs_edit (m : Model) (change : Buffer String → Bool × Buffer String) :
    (m.edit change).outputs = m.outputs := by
  unfold edit
  split
  · rfl
  · split
    split <;> simp

/-- A message appends its outputs to the log, or appends none and clears it. -/
theorem update_outputs_cases (m : Model) (msg : Message) :
    (m.update msg).outputs = m.outputs.append msg.appended ∨
      msg.appended = [] ∧ (m.update msg).outputs = m.outputs.clear := by
  cases msg with
  | outputs os => exact .inl rfl
  | clearOutputs => exact .inr ⟨rfl, rfl⟩
  | run =>
    -- running clears the log unless the outputs persist
    by_cases hp : m.settings.output.persist
    · exact .inl (by simp [update, hp, Message.appended])
    · exact .inr ⟨rfl, by simp [update, hp]⟩
  | setSetting k v =>
    refine .inl ?_
    simp only [update]
    split <;> simp [settingsChanged, Message.appended]
  | _ => exact .inl (by simp [update, settingsChanged, moveIn, Message.appended])

/-- Running the code appends the run's outputs to the log. -/
theorem outputs_runCode (eval : Evaluator) (m : Model) :
    (m.runCode eval).outputs = m.outputs.append (m.runOutputs eval) := by
  cases hc : m.code with
  | none => simp [runCode, runOutputs, hc]
  | some code => simp [runCode, runOutputs, hc, update]

/-- A model reached from a fresh output log by messages and runs of the code, with every
    output appended to its log on the way, in order. -/
inductive Logged : Model → List Output → Prop
  | fresh {m : Model} : m.outputs = {} → Logged m []
  | update {m : Model} {hist : List Output} (msg : Message) :
      Logged m hist → Logged (m.update msg) (hist ++ msg.appended)
  | runCode {m : Model} {hist : List Output} (eval : Evaluator) :
      Logged m hist → Logged (m.runCode eval) (hist ++ m.runOutputs eval)

/-- Every model reached from a fresh log holds the outputs appended since the last clear,
    each numbered by its place among all the outputs appended. -/
theorem Logged.numbered {m : Model} {hist : List Output} (h : Logged m hist) :
    m.outputs.Numbered hist := by
  induction h with
  | fresh h0 => rw [h0]; exact OutputLog.numbered_empty
  | @update m hist msg _ ih =>
    rcases update_outputs_cases m msg with happ | ⟨hnone, hclr⟩
    · rw [happ]
      exact ih.append _
    · rw [hclr, hnone, List.append_nil]
      exact ih.clear
  | @runCode m hist eval _ ih =>
    rw [outputs_runCode]
    exact ih.append _

/-- Running and then running the code leaves the earlier outputs when they persist, or
    nothing, followed by the run's outputs numbered from the log's count on. -/
theorem outputs_run_runCode (m : Model) (eval : Evaluator) {code : String} (hc : m.code = some code) :
    ((m.update .run).runCode eval).outputs.outputs =
      (if m.settings.output.persist then m.outputs.outputs else []) ++
        OutputLog.number m.outputs.nextId (Eval.run eval Value.display code m.inputFile) := by
  have hrun : m.update .run =
      (if m.settings.output.persist then m else { m with outputs := m.outputs.clear }).pushEffect .run :=
    rfl
  have hcode : (m.update .run).code = some code := by
    rw [hrun]
    split <;> simpa [Model.code] using hc
  have hinput : (m.update .run).inputFile = m.inputFile := by
    rw [hrun]
    unfold pushEffect
    split <;> split <;> rfl
  rw [outputs_runCode, runOutputs, hcode, hinput, hrun]
  by_cases hp : m.settings.output.persist <;> simp [hp, OutputLog.append, OutputLog.clear]

/-- In every model reached from a fresh log by messages and runs of the code, the numbers of
    the outputs increase along the log; the log holds the outputs appended since the last
    clear, each numbered by the count of outputs appended before it, so that no number is
    given twice, clear or not; and running and then running the mounted code leaves the
    earlier outputs, kept only when they persist, followed by the run's outputs, in order,
    numbered on from all the outputs appended so far. -/
theorem Logged.outputs_numbered {m : Model} {hist : List Output} (h : Logged m hist) :
    (m.outputs.outputs.map Output.id).Pairwise (· < ·) ∧
      m.outputs.nextId = hist.length ∧
      (∃ k ≤ hist.length, m.outputs.outputs = (OutputLog.number 0 hist).drop k) ∧
      ∀ code eval, m.code = some code →
        ((m.update .run).runCode eval).outputs.outputs =
          (if m.settings.output.persist then m.outputs.outputs else []) ++
            OutputLog.number hist.length (Eval.run eval Value.display code m.inputFile) := by
  have hnum := h.numbered
  refine ⟨hnum.ids_pairwise, hnum.1, hnum.2, fun code eval hc => ?_⟩
  rw [outputs_run_runCode m eval hc, hnum.1]

/-- Two outputs, a clear, and an error: the error is numbered 2. -/
theorem outputs_numbered_after_clear :
    let m := (((Model.new "" {}).update (.outputs [{ text := "1" }, { text := "2" }])).update
      .clearOutputs).update (.outputs [{ text := "boom", error := true }])
    let hist : List Output := [{ text := "1" }, { text := "2" }, { text := "boom", error := true }]
    Logged m hist ∧
      (m.outputs.outputs.map Output.id).Pairwise (· < ·) ∧
      m.outputs.nextId = hist.length ∧
      (∃ k ≤ hist.length, m.outputs.outputs = (OutputLog.number 0 hist).drop k) ∧
      ∀ code eval, m.code = some code →
        ((m.update .run).runCode eval).outputs.outputs =
          (if m.settings.output.persist then m.outputs.outputs else []) ++
            OutputLog.number hist.length (Eval.run eval Value.display code m.inputFile) :=
  have h : Logged _ _ := (((Logged.fresh (m := Model.new "" {}) rfl).update
    (.outputs [{ text := "1" }, { text := "2" }])).update .clearOutputs).update
      (.outputs [{ text := "boom", error := true }])
  ⟨h, h.outputs_numbered⟩

end Model

end App

end BqnEdit
