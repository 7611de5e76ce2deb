import Overlay.Log.Notice

/-!
This module contains what a log has after some reports: exactly the lines of those that are let through, in order,
with the backend or counted as dropped. A log is warned if one of them is a warning.
-/

namespace Overlay
namespace Log

namespace Logger

def postAll (log : Logger) (notices : List Notice) : Logger := notices.foldl post log

def admitted (log : Logger) (notices : List Notice) : List Notice := notices.filter (log.admits ·.level)

/-- A log after some lines, whatever their level. -/
def gain (log : Logger) (lines : List String) : Logger :=
  match log.backend with
  | some backend => { log with delivered := log.delivered ++ lines.map (⟨backend, ·⟩) }
  | none => { log with dropped := log.dropped + lines.length }

theorem gain_nil (log : Logger) : log.gain [] = log := by
  obtain ⟨level, backend, dropped, delivered⟩ := log
  cases backend <;> simp [gain]

theorem gain_cons (log : Logger) (line : String) (lines : List String) :
    log.gain (line :: lines) = (log.dispatch line).gain lines := by
  obtain ⟨level, backend, dropped, delivered⟩ := log
  cases backend with
  | none => simp [gain, dispatch, Nat.add_right_comm, Nat.add_assoc]
  | some backend => simp [gain, dispatch]

theorem eq_nil_of_gain_eq {log : Logger} {lines : List String} (same : log.gain lines = log) : lines = [] := by
  obtain ⟨level, backend, dropped, delivered⟩ := log
  cases backend <;> simpa [gain] using same

theorem admits_dispatch (log : Logger) (line : String) : (log.dispatch line).admits = log.admits := by
  unfold dispatch
  split <;> rfl

theorem postAll_eq_gain (log : Logger) (notices : List Notice) :
    log.postAll notices = log.gain ((log.admitted notices).map Notice.text) := by
  induction notices generalizing log with
  | nil => exact (gain_nil log).symm
  | cons notice notices ih =>
    have step : log.postAll (notice :: notices) = (log.post notice).postAll notices := rfl
    rw [step, ih, admitted, admitted, post, write]
    cases admits : log.admits notice.level with
    | true => simp [admits, gain_cons, admits_dispatch]
    | false => simp [admits]

end Logger

variable {log log' : Logger}

def Warned (log log' : Logger) : Prop :=
  ∃ notices, log' = log.postAll notices ∧ ∃ notice ∈ log.admitted notices, notice.level = .warn

namespace Warned

theorem exists_gain (warned : Warned log log') :
    ∃ lines, log' = log.gain lines ∧ ∃ notice : Notice, notice.level = .warn ∧ notice.text ∈ lines := by
  obtain ⟨notices, rfl, notice, mem, warning⟩ := warned
  exact ⟨_, log.postAll_eq_gain notices, notice, warning, List.mem_map_of_mem mem⟩

theorem irrefl (log : Logger) : ¬Warned log log := by
  intro warned
  obtain ⟨lines, same, notice, _, mem⟩ := warned.exists_gain
  rw [Logger.eq_nil_of_gain_eq same.symm] at mem
  contradiction

theorem of_posted {notice : Notice} (warning : notice.level = .warn) (admits : log.admits .warn = true)
    (later : List Notice) : Warned log (log.postAll (notice :: later)) := by
  rw [← warning] at admits
  exact ⟨notice :: later, rfl, notice, List.mem_filter.mpr ⟨List.mem_cons_self, admits⟩, warning⟩

end Warned
end Log
end Overlay
