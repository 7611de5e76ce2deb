import Mathlib.Data.List.Basic
import Mathlib.Data.List.Induction
import Overlay.Log.Logger

/-!
This module contains the runs of a logger. Each line that is let through when it comes is delivered to the
backend that was registered last, or counted if there was none, and no other line leaves a trace.
-/

namespace Overlay
namespace Log
namespace Logger

inductive Call where
  | register (backend : String)
  | resetLevel
  | setLevel (level : Level)
  | write (level : Level) (line : String)
  deriving DecidableEq

def perform (log : Logger) : Call → Logger
  | .register backend => log.register backend
  | .resetLevel => log.resetLevel
  | .setLevel level => log.setLevel level
  | .write level line => log.write level line

def performAll (log : Logger) (calls : List Call) : Logger := calls.foldl perform log

namespace Call

def level? : Call → Option Level
  | .resetLevel => some .info
  | .setLevel level => some level
  | .register _ | .write .. => none

def backend? : Call → Option String
  | .register backend => some backend
  | .resetLevel | .setLevel _ | .write .. => none

end Call

def levelAfter (calls : List Call) : Level := (calls.filterMap Call.level?).getLast?.getD .info

def backendAfter (calls : List Call) : Option String := (calls.filterMap Call.backend?).getLast?

/-- A line that is let through, and the backend that is registered when it comes. -/
structure Entry where
  backend : Option String
  line : String
  deriving DecidableEq

def Entry.delivery? (e : Entry) : Option Delivery := e.backend.map (⟨·, e.line⟩)

def letThrough? (before : List Call) : Call → Option Entry
  | .write level line =>
    if level.rank ≤ (levelAfter before).rank then some ⟨backendAfter before, line⟩ else none
  | .register _ | .resetLevel | .setLevel _ => none

/-- The lines of a run that are let through, in order. Each is judged by the calls before it. -/
def entries (calls : List Call) : List Entry :=
  (List.range calls.length).filterMap fun i => calls[i]?.bind (letThrough? (calls.take i))

variable {log : Logger} {calls before after : List Call} {call : Call}

theorem performAll_concat (log : Logger) (calls : List Call) (call : Call) :
    log.performAll (calls ++ [call]) = (log.performAll calls).perform call := by
  rw [performAll, List.foldl_append, performAll, List.foldl_cons, List.foldl_nil]

theorem levelAfter_concat (calls : List Call) (call : Call) :
    levelAfter (calls ++ [call]) = call.level?.getD (levelAfter calls) := by
  rw [levelAfter, List.filterMap_append, levelAfter]
  cases said : call.level? <;> simp [said]

theorem backendAfter_concat (calls : List Call) (call : Call) :
    backendAfter (calls ++ [call]) = call.backend?.or (backendAfter calls) := by
  rw [backendAfter, List.filterMap_append, backendAfter]
  cases named : call.backend? <;> simp [named]

theorem entries_concat (calls : List Call) (call : Call) :
    entries (calls ++ [call]) = entries calls ++ (letThrough? calls call).toList := by
  have earlier : ∀ i ∈ List.range calls.length,
      (calls ++ [call])[i]?.bind (letThrough? ((calls ++ [call]).take i))
        = calls[i]?.bind (letThrough? (calls.take i)) := by
    intro i mem
    have lt : i < calls.length := List.mem_range.mp mem
    rw [List.getElem?_append_left lt, List.take_append_of_le_length (Nat.le_of_lt lt)]
  rw [entries, List.length_append, List.length_singleton, List.range_succ, List.filterMap_append,
    List.filterMap_congr earlier, entries]
  congr 1
  cases said : letThrough? calls call <;> simp [said]

theorem letThrough?_write (before : List Call) (level : Level) (line : String) :
    letThrough? before (.write level line)
      =
    if level.rank ≤ (levelAfter before).rank then some ⟨backendAfter before, line⟩ else none :=
  rfl

theorem level_dispatch (log : Logger) (line : String) : (log.dispatch line).level = log.level := by
  unfold dispatch
  split <;> rfl

theorem backend_dispatch (log : Logger) (line : String) : (log.dispatch line).backend = log.backend := by
  unfold dispatch
  split <;> rfl

theorem delivered_dispatch (log : Logger) (line : String) :
    (log.dispatch line).delivered = log.delivered ++ [Entry.mk log.backend line].filterMap Entry.delivery? := by
  unfold dispatch
  cases log.backend with
  | none => exact (List.append_nil _).symm
  | some backend => rfl

theorem dropped_dispatch (log : Logger) (line : String) :
    (log.dispatch line).dropped = log.dropped + [Entry.mk log.backend line].countP (·.backend.isNone) := by
  unfold dispatch
  cases log.backend with
  | none => rfl
  | some backend => rfl

structure Accounts (calls : List Call) (log : Logger) : Prop where
  level : log.level = levelAfter calls
  backend : log.backend = backendAfter calls
  delivered : log.delivered = (entries calls).filterMap Entry.delivery?
  dropped : log.dropped = (entries calls).countP (·.backend.isNone)

structure Written (before : List Call) (level : Level) (line : String) (log log' : Logger) : Prop where
  delivered (backend : String) : level.rank ≤ (levelAfter before).rank → backendAfter before = some backend →
    log' = { log with delivered := log.delivered ++ [⟨backend, line⟩] }
  dropped : level.rank ≤ (levelAfter before).rank → backendAfter before = none →
    log' = { log with dropped := log.dropped + 1 }
  ignored : ¬ level.rank ≤ (levelAfter before).rank → log' = log

namespace Accounts

theorem fresh : Accounts [] fresh := ⟨rfl, rfl, rfl, rfl⟩

theorem admits (h : Accounts calls log) (level : Level) :
    log.admits level = true ↔ level.rank ≤ (levelAfter calls).rank := by
  rw [Logger.admits, decide_eq_true_iff, h.level]

theorem write (h : Accounts calls log) (level : Level) (line : String) :
    Written calls level line log (log.write level line) where
  delivered backend admitted registered := by
    rw [Logger.write, if_pos ((h.admits level).mpr admitted), dispatch, h.backend, registered]
  dropped admitted unregistered := by
    rw [Logger.write, if_pos ((h.admits level).mpr admitted), dispatch, h.backend, unregistered]
  ignored refused := by rw [Logger.write, if_neg (mt (h.admits level).mp refused)]

theorem settings (h : Accounts calls log) {log' : Logger} (silent : letThrough? calls call = none)
    (level : log'.level = call.level?.getD log.level) (backend : log'.backend = call.backend?.or log.backend)
    (delivered : log'.delivered = log.delivered) (dropped : log'.dropped = log.dropped) :
    Accounts (calls ++ [call]) log' := by
  have same : entries (calls ++ [call]) = entries calls := by
    rw [entries_concat, silent, Option.toList_none, List.append_nil]
  constructor
  . rw [level, levelAfter_concat, h.level]
  . rw [backend, backendAfter_concat, h.backend]
  . rw [delivered, same, h.delivered]
  . rw [dropped, same, h.dropped]

theorem perform (h : Accounts calls log) (call : Call) : Accounts (calls ++ [call]) (log.perform call) := by
  cases call with
  | register backend => exact h.settings rfl rfl rfl rfl rfl
  | resetLevel => exact h.settings rfl rfl rfl rfl rfl
  | setLevel level => exact h.settings rfl rfl rfl rfl rfl
  | write level line =>
    by_cases admitted : level.rank ≤ (levelAfter calls).rank
    . have more : entries (calls ++ [.write level line]) = entries calls ++ [⟨backendAfter calls, line⟩] := by
        rw [entries_concat, letThrough?_write, if_pos admitted, Option.toList_some]
      rw [Logger.perform, Logger.write, if_pos ((h.admits level).mpr admitted)]
      constructor
      . rw [level_dispatch, levelAfter_concat, h.level]
        rfl
      . rw [backend_dispatch, backendAfter_concat, h.backend]
        rfl
      . rw [delivered_dispatch, more, List.filterMap_append, h.backend, h.delivered]
      . rw [dropped_dispatch, more, List.countP_append, h.backend, h.dropped]
    . have silent : letThrough? calls (.write level line) = none := by rw [letThrough?_write, if_neg admitted]
      rw [Logger.perform, (h.write level line).ignored admitted]
      exact h.settings silent rfl rfl rfl rfl

theorem performAll (calls : List Call) : Accounts calls (Logger.fresh.performAll calls) := by
  -- Induction on the last call: what is in force when a line comes depends on the calls before it.
  induction calls using List.reverseRecOn with
  | nil => exact fresh
  | append_singleton calls call ih =>
    rw [performAll_concat]
    exact ih.perform call

end Accounts

theorem length_delivered_add_dropped (entries : List Entry) :
    (entries.filterMap Entry.delivery?).length + entries.countP (·.backend.isNone) = entries.length := by
  induction entries with
  | nil => rfl
  | cons e entries ih =>
    obtain ⟨backend, line⟩ := e
    cases backend with
    | none =>
      rw [List.filterMap_cons_none rfl, List.countP_cons_of_pos rfl, List.length_cons]
      omega
    | some backend =>
      have sent : Entry.delivery? ⟨some backend, line⟩ = some ⟨backend, line⟩ := rfl
      rw [List.filterMap_cons_some sent, List.countP_cons_of_neg (by simp), List.length_cons, List.length_cons]
      omega

theorem dropped_perform (registered : log.backend.isSome) (call : Call) :
    (log.perform call).dropped = log.dropped ∧ (log.perform call).backend.isSome := by
  cases call with
  | register backend => exact ⟨rfl, rfl⟩
  | resetLevel => exact ⟨rfl, registered⟩
  | setLevel level => exact ⟨rfl, registered⟩
  | write level line =>
    obtain ⟨backend, backend_eq⟩ := Option.isSome_iff_exists.mp registered
    rw [perform, write, dispatch, backend_eq]
    split
    . exact ⟨rfl, rfl⟩
    . exact ⟨rfl, registered⟩

theorem dropped_performAll (registered : log.backend.isSome) (calls : List Call) :
    (log.performAll calls).dropped = log.dropped := by
  induction calls generalizing log with
  | nil => rfl
  | cons call calls ih =>
    have step := dropped_perform registered call
    exact (ih step.right).trans step.left

/-- In each run each line that is let through is delivered once, to the backend registered last, or counted as
dropped if there was none, which after the first registration is never so. Other lines change nothing. -/
theorem delivered_or_dropped (calls : List Call) :
    let log := fresh.performAll calls
    (∀ before level line after, calls = before ++ .write level line :: after →
      Written before level line (fresh.performAll before) (fresh.performAll (before ++ [.write level line])))
      ∧
    log.delivered = (entries calls).filterMap Entry.delivery?
      ∧
    log.dropped = (entries calls).countP (·.backend.isNone)
      ∧
    log.delivered.length + log.dropped = (entries calls).length
      ∧
    ∀ before backend after, calls = before ++ .register backend :: after →
      log.dropped = (fresh.performAll before).dropped := by
  intro log
  have account : Accounts calls log := Accounts.performAll calls
  refine ⟨?_, account.delivered, account.dropped, ?_, ?_⟩
  . intro before level line after _
    rw [performAll_concat]
    exact (Accounts.performAll before).write level line
  . rw [account.delivered, account.dropped, length_delivered_add_dropped]
  . intro before backend after split
    have tail : log = ((fresh.performAll before).register backend).performAll after := by
      rw [show log = fresh.performAll calls from rfl, split, performAll, List.foldl_append, List.foldl_cons]
      rfl
    rw [tail, dropped_performAll rfl after]
    rfl

example :
    let log := fresh.performAll
      [.write .error "a", .write .debug "b", .register "x", .setLevel .debug, .write .debug "c",
        .register "y", .write .warn "d", .resetLevel, .write .debug "e"]
    log.delivered = [⟨"x", "c"⟩, ⟨"y", "d"⟩] ∧ log.dropped = 1 := by
  decide

end Logger
end Log
end Overlay
