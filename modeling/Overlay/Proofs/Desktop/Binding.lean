import Overlay.Proofs.Compositor.Binding
import Overlay.Proofs.Desktop.Start

/-!
This module contains the outputs on which a desktop comes up. They are just those that a compositor can bind:
once the output is bound, neither the background nor the cursor can fail.
-/

namespace Overlay

namespace Desktop

open Compositor

def unbound (log : Log.Logger) (layout : Layout) (options : Options) : Refusal :=
  ⟨.invalidGeometry, (log.setLevel options.level).post (.backBufferFailed layout .invalidGeometry)⟩

structure StartsOrFails (windows : Windows) (log : Log.Logger) (output : Surface) : Prop where
  up : ¬(output.packedLayout windows).OutOfRange →
    (∀ options, ∃ d, start windows log output options = .ok d)
      ∧ ∀ line, ∃ d, startWith windows log output line = .ok d
  refused : (output.packedLayout windows).OutOfRange →
    (∀ options, start windows log output options
      = .error (unbound log (output.packedLayout windows) options))
      ∧ ∀ line, startWith windows log output line
        = .error ((unbound log (output.packedLayout windows) (.ofCommandLine line)).post
          (.desktopFailed .invalidGeometry))

theorem startsOrFails (windows : Windows) (log : Log.Logger) (output : Surface) :
    StartsOrFails windows log output := by
  have valid_iff := output.valid_iff windows
  constructor
  . intro fits
    have starts := exists_start (valid_iff.mpr fits) log
    refine ⟨starts, ?_⟩
    intro line
    obtain ⟨d, started⟩ := starts (.ofCommandLine line)
    rw [startWith, started]
    exact ⟨d, rfl⟩
  . intro out
    have fails (options : Options) : start windows log output options
        = .error (unbound log (output.packedLayout windows) options) := by
      unfold start
      dsimp only
      rw [setOutput_of_invalid fun valid => valid_iff.mp valid out]
      rfl
    refine ⟨fails, ?_⟩
    intro line
    rw [startWith, fails]
    rfl

/-- After every run of calls, an output is refused just if one of its sizes is zero or too large, and then
nothing but the log ever shows that it was there; else it is bound with a black back buffer of its layout, and
all layers stay. Wherever an output is bound, there also is a back buffer of its layout. A desktop comes up on
just the same outputs, and is refused for the same reason. -/
theorem output_bound_or_refused (windows : Windows) (log : Log.Logger) :
    (∀ calls, let c := (create windows log).performAll calls
      (∀ output, c.BindsOrKeeps output)
        ∧ ∀ output, (∃ t, c.target = some t ∧ t.output = output)
          ↔ ∃ back, c.target = some ⟨output, back⟩ ∧ back.layout = output.packedLayout c.windows)
    ∧ ∀ output, StartsOrFails windows log output := by
  refine ⟨?_, startsOrFails windows log⟩
  intro calls c
  have paired : c.Paired := Paired.performAll (c := create windows log) nofun calls
  refine ⟨c.bindsOrKeeps, ?_⟩
  intro output
  constructor
  . rintro ⟨⟨output, back⟩, bound, rfl⟩
    exact ⟨back, bound, paired _ bound⟩
  . rintro ⟨back, bound, _⟩
    exact ⟨_, bound, rfl⟩

end Desktop
end Overlay
