import Overlay.Proofs.Desktop.Binding
import Overlay.Proofs.Log.Warned

/-!
This module contains the constructions that can fail, and which of them say so. All failures come with a warning
but two: that of a screen which is sound but covers too much memory, and that of a window of a desktop.
-/

namespace Overlay

open Log (Logger Warned)

structure Told (Silent : Prop) (log : Logger) (refusal : Refusal) : Prop where
  warned_iff : Warned log refusal.log ↔ ¬Silent
  unsaid : Silent → refusal = ⟨.invalidGeometry, log⟩

namespace Told

variable {Silent : Prop} {log : Logger} {refusal : Refusal}

theorem of_warned (warned : Warned log refusal.log) (aloud : ¬Silent) : Told Silent log refusal where
  warned_iff := ⟨fun _ => aloud, fun _ => warned⟩
  unsaid silent := absurd silent aloud

theorem of_post {notice : Log.Notice} (warning : notice.level = .warn) (admits : log.admits .warn = true)
    (aloud : ¬Silent) (error : SurfaceError) : Told Silent log ⟨error, log.post notice⟩ :=
  .of_warned (.of_posted warning admits []) aloud

theorem of_silent (silent : Silent) (log : Logger) : Told Silent log ⟨.invalidGeometry, log⟩ where
  warned_iff := ⟨fun warned => absurd warned (Warned.irrefl log), fun aloud => absurd silent aloud⟩
  unsaid _ := rfl

end Told

namespace Screen

variable {mapped : Bool} {layout : Layout} {log : Logger} {refusal : Refusal}

structure Oversized (mapped : Bool) (layout : Layout) : Prop where
  mapped : mapped = true
  valid : layout.Valid
  width : minWidth ≤ layout.width
  height : minHeight ≤ layout.height
  size : maxBytes < layout.byteSize

theorem told_ofLayout (fails : ofLayout log mapped layout = .error refusal) (admits : log.admits .warn = true) :
    Told (Oversized mapped layout) log refusal := by
  unfold ofLayout at fails
  split at fails
  . next unmapped =>
    cases fails
    refine .of_post rfl admits ?_ _
    intro oversized
    rw [oversized.mapped] at unmapped
    contradiction
  . next mapped' =>
    split at fails
    . next sound =>
      obtain ⟨valid, width, height⟩ := sound
      split at fails
      . cases fails
      . next size =>
        cases fails
        exact .of_silent ⟨by simpa using mapped', valid, width, height, Nat.lt_of_not_le size⟩ log
    . next unsound =>
      cases fails
      refine .of_post rfl admits ?_ _
      intro oversized
      exact unsound ⟨oversized.valid, oversized.width, oversized.height⟩

theorem ofLayout_oversized (oversized : Oversized mapped layout) (log : Logger) :
    ofLayout log mapped layout = .error ⟨.invalidGeometry, log⟩ := by
  have sound : layout.Valid ∧ minWidth ≤ layout.width ∧ minHeight ≤ layout.height :=
    ⟨oversized.valid, oversized.width, oversized.height⟩
  rw [ofLayout, oversized.mapped, dif_pos sound, if_neg (Nat.not_le_of_lt oversized.size)]
  rfl

end Screen

inductive Construction where
  | screen (log : Logger) (mapped : Bool) (layout : Layout)
  | screenOfCode (log : Logger) (mapped : Bool) (width height pitch code : Nat)
  | output (c : Compositor) (output : Surface)
  | desktop (windows : Windows) (log : Logger) (output : Surface) (options : Options)
  | desktopWith (windows : Windows) (log : Logger) (output : Surface) (line : String)
  | window (d : Desktop) (width height : Nat)

namespace Construction

/-- The log at the level that is in force. A desktop sets its level first. -/
def log : Construction → Logger
  | .screen log _ _ => log
  | .screenOfCode log .. => log
  | .output c _ => c.log
  | .desktop _ log _ options => log.setLevel options.level
  | .desktopWith _ log _ line => log.setLevel (Options.ofCommandLine line).level
  | .window d _ _ => d.compositor.log

inductive Fails : Construction → Refusal → Prop where
  | screen {log mapped layout refusal} (fails : Screen.ofLayout log mapped layout = .error refusal) :
    Fails (.screen log mapped layout) refusal
  | screenOfCode {log mapped width height pitch code refusal}
    (fails : Screen.ofCode log mapped width height pitch code = .error refusal) :
    Fails (.screenOfCode log mapped width height pitch code) refusal
  | output {c output c' error} (fails : c.setOutput output = (c', .error error)) :
    Fails (.output c output) ⟨error, c'.log⟩
  | desktop {windows log output options refusal}
    (fails : Desktop.start windows log output options = .error refusal) :
    Fails (.desktop windows log output options) refusal
  | desktopWith {windows log output line refusal}
    (fails : Desktop.startWith windows log output line = .error refusal) :
    Fails (.desktopWith windows log output line) refusal
  | window {d width height error} (fails : d.newWindow width height = .error error) :
    Fails (.window d width height) ⟨error, d.compositor.log⟩

def Silent : Construction → Prop
  | .screen _ mapped layout => Screen.Oversized mapped layout
  | .screenOfCode _ mapped width height pitch code =>
    ∃ format, PixelFormat.ofCode? code = some format ∧ Screen.Oversized mapped ⟨width, height, pitch, format⟩
  | .window .. => True
  | _ => False

variable {k : Construction} {refusal : Refusal}

theorem told_screenOfCode {log : Logger} {mapped : Bool} {width height pitch code : Nat}
    (fails : Screen.ofCode log mapped width height pitch code = .error refusal)
    (admits : log.admits .warn = true) :
    Told (screenOfCode log mapped width height pitch code).Silent log refusal := by
  unfold Screen.ofCode at fails
  unfold Silent
  split at fails
  . next unknown =>
    cases fails
    refine .of_post rfl admits ?_ _
    rintro ⟨format, known, _⟩
    rw [unknown] at known
    contradiction
  . next format known => simpa [known] using Screen.told_ofLayout fails admits

theorem told_output {c c' : Compositor} {output : Surface} {error : SurfaceError}
    (fails : c.setOutput output = (c', .error error)) (admits : c.log.admits .warn = true) :
    Told False c.log ⟨error, c'.log⟩ := by
  by_cases valid : (output.packedLayout c.windows).Valid
  . obtain ⟨back, _, bound⟩ := Compositor.setOutput_of_valid valid
    rw [bound] at fails
    cases fails
  . rw [Compositor.setOutput_of_invalid valid] at fails
    cases fails
    exact .of_post rfl admits id _

section

variable {windows : Windows} {log : Logger} {output : Surface}

theorem told_desktop {options : Options}
    (fails : Desktop.start windows log output options = .error refusal)
    (admits : (log.setLevel options.level).admits .warn = true) :
    Told False (log.setLevel options.level) refusal := by
  have starts := Desktop.startsOrFails windows log output
  by_cases out : (output.packedLayout windows).OutOfRange
  . rw [(starts.refused out).1] at fails
    cases fails
    exact .of_post rfl admits id _
  . obtain ⟨d, up⟩ := (starts.up out).1 options
    rw [up] at fails
    cases fails

theorem told_desktopWith {line : String}
    (fails : Desktop.startWith windows log output line = .error refusal)
    (admits : (log.setLevel (Options.ofCommandLine line).level).admits .warn = true) :
    Told False (log.setLevel (Options.ofCommandLine line).level) refusal := by
  have starts := Desktop.startsOrFails windows log output
  by_cases out : (output.packedLayout windows).OutOfRange
  . rw [(starts.refused out).2] at fails
    cases fails
    exact .of_warned (.of_posted rfl admits [.desktopFailed .invalidGeometry]) id
  . obtain ⟨d, up⟩ := (starts.up out).2 line
    rw [up] at fails
    cases fails

end

theorem told_window {d : Desktop} {width height : Nat} {error : SurfaceError}
    (fails : d.newWindow width height = .error error) : Told True d.compositor.log ⟨error, d.compositor.log⟩ := by
  unfold Desktop.newWindow Window.black? at fails
  split at fails
  . next refused =>
    split at refused
    . cases refused
    . cases refused
      cases fails
      exact .of_silent trivial _
  . cases fails

end Construction
end Overlay
