import ConfigBrowser.Host.Basic
import ConfigBrowser.Host.Script

/-!
# Running Commands

What each command of a script asks of the host. A decision goes to the newest open dialog; without
one it does nothing.
-/

namespace ConfigBrowser.Host

variable {σ η : Type}

/-- The newest open dialog. -/
def newestDialog? (h : Host σ η) : Option Ticket := h.dialogs.keys.getLast?

variable [RemoteStore σ] [HistoryStore η]

/-- Decides on the newest open dialog, if there is one. -/
def resolveNewest (h : Host σ η) (decision : DialogDecision) : Except Error Unit × Host σ η :=
  match h.newestDialog? with
  | some dialog => h.resolveDialog dialog decision
  | none => (.ok (), h)

/-- Runs a command. -/
def run (h : Host σ η) : Command → Except Error Unit × Host σ η
  | .navigate path => h.navigate path
  | .press button => h.press button
  | .confirm fields => h.resolveNewest (.confirmed fields)
  | .cancel => h.resolveNewest .cancelled
  | .edit => h.requestEdit
  | .reset => h.dispatch .sessionReset
  | .timers =>
    let (outcome, h) := h.fireTimers
    (outcome.map fun _ => (), h)
  | .defer on => (.ok (), h.setDeferred on)
  | .release (some ticket) =>
    let (outcome, h) := h.release ticket
    (outcome.map fun _ => (), h)
  | .release none => h.releaseAll

end ConfigBrowser.Host
