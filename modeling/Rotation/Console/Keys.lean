import Rotation.Console.Control
import Rotation.Console.Input

/-!
# Keys at the console

What the console does when a user presses a key or turns the wheel of the
mouse.  A dialog takes all keys while it is open.
-/

namespace Rotation.Console

/-- Do what an answer to the dialog asks for. -/
def answer (c : Console) (d : Dialog) : Input → Console
  | .left | .right | .tab => c.toggleAnswer
  | .char 'y' | .char 'Y' => c.closeDialog.quit
  | .char 'n' | .char 'N' | .escape => c.closeDialog
  | .enter => if d.yes then c.closeDialog.quit else c.closeDialog
  | _ => c

/-- Do what an input asks for while no dialog is open. -/
def command (c : Console) (time : String) : Input → Checked Console
  | .char 'q' | .char 'Q' => return c.requestQuit
  | .up | .char 'k' | .char 'K' => return c.up
  | .down | .char 'j' | .char 'J' => return c.down
  | .enter | .char 's' | .char 'S' => c.startOrStop time
  | .char 'p' | .char 'P' | .char ' ' => return c.togglePause
  | .char 'n' | .char 'N' => return c.step
  | .char 'v' | .char 'V' => return c.validate
  | .char 'l' | .char 'L' => return c.toggleLog
  | _ => return c

/-- How far the wheel moves the log. -/
def wheelLines : Nat :=
  3

/-- Do what an input asks for. -/
def receive (c : Console) (time : String) (input : Input) : Checked Console :=
  match input, c.dialog with
  | .wheelUp, _ => return c.scrollUp wheelLines
  | .wheelDown, _ => return c.scrollDown wheelLines
  | _, some d => return c.answer d input
  | _, none => c.command time input

end Rotation.Console
