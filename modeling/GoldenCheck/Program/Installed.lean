import GoldenCheck.Shell.Start
import GoldenCheck.Tools.Cat
import GoldenCheck.Tools.Cmp
import GoldenCheck.Tools.Diff.Compare
import GoldenCheck.Tools.Rm
import GoldenCheck.Tools.Sleep
import GoldenCheck.Tools.Touch

/-!
# The programs that are installed

The shell, under two names, and the tools that engines and comparisons are made of. The shell starts
programs in its turn, each of them one step further away from the first one.
-/

namespace GoldenCheck

namespace Program

/-- The program that does nothing and ends with a status. Alone, an option for help is obeyed. -/
def constant (status : Nat) : Program := fun argv _ => do
  match argv with
  | [name, option] =>
    if option = Utf8.encode "--help" ∨ option = Utf8.encode "--version" then
      let usage := Utf8.encode "Usage: " ++ name ++ Utf8.encode " [ignored command line arguments]\n"
      let _ ← Task.write Tools.outputDescriptor usage
  | _ => pure ()
  return .exited status

/-- The tools by their names. -/
def tool? : Programs
  | "true" => some (constant 0)
  | "false" => some (constant 1)
  | "sleep" => some Tools.sleep.program
  | "cat" => some Tools.cat.program
  | "rm" => some Tools.rm.program
  | "touch" => some Tools.touch.program
  | "cmp" => some Tools.cmp.program
  | "diff" => some Tools.diff.program
  | _ => none

/-- The programs by their names, as far as a program can start them that is so many steps from the
last one that can start any. -/
def installed : Nat → Programs
  | 0 => fun _ => none
  | steps + 1 => fun name =>
    if name = "sh" ∨ name = "dash" then some (Shell.start (installed steps)) else tool? name

/-- How many programs can be started one by the other. -/
def chainLimit : Nat := 10000

end Program

end GoldenCheck
