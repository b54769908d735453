import Assay.Shell.Builtin.Basic
import Assay.Shell.Condition

/-!
# Printing and conditions

`echo` and `printf` print, and `test` finds out whether a condition holds.
-/

namespace Assay.Shell

/-- `echo`. -/
def echo : Utility := fun args => do
  write 1 ⟨(echoed args).bytes.toArray⟩
  return 0

/-- `printf`. -/
def printf : Utility :=
  withLetters "" "" fun o => do
    match o.operands with
    | format :: args =>
      let f := formatted format args
      write 1 ⟨f.bytes.toArray⟩
      for fault in f.faults do complainAt fault
      return f.status
    | [] => fatal "usage: printf format [arg ...]"

/-- `test`. -/
def test : Utility := fun args => do
  match condition (← get) args with
  | .ok holds => return if holds then 0 else 1
  | .error fault => fatal fault.message

/-- `test` between brackets. -/
def bracket : Utility := fun args =>
  if args.getLast? = some "]" then test args.dropLast else fatal "missing ]"

end Assay.Shell
