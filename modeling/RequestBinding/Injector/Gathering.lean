import RequestBinding.Argument
import RequestBinding.Extractor.Target

/-! Arguments under way: what is bound so far and what went wrong so far. -/
namespace RequestBinding

structure Gathering where
  args : CallArgs := {}
  violations : List Violation := []

namespace Gathering

def push (g : Gathering) (pass : Pass) (name : String) (arg : Arg) : Gathering :=
  { g with args := g.args.push pass name arg }

def add (g : Gathering) (pass : Pass) (name : String) (bound : Bound) : Gathering :=
  match bound with
  | .ok arg => g.push pass name arg
  | .error vs => { g with violations := g.violations ++ vs }

def finish (g : Gathering) : Except (List Violation) CallArgs :=
  if g.violations.isEmpty then .ok g.args else .error g.violations

end Gathering

end RequestBinding
