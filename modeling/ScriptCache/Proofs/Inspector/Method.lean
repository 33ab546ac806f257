import ScriptCache.Inspector.Command
import ScriptCache.Proofs.Json.Record

namespace ScriptCache

namespace Command

def method : Command → String
  | .enable => "Debugger.enable"
  | .disable => "Debugger.disable"
  | .setBreakpoint _ _ => "Debugger.setBreakpoint"
  | .setBreakpointByUrl _ _ _ _ _ => "Debugger.setBreakpointByUrl"
  | .removeBreakpoint _ => "Debugger.removeBreakpoint"
  | .getPossibleBreakpoints _ _ => "Debugger.getPossibleBreakpoints"
  | .getScriptSource _ => "Debugger.getScriptSource"
  | .pause => "Debugger.pause"
  | .resume => "Debugger.resume"
  | .step .into => "Debugger.stepInto"
  | .step .over => "Debugger.stepOver"
  | .step .out => "Debugger.stepOut"
  | .evaluateOnCallFrame _ _ => "Debugger.evaluateOnCallFrame"
  | .setPauseOnExceptions _ => "Debugger.setPauseOnExceptions"
  | .getProperties _ _ _ => "Runtime.getProperties"
  | .drainEvents => "Inspector.drainEvents"

def anytime : Command → Bool
  | .enable => true
  | .getProperties _ _ _ => true
  | .drainEvents => true
  | _ => false

theorem needsEnabled_method (c : Command) : needsEnabled c.method = !c.anytime := by
  cases c with
  | step kind => cases kind <;> decide +kernel
  | _ =>
    simp only [method, anytime]
    decide +kernel

theorem method_of_ofParams {r : Record Command} {title name : String} {params : Json} {c : Command}
    (h : ofParams (Record.decoder title r) params = .ok c)
    (hr : r.Always fun c => c.method = name) : c.method = name :=
  hr.decoder title (Record.mapError_eq_ok h)

open Record (always_map)

theorem method_of_ofMethod {name : String} {params : Json} {c : Command}
    (h : ofMethod name params = .ok c) : c.method = name := by
  unfold ofMethod at h
  split at h
  -- the methods with parameters, in the order in which they are looked for
  case h_3 => exact method_of_ofParams h (always_map fun _ _ => rfl).seq
  case h_4 => exact method_of_ofParams h (always_map fun _ _ _ _ _ => rfl).seq.seq.seq.seq
  case h_5 => exact method_of_ofParams h (always_map fun _ => rfl)
  case h_6 => exact method_of_ofParams h (always_map fun _ _ _ => rfl).seq.seq
  case h_7 => exact method_of_ofParams h (always_map fun _ => rfl)
  case h_13 => exact method_of_ofParams h (always_map fun _ _ _ _ _ => rfl).seq.seq.seq.seq
  case h_14 => exact method_of_ofParams h (always_map fun _ => rfl)
  case h_15 => exact method_of_ofParams h (always_map fun _ _ _ => rfl).seq.seq
  case h_17 => cases h
  all_goals
    cases h
    rfl

end Command

end ScriptCache
