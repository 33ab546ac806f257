import Mathlib
import ScriptCache.Inspector.Dispatch
import ScriptCache.Proofs.Inspector.Schema.Records

namespace ScriptCache

open Record (reads_field reads_absent)

def BreakLocation.place (l : BreakLocation) : Location :=
  ⟨l.scriptId, l.lineNumber, l.columnNumber⟩

namespace BreakLocation

theorem decodes_place (l : BreakLocation) : Location.decoder.Decodes l.toJson l.place := by
  obtain ⟨id,line,column,kind⟩ := l
  cases kind with
  | none => exact Location.decodes ⟨id,line,column⟩
  | some kind =>
    exact Location.decodes_among ⟨id,line,column⟩ (List.nodup_singleton "type")
      (by simp [Json.optionalField])

def toSet (l : BreakLocation) (condition : Option String) : Json :=
  .object (("location", l.toJson) :: Json.optionalField "condition" .string condition)

end BreakLocation

def Location.toList (start : Location) (stop : Option Location) : Json :=
  .object (("start", start.toJson) :: Json.optionalField "end" Location.toJson stop)

namespace Command

theorem ofParams_object (read : Decoder Command) (fields : List (String × Json)) :
    ofParams read (.object fields) =
      (read.run (.object fields)).mapError fun e => .invalidParams e.message :=
  rfl

theorem ofMethod_toSet (l : BreakLocation) (condition : Option String) :
    ofMethod "Debugger.setBreakpoint" (l.toSet condition) =
      .ok (.setBreakpoint l.place condition) := by
  have hread : setBreakpointDecoder.Decodes (l.toSet condition) (.setBreakpoint l.place condition) :=
    (((reads_field _ l.decodes_place).map _).seq (reads_text _ condition)).decodes (by decide) _
  change ofParams setBreakpointDecoder (l.toSet condition) = _
  rw [BreakLocation.toSet, ofParams_object, ← BreakLocation.toSet, hread.run_eq_ok]
  rfl

theorem ofMethod_toList (start : Location) (stop : Option Location) :
    ofMethod "Debugger.getPossibleBreakpoints" (start.toList stop) =
      .ok (.getPossibleBreakpoints start stop) := by
  have hread : getPossibleBreakpointsDecoder.Decodes (start.toList stop)
      (.getPossibleBreakpoints start stop) :=
    Record.Reads.decodes (Record.Reads.of_eq ((((reads_field _ (Location.decodes start)).map _).seq
      (reads_optional_self Location.decodes (fun _ => nofun) stop)).seq
      (reads_absent false _ _)) (List.append_nil _)) (by decide) _
  change ofParams getPossibleBreakpointsDecoder (start.toList stop) = _
  rw [Location.toList, ofParams_object, ← Location.toList, hread.run_eq_ok]
  rfl

end Command

end ScriptCache
