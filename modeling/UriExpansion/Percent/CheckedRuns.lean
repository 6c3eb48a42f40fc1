import UriExpansion.Percent.Runs
import UriExpansion.Text.Checked

/-!
Encoding in runs, checked as it goes: every run and every escape is a slice of the text.
-/

namespace UriExpansion.Percent

open Text Text.Checked

variable {ε : Type}

namespace RunEncoder

/-- Look at a byte. If an escape starts there, the run under way and the escape are cut out
of the text. -/
def checkedStep (text : List Char) (encoder : RunEncoder) : Checked ε RunEncoder :=
  if startsWithEscape ((Utf8.encode text).drop encoder.position) then do
    let run ← slice text encoder.runStart encoder.position
    let escape ← slice text encoder.position (encoder.position + 3)
    return { output := encoder.output ++ encodeRun (Utf8.encode run) ++ escape
             runStart := encoder.position + 3
             position := encoder.position + 3 }
  else return { encoder with position := encoder.position + 1 }

/-- Write the last run. -/
def checkedFinish (text : List Char) (encoder : RunEncoder) : Checked ε (List Char) := do
  let run ← slice text encoder.runStart (Utf8.size text)
  return encoder.output ++ encodeRun (Utf8.encode run)

end RunEncoder

def checkedEncodeRuns (text : List Char) : Checked ε (List Char) := do
  let encoder ← passAll (Utf8.size text) RunEncoder.position (RunEncoder.checkedStep text) .start
  encoder.checkedFinish text

end UriExpansion.Percent
