import UriExpansion.Percent.Encoding

/-!
Encoding in runs, for text whose escapes are kept. The bytes between two escapes make a
run, which is written as a whole when the escape behind it has been found; the escape
itself is copied. One byte is looked at after the other, and positions count bytes.
-/

namespace UriExpansion.Percent

/-- What a run may hold without escaping, apart from letters and digits. -/
def runMarks : List Char :=
  "-._~:/?#[]@!$&'()*+,;=".toList

def isEscapedInRun (byte : UInt8) : Bool :=
  !((Char.ofUInt8 byte).isAlphanum || runMarks.contains (Char.ofUInt8 byte))

def encodeRun (run : List UInt8) : List Char :=
  run.flatMap fun byte => if isEscapedInRun byte then escape byte else [Char.ofUInt8 byte]

def startsWithEscape : List UInt8 → Bool
  | byte :: rest => byte = 0x25 && startsWithHexPair rest
  | [] => false

/-- What has been written, the place where the run under way starts, and the place of the
byte that is looked at next. -/
structure RunEncoder where
  output : List Char
  runStart : Nat
  position : Nat

namespace RunEncoder

def start : RunEncoder :=
  ⟨[], 0, 0⟩

/-- The bytes that have been passed but not written. -/
def run (encoder : RunEncoder) (bytes : List UInt8) : List UInt8 :=
  (bytes.take encoder.position).drop encoder.runStart

/-- Look at a byte. If an escape starts there, the run under way is over. -/
def step (bytes : List UInt8) (encoder : RunEncoder) : RunEncoder :=
  let ahead := bytes.drop encoder.position
  if startsWithEscape ahead then
    { output := encoder.output ++ encodeRun (encoder.run bytes)
        ++ (ahead.take 3).map Char.ofUInt8
      runStart := encoder.position + 3
      position := encoder.position + 3 }
  else { encoder with position := encoder.position + 1 }

theorem position_lt_step (bytes : List UInt8) (encoder : RunEncoder) :
    encoder.position < (encoder.step bytes).position := by
  fun_cases step bytes encoder
  · exact Nat.lt_add_of_pos_right (by decide)
  · exact Nat.lt_succ_self _

/-- Look at all bytes that are left. -/
def passAll (bytes : List UInt8) (encoder : RunEncoder) : RunEncoder :=
  if encoder.position < bytes.length then passAll bytes (encoder.step bytes) else encoder
termination_by bytes.length - encoder.position
decreasing_by
  have further := encoder.position_lt_step bytes
  omega

/-- Write the last run. -/
def finish (bytes : List UInt8) (encoder : RunEncoder) : List Char :=
  encoder.output ++ encodeRun (bytes.drop encoder.runStart)

end RunEncoder

def encodeRuns (bytes : List UInt8) : List Char :=
  (RunEncoder.start.passAll bytes).finish bytes

end UriExpansion.Percent
