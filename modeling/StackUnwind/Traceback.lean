import StackUnwind.Frame

/-!
# Tracebacks

One line a frame, innermost first; printed with the most recent call last.
-/
namespace StackUnwind

structure TracebackEntry where
  functionId : Word
  name : String
  file : String
  line? : Option UInt32
  deriving DecidableEq, Repr

def TracebackEntry.ofFrame (info : FrameInfo) (statement? : Option Statement) : TracebackEntry :=
  ⟨info.functionId, info.name, info.file, statement?.map Statement.line⟩

/-- The line of a frame, if it runs a function. -/
def TracebackEntry.lineOf? (hooks : Hooks) (frame : Frame) : Option TracebackEntry :=
  (hooks.frameInfo frame).map fun info => .ofFrame info (hooks.statement frame)

def TracebackEntry.text (entry : TracebackEntry) : String :=
  let line := match entry.line? with
    | some line => s!", line {line}"
    | none => ""
  s!"  File \"{entry.file}\"{line}, in {entry.name}\n"

abbrev Traceback := List TracebackEntry

def Traceback.text (traceback : Traceback) : String :=
  "Traceback (most recent call last):\n" ++
    String.join (traceback.reverse.map TracebackEntry.text)

end StackUnwind
