import Flowline.Flow.Source
import Flowline.World.Basic

/-!
Loading of the flows in a file.
-/

namespace Flowline.FlowFile

/-- What comes of a file whose text could be read or not. A failure of the system means that the file
is unreadable; bytes that are no text are a failure by themselves. -/
def flowsOf (path : FilePath) : Except Failure String → Except Source.Error (List FlowDefinition)
  | .ok text => Source.flows path.text text
  | .error f =>
      .error (if f.kind.isSystemError then .unreadable path.text f.text else .failure f)

/-- The flows that the file at a path writes. -/
def load (path : FilePath) : Action World (Except Source.Error (List FlowDefinition)) := do
  Action.log .debug .loader "Loading flow file" [("path", .text path.text)]
  let result ← (World.readFile path).fork
    (fun text => .succeed (flowsOf path (.ok text)))
    (fun f => .succeed (flowsOf path (.error f)))
  match result with
  | .ok flows =>
      Action.log .info .loader "Loaded flow file"
        [("path", .text path.text), ("flows", .int flows.length)]
  | .error _ => pure ()
  return result

end Flowline.FlowFile
