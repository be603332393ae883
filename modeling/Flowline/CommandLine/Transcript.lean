import Flowline.Log.Line
import Flowline.Log.Threshold
import Flowline.Settings.Basic
import Flowline.World.Basic

/-!
Transcripts: the events of a run of the program with the threads on which they happen, and what the
threads write to the output.
-/

namespace Flowline.CommandLine

/-- Events in order, each with the name of its thread. -/
abbrev Transcript := List (String × Event)

namespace Transcript

def onThread (name : String) (events : List Event) : Transcript := events.map (name, ·)

def events (t : Transcript) : List Event := t.map (·.2)

/-- The threads that take part, in the order of their first events. -/
def threads (t : Transcript) : List String := (t.map (·.1)).eraseDups

end Transcript

/-- How the log is written: which entries, in which format, and with which text for a timestamp. -/
structure LogStyle where
  threshold : Log.Threshold
  format : LogFormat
  timestamp : String

namespace LogStyle

/-- The line of an entry on a thread. -/
def line (style : LogStyle) (thread : String) (e : Log.Entry) : Except Failure String :=
  let record := Log.Record.ofEntry (.int 0) thread e
  match style.format with
  | .json => record.jsonLineAt style.timestamp
  | .text => record.textLine

/-- What an event on a thread writes to the output. -/
def written (style : LogStyle) (thread : String) : Event → String
  | .printed text => text
  | .logged e =>
      if style.threshold.admits e.level then
        match style.line thread e with
        | .ok line => line ++ "\n"
        | .error _ => ""
      else ""
  | _ => ""

/-- What a thread writes to the output. -/
def output (style : LogStyle) (t : Transcript) (thread : String) : String :=
  String.join ((t.filter (·.1 = thread)).map fun e => style.written thread e.2)

end LogStyle

end Flowline.CommandLine
