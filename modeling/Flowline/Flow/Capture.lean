import Flowline.Failure
import Flowline.Pattern.Matcher

/-!
Capturing a part of a text by a pattern: the first group of the first match.
-/

namespace Flowline

/-- The failure to read a pattern: a broken definition, except for a bound or flags that no pattern can
have. -/
def patternFailure (pattern : String) (e : Pattern.Error) : Failure :=
  let text := e.message pattern
  match e with
  | .invalid .. =>
      .flowFrom .invalidPattern ("invalid regex " ++ Text.quoted pattern ++ ": " ++ text)
        (.general .pattern text)
  | .tooManyRepeats | .codeTooLarge => .general .overflow text
  | .classFlagsClash | .longNumber _ => .general .value text

/-- What the first group of the first match of a pattern captures. -/
def capture (pattern text : String) : Except Failure String :=
  match Pattern.parse pattern with
  | .error e => .error (patternFailure pattern e)
  | .ok p => match Pattern.firstGroup p text with
      | none =>
          .error (.flow .captureNotFound ("pattern " ++ Text.quoted pattern ++ " did not match"))
      | some none =>
          .error (.flow .captureNotFound
            ("pattern " ++ Text.quoted pattern ++ " matched but captured nothing"))
      | some (some captured) => .ok captured

end Flowline
