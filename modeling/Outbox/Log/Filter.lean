import Outbox.Abort
import Outbox.Log.Directive
import Outbox.Text.Pieces

namespace Outbox

abbrev LogFilter := List Directive

namespace LogFilter

def upTo (level : Level) : LogFilter := [⟨none, none, none, some level⟩]

/-- Without directives nothing gets through, and without a filter that can be read all up to information. -/
def read (raw : Option String) : Except Abort LogFilter :=
  match raw with
  | none => .ok (upTo .info)
  | some s =>
    match ((Text.pieces ',' s.toList).filter (· ≠ [])).mapM Directive.read with
    | .ok directives => .ok directives
    | .error .malformed => .ok (upTo .info)
    | .error .torn => .error .text

def mostSpecific? (ds : List Directive) : Option Directive :=
  ds.foldl (fun best d =>
    match best with
    | some b => if b.isAtMost d then some d else some b
    | none => some d) none

variable (f : LogFilter)

def decisive? (e : LogEvent) : Option Directive := mostSpecific? (f.filter fun d => d.isForEvents && d.covers e)

/-- Spans are known only if some directive goes as far as their level, or asks for a value. -/
def hasSpans : Bool := f.any fun d => d.test?.isSome || LogSpan.level.rank ≤ d.threshold.rank

def knows (span : LogSpan) : Bool :=
  let byTarget := mostSpecific? (f.filter fun d => d.isForEvents && d.coversTarget span.target)
  hasSpans f && (f.any (·.meansSpan span) ||
    LogSpan.level.rank ≤ Threshold.rank (byTarget.bind (·.threshold)))

def settled : LogFilter → LogFilter
  | [] => []
  | d :: ds => if ds.any d.isAlike then settled ds else d :: settled ds

def spanThreshold (span : LogSpan) : Threshold :=
  ((settled f).filter (·.coversSpan span)).foldl (fun t d => t.max d.threshold) none

/-- An event gets through by itself or by a span that it is within. -/
def admits (e : LogEvent) : Bool :=
  e.level.rank ≤ Threshold.rank ((decisive? f e).bind (·.threshold)) ||
    (hasSpans f && e.spans.any fun span => e.level.rank ≤ (spanThreshold f span).rank)

end LogFilter

end Outbox
