/-!
# Log formats
-/

namespace SegmentBench

inductive LogFormat where
  | compact
  | json
  deriving DecidableEq, Repr

namespace LogFormat

def all : List LogFormat := [.compact, .json]

def name : LogFormat → String
  | .compact => "compact"
  | .json => "json"

def title : LogFormat → String
  | .compact => "Compact"
  | .json => "Json"

end LogFormat

end SegmentBench
