import BeaconGossip.LogFilter.Directive
import BeaconGossip.LogLine
import BeaconGossip.Topic.Parser

namespace BeaconGossip

abbrev LogFilter := List LogFilter.Directive

namespace LogFilter

namespace Directive

/-- Whether a directive can decide by itself: one that names a span or asks for a value decides
about spans only. -/
def isPlain (d : Directive) : Bool := !d.inSpan && d.fields.all (!·.withValue)

/-- Whether the line comes from within the target and has all the values that are named. -/
def fits (d : Directive) (l : LogLine) : Bool :=
  (Text.dropStart? (d.target.getD []) l.target.toList).isSome &&
    d.fields.all fun f => String.ofList f.name ∈ l.names

/-- How particular the target of a directive is; none at all is the least. -/
def reach (d : Directive) : Nat :=
  match d.target with
  | none => 0
  | some target => (Text.Utf8.encode target).length + 1

def fieldNames (d : Directive) : List String := d.fields.map fun f => String.ofList f.name

/-- The order in which directives are asked: longer targets first, then those with more fields,
then those whose fields come later in the alphabet. -/
def isBefore (d e : Directive) : Bool :=
  e.reach < d.reach ||
    (d.reach = e.reach &&
      (e.fields.length < d.fields.length ||
        (d.fields.length = e.fields.length && decide (e.fieldNames < d.fieldNames))))

end Directive

/-- Reads directives with commas between them; there is no answer if one is malformed. -/
def parse? (text : String) : Option LogFilter :=
  ((Text.segments ',' text.toList).filter (! ·.isEmpty)).mapM Directive.ofText?

def standard (quietNetwork : Bool) : LogFilter :=
  ⟨none, false, [], 3⟩ ::
    if quietNetwork then
      [⟨some "forkgossip::network".toList, false, [], 2⟩,
        ⟨some "forkgossip::channel".toList, false, [], 2⟩]
    else []

/-- Without any directive only errors are written. -/
def orErrors (f : LogFilter) : LogFilter := if f.isEmpty then [⟨none, false, [], 1⟩] else f

/-- The better of two directives is the one that is asked first, or the later one of equals. -/
def better (best : Option Directive) (d : Directive) : Option Directive :=
  match best with
  | none => some d
  | some b => if b.isBefore d then some b else some d

/-- The directive that decides about a line. -/
def deciding (f : LogFilter) (l : LogLine) : Option Directive :=
  (f.orErrors.filter fun d => d.isPlain && d.fits l).foldl better none

def admits (f : LogFilter) (l : LogLine) : Bool :=
  (f.deciding l).any (l.level.rank ≤ ·.most)

/-- The filter of the environment, or the standard one if that is not set or malformed. -/
def ofWish (wish : Option String) (quietNetwork : Bool) : LogFilter :=
  (wish.bind parse?).getD (standard quietNetwork)

end LogFilter

end BeaconGossip
