import TablePhrase.Catalog.Basic
import TablePhrase.Grounding
import TablePhrase.Lifting.Basic
import TablePhrase.Settings
import TablePhrase.Workspace.Basic

/-!
Resolving an utterance. A classifier proposes templates with probabilities; those that are likely
enough are grounded with the literals of the utterance, the most probable of each lifted template is
kept, and the catalog says which operation each of them is.
-/

namespace TablePhrase

structure Candidate where
  /-- The example that the utterance was found similar to. -/
  utterance : String
  template : String
  probability : Binary64
deriving DecidableEq, Inhabited

def Candidate.ofJson? (j : Json) : Option Candidate := do
  let fields ← j.fields? ["utterance", "template", "probability"] 3
  let utterance ← Json.required fields "utterance" Json.text?
  let template ← Json.required fields "template" Json.text?
  let probability ← Json.required fields "probability" Json.binary64?
  return ⟨utterance, template, probability⟩

structure Grounded where
  candidate : Candidate
  /-- The template with the literals written in it lifted. -/
  template : String
  combination : Combination

structure ResolvedCandidate where
  operation : Operation
  combination : Combination
  trainingUtterance : String
  utterance : String
  /-- In percent, rounded to two decimal places. -/
  probability : Binary64

inductive Resolution
  | candidates (candidates : List ResolvedCandidate)
  | notSure (marker : String)

namespace Candidate

/-- Those at or above the threshold, the most probable first; equally probable ones keep their
order. -/
def rank (threshold : Binary64) (candidates : List Candidate) : List Candidate :=
  (candidates.filter fun c => c.probability.atLeast threshold).mergeSort
    fun a b => b.probability.totalKey ≤ a.probability.totalKey

/-- Values with those that are columns first, if some value is a column and the first is not. -/
def columnsFirst (workspace : Workspace) (values : List String) : List String :=
  let isColumn (value : String) : Bool := workspace.isColumn (.str value)
  if !values.any isColumn || values.head?.any isColumn then values
  else values.filter isColumn ++ values.filter fun value => !isColumn value

/-- The entities of a candidate: those of the utterance, then those written in the template. A
template that speaks of a column takes its columns first. -/
def entities (workspace : Workspace) (spoken : EntityTexts) (template : Lifted) : EntityTexts :=
  let merged := spoken ++ template.entities
  if Text.occurs "ON COLUMN".toList template.text.toList then
    { merged with values := columnsFirst workspace merged.values }
  else merged

def ground? (workspace : Workspace) (spoken : EntityTexts) (c : Candidate) : Option Grounded :=
  let template := lift c.template
  match recombine template.text (entities workspace spoken template) with
  | .ok combination => some ⟨c, template.text, combination⟩
  | .error _ => none

def percent (probability : Binary64) : Binary64 :=
  (((probability.mul (.ofInt 100)).mul (.ofInt 100)).roundHalfAway).div (.ofInt 100)

end Candidate

namespace Grounded

def distinct : List Grounded → List String → List Grounded
  | [], _ => []
  | g :: gs, seen =>
    if seen.contains g.template then distinct gs seen
    else g :: distinct gs (g.template :: seen)

def resolve? (utterance : String) (g : Grounded) : Option ResolvedCandidate :=
  let op := Catalog.resolve g.template g.combination.entities
  if op.isImplemented then
    some ⟨op, g.combination, g.candidate.utterance, utterance,
      Candidate.percent g.candidate.probability⟩
  else none

end Grounded

def resolve (settings : Settings) (utterance : String) (candidates : List Candidate)
    (workspace : Workspace) : Resolution :=
  let spoken := (lift utterance).entities
  let ranked := Candidate.rank settings.confidenceThreshold candidates
  -- the most probable of each template comes first and is the one that stays
  let grounded := Grounded.distinct (ranked.filterMap (Candidate.ground? workspace spoken)) []
  match (grounded.take settings.maxCandidates).filterMap (Grounded.resolve? utterance) with
  | [] => .notSure settings.notSureMarker
  | resolved => .candidates resolved

end TablePhrase
