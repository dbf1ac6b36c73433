import TablePhrase.Command.Arguments

/-!
What the command line can be asked to do.
-/

namespace TablePhrase.Command

structure RenderRequest where
  template : String
  utterance : String
  workspace : String
  /-- The dataset to run against, instead of the one that the labels point to. -/
  dataset : Option String
  axis : Option String
  edits : List String
  scope : Option String
  memory : Option String
  asJson : Bool

inductive MemoryRequest
  | list
  | remember (items : List String)
  | forget (key : String)
  | reset

inductive Request
  | lift (text : String)
  | combine (template entities : String)
  | actions
  | resolve (utterance candidates workspace : String)
  | render (request : RenderRequest)
  | memory (path : String) (request : MemoryRequest)

namespace Invocation

/-- The last value given to an option, on whatever level. -/
def value? (i : Invocation) (name : String) : Option String :=
  (i.reading.values.reverse.find? (·.1 == name)).map (·.2)

def value (i : Invocation) (name : String) : String :=
  (i.value? name).getD ""

def valuesOf (i : Invocation) (name : String) : List String :=
  (i.reading.values.filter (·.1 == name)).map (·.2)

def text (i : Invocation) : String :=
  i.reading.texts.headD ""

def settingsPath (i : Invocation) : Option String :=
  i.value? "config"

def storePath (i : Invocation) : String :=
  (i.value? "path").getD "./past_actions.json"

def request? (i : Invocation) : Option Request :=
  match i.level with
  | .lift => some (.lift i.text)
  | .combine => some (.combine i.text (i.value "entities"))
  | .actions => some .actions
  | .resolve => some (.resolve (i.value "utterance") (i.value "candidates") (i.value "workspace"))
  | .render => some (.render {
      template := i.value "template"
      utterance := i.value "utterance"
      workspace := i.value "workspace"
      dataset := i.value? "dataset"
      axis := i.value? "axis"
      edits := i.valuesOf "set"
      scope := i.value? "scope"
      memory := i.value? "memory"
      asJson := i.reading.given.contains "json" })
  | .memoryShow => some (.memory i.storePath .list)
  | .memorySet => some (.memory i.storePath (.remember i.reading.texts))
  | .memoryDelete => some (.memory i.storePath (.forget i.text))
  | .memoryReset => some (.memory i.storePath .reset)
  | .top | .memory => none

end Invocation
end TablePhrase.Command
