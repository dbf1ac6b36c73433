import TablePhrase.Catalog.Basic
import TablePhrase.Command.Report
import TablePhrase.Command.Request
import TablePhrase.Decimal.Layout
import TablePhrase.Entity.Json
import TablePhrase.Grounding
import TablePhrase.Lifting.Basic
import TablePhrase.Memory.Suggestion
import TablePhrase.Resolution
import TablePhrase.Session.Edit
import TablePhrase.Session.Json
import TablePhrase.Workspace.Json

/-!
Running the command line: a function of the files, the time and the arguments that gives the new
files, the exit code and what is printed.
-/

namespace TablePhrase.Command

structure Console where
  directory : Directory
  output : String
  notices : List Notice

/-- A part of a run; it may fail, and what it did before stays done. -/
abbrev Script (α : Type) : Type :=
  EStateM Report Console α

def say (line : String) : Script Unit :=
  modify fun c => { c with output := c.output ++ line ++ "\n" }

def note (line : String) : Script Unit :=
  modify fun c => { c with notices := c.notices ++ [.plain line] }

def orFail {α : Type} (message : String) : Option α → Script α
  | some a => pure a
  | none => throw (.plain message)

def readJson {α : Type} (decode : Json → Option α) (path : String) : Script α := do
  match (← get).directory.read? path with
  | none => throw ⟨.text ("reading " ++ path), [.system ""]⟩
  | some text =>
    match (Json.parse? text).bind decode with
    | some a => pure a
    | none => throw ⟨.text ("parsing " ++ path), [.document ""]⟩

def readSettings (path : String) : Script Settings := do
  let context : Fault := .text ("loading config " ++ path)
  match (← get).directory.read? path with
  | none => throw ⟨context, [.system ("failed to read config " ++ path ++ ": "), .system ""]⟩
  | some text =>
    match (Json.parse? text).bind Settings.ofJson? with
    | some settings => pure settings
    | none => throw ⟨context, [.document "invalid config: ", .document ""]⟩

def readWorkspace (path : String) : Script Workspace :=
  readJson (Workspace.ofJson? Json.maxLevels) path

/-- The trimmed name before the first equals sign, and the text after it. -/
def splitAssignment? (item : String) : Option (String × String) :=
  match item.toList.dropWhile (· != '=') with
  | _ :: value =>
    let name := trimmed (String.ofList (item.toList.takeWhile (· != '=')))
    if name.isEmpty then none else some (name, String.ofList value)
  | [] => none

def splitAssignment (item : String) : Script (String × String) :=
  orFail ("expected NAME=VALUE, got `" ++ item ++ "`") (splitAssignment? item)

def ground (template : String) (texts : EntityTexts) : Script Combination :=
  match recombine template texts with
  | .ok combination => pure combination
  | .error m => throw (.plain m.message)

def edit {α : Type} (s : Session) (e : Edit α) : Script Session :=
  match e.run s with
  | .ok _ s => pure s
  | .error error _ => throw (.plain error.message)

def editSome {α β : Type} (s : Session) (value : Option β) (e : β → Script (Edit α)) :
    Script Session := do
  match value with
  | some value => edit s (← e value)
  | none => pure s

def editParameters (s : Session) : List String → Script Session
  | [] => pure s
  | item :: items => do
    let (name, value) ← splitAssignment item
    match (Session.setParameterText name value).run s with
    | .ok _ s => editParameters s items
    | .error error _ => throw ⟨.text ("setting `" ++ name ++ "`"), [.text error.message]⟩

def openStore (path : String) : Script Store := do
  match Store.openAt (← get).directory path with
  | .ok store => pure store
  | .error e => throw (.ofStore e)

def change {α : Type} (store : Store) (c : Store.Change α) : Script α := do
  match c.run { store with directory := (← get).directory } with
  | .ok a store =>
    modify fun console => { console with directory := store.directory }
    pure a
  | .error e store =>
    -- what was written before the failure stays
    modify fun console => { console with directory := store.directory }
    throw (.ofStore e)

def runLift (text : String) : Script Unit := do
  let lifted := TablePhrase.lift text
  say ("lifted: " ++ lifted.text)
  say lifted.entities.toJson.indented

def runCombine (template entities : String) : Script Unit := do
  match (Json.parse? entities).bind EntityTexts.ofJson? with
  | none => throw ⟨.text "parsing --entities as an entity set", [.document ""]⟩
  | some texts =>
    let combination ← ground template texts
    say ("grounded: " ++ combination.grounded)
    say ("lifted: " ++ combination.lifted)
    say combination.entities.toJson.indented

def sayCandidate (rank : Nat) (c : ResolvedCandidate) : Script Unit := do
  say (toString rank ++ ". " ++ c.combination.grounded ++ " ("
    ++ String.ofList (Decimal.twoPlaces c.probability) ++ "%)")
  say ("   → " ++ c.operation.name ++ "  " ++ c.operation.summary)

def sayCandidates (rank : Nat) : List ResolvedCandidate → Script Unit
  | [] => pure ()
  | c :: cs => do
    sayCandidate rank c
    sayCandidates (rank + 1) cs

def runResolve (settings : Settings) (utterance candidates workspace : String) :
    Script Unit := do
  let candidates ← readJson (Json.items? Candidate.ofJson?) candidates
  let workspace ← readWorkspace workspace
  match TablePhrase.resolve settings utterance candidates workspace with
  | .notSure marker => say marker
  | .candidates resolved => sayCandidates 1 resolved

def requestedOperation (template utterance : String) : Script Operation := do
  let template := TablePhrase.lift template
  let spoken := (TablePhrase.lift utterance).entities
  let combination ← ground template.text (spoken ++ template.entities)
  let op := Catalog.resolve template.text combination.entities
  if op.isImplemented then pure op
  else throw (.plain ("template `" ++ template.text ++ "` has no operation"))

def requestedSession (settings : Settings) (workspace : Workspace) (r : RenderRequest) :
    Script Session := do
  let op ← requestedOperation r.template r.utterance
  let s ← edit (.new settings) (Session.selectIn op workspace)
  let s ← editSome s r.dataset fun name => pure (Session.switchDataset workspace name)
  let s ← editSome s r.axis fun name => do
    let axis ← orFail ("axis must be `index` or `columns`, got `" ++ name ++ "`")
      (Axis.ofLiteral? (.str name))
    return Session.setAxis axis
  let s ← editSome s r.scope fun text => pure (Session.setScope (.ofUserText text))
  editParameters s r.edits

def noteAdvice (s : Session) (store : Option Store) (workspace : Workspace) : Script Unit := do
  s.warnings.forM fun w => note ("warning: " ++ w.message)
  match store with
  | none => pure ()
  | some store =>
    (s.suggestions store.value? workspace).forM fun suggestion =>
      note ("suggestion: " ++ suggestion.parameter ++ " = " ++ suggestion.value.code)

def runRender (now : Timestamp) (settings : Settings) (r : RenderRequest) : Script Unit := do
  let workspace ← readWorkspace r.workspace
  let s ← requestedSession settings workspace r
  let store ← r.memory.mapM openStore
  if r.asJson then say s.snapshot.indented
  else
    say s.code
    noteAdvice s store workspace
  -- only a call that can be finalized is remembered
  let s ← edit s Session.finalize
  match store with
  | none => pure ()
  | some store => change store (Store.save now s.remembered.entries)

def sayRemembered (store : Store) : Script Unit := do
  if store.entries.isEmpty then say "no past actions"
  store.entries.entries.forM fun (key, r) =>
    say (key ++ " = " ++ r.value.code ++ " " ++ r.updatedAt.listingText)

def runMemory (now : Timestamp) (path : String) (r : MemoryRequest) : Script Unit := do
  let store ← openStore path
  match r with
  | .list => sayRemembered store
  | .remember items =>
    let assignments ← items.mapM splitAssignment
    change store (Store.save now (assignments.map fun (key, text) => (key, .ofUserText text)))
    note ("saved " ++ path)
  | .forget key =>
    let known ← change store (Store.delete key)
    if !known then note ("info: no entry `" ++ key ++ "`")
  | .reset =>
    change store Store.reset
    note ("reset " ++ path)

def runRequest (now : Timestamp) (settings : Settings) : Request → Script Unit
  | .lift text => runLift text
  | .combine template entities => runCombine template entities
  | .actions => Catalog.templates.forM say
  | .resolve utterance candidates workspace => runResolve settings utterance candidates workspace
  | .render request => runRender now settings request
  | .memory path request => runMemory now path request

def runInvocation (now : Timestamp) (i : Invocation) : Script Unit := do
  let settings ←
    match i.settingsPath with
    | some path => readSettings path
    | none => pure .standard
  match i.request? with
  | some request => runRequest now settings request
  | none => pure ()

structure Outcome where
  exit : UInt8
  output : String
  notices : List Notice
  directory : Directory

def programName : String :=
  "nlframe"

def usage : String :=
  "Usage: " ++ programName
    ++ " [--config PATH] [-v] <lift | combine | actions | resolve | render | memory>"

def version : String :=
  programName ++ " 0.3.0"

/-- Runs the program. Wrong arguments exit with 2, and a failure with 1 and its report. -/
def run (directory : Directory) (now : Timestamp) (arguments : List String) : Outcome :=
  match Invocation.ofArguments arguments with
  | .error .usage => ⟨2, "", [.plain usage], directory⟩
  | .error .help => ⟨0, usage ++ "\n", [], directory⟩
  | .error .version => ⟨0, version ++ "\n", [], directory⟩
  | .ok i =>
    match (runInvocation now i).run ⟨directory, "", []⟩ with
    | .ok _ c => ⟨0, c.output, c.notices, c.directory⟩
    | .error r c => ⟨1, c.output, c.notices ++ r.notices, c.directory⟩

end TablePhrase.Command
