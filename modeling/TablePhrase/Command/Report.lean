import TablePhrase.Decimal.Layout
import TablePhrase.Memory.Store
import TablePhrase.Text.Search

/-!
Reports of failure: a message and the chain of its causes, laid out in lines.
-/

namespace TablePhrase.Command

/-- One link of a chain of causes. -/
inductive Fault
  | text (message : String)
  | system (attempt : String)
  | document (attempt : String)
  | store (error : StoreError)

def Fault.message : Fault → String
  | text message => message
  | system attempt => attempt ++ "the file cannot be read or written"
  | document attempt => attempt ++ "the JSON text has another form"
  | store (.inaccessible path) =>
    "cannot access past-action store `" ++ path ++ "`: the file cannot be read or written"
  | store (.corrupt path) =>
    "corrupt past-action store `" ++ path ++ "`: the JSON text has another form"

structure Report where
  failure : Fault
  causes : List Fault

def Report.plain (message : String) : Report :=
  ⟨.text message, []⟩

def Report.ofStore (e : StoreError) : Report :=
  match e with
  | .inaccessible _ => ⟨.store e, [.system ""]⟩
  | .corrupt _ => ⟨.store e, [.document ""]⟩

/-- A line, or a few, with the fault that it reports, if it reports one. -/
structure Notice where
  fault : Option Fault
  text : String

def Notice.plain (text : String) : Notice :=
  ⟨none, text⟩

def indentLater (indent message : String) : String :=
  Text.join ("\n" ++ indent)
    ((Text.splitOn ['\n'] message.toList).map String.ofList)

def onlyCause (cause : Fault) : Notice :=
  ⟨some cause, "    " ++ indentLater "    " cause.message⟩

def numberedCause (number : Nat) (cause : Fault) : Notice :=
  let digits := Decimal.digits number
  let column := String.ofList (List.replicate (5 - digits.length) ' ' ++ digits)
  ⟨some cause, column ++ ": " ++ indentLater "       " cause.message⟩

def Report.notices (r : Report) : List Notice :=
  let failure : Notice := ⟨some r.failure, "Error: " ++ r.failure.message⟩
  let heading : List Notice := [.plain "", .plain "Caused by:"]
  match r.causes with
  | [] => [failure]
  | [cause] => failure :: (heading ++ [onlyCause cause])
  | causes => failure :: (heading ++ causes.mapIdx numberedCause)

end TablePhrase.Command
