/-!
The arguments of the command line: which words, options and values stand where. Reading stops early
where help is asked for and where the arguments are wrong.
-/

namespace TablePhrase.Command

inductive Level
  | top
  | lift
  | combine
  | actions
  | resolve
  | render
  | memory
  | memoryShow
  | memorySet
  | memoryDelete
  | memoryReset
deriving DecidableEq

structure ValueOption where
  name : String
  repeats : Bool
  isPath : Bool
  required : Bool

inductive Positional
  | none
  | one
  | several
deriving DecidableEq

namespace Level

def words : Level → List (String × Level)
  | top =>
    [("lift", lift), ("combine", combine), ("actions", actions), ("resolve", resolve),
      ("render", render), ("memory", memory)]
  | memory =>
    [("show", memoryShow), ("set", memorySet), ("delete", memoryDelete), ("reset", memoryReset)]
  | _ => []

def ownOptions : Level → List ValueOption
  | combine => [⟨"entities", false, false, true⟩]
  | resolve =>
    [⟨"utterance", false, false, true⟩, ⟨"candidates", false, true, true⟩,
      ⟨"workspace", false, true, true⟩]
  | render =>
    [⟨"template", false, false, true⟩, ⟨"utterance", false, false, false⟩,
      ⟨"workspace", false, true, true⟩, ⟨"dataset", false, false, false⟩,
      ⟨"axis", false, false, false⟩, ⟨"set", true, false, false⟩,
      ⟨"scope", false, false, false⟩, ⟨"memory", false, true, false⟩]
  | memory => [⟨"path", false, true, false⟩]
  | _ => []

def options (level : Level) : List ValueOption :=
  ⟨"config", false, true, false⟩ :: level.ownOptions

def hasFlag (level : Level) (name : String) : Bool :=
  level = render && name = "json"

def positional : Level → Positional
  | lift | combine | memoryDelete => .one
  | memorySet => .several
  | _ => .none

end Level

inductive Stop
  | usage
  | help
  | version
deriving DecidableEq

structure Reading where
  values : List (String × String)
  /-- Options and flags of this level that may not be given again. -/
  given : List String
  texts : List String
  onlyTexts : Bool

namespace Reading

def start : Reading :=
  ⟨[], [], [], false⟩

def enter (r : Reading) : Reading :=
  { start with values := r.values }

def addValue (r : Reading) (option : ValueOption) (value : String) : Except Stop Reading :=
  if option.isPath && value.isEmpty then .error .usage
  else if !option.repeats && r.given.contains option.name then .error .usage
  else
    .ok { r with
      values := r.values ++ [(option.name, value)]
      given := option.name :: r.given }

def addFlag (r : Reading) (name : String) : Except Stop Reading :=
  if r.given.contains name then .error .usage else .ok { r with given := name :: r.given }

def addText (r : Reading) (level : Level) (text : String) : Except Stop Reading :=
  match level.positional with
  | .none => .error .usage
  | .one => if r.texts.isEmpty then .ok { r with texts := [text] } else .error .usage
  | .several => .ok { r with texts := r.texts ++ [text] }

end Reading

structure Invocation where
  level : Level
  reading : Reading

/-- What a word that asks for help is about: words that lead further, or itself. -/
def helpAbout (level : Level) : List String → Stop
  | [] => .help
  | word :: rest =>
    match level.words.lookup word with
    | some next => helpAbout next rest
    | none => if word = "help" && !level.words.isEmpty && rest.isEmpty then .help else .usage

def readLetters (level : Level) (r : Reading) : List Char → Except Stop Reading
  | [] => .ok r
  | 'v' :: rest => readLetters level r rest
  | 'h' :: _ => .error .help
  | 'V' :: _ => .error (if level = .top then .version else .usage)
  | _ => .error .usage

def readName (level : Level) (r : Reading) (name : String) : Except Stop Reading :=
  if name = "verbose" then .ok r
  else if name = "help" then .error .help
  else if name = "version" && level = .top then .error .version
  else if level.hasFlag name then r.addFlag name
  else .error .usage

def isDashed (argument : String) : Bool :=
  argument.startsWith "-" && argument != "-"

def splitName (argument : String) : String × Option String :=
  let body := argument.toList.drop 2
  let name := String.ofList (body.takeWhile (· != '='))
  match body.dropWhile (· != '=') with
  | _ :: value => (name, some (String.ofList value))
  | [] => (name, none)

/-- The arguments are complete: no further word is needed, and what is required was given. -/
def finish (level : Level) (r : Reading) : Except Stop Invocation :=
  let complete : Bool := level.options.all fun option =>
    !option.required || r.given.contains option.name
  if level.words.isEmpty && complete && (level.positional = .none || !r.texts.isEmpty) then
    .ok ⟨level, r⟩
  else .error .usage

def read (level : Level) (r : Reading) : List String → Except Stop Invocation
  | [] => finish level r
  | argument :: rest =>
    if r.onlyTexts then do
      let r ← r.addText level argument
      read level r rest
    else
      match level.words.lookup argument with
      | some next => read next r.enter rest
      | none =>
        if argument = "help" && !level.words.isEmpty then .error (helpAbout level rest)
        else if argument = "--" then read level { r with onlyTexts := true } rest
        else if argument.startsWith "--" then
          let (name, attached) := splitName argument
          match level.options.find? (·.name == name), attached, rest with
          | some option, some value, rest => do
            let r ← r.addValue option value
            read level r rest
          | some option, none, value :: rest =>
            if isDashed value then .error .usage
            else do
              let r ← r.addValue option value
              read level r rest
          | some _, none, [] => .error .usage
          | none, some _, _ => .error .usage
          | none, none, rest => do
            let r ← readName level r name
            read level r rest
        else if isDashed argument then do
          let r ← readLetters level r (argument.toList.drop 1)
          read level r rest
        else do
          let r ← r.addText level argument
          read level r rest

def Invocation.ofArguments (arguments : List String) : Except Stop Invocation :=
  read .top .start arguments

end TablePhrase.Command
