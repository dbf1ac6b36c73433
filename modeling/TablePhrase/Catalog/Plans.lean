import TablePhrase.Entity.Decoding
import TablePhrase.Json.Decoder
import TablePhrase.Json.Reader
import TablePhrase.Operation.Basic

/-!
How the actions of the catalog become operations. A plan takes the decoded entities of a template;
it gives nothing where an entity it needs is missing.
-/

namespace TablePhrase

namespace DecodedEntities

def number? (e : DecodedEntities) (index : Nat) : Option Literal :=
  e.get? .number index

def value? (e : DecodedEntities) (index : Nat) : Option Literal :=
  e.get? .value index

def numberList? (e : DecodedEntities) (index : Nat) : Option Literal :=
  e.get? .numberList index

def stringList? (e : DecodedEntities) (index : Nat) : Option Literal :=
  e.get? .stringList index

end DecodedEntities

namespace Catalog

abbrev Plan : Type :=
  String → DecodedEntities → Option Operation

def texts (options : List String) : Adjustment :=
  .choice (options.map .str)

def filled (op : Operation) (name : String) (value : Option Literal) : Option Operation :=
  value.map (op.argument name)

def toDatetime : Plan := fun template e =>
  filled
    (Operation.plain template .library "to_datetime" "Convert argument to datetime."
      |>.adjust "arg" (.ofKind .heterogeneous)
      |>.adjust "errors" (texts ["raise", "coerce", "ignore"])
      |>.adjust "utc" (.ofKind .boolean))
    "arg" (e.value? 0)

def toNumeric : Plan := fun template e =>
  filled
    (Operation.plain template .library "to_numeric" "Convert argument to a numeric type."
      |>.adjust "arg" (.ofKind .heterogeneous)
      |>.adjust "errors" (texts ["raise", "coerce", "ignore"]))
    "arg" (e.value? 0)

def readerExpressions : List String :=
  ["index_col", "usecols", "dtype", "skiprows", "na_values", "parse_dates", "compression",
    "quoting", "dialect"]

def readCsv : Plan := fun template e =>
  let op :=
    Operation.plain template .library "read_csv"
        "Read a comma-separated values (csv) file into DataFrame."
      |>.adjust "engine" (texts ["c", "python", "pyarrow"])
      |>.adjust "on_bad_lines" (texts ["error", "warn", "skip"])
      |>.adjust "prefix" (Adjustment.withDefault (.ofKind .freeForm) "")
      |>.adjust "sep" (Adjustment.withDefault (.ofKind .freeForm) ",")
      |>.adjust "names" (Adjustment.withDefault (.ofKind .heterogeneous) "")
  filled
    (readerExpressions.foldl (fun op name => op.adjust name (.ofKind .heterogeneous)) op)
    "filepath_or_buffer" (e.value? 0)

def showInformation : Plan := fun template _ =>
  some (Operation.plain template .table "info" "Print a concise summary of a DataFrame."
    |>.adjust "verbose" (.ofKind .boolean)
    |>.adjust "memory_usage" (.ofKind .boolean)
    |>.adjust "show_counts" (.ofKind .boolean))

def describe : Plan := fun template _ =>
  some (.plain template .table "describe" "Generate descriptive statistics.")

def head (template : String) : Operation :=
  Operation.plain template .table "head" "Return the first `n` rows."
    |>.adjust "n" (.ofKind .numeric)
    |>.scopable

def showFirstRows : Plan := fun template _ =>
  some (head template)

def showFirstNumberRows : Plan := fun template e =>
  filled (head template) "n" (e.number? 0)

def showMissing : Plan := fun template _ =>
  some (.plain template .table "isnull" "Detect missing values.")

def dropna (template : String) : Operation :=
  Operation.plain template .table "dropna" "Remove missing values."
    |>.adjust "how" (texts ["any", "all"])
    |>.adjust "thresh" (.ofKind .numeric)
    |>.adjust "subset" (.several .schemaAxisOpposite)

def dropMissing : Plan := fun template _ =>
  some (dropna template)

def dropMissingFrom : Plan := fun template e =>
  filled (dropna template) "subset" (e.value? 0)

def fillMissing : Plan := fun template e =>
  filled
    (Operation.plain template .table "fillna" "Fill NA/NaN values using the specified method."
      |>.adjust "method" (.choice ["backfill", "bfill", "pad", "ffill", .null])
      |>.adjust "limit" (.ofKind .numeric)
      |>.adjust "downcast" (.ofKind .heterogeneous)
      |>.scopable)
    "value" (e.value? 0 <|> e.number? 0)

def dropDuplicates : Plan := fun template _ =>
  some (Operation.plain template .table "drop_duplicates"
      "Return DataFrame with duplicate rows removed."
    |>.adjust "subset" (.several .schemaAxis)
    |>.adjust "keep" (.choice ["first", "last", false]))

/-- With two entities the first is the column. -/
def changeDatatype : Plan := fun template e =>
  let op :=
    Operation.plain template .table "astype" "Cast a pandas object to a specified dtype `dtype`."
      |>.adjust "errors" (texts ["raise", "ignore"])
      |>.scopable
  if e.size = 2 then do
    let datatype ← e.value? 1
    let column ← e.value? 0
    return (op.argument "dtype" datatype).scopedTo column
  else filled op "dtype" (e.value? 0)

/-- With two entities the value is the column. -/
def roundTo : Plan := fun template e => do
  let places ← e.number? 0
  let op :=
    Operation.plain template .table "round"
        "Round a DataFrame to a variable number of decimal places."
      |>.argument "decimals" places
      |>.scopable
  if e.size = 2 then
    let column ← e.value? 0
    return op.scopedTo column
  else return op

/-- The text of a mapping in single or double quotes as a map; any other value as it is. -/
def renameMapper (value : Literal) : Literal :=
  let mapping := do
    let text ← value.asString?
    let j ← Json.parse? (String.ofList (Text.replaceAll ['\''] ['"'] text.toList))
    Literal.ofJson? Json.maxLevels j
  match mapping with
  | some (.map entries) => .map entries
  | _ => value

/-- With two entities the first is renamed to the second; with another number the first is the
whole mapping. -/
def rename : Plan := fun template e => do
  let first ← e.value? 0
  let mapper ←
    if e.size = 2 then (e.value? 1).map fun second => Literal.map [(first.raw, second)]
    else some (renameMapper first)
  return Operation.plain template .table "rename" "Alter axes labels."
    |>.argument "mapper" mapper
    |>.argument "axis" "columns"
    |>.adjust "mapper" (.ofKind .heterogeneous)
    |>.adjust "level" (.ofKind .numeric)

def meltAll (template : String) : Operation :=
  Operation.plain template .table "melt"
      "Unpivot a DataFrame from wide to long format, optionally leaving identifiers set."
    |>.adjust "id_vars" (.several .schemaColumns)
    |>.adjust "value_vars" (.several .schemaColumns)

def melt : Plan := fun template _ =>
  some (meltAll template)

def meltWith : Plan := fun template e =>
  filled (meltAll template) "id_vars" (e.stringList? 0)

def filter : Plan := fun template e => do
  let items ← ((e.value? 0).map fun value => Literal.list [value]) <|> e.stringList? 0
  return Operation.plain template .table "filter"
      "Subset the dataframe rows or columns according to the specified index labels."
    |>.argument "items" items
    |>.argument "axis" "columns"
    |>.adjust "items" (.several .schemaAxis)

def setIndex : Plan := fun template e =>
  filled
    (Operation.plain template .table "set_index" "Set the DataFrame index using existing columns."
      |>.adjust "keys" (.ofKind .schemaAxis))
    "keys" (e.value? 0)

def resetIndex : Plan := fun template _ =>
  some (.plain template .table "reset_index" "Reset the index, or a level of it.")

def sortValues : Plan := fun template e => do
  let by_ ← e.value? 0
  return Operation.plain template .table "sort_values" "Sort by the values along either axis."
    |>.argument "by" by_
    |>.argument "axis" "index"
    |>.argument "inplace" true
    |>.adjust "by" (.several .schemaAxisOpposite)
    |>.adjust "kind" (texts ["quicksort", "mergesort", "heapsort", "stable"])
    |>.adjust "na_position" (texts ["first", "last"])

def assignAny (template : String) : Operation :=
  .plain template .table "assign" "Assign new columns to a DataFrame."

def assign : Plan := fun template _ =>
  some (assignAny template)

def assignAs : Plan := fun template e =>
  filled (assignAny template) "kwargs" (e.value? 0)

def groupBy : Plan := fun template e => do
  let by_ ← e.value? 0 <|> e.stringList? 0
  return Operation.plain template .table "groupby"
      "Group DataFrame using a mapper or by a Series of columns."
    |>.argument "by" by_
    |>.argument "axis" "columns"
    |>.adjust "by" (.several .schemaAxis)
    |>.adjust "level" (.ofKind .numeric)
    |>.adjust "squeeze" (Adjustment.withDefault (.ofKind .boolean) false)

def aggregate : Plan := fun template e =>
  filled
    (Operation.plain template .table "agg"
        "Aggregate using one or more operations over the specified axis."
      |>.scopable)
    "func" (e.value? 0)

def toCsv (template : String) : Operation :=
  .plain template .table "to_csv" "Write object to a comma-separated values (csv) file."

def saveCsv : Plan := fun template _ =>
  some (toCsv template)

def saveCsvAs : Plan := fun template e =>
  filled (toCsv template) "path_or_buf" (e.value? 0)

def deleteColumns : Plan := fun template e =>
  let op :=
    Operation.plain template .table "drop" "Drop specified labels from rows or columns."
      |>.argument "axis" "columns"
      |>.adjust "labels" (.several .schemaAxis)
      |>.adjust "index" (.ofKind .schemaAxis)
      |>.adjust "columns" (.ofKind .schemaColumns)
      |>.adjust "level" (.ofKind .numeric)
  if e.isEmpty then some op else filled op "labels" (e.value? 0 <|> e.stringList? 0)

def deleteRows : Plan := fun template e =>
  let op :=
    Operation.plain template .table "drop" "Drop specified labels from rows or columns."
      |>.adjust "labels" (.several .schemaAxis)
      |>.adjust "level" (.ofKind .numeric)
  if e.isEmpty then some op
  else filled (op.argument "axis" "index") "labels" (e.number? 0 <|> e.numberList? 0)

/-- A method of the column that is the first value, with the second value as its argument. -/
def onColumn (op : Operation) (name : String) (e : DecodedEntities) : Option Operation := do
  let argument ← e.value? 1
  let column ← e.value? 0
  return (op.argument name argument).scopedTo column

def strip : Plan := fun template e =>
  onColumn
    (Operation.plain template .series "str.strip" "Remove leading and trailing characters."
      |>.scopable)
    "to_strip" e

def split : Plan := fun template e => do
  let column ← e.value? 0
  let op :=
    Operation.plain template .series "str.split" "Split strings around given separator/delimiter."
      |>.adjust "n" (.ofKind .numeric)
      |>.adjust "regex" (.ofKind .boolean)
      |>.scopable
      |>.scopedTo column
  if e.size = 2 then filled op "pat" (e.value? 1) else some op

def replaceValues : Plan := fun template e =>
  let op :=
    Operation.plain template .series "str.replace"
        "Replace each occurrence of pattern/regex in the Series/Index."
      |>.adjust "n" (.ofKind .numeric)
      |>.adjust "regex" (.ofKind .boolean)
      |>.adjust "case" (.ofKind .boolean)
      |>.adjust "flags" (.ofKind .numeric)
      |>.scopable
  if e.isEmpty then some op
  else do
    let pattern ← e.value? 1
    let replacement ← e.value? 2
    let column ← e.value? 0
    return ((op.argument "pat" pattern).argument "repl" replacement).scopedTo column

def joinOn : Plan := fun template e =>
  onColumn
    (Operation.plain template .series "str.join"
        "Join lists contained as elements in the Series/Index with passed delimiter."
      |>.scopable)
    "sep" e

def extract : Plan := fun template e =>
  let op :=
    Operation.plain template .series "str.extract"
        "Extract capture groups in the regex `pat` as columns in a DataFrame."
      |>.scopable
  if e.isEmpty then some op else onColumn op "pat" e

def uniqueValues : Plan := fun template e =>
  (e.value? 0).map
    (Operation.plain template .series "unique" "Return unique values of Series object."
      |>.scopable).scopedTo

end Catalog
end TablePhrase
