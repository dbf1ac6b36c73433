import TablePhrase.Operation.Parameter

/-!
The signatures of the operations: every keyword that a call accepts, in order, with its default.
-/

namespace TablePhrase

inductive CallTarget
  | table
  | series
  | library
deriving DecidableEq, Inhabited

namespace CallTarget

def name : CallTarget → String
  | table => "table"
  | series => "series"
  | library => "module"

def ofName? (name : String) : Option CallTarget :=
  [table, series, library].find? (·.name == name)

end CallTarget

/-- The parameters of an operation in the order of its signature; none for an operation that is not
listed. -/
def signature (target : CallTarget) (operation : String) : List Parameter :=
  match target, operation with
  | .library, "to_datetime" =>
    [.needed "arg",
      .optional "errors" "raise",
      .optional "dayfirst" false,
      .optional "yearfirst" false,
      .unset "utc",
      .unset "format",
      .optional "exact" true,
      .unset "unit",
      .optional "infer_datetime_format" false,
      .optional "origin" "unix",
      .optional "cache" true]
  | .library, "to_numeric" => [.needed "arg", .optional "errors" "raise", .unset "downcast"]
  | .library, "read_csv" =>
    [.needed "filepath_or_buffer",
      .optional "sep" ",",
      .unset "delimiter",
      .optional "header" "infer",
      .optional "names" "",
      .unset "index_col",
      .unset "usecols",
      .optional "prefix" "",
      .optional "mangle_dupe_cols" true,
      .unset "dtype",
      .unset "engine",
      .unset "converters",
      .unset "true_values",
      .unset "false_values",
      .optional "skipinitialspace" false,
      .unset "skiprows",
      .optional "skipfooter" (.int 0),
      .unset "nrows",
      .unset "na_values",
      .optional "keep_default_na" true,
      .optional "na_filter" true,
      .optional "verbose" false,
      .optional "skip_blank_lines" true,
      .unset "parse_dates",
      .optional "infer_datetime_format" false,
      .optional "keep_date_col" false,
      .unset "date_parser",
      .optional "dayfirst" false,
      .optional "cache_dates" true,
      .optional "iterator" false,
      .unset "chunksize",
      .optional "compression" "infer",
      .unset "thousands",
      .optional "decimal" ".",
      .unset "lineterminator",
      .optional "quotechar" "\"",
      .optional "quoting" (.int 0),
      .optional "doublequote" true,
      .unset "escapechar",
      .unset "comment",
      .unset "encoding",
      .optional "encoding_errors" "strict",
      .unset "dialect",
      .unset "on_bad_lines",
      .optional "delim_whitespace" false,
      .optional "low_memory" true,
      .optional "memory_map" false,
      .unset "float_precision",
      .unset "storage_options"]
  | .table, "info" =>
    [.unset "verbose",
      .unset "buf",
      .unset "max_cols",
      .unset "memory_usage",
      .unset "show_counts"]
  | .table, "describe" =>
    [.unset "percentiles",
      .unset "include",
      .unset "exclude",
      .optional "datetime_is_numeric" false]
  | .table, "head" => [.optional "n" (.int 5)]
  | .table, "isnull" => []
  | .series, "unique" => []
  | .table, "dropna" =>
    [.axis,
      .optional "how" "any",
      .unset "thresh",
      .unset "subset",
      .optional "inplace" false]
  | .table, "fillna" =>
    [.unset "value",
      .unset "method",
      .axis,
      .optional "inplace" false,
      .unset "limit",
      .unset "downcast"]
  | .table, "drop_duplicates" =>
    [.unset "subset",
      .optional "keep" "first",
      .optional "inplace" false,
      .optional "ignore_index" false]
  | .table, "astype" => [.needed "dtype", .optional "copy" true, .optional "errors" "raise"]
  | .table, "round" => [.optional "decimals" (.int 0), .further "args", .further "kwargs"]
  | .table, "rename" =>
    [.unset "mapper",
      .unset "index",
      .unset "columns",
      .axis,
      .optional "copy" true,
      .optional "inplace" false,
      .unset "level",
      .optional "errors" "ignore"]
  | .table, "melt" =>
    [.unset "id_vars",
      .unset "value_vars",
      .unset "var_name",
      .optional "value_name" "value",
      .unset "col_level",
      .optional "ignore_index" true]
  | .table, "filter" => [.unset "items", .unset "like", .unset "regex", .axis]
  | .table, "set_index" =>
    [.needed "keys",
      .optional "drop" true,
      .optional "append" false,
      .optional "inplace" false,
      .optional "verify_integrity" false]
  | .table, "reset_index" =>
    [.unset "level",
      .optional "drop" false,
      .optional "inplace" false,
      .optional "col_level" (.int 0),
      .optional "col_fill" ""]
  | .table, "sort_values" =>
    [.needed "by",
      .axis,
      .optional "ascending" true,
      .optional "inplace" false,
      .optional "kind" "quicksort",
      .optional "na_position" "last",
      .optional "ignore_index" false,
      .unset "key"]
  | .table, "assign" => [.further "kwargs"]
  | .table, "groupby" =>
    [.unset "by",
      .axis,
      .unset "level",
      .optional "as_index" true,
      .optional "sort" true,
      .optional "group_keys" true,
      .optional "squeeze" false,
      .optional "observed" false,
      .optional "dropna" true]
  | .table, "agg" => [.unset "func", .axis, .further "args", .further "kwargs"]
  | .table, "to_csv" =>
    [.unset "path_or_buf",
      .optional "sep" ",",
      .optional "na_rep" "",
      .unset "float_format",
      .unset "columns",
      .optional "header" true,
      .optional "index" true,
      .unset "index_label",
      .optional "mode" "w",
      .unset "encoding",
      .optional "compression" "infer",
      .unset "quoting",
      .optional "quotechar" "\"",
      .unset "line_terminator",
      .unset "chunksize",
      .unset "date_format",
      .optional "doublequote" true,
      .unset "escapechar",
      .optional "decimal" ".",
      .optional "errors" "strict",
      .unset "storage_options"]
  | .table, "drop" =>
    [.unset "labels",
      .axis,
      .unset "index",
      .unset "columns",
      .unset "level",
      .optional "inplace" false,
      .optional "errors" "raise"]
  | .series, "str.strip" => [.unset "to_strip"]
  | .series, "str.split" =>
    [.unset "pat",
      .optional "n" (.int (-1)),
      .optional "expand" false,
      .unset "regex"]
  | .series, "str.replace" =>
    [.needed "pat",
      .needed "repl",
      .optional "n" (.int (-1)),
      .unset "case",
      .optional "flags" (.int 0),
      .unset "regex"]
  | .series, "str.join" => [.needed "sep"]
  | .series, "str.extract" => [.needed "pat", .optional "flags" (.int 0), .optional "expand" true]
  | _, _ => []

end TablePhrase
