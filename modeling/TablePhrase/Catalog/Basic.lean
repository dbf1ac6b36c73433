import TablePhrase.Catalog.Plans

/-!
The catalog: a fixed list of templates, each with the plan that makes an operation of its entities.
A template outside the list, or one whose plan misses an entity, has the missing operation.
-/

namespace TablePhrase.Catalog

structure Entry where
  template : String
  plan : Plan

def entries : List Entry :=
  [⟨"CONVERT <value> TO DATETIME", toDatetime⟩,
    ⟨"CONVERT <value> TO NUMERIC", toNumeric⟩,
    ⟨"READ <value> AS CSV", readCsv⟩,
    ⟨"SHOW INFORMATION", showInformation⟩,
    ⟨"DESCRIBE DATAFRAME", describe⟩,
    ⟨"SHOW FIRST ROWS", showFirstRows⟩,
    ⟨"SHOW FIRST <number> ROWS", showFirstNumberRows⟩,
    ⟨"SHOW MISSING VALUES", showMissing⟩,
    ⟨"DROP MISSING VALUES", dropMissing⟩,
    ⟨"DROP MISSING VALUES FROM <value>", dropMissingFrom⟩,
    ⟨"FILL MISSING VALUES WITH <value>", fillMissing⟩,
    ⟨"FILL MISSING VALUES WITH <number>", fillMissing⟩,
    ⟨"DROP DUPLICATE VALUES", dropDuplicates⟩,
    ⟨"CHANGE DATATYPE TO <value>", changeDatatype⟩,
    ⟨"ON COLUMN <value> CHANGE DATATYPE TO <value>", changeDatatype⟩,
    ⟨"ROUND TO <number> DECIMAL POINTS", roundTo⟩,
    ⟨"ON COLUMN <value> ROUND TO <number> DECIMAL POINTS", roundTo⟩,
    ⟨"RENAME <value> TO <value>", rename⟩,
    ⟨"RENAME COLUMNS TO <value>", rename⟩,
    ⟨"MELT DATAFRAME", melt⟩,
    ⟨"MELT DATAFRAME WITH <string_list> AS COLUMNS", meltWith⟩,
    ⟨"FILTER FOR COLUMN <value>", filter⟩,
    ⟨"FILTER FOR COLUMN <string_list>", filter⟩,
    ⟨"SET INDEX TO <value>", setIndex⟩,
    ⟨"RESET INDEX", resetIndex⟩,
    ⟨"SORT VALUES BY <value>", sortValues⟩,
    ⟨"ASSIGN NEW COLUMN", assign⟩,
    ⟨"ASSIGN NEW COLUMN AS <value>", assignAs⟩,
    ⟨"GROUP BY COLUMN <value>", groupBy⟩,
    ⟨"GROUP BY COLUMN <string_list>", groupBy⟩,
    ⟨"AGGREGATE USING <value>", aggregate⟩,
    ⟨"SAVE TO CSV", saveCsv⟩,
    ⟨"SAVE TO CSV AS <value>", saveCsvAs⟩,
    ⟨"DELETE COLUMN", deleteColumns⟩,
    ⟨"DELETE COLUMN <value>", deleteColumns⟩,
    ⟨"DELETE COLUMN <string_list>", deleteColumns⟩,
    ⟨"DELETE ROWS", deleteRows⟩,
    ⟨"DELETE ROW <number>", deleteRows⟩,
    ⟨"DELETE ROWS <number_list>", deleteRows⟩,
    ⟨"ON COLUMN <value> STRIP <value>", strip⟩,
    ⟨"SPLIT ON COLUMN <value>", split⟩,
    ⟨"ON COLUMN <value> SPLIT ON <value>", split⟩,
    ⟨"REPLACE VALUES", replaceValues⟩,
    ⟨"ON COLUMN <value> REPLACE <value> WITH <value>", replaceValues⟩,
    ⟨"ON COLUMN <value> JOIN ON <value>", joinOn⟩,
    ⟨"EXTRACT VALUES", extract⟩,
    ⟨"ON COLUMN <value> EXTRACT <value>", extract⟩,
    ⟨"GET UNIQUE VALUES FROM <value>", uniqueValues⟩]

def templates : List String :=
  entries.map (·.template)

def plan? (template : String) (entities : DecodedEntities) : Option Operation := do
  let entry ← entries.find? (·.template == template)
  entry.plan template entities

def resolve (template : String) (entities : DecodedEntities) : Operation :=
  (plan? template entities).getD (.missing template)

end TablePhrase.Catalog
