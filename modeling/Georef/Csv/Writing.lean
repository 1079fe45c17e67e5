/-!
# Writing tables of comma-separated values

A field that holds a comma, a quote or a line end is put in quotes, with its own quotes written
twice. Every record ends in a line feed.
-/

namespace Georef.Csv

/-- Whether a field has to be put in quotes. -/
def needsQuotes (field : List Char) : Bool :=
  field.any fun c => c == ',' || c == '"' || c == '\r' || c == '\n'

/-- A field as it is written. -/
def writeField (field : String) : String :=
  let chars := field.toList
  if needsQuotes chars then
    String.ofList ('"' :: chars.flatMap (fun c => if c = '"' then ['"', '"'] else [c]) ++ ['"'])
  else field

/-- A record as it is written. -/
def writeRecord (fields : List String) : String :=
  String.intercalate "," (fields.map writeField) ++ "\n"

end Georef.Csv
