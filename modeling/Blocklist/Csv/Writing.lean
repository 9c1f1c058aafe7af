/-!
Writing tables with commas between the fields.
-/

namespace Blocklist.Csv

def needsQuotes (field : String) : Bool :=
  field.toList.any fun c => c == ',' || c == '"' || c == '\r' || c == '\n'

/-- A field as it is written. Quotation marks in a quoted field are doubled. -/
def writeField (field : String) : String :=
  if needsQuotes field then
    String.ofList ('"' :: field.toList.flatMap (fun c => if c = '"' then [c, c] else [c]) ++ ['"'])
  else field

def writeRecord (fields : List String) : String :=
  ",".intercalate (fields.map writeField) ++ "\n"

end Blocklist.Csv
