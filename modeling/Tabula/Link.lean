import Tabula.Json.Value
import Tabula.Text.Base64

/-!
Download links.

A link carries its data as base64 inside a data URL and names the file to save. A file type of
exactly `csv` or `json` picks that media type and label; any other picks a generic download.
-/

namespace Tabula

open Json

/-- The media type and the label of a link for a file type. -/
def linkKind (fileType : Value) : String × String :=
  match fileType with
  | .str t =>
    if t.eqString "csv" then ("file/csv", "Download CSV file")
    else if t.eqString "json" then ("application/json", "Download JSON file")
    else ("application/octet-stream", "Download file")
  | _ => ("application/octet-stream", "Download file")

/-- The HTML link that downloads `data` as a file named by `filename`'s text, which it repeats as
it is. -/
def downloadLink (data : List UInt8) (filename fileType : Value) : Text :=
  let (media, label) := linkKind fileType
  Text.ofString ("<a href=\"data:" ++ media ++ ";base64," ++ Text.Base64.encode data ++
    "\" download=\"") ++ filename.display ++ Text.ofString ("\">" ++ label ++ "</a>")

end Tabula
