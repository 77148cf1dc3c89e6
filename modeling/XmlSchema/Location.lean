import XmlSchema.Text.Blank
import XmlSchema.Uri

/-!
# Schema locations

An instance names its schemas by locations: paths relative to the directory of the document, or
URIs.  `SchemaLocation.ofText` says where a location points, and `schemaLocationPairs` splits the
value of a `schemaLocation` attribute.
-/

namespace XmlSchema

/-- Where a schema location points. -/
inductive SchemaLocation where
  | file (path : Path)
  /-- A location on the network, which is never loaded. -/
  | remote (address : String)
  deriving DecidableEq, Repr

/-- The file that a location in the form of a `file` URI names. -/
def fileUriPath? (location : String) : Option Path :=
  if "file:".toList.isPrefixOf location.toList then
    (Uri.parse? location).bind Uri.filePath?
  else none

/-- Where a location points when relative paths start at `base`. -/
def SchemaLocation.ofText (location : String) (base : Path) : SchemaLocation :=
  let location := Text.trimString location
  if "http://".toList.isPrefixOf location.toList ||
      "https://".toList.isPrefixOf location.toList then .remote location
  else .file ((fileUriPath? location).getD (base.join (.ofText location)))

/-- Pairs of neighbours, and the last word when it has no neighbour. -/
def pairUp : List String → List (String × String) × Option String
  | [] => ([], none)
  | [word] => ([], some word)
  | first :: second :: rest =>
    let (pairs, dangling) := pairUp rest
    ((first, second) :: pairs, dangling)

/-- The namespaces and locations in the value of a `schemaLocation` attribute, and the namespace
that is left without a location. -/
def schemaLocationPairs (value : String) : List (String × String) × Option String :=
  pairUp (Text.splitWords value)

end XmlSchema
