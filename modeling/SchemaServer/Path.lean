/-! # Paths of documents

The analyzer knows a document by a path: its URI without any leading `file://`. -/

namespace SchemaServer

def fileScheme : List Char := ['f', 'i', 'l', 'e', ':', '/', '/']

/-- The characters after every leading `file://`. -/
def stripFileScheme : List Char → List Char
  | 'f' :: 'i' :: 'l' :: 'e' :: ':' :: '/' :: '/' :: rest => stripFileScheme rest
  | cs => cs

/-- The path by which the analyzer knows the document of a URI. -/
def pathOfUri (uri : String) : String := String.ofList (stripFileScheme uri.toList)

end SchemaServer
