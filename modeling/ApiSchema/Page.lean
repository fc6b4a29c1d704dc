import ApiSchema.Json.Decode
import ApiSchema.OrderedMap

set_option autoImplicit false

namespace ApiSchema

open ApiSchema.Json

/-- A page: its address, the first block of text after each anchor, and the cells of the first table
after each anchor, row by row. -/
structure Page where
  url : String
  blocks : OrderedMap String
  tables : OrderedMap (List (List String))

namespace Page

def empty (url : String) : Page := ⟨url, .empty, .empty⟩

def withBlock (page : Page) (anchor text : String) : Page :=
  { page with blocks := page.blocks.insert anchor text }

def withTable (page : Page) (anchor : String) (rows : List (List String)) : Page :=
  { page with tables := page.tables.insert anchor rows }

def block? (page : Page) (anchor : String) : Option String := page.blocks.get? anchor

/-- The rows with cells of the table after an anchor. -/
def table? (page : Page) (anchor : String) : Option (List (List String)) :=
  (page.tables.get? anchor).map fun rows => rows.filter fun row => !row.isEmpty

def record : Record Page where
  title := "Document"
  blank := empty ""
  attributes := [
    .defaulted "url" Decode.text fun page url => { page with url },
    .defaulted "blocks" (Decode.table Decode.text) fun page entries =>
      { page with blocks := .ofList entries },
    .defaulted "tables" (Decode.table (Decode.list (Decode.list Decode.text))) fun page entries =>
      { page with tables := .ofList entries }]

def ofJson (text : String) : Except Json.Error Page := decodeText record.decode text

end Page

end ApiSchema
