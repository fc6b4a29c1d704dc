import ApiSchema.Failure
import ApiSchema.Page
import ApiSchema.Platform.Weixin.TypeText

/-!
The rows of the tables of 微信 pages. A row whose type is named is followed by the rows of the table
of that type, unless it stands within that table already.
-/

set_option autoImplicit false

namespace ApiSchema.Weixin

/-- A row. Tables of types have no column that tells which fields are required. -/
structure Row where
  name : String
  typeText : String
  required : Bool
  description : String
  hasRequiredColumn : Bool

/-- The row of the given cells, if they give a name and a type. -/
def Row.ofCells? (cells : List String) : Option Row :=
  let cell (column : Nat) : String := Text.trim (cells.getD column "")
  if (cell 0).isEmpty || cells.length < 2 then none
  else if 4 ≤ cells.length then some ⟨cell 0, cell 1, cell 2 == "是", cell 3, true⟩
  else some ⟨cell 0, cell 1, true, cell 2, false⟩

/-- The type whose table belongs below the row. -/
def Row.expands? (row : Row) : Option String :=
  if row.hasRequiredColumn then none else namedType? row.typeText

/-- The rows of the table of a type: the table named like the type, or else like the type in lower
case. -/
def typeRows? (page : Page) (type : String) : Option (List (List String)) :=
  (page.table? type).or (page.table? (Text.lowerAscii type))

def pageRows (page : Page) : List (List String) := page.tables.entries.flatMap Prod.snd

/-- The types whose tables belong below rows of a page. -/
def pageTypes (page : Page) : List String :=
  (pageRows page).filterMap fun cells => (Row.ofCells? cells).bind Row.expands?

/-- The types of a page that are not in a chain of types. -/
def unopened (page : Page) (chain : List String) : List String :=
  (pageTypes page).filter fun type => !chain.contains type

theorem mem_pageRows_of_table {page : Page} {anchor : String} {rows : List (List String)}
    (found : page.table? anchor = some rows) : ∀ cells ∈ rows, cells ∈ pageRows page := by
  intro cells member
  unfold Page.table? OrderedMap.get? at found
  obtain ⟨all, stored, rfl⟩ := Option.map_eq_some_iff.1 found
  exact List.mem_flatMap.2 ⟨_, mem_of_lookup stored, (List.mem_filter.1 member).1⟩

theorem mem_pageRows_of_type {page : Page} {type : String} {rows : List (List String)}
    (found : typeRows? page type = some rows) : ∀ cells ∈ rows, cells ∈ pageRows page := by
  unfold typeRows? at found
  cases own : page.table? type with
  | some table =>
      rw [own] at found
      exact mem_pageRows_of_table (own.trans found)
  | none =>
      rw [own] at found
      exact mem_pageRows_of_table found

theorem unopened_cons (page : Page) (chain : List String) (type : String) :
    unopened page (type :: chain) = (unopened page chain).filter fun other => other != type := by
  unfold unopened
  rw [List.filter_filter]
  apply List.filter_congr
  intro other _
  rw [List.contains_cons, Bool.not_or]
  rfl

theorem unopened_cons_lt {page : Page} {chain : List String} {type : String}
    (known : type ∈ pageTypes page) (fresh : chain.contains type = false) :
    (unopened page (type :: chain)).length < (unopened page chain).length := by
  rw [unopened_cons]
  apply List.length_filter_lt_length_iff_exists.2
  exact ⟨type, List.mem_filter.2 ⟨known, by rw [fresh]; rfl⟩, by simp⟩

/-- The start of the names of the rows below a row. -/
def Row.below (row : Row) : String :=
  let suffix := if isArray row.typeText && !Text.endsWith row.name "[]" then "[]" else ""
  row.name ++ suffix ++ "."

/-- The rows of a table of the page, named from `start` on, with the rows that belong below them.
`chain` are the types whose tables they stand in, and `anchor` names the outermost table. -/
def inlineRows (page : Page) (anchor start : String) (chain : List String)
    (table : List (List String)) (within : ∀ cells ∈ table, cells ∈ pageRows page) :
    Except Failure (List Row) :=
  match table with
  | [] => .ok []
  | cells :: rest =>
      let later := inlineRows page anchor start chain rest fun other member =>
        within other (List.mem_cons_of_mem _ member)
      match _ : Row.ofCells? cells with
      | none => later
      | some row =>
          let named := { row with name := start ++ row.name }
          match _ : row.expands? with
          | none => later.map (named :: ·)
          | some type =>
              if _ : chain.contains type then later.map (named :: ·)
              else
                match found : typeRows? page type with
                | none => .error (.typeNotFound anchor type)
                | some members =>
                    match inlineRows page anchor named.below (type :: chain) members
                        (mem_pageRows_of_type found) with
                    | .error failure => .error failure
                    | .ok inner => later.map fun rows => named :: inner ++ rows
termination_by ((unopened page chain).length, table.length)
decreasing_by
  · exact Prod.Lex.right _ (by simp)
  · refine Prod.Lex.left _ _ (unopened_cons_lt ?_ (by simp_all))
    refine List.mem_filterMap.2 ⟨cells, within cells List.mem_cons_self, ?_⟩
    rw [‹Row.ofCells? cells = some row›]
    assumption

/-- The rows of the table after an anchor, with the rows that belong below them. -/
def collectRows (page : Page) (anchor : String) : Except Failure (List Row) :=
  match found : page.table? anchor with
  | none => .ok []
  | some table => inlineRows page anchor "" [] table (mem_pageRows_of_table found)

end ApiSchema.Weixin
