import ApiSchema.Platform.Weixin.Row
import ApiSchema.Proofs.Text.Pieces

/-!
The types that the tables of a page lead to. Opening the tables below a table breaks off exactly if
one of the types that it leads to has no table. A type within its own table is not opened again; this
misses nothing, since what a type leads to is also found without coming back to that type.
-/

set_option autoImplicit false

namespace ApiSchema

namespace Weixin

/-- The type whose table is opened below a row: the row has a name and a type, which is that of an
object, and no column that tells whether the field is required. -/
def NamesType (cells : List String) (type : String) : Prop :=
  ∃ name text others, cells = name :: text :: others ∧ others.length ≤ 1 ∧
    Text.isBlankText name = false ∧ namedType? (Text.trim text) = some type

theorem expands?_eq_some {cells : List String} {type : String} :
    (Row.ofCells? cells).bind Row.expands? = some type ↔ NamesType cells type := by
  match cells with
  | [] => simp [Row.ofCells?, NamesType]
  | [name] => simp [Row.ofCells?, NamesType]
  | name :: text :: others =>
      have several : ¬ (name :: text :: others).length < 2 := by simp
      have width : 4 ≤ (name :: text :: others).length ↔ ¬ others.length ≤ 1 := by simp; omega
      simp only [Row.ofCells?, List.getD_cons_zero, Text.isEmpty_trim, Bool.or_eq_true,
        decide_eq_true_eq, several, or_false, width]
      cases blank : Text.isBlankText name with
      | true => simp [NamesType, blank]
      | false =>
          by_cases narrow : others.length ≤ 1
          · simp [NamesType, blank, narrow, Row.expands?]
          · simp [NamesType, narrow, Row.expands?]

section

variable (page : Page)

/-- The types that the table after an anchor names, and those that the tables of such types name. -/
inductive Reachable (anchor : String) : String → Prop
  | named {table : List (List String)} {cells : List String} {type : String}
      (found : page.table? anchor = some table) (row : cells ∈ table)
      (names : NamesType cells type) : Reachable anchor type
  | further {outer type : String} {table : List (List String)} {cells : List String}
      (reached : Reachable anchor outer) (found : typeRows? page outer = some table)
      (row : cells ∈ table) (names : NamesType cells type) : Reachable anchor type

/-- The types that a table leads to on ways that pass none of the types avoided. -/
inductive LeadsTo (avoided : List String) (table : List (List String)) : String → Prop
  | named {cells : List String} {type : String} (row : cells ∈ table)
      (names : NamesType cells type) (new : type ∉ avoided) : LeadsTo avoided table type
  | further {outer type : String} {inner : List (List String)} {cells : List String}
      (reached : LeadsTo avoided table outer) (found : typeRows? page outer = some inner)
      (row : cells ∈ inner) (names : NamesType cells type) (new : type ∉ avoided) :
      LeadsTo avoided table type

/-- The types that a row leads to on ways that pass none of the types avoided, nor the type of the
row a second time. -/
def RowLeadsTo (avoided : List String) (cells : List String) (type : String) : Prop :=
  ∃ first, NamesType cells first ∧ first ∉ avoided ∧
    (type = first ∨ ∃ inner, typeRows? page first = some inner ∧
      LeadsTo page (first :: avoided) inner type)

/-- How the tables below a table are opened, within the tables of a chain of types: the type whose
table is missing, if one is. -/
inductive Opened : List String → List (List String) → Option String → Prop
  | done (chain : List String) : Opened chain [] none
  | passed {chain cells : List String} {rest : List (List String)} {missing : Option String}
      (known : ∀ type, NamesType cells type → type ∈ chain) (later : Opened chain rest missing) :
      Opened chain (cells :: rest) missing
  | missing {chain cells : List String} {rest : List (List String)} {type : String}
      (names : NamesType cells type) (new : type ∉ chain) (absent : typeRows? page type = none) :
      Opened chain (cells :: rest) (some type)
  | failed {chain cells : List String} {rest table : List (List String)} {type other : String}
      (names : NamesType cells type) (new : type ∉ chain) (found : typeRows? page type = some table)
      (inner : Opened (type :: chain) table (some other)) : Opened chain (cells :: rest) (some other)
  | opened {chain cells : List String} {rest table : List (List String)} {type : String}
      {missing : Option String} (names : NamesType cells type) (new : type ∉ chain)
      (found : typeRows? page type = some table) (inner : Opened (type :: chain) table none)
      (later : Opened chain rest missing) : Opened chain (cells :: rest) missing

end

variable {page : Page} {anchor : String} {chain : List String} {table : List (List String)}

theorem NamesType.unique {cells : List String} {first second : String}
    (names : NamesType cells first) (again : NamesType cells second) : first = second := by
  rw [← expands?_eq_some] at names again
  rw [names] at again
  exact Option.some.inj again

/-- A way to a type starts at a row of the table; it need not come back to the type of that row. -/
theorem LeadsTo.starts {avoided : List String} {type : String}
    (leads : LeadsTo page avoided table type) :
    ∃ cells ∈ table, RowLeadsTo page avoided cells type := by
  induction leads with
  | @named cells type row names new => exact ⟨cells, row, type, names, new, .inl rfl⟩
  | @further outer type inner cells _ found row names new ih =>
      obtain ⟨start, member, first, named, fresh, way⟩ := ih
      refine ⟨start, member, first, named, fresh, ?_⟩
      by_cases same : type = first
      · exact .inl same
      · have newToo : type ∉ first :: avoided := by simp [same, new]
        rcases way with rfl | ⟨opened, foundFirst, leads⟩
        · exact .inr ⟨inner, found, .named row names newToo⟩
        · exact .inr ⟨opened, foundFirst, leads.further found row names newToo⟩

theorem Reachable.leadsTo {type : String} (reachable : Reachable page anchor type) :
    ∃ table, page.table? anchor = some table ∧ LeadsTo page [] table type := by
  induction reachable with
  | named found row names => exact ⟨_, found, .named row names List.not_mem_nil⟩
  | further _ found row names ih =>
      obtain ⟨table, start, leads⟩ := ih
      exact ⟨table, start, leads.further found row names List.not_mem_nil⟩

theorem Reachable.names {type : String} (reachable : Reachable page anchor type) :
    ∃ cells, NamesType cells type := by
  cases reachable with
  | named _ _ names => exact ⟨_, names⟩
  | further _ _ _ names => exact ⟨_, names⟩

/-- Opening tables breaks off, if at all, at a type without a table, which the page leads to. -/
theorem Opened.reachable {type : String} (run : Opened page chain table (some type))
    (reached : ∀ cells ∈ table, ∀ type, NamesType cells type → Reachable page anchor type) :
    Reachable page anchor type ∧ typeRows? page type = none := by
  generalize outcome : some type = missing at run
  induction run with
  | done chain => cases outcome
  | passed _ _ ih =>
      rw [List.forall_mem_cons] at reached
      exact ih reached.2 outcome
  | missing names _ absent =>
      cases outcome
      rw [List.forall_mem_cons] at reached
      exact ⟨reached.1 type names, absent⟩
  | failed names _ found _ ih =>
      rw [List.forall_mem_cons] at reached
      refine ih (fun cells row other inside => ?_) outcome
      exact (reached.1 _ names).further found row inside
  | opened _ _ _ _ _ _ ih =>
      rw [List.forall_mem_cons] at reached
      exact ih reached.2 outcome

/-- Where all tables could be opened, each type that the rows lead to has one. -/
theorem Opened.found (run : Opened page chain table none) {type : String}
    (leads : ∃ cells ∈ table, RowLeadsTo page chain cells type) : typeRows? page type ≠ none := by
  generalize outcome : (none : Option String) = missing at run
  induction run with
  | done chain =>
      obtain ⟨_, member, _⟩ := leads
      cases member
  | passed known _ ih =>
      obtain ⟨cells, member, way⟩ := leads
      rcases List.mem_cons.mp member with rfl | later
      · obtain ⟨first, names, new, _⟩ := way
        exact absurd (known first names) new
      · exact ih ⟨cells, later, way⟩ outcome
  | missing _ _ _ => cases outcome
  | failed _ _ _ _ _ => cases outcome
  | opened names _ found _ _ ihInner ihLater =>
      obtain ⟨cells, member, way⟩ := leads
      rcases List.mem_cons.mp member with rfl | later
      · obtain ⟨first, named, _, way⟩ := way
        cases names.unique named
        rcases way with rfl | ⟨inner, foundToo, leads⟩
        · simp [found]
        · cases found.symm.trans foundToo
          exact ihInner leads.starts rfl
      · exact ihLater ⟨cells, later, way⟩ outcome

/-- What opening the tables below a table comes to: all rows, or the type whose table is missing. -/
def Opens (page : Page) (anchor : String) (chain : List String) (table : List (List String)) :
    Except Failure (List Row) → Prop
  | .ok _ => Opened page chain table none
  | .error failure => ∃ type, failure = .typeNotFound anchor type ∧
      Opened page chain table (some type)

theorem Opens.map {result : Except Failure (List Row)} (opens : Opens page anchor chain table result)
    (f : List Row → List Row) : Opens page anchor chain table (result.map f) := by
  cases result <;> exact opens

/-- Rows that open no table leave it to the rows behind them. -/
theorem Opens.passed {cells : List String} {result : Except Failure (List Row)}
    (known : ∀ type, NamesType cells type → type ∈ chain)
    (later : Opens page anchor chain table result) :
    Opens page anchor chain (cells :: table) result := by
  cases result with
  | ok rows => exact Opened.passed known later
  | error failure =>
      obtain ⟨type, rfl, run⟩ := later
      exact ⟨type, rfl, .passed known run⟩

/-- A row whose table was opened leaves it to the rows behind it. -/
theorem Opens.opened {cells : List String} {type : String} {inner : List (List String)}
    {result : Except Failure (List Row)} (later : Opens page anchor chain table result)
    (names : NamesType cells type) (new : type ∉ chain) (found : typeRows? page type = some inner)
    (run : Opened page (type :: chain) inner none) :
    Opens page anchor chain (cells :: table) result := by
  cases result with
  | ok rows => exact Opened.opened names new found run later
  | error failure =>
      obtain ⟨missing, rfl, later⟩ := later
      exact ⟨missing, rfl, .opened names new found run later⟩

/-- The rows of a table are inlined by these rules. -/
theorem opens_inlineRows (page : Page) (anchor start : String) (chain : List String)
    (table : List (List String)) (within : ∀ cells ∈ table, cells ∈ pageRows page) :
    Opens page anchor chain table (inlineRows page anchor start chain table within) := by
  fun_induction inlineRows page anchor start chain table within with
  | case1 start chain => exact Opened.done chain
  | case2 start chain cells rest _ _ unread _ later =>
      refine later.passed fun type names => ?_
      rw [← expands?_eq_some, unread] at names
      cases names
  | case3 start chain cells rest _ _ row read _ plain _ later =>
      refine (later.map _).passed fun type names => ?_
      rw [← expands?_eq_some, read, Option.bind_some, plain] at names
      cases names
  | case4 start chain cells rest _ _ row read _ type expands known _ later =>
      refine (later.map _).passed fun other names => ?_
      rw [← expands?_eq_some, read, Option.bind_some, expands] at names
      cases names
      exact List.contains_iff_mem.mp known
  | case5 start chain cells rest _ row read type expands new absent _ _ =>
      have names : NamesType cells type := expands?_eq_some.mp (by rw [read]; exact expands)
      exact ⟨type, rfl, .missing names (mt List.contains_iff_mem.mpr new) absent⟩
  | case6 start chain cells rest _ row read _ type expands new table found failure failed _ _ inner =>
      have names : NamesType cells type := expands?_eq_some.mp (by rw [read]; exact expands)
      rw [failed] at inner
      obtain ⟨other, rfl, run⟩ := inner
      exact ⟨other, rfl, .failed names (mt List.contains_iff_mem.mpr new) found run⟩
  | case7 start chain cells rest _ _ row read _ type expands new table found rows success _ later
      inner =>
      have names : NamesType cells type := expands?_eq_some.mp (by rw [read]; exact expands)
      rw [success] at inner
      exact (later.map _).opened names (mt List.contains_iff_mem.mpr new) found inner

/-- Collecting rows opens the table after the anchor, if there is one. -/
theorem collectRows_opens (page : Page) (anchor : String) :
    (page.table? anchor = none ∧ collectRows page anchor = .ok []) ∨
      ∃ table, page.table? anchor = some table ∧
        Opens page anchor [] table (collectRows page anchor) := by
  unfold collectRows
  split
  · rename_i absent
    exact .inl ⟨absent, rfl⟩
  · rename_i table found
    exact .inr ⟨table, found, opens_inlineRows ..⟩

/-- Either all rows are collected and no type that the page leads to lacks a table, or it breaks off
at such a type. -/
theorem collectRows_cases (page : Page) (anchor : String) :
    ((∃ rows, collectRows page anchor = .ok rows) ∧
        ∀ type, Reachable page anchor type → typeRows? page type ≠ none) ∨
      ∃ type, Reachable page anchor type ∧ typeRows? page type = none ∧
        collectRows page anchor = .error (.typeNotFound anchor type) := by
  rcases collectRows_opens page anchor with ⟨absent, empty⟩ | ⟨table, found, opens⟩
  · refine .inl ⟨⟨[], empty⟩, fun type reachable => ?_⟩
    obtain ⟨table, found, _⟩ := reachable.leadsTo
    cases absent.symm.trans found
  · cases collected : collectRows page anchor with
    | ok rows =>
        rw [collected] at opens
        refine .inl ⟨⟨rows, rfl⟩, fun type reachable => ?_⟩
        obtain ⟨start, foundToo, leads⟩ := reachable.leadsTo
        cases found.symm.trans foundToo
        exact Opened.found opens leads.starts
    | error failure =>
        rw [collected] at opens
        obtain ⟨type, rfl, run⟩ := opens
        have missing := run.reachable fun cells row other names => .named found row names
        exact .inr ⟨type, missing.1, missing.2, rfl⟩

/-- The tables below the table after an anchor are opened to the end, or up to a type whose table is
missing and which the page leads to; the latter exactly if there is such a type. -/
theorem collectRows_breaksOff_iff (page : Page) (anchor : String) :
    ((∃ type, collectRows page anchor = .error (.typeNotFound anchor type)) ↔
      ∃ type, Reachable page anchor type ∧ typeRows? page type = none) ∧
    ((∃ rows, collectRows page anchor = .ok rows) ∨
      ∃ type, Reachable page anchor type ∧ typeRows? page type = none ∧
        collectRows page anchor = .error (.typeNotFound anchor type)) := by
  rcases collectRows_cases page anchor with ⟨⟨rows, collected⟩, found⟩ | ⟨type, missing⟩
  · refine ⟨⟨?_, ?_⟩, .inl ⟨rows, collected⟩⟩
    · rintro ⟨type, failed⟩
      cases collected.symm.trans failed
    · rintro ⟨type, reachable, absent⟩
      exact absurd absent (found type reachable)
  · refine ⟨⟨fun _ => ⟨type, missing.1, missing.2.1⟩, fun _ => ⟨type, missing.2.2⟩⟩, ?_⟩
    exact .inr ⟨type, missing⟩

/-- A page with an order, whose table is named in lower case and names the type of the buyer. -/
def orderPage : Page :=
  ((Page.empty "").withTable "orders" [["order", "Object Order", "订单"]]).withTable "order"
    [["parent", "Order", "上级"], ["buyer", "Buyer", "买家"]]

example : Reachable orderPage "orders" "Buyer" ∧ typeRows? orderPage "Buyer" = none := by
  have order : NamesType ["order", "Object Order", "订单"] "Order" :=
    ⟨_, _, _, rfl, by decide, by decide +kernel, by decide +kernel⟩
  have buyer : NamesType ["buyer", "Buyer", "买家"] "Buyer" :=
    ⟨_, _, _, rfl, by decide, by decide +kernel, by decide +kernel⟩
  have reached : Reachable orderPage "orders" "Order" := .named rfl List.mem_cons_self order
  have table : typeRows? orderPage "Order" =
      some [["parent", "Order", "上级"], ["buyer", "Buyer", "买家"]] := by decide +kernel
  have row : ["buyer", "Buyer", "买家"] ∈ [["parent", "Order", "上级"], ["buyer", "Buyer", "买家"]] :=
    List.mem_cons_of_mem _ List.mem_cons_self
  exact ⟨reached.further table row buyer, by decide +kernel⟩

end Weixin

end ApiSchema
