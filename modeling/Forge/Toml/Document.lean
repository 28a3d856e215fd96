import Forge.Text.Lines
import Forge.Toml.Scalar
import Forge.Toml.Text

/-!
# TOML documents

A document is read statement by statement. Beside the tables that the statements have built, the
reader keeps the keys that may no longer be changed: `frozen` are the keys of inline tables and of
arrays, with everything below them; `opened` are the tables that a header has named, or that became
tables through points in a key of an earlier section.
-/

namespace Forge.Toml

/-! ## Values -/

/-- The members with `change` applied to the table that the names lead to. Tables that are missing
on the way are added; an array stands for its last item if `intoLists` is set. -/
def within (intoLists : Bool) (change : Table → Option Table) :
    List String → Table → Option Table
  | [], t => change t
  | name :: names, t =>
    match Named.get? name t with
    | none => do
      let inner ← within intoLists change names []
      some (Named.put name (.table inner) t)
    | some (.table inner) => do
      let inner ← within intoLists change names inner
      some (Named.put name (.table inner) t)
    | some (.list items) =>
      if intoLists then
        match items.getLast? with
        | some (.table inner) => do
          let inner ← within intoLists change names inner
          some (Named.put name (.list (items.dropLast ++ [.table inner])) t)
        | _ => none
      else none
    | some _ => none

/-- The table with one more member, unless the name is taken. -/
def addMember (name : String) (v : Value) (t : Table) : Option Table :=
  if (Named.get? name t).isSome then none else some (Named.put name v t)

/-- Whether a value is made of others. -/
def Value.isCompound : Value → Bool
  | .list _ | .table _ => true
  | _ => false

/-- Whether one of the keys is the start of the given one. -/
def covers (keys : List (List String)) (names : List String) : Bool :=
  keys.any fun k => k.isPrefixOf names

/-- A reading that there must be. -/
def ofOption {α : Type} : Option α → Except Fault α
  | some a => .ok a
  | none => refuse

mutual

/-- The value at the start of a text. -/
def value : Nat → List Char → Except Fault (Value × List Char)
  | 0, _ => refuse
  | fuel + 1, cs =>
    match cs with
    | '"' :: _ | '\'' :: _ => (anyString cs).map fun (s, r) => (.text s, r)
    | 't' :: 'r' :: 'u' :: 'e' :: r => .ok (.flag true, r)
    | 'f' :: 'a' :: 'l' :: 's' :: 'e' :: r => .ok (.flag false, r)
    | '[' :: r => do
      match ← skipSpace r.length r with
      | ']' :: r => .ok (.list [], r)
      | r =>
        let (items, r) ← listItems fuel r
        .ok (.list items, r)
    | '\x7b' :: r =>
      match skipBlanks r with
      | '\x7d' :: r => .ok (.table [], r)
      | r => do
        let (t, r) ← tableItems fuel [] [] r
        .ok (.table t, r)
    | _ =>
      match dateTime? cs with
      | some reading => reading
      | none =>
        match timeOfDay? cs with
        | some reading => .ok reading
        | none =>
          match based? cs with
          | some (i, r) => .ok (.whole i, r)
          | none =>
            match decimalNumber? cs with
            | some reading => reading
            | none => ofOption (namedNumber? cs)

/-- The items of an array up to its closing bracket. -/
def listItems : Nat → List Char → Except Fault (List Value × List Char)
  | 0, _ => refuse
  | fuel + 1, cs => do
    let (v, r) ← value fuel cs
    match ← skipSpace r.length r with
    | ']' :: r => .ok ([v], r)
    | ',' :: r =>
      match ← skipSpace r.length r with
      | ']' :: r => .ok ([v], r)
      | r =>
        let (vs, r) ← listItems fuel r
        .ok (v :: vs, r)
    | _ => refuse

/-- The members of an inline table up to its closing brace, after the members `t`, below the keys
`frozen` of which nothing can be added. -/
def tableItems : Nat → (frozen : List (List String)) → (t : Table) → List Char →
    Except Fault (Table × List Char)
  | 0, _, _, _ => refuse
  | fuel + 1, frozen, t, cs => do
    let (names, r) ← key cs.length cs
    match r with
    | '=' :: r =>
      let (v, r) ← value fuel (skipBlanks r)
      if covers frozen names then refuse
      else
        let t ← ofOption (within false (addMember (names.getLastD "") v) names.dropLast t)
        match skipBlanks r with
        | '\x7d' :: r => .ok (t, r)
        | ',' :: r =>
          tableItems fuel (if v.isCompound then names :: frozen else frozen) t (skipBlanks r)
        | _ => refuse
    | _ => refuse

end

/-! ## Statements -/

/-- What has been read of a document: its tables, the keys that are closed to changes, those that
will be opened when the section ends, and the key of the section. -/
structure Progress where
  tables : Table
  frozen : List (List String)
  opened : List (List String)
  pending : List (List String)
  header : List String

namespace Progress

/-- Before the first statement. -/
def start : Progress := ⟨[], [], [], [], []⟩

/-- Ends the section. -/
def endSection (p : Progress) : Progress :=
  { p with opened := p.pending ++ p.opened, pending := [] }

/-- The header of a table, the text after which must close it. -/
def openTable (p : Progress) (names : List String) : Except Fault Progress :=
  if p.opened.contains names || covers p.frozen names then refuse
  else do
    let tables ← ofOption (within true some names p.tables)
    .ok { p with tables, opened := names :: p.opened, header := names }

/-- The array with one more empty table. -/
def addItem (name : String) (t : Table) : Option Table :=
  match Named.get? name t with
  | none => some (Named.put name (.list [.table []]) t)
  | some (.list items) => some (Named.put name (.list (items ++ [.table []])) t)
  | some _ => none

/-- The header of an item of an array of tables. What was said about keys below the array was said
about its earlier items. -/
def openItem (p : Progress) (names : List String) : Except Fault Progress :=
  if covers p.frozen names then refuse
  else do
    let elsewhere (k : List String) : Bool := !names.isPrefixOf k
    let tables ← ofOption (within true (addItem (names.getLastD "")) names.dropLast p.tables)
    .ok { p with
      tables
      frozen := p.frozen.filter elsewhere
      opened := names :: p.opened.filter elsewhere
      header := names }

/-- The starts of a key, from one name to all but the last. -/
def starts (names : List String) : List (List String) :=
  (List.range (names.length - 1)).map fun n => names.take (n + 1)

/-- A key with its value. -/
def assign (p : Progress) (names : List String) (v : Value) : Except Fault Progress :=
  let ways := (starts names).map (p.header ++ ·)
  if ways.any p.opened.contains then refuse
  else if covers p.frozen (p.header ++ names.dropLast) then refuse
  else do
    let tables ← ofOption
      (within true (addMember (names.getLastD "") v) (p.header ++ names.dropLast) p.tables)
    .ok { p with
      tables
      pending := ways ++ p.pending
      frozen := if v.isCompound then (p.header ++ names) :: p.frozen else p.frozen }

end Progress

/-- One statement, from its first character on. -/
def statement (p : Progress) (cs : List Char) : Except Fault (Progress × List Char) :=
  match cs with
  | '[' :: '[' :: r => do
    let (names, r) ← key r.length (skipBlanks r)
    let p ← p.endSection.openItem names
    match r with
    | ']' :: ']' :: r => .ok (p, r)
    | _ => refuse
  | '[' :: r => do
    let (names, r) ← key r.length (skipBlanks r)
    let p ← p.endSection.openTable names
    match r with
    | ']' :: r => .ok (p, r)
    | _ => refuse
  | '#' :: _ => .ok (p, cs)
  | _ => do
    let (names, r) ← key cs.length cs
    match r with
    | '=' :: r =>
      let (v, r) ← value (r.length + 1) (skipBlanks r)
      let p ← p.assign names v
      .ok (p, r)
    | _ => refuse

/-- The statements of a document; `fuel` bounds their number. -/
def statements : Nat → Progress → List Char → Except Fault Progress
  | 0, p, _ => .ok p
  | fuel + 1, p, cs =>
    match skipBlanks cs with
    | [] => .ok p
    | '\n' :: r => statements fuel p r
    | cs => do
      let (p, r) ← statement p cs
      match ← skipComment (skipBlanks r) with
      | [] => .ok p
      | '\n' :: r => statements fuel p r
      | _ => refuse

/-- The text with every carriage return before a line feed dropped. -/
def joinLineEnds : List Char → List Char
  | '\r' :: '\n' :: r => '\n' :: joinLineEnds r
  | c :: r => c :: joinLineEnds r
  | [] => []

/-- The document that a text stands for. -/
def read (s : String) : Except Fault Table :=
  let cs := joinLineEnds s.toList
  (statements (cs.length + 1) .start cs).map Progress.tables

end Forge.Toml
