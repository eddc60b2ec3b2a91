import DefUse.Toml.Text

/-!
# Toml/Document — reading a settings file

`Toml.read?` gives the table a TOML document stands for, or nothing if it is not one.  A document
is a sequence of statements: `key = value`, `[table]` and `[[array of tables]]`.  What makes it more
than a grammar is what may not be said twice.  `Shelf` keeps account of that: the tables that were
opened by a header or by the way to a dotted key, and the values that are closed to additions.
-/

namespace DefUse.Toml

/-- A dotted key. -/
abbrev Key := List String

/-- The fields of a table. -/
abbrev Fields := List (String × Datum)

/-! ## Keys and tables -/

/-- Whether a character may stand in a bare key. -/
def isBareKey (c : Char) : Bool := c.isAlphanum || c = '-' || c = '_'

/-- One part of a key. -/
def readKeyPart? : List Char → Option (String × List Char)
  | [] => none
  | c :: rest =>
    if isBareKey c then
      some (String.ofList ((c :: rest).takeWhile isBareKey), (c :: rest).dropWhile isBareKey)
    else if c = '\'' then (readLiteral? rest).map fun (s, rest) => (String.ofList s, rest)
    else if c = '"' then
      (readBasic? false (rest.length + 1) [] rest).map fun (s, rest) => (String.ofList s, rest)
    else none

/-- A key, and what follows it and the blanks after it.  The number bounds its parts. -/
def readKey? : Nat → List Char → Option (Key × List Char)
  | 0, _ => none
  | fuel + 1, cs => do
    let (part, cs) ← readKeyPart? cs
    match skipSpaces cs with
    | '.' :: rest =>
      let (more, cs) ← readKey? fuel (skipSpaces rest)
      return (part :: more, cs)
    | cs => return ([part], cs)

/-- Change the table a key leads to, making tables on the way.  With `lists`, a list on the way
stands for its last item. -/
def changeAt? (lists : Bool) (change : Fields → Option Fields) : Key → Fields → Option Fields
  | [], fields => change fields
  | k :: rest, fields => do
    match (Datum.lookup k fields).getD (.table []) with
    | .table inner => return Datum.store k (.table (← changeAt? lists change rest inner)) fields
    | .list items =>
      if lists then
        match items.getLast? with
        | some (.table inner) =>
          let last := Datum.table (← changeAt? lists change rest inner)
          return Datum.store k (.list (items.dropLast ++ [last])) fields
        | _ => none
      else none
    | _ => none

/-- Put a value under a name that is not taken. -/
def insertNew? (name : String) (value : Datum) (fields : Fields) : Option Fields :=
  if (Datum.lookup name fields).isSome then none else some (fields ++ [(name, value)])

/-- Append a table to the list under a name, which may be new. -/
def appendTable? (name : String) (fields : Fields) : Option Fields :=
  match Datum.lookup name fields with
  | none => some (fields ++ [(name, .list [.table []])])
  | some (.list items) => some (Datum.store name (.list (items ++ [.table []])) fields)
  | some _ => none

/-- Whether a value may hold more values. -/
def isContainer : Datum → Bool
  | .list _ | .table _ => true
  | _ => false

/-! ## Values -/

mutual

/-- A value that starts at the first character. -/
def readValue? : Nat → List Char → Option (Datum × List Char)
  | 0, _ => none
  | fuel + 1, cs =>
    match cs with
    | '"' :: _ => (readText? cs).map fun (s, rest) => (.str s, rest)
    | '\'' :: _ => (readText? cs).map fun (s, rest) => (.str s, rest)
    | 't' :: 'r' :: 'u' :: 'e' :: rest => some (.bool true, rest)
    | 'f' :: 'a' :: 'l' :: 's' :: 'e' :: rest => some (.bool false, rest)
    | '[' :: rest => do
      match ← skipFiller? (rest.length + 1) rest with
      | ']' :: rest => return (.list [], rest)
      | rest => readItems? fuel [] rest
    | '\x7b' :: rest =>
      match skipSpaces rest with
      | '\x7d' :: rest => some (.table [], rest)
      | rest => readInline? fuel [] [] rest
    | _ =>
      match readMoment? cs with
      | some result => result
      | none =>
        match readBased? cs with
        | some result => some result
        | none =>
          match readDecimal? cs with
          | some result => some result
          | none => readSpecial? cs

/-- The items of a list from the start of one on, `done` being those before it, the last first. -/
def readItems? : Nat → List Datum → List Char → Option (Datum × List Char)
  | 0, _, _ => none
  | fuel + 1, done, cs => do
    let (value, cs) ← readValue? fuel cs
    match ← skipFiller? (cs.length + 1) cs with
    | ']' :: rest => return (.list (value :: done).reverse, rest)
    | ',' :: rest =>
      match ← skipFiller? (rest.length + 1) rest with
      | ']' :: rest => return (.list (value :: done).reverse, rest)
      | rest => readItems? fuel (value :: done) rest
    | _ => none

/-- The pairs of a table on one line from the start of one on.  `closed` are the keys of the values
before it that may not be added to. -/
def readInline? : Nat → List Key → Fields → List Char → Option (Datum × List Char)
  | 0, _, _, _ => none
  | fuel + 1, closed, fields, cs => do
    let (key, value, cs) ← readPair? fuel cs
    if closed.any (·.isPrefixOf key) then none
    else
      let fields ← changeAt? false (insertNew? (key.getLast?.getD "") value) key.dropLast fields
      match skipSpaces cs with
      | '\x7d' :: rest => return (.table fields, rest)
      | ',' :: rest =>
        let closed := if isContainer value then key :: closed else closed
        readInline? fuel closed fields (skipSpaces rest)
      | _ => none

/-- A key, an equals sign and a value. -/
def readPair? : Nat → List Char → Option (Key × Datum × List Char)
  | 0, _ => none
  | fuel + 1, cs => do
    let (key, cs) ← readKey? (cs.length + 1) cs
    match cs with
    | '=' :: rest =>
      let (value, cs) ← readValue? fuel (skipSpaces rest)
      return (key, value, cs)
    | _ => none

end

/-! ## Statements -/

/-- **A document as far as it was read**: its table, the table that pairs go to, and what may not be
said again. -/
structure Shelf where
  root : Fields
  /-- The table opened last. -/
  header : Key
  /-- The tables that no header may open again. -/
  opened : List Key
  /-- The tables on the way to dotted keys of the section under way. -/
  pending : List Key
  /-- The values that may not be added to. -/
  closed : List Key

namespace Shelf

/-- A document before its first statement. -/
def empty : Shelf := ⟨[], [], [], [], []⟩

/-- Whether a key leads to or into a value that may not be added to. -/
def isClosed (s : Shelf) (key : Key) : Bool := s.closed.any (·.isPrefixOf key)

/-- The section under way is over: the tables on the way to its dotted keys count as opened. -/
def endSection (s : Shelf) : Shelf := { s with opened := s.pending ++ s.opened, pending := [] }

/-- Open a table. -/
def openTable? (s : Shelf) (key : Key) : Option Shelf := do
  let s := s.endSection
  if s.opened.contains key || s.isClosed key then none
  else
    let root ← changeAt? true some key s.root
    return { s with root, header := key, opened := key :: s.opened }

/-- Add a table to an array of tables and open it. -/
def openItem? (s : Shelf) (key : Key) : Option Shelf := do
  let s := s.endSection
  if s.isClosed key then none
  else
    let opened := key :: s.opened.filter (!key.isPrefixOf ·)
    let closed := s.closed.filter (!key.isPrefixOf ·)
    let root ← changeAt? true (appendTable? (key.getLast?.getD "")) key.dropLast s.root
    return { s with root, header := key, opened, closed }

/-- The keys on the way to a dotted key, from a table on. -/
def waysTo (header key : Key) : List Key :=
  (List.range (key.length - 1)).map fun i => header ++ key.take (i + 1)

/-- Add a pair to the open table. -/
def addPair? (s : Shelf) (key : Key) (value : Datum) : Option Shelf := do
  let ways := waysTo s.header key
  if ways.any s.opened.contains then none
  else if s.isClosed (s.header ++ key.dropLast) then none
  else
    let insert := insertNew? (key.getLast?.getD "") value
    let root ← changeAt? true insert (s.header ++ key.dropLast) s.root
    let closed := if isContainer value then (s.header ++ key) :: s.closed else s.closed
    return { s with root, pending := ways ++ s.pending, closed }

end Shelf

/-- A statement that starts at the first character. -/
def readStatement? (s : Shelf) (cs : List Char) : Option (Shelf × List Char) := do
  match cs with
  | '[' :: '[' :: rest =>
    let (key, cs) ← readKey? (rest.length + 1) (skipSpaces rest)
    let s ← s.openItem? key
    match cs with
    | ']' :: ']' :: rest => return (s, rest)
    | _ => none
  | '[' :: rest =>
    let (key, cs) ← readKey? (rest.length + 1) (skipSpaces rest)
    let s ← s.openTable? key
    match cs with
    | ']' :: rest => return (s, rest)
    | _ => none
  | '#' :: _ => return (s, cs)
  | _ =>
    let (key, value, rest) ← readPair? (cs.length + 1) cs
    return (← s.addPair? key value, rest)

/-- The statements of a document, each on a line of its own.  The number bounds the characters. -/
def readStatements? : Nat → Shelf → List Char → Option Shelf
  | 0, s, _ => some s
  | fuel + 1, s, cs => do
    match skipSpaces cs with
    | [] => return s
    | '\n' :: rest => readStatements? fuel s rest
    | cs =>
      let (s, rest) ← readStatement? s cs
      match ← skipComment? (skipSpaces rest) with
      | [] => return s
      | '\n' :: rest => readStatements? fuel s rest
      | _ => none

/-- Line feeds in the place of carriage returns that a line feed follows. -/
def plainLines : List Char → List Char
  | [] => []
  | '\r' :: '\n' :: rest => '\n' :: plainLines rest
  | c :: rest => c :: plainLines rest

/-- **Read a settings file.** -/
def read? (text : String) : Option (List (String × Datum)) :=
  let cs := plainLines text.toList
  (readStatements? (cs.length + 1) .empty cs).map (·.root)

end DefUse.Toml
