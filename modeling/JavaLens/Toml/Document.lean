import JavaLens.Toml.Number
import JavaLens.Toml.Table

/-!
# Configuration files

A reader for TOML texts.

## Main definitions

* `Toml.parse?` — the table that a configuration file denotes, if it is well formed.
-/

namespace JavaLens.Toml

/-! ## Keys and values -/

/-- How deep values may nest, and how many segments a key may have: less than this. -/
def nestingLimit : Nat := 80

/-- The characters from the first that is no space. -/
def skipSpaces (cs : List Char) : List Char := cs.dropWhile isSpace

/-- Passes over blanks, line ends and comments; `inComment` says that a comment is going on. -/
def skipFiller? (inComment : Bool) : List Char → Option (List Char)
  | [] => some []
  | '\n' :: rest => skipFiller? false rest
  | '\r' :: '\n' :: rest => skipFiller? false rest
  | c :: rest =>
    if inComment then if isPlain c then skipFiller? true rest else none
    else if isSpace c then skipFiller? false rest
    else if c = '#' then skipFiller? true rest
    else some (c :: rest)

/-- What may stand in a key without quotes. -/
def isBareKey (c : Char) : Bool := c.isAlphanum ∨ c = '_' ∨ c = '-'

/-- One segment of a key. -/
def segment? (cs : List Char) : Option (String × List Char) :=
  match cs with
  | '"' :: rest => basicString [] rest
  | '\'' :: rest => literalString [] rest
  | cs =>
    match cs.span isBareKey with
    | ([], _) => none
    | (bare, rest) => some (String.ofList bare, rest)

/-- A dotted key with at most `fuel` segments, as its path and its last segment. -/
def key? : Nat → List Char → Option ((List String × String) × List Char)
  | 0, _ => none
  | fuel + 1, cs =>
    match segment? (skipSpaces cs) with
    | none => none
    | some (name, rest) =>
      match skipSpaces rest with
      | '.' :: rest =>
        match key? fuel rest with
        | none => none
        | some ((path, last), rest) => some ((name :: path, last), rest)
      | rest => some (([], name), rest)

/-- What may stand in a value without delimiters. -/
def isWordPart (c : Char) : Bool :=
  c.isAlphanum ∨ c = '_' ∨ c = '+' ∨ c = '-' ∨ c = '.' ∨ c = ':'

/-- A value without delimiters. A space may divide a date from the time behind it. -/
def bareValue? (cs : List Char) : Option (Toml × List Char) :=
  let (word, rest) := cs.span isWordPart
  let (word, rest) :=
    match rest with
    | ' ' :: c :: more =>
      if (date? word).any (·.2.isEmpty) && c.isDigit then
        let (time, rest) := (c :: more).span isWordPart
        (word ++ ' ' :: time, rest)
      else (word, rest)
    | _ => (word, rest)
  (word? word).map (·, rest)

mutual

/-- A value at the given depth, read with at most `fuel` nested calls. -/
def value? : Nat → Nat → List Char → Option (Toml × List Char)
  | 0, _, _ => none
  | fuel + 1, depth, cs =>
    match cs with
    | '"' :: _ | '\'' :: _ => (anyString? cs).map fun (s, rest) => (.string s, rest)
    | '[' :: rest => if depth + 1 < nestingLimit then items? fuel (depth + 1) #[] rest else none
    | '\x7b' :: rest =>
      if depth + 1 < nestingLimit then
        match skipSpaces rest with
        | '\x7d' :: rest => some (.table [], rest)
        | rest => pairs? fuel (depth + 1) .opened rest
      else none
    | cs => bareValue? cs

/-- The rest of an array behind the items `done`. A comma may stand behind the last item. -/
def items? : Nat → Nat → Array Toml → List Char → Option (Toml × List Char)
  | 0, _, _, _ => none
  | fuel + 1, depth, done, cs =>
    match skipFiller? false cs with
    | none => none
    | some (']' :: rest) => some (.array done.toList, rest)
    | some cs =>
      match value? fuel depth cs with
      | none => none
      | some (item, rest) =>
        match skipFiller? false rest with
        | some (',' :: rest) => items? fuel depth (done.push item) rest
        | some (']' :: rest) => some (.array (done.push item).toList, rest)
        | _ => none

/-- The rest of a table in braces. It stands on one line. -/
def pairs? : Nat → Nat → Table → List Char → Option (Toml × List Char)
  | 0, _, _, _ => none
  | fuel + 1, depth, built, cs =>
    match key? nestingLimit.pred cs with
    | some ((path, key), '=' :: rest) =>
      match value? fuel depth (skipSpaces rest) with
      | none => none
      | some (v, rest) =>
        match built.insert? path key v, skipSpaces rest with
        | some built, ',' :: rest => pairs? fuel depth built rest
        | some built, '\x7d' :: rest => some (built.toToml, rest)
        | _, _ => none
    | _ => none

end

/-! ## Documents -/

/-- Where the lines of a document go. -/
inductive Place where
  /-- Before the first header, into the document itself. -/
  | top
  /-- Behind a header, into the table at the end of a path. -/
  | table (path : List String) (name : String)
  /-- Behind a header of an array, into a new table at its end. -/
  | arrayItem (path : List String) (name : String)

/-- The state of a reading: the complete tables, the one that takes lines, and its place. -/
structure Progress where
  root : Table
  current : Table
  place : Place

namespace Progress

/-- The progress before the first line. -/
def start : Progress := ⟨.opened, .opened, .top⟩

/-- The tables with the one that takes lines put into its place. -/
def close? (p : Progress) : Option Table :=
  match p.place with
  | .top => some p.current
  | .table path name =>
    p.root.modifyAt? false (fun parent => some (parent.set name (.table p.current))) path
  | .arrayItem path name =>
    p.root.modifyAt? false (fun parent =>
      match parent.get? name with
      | some (.tables ts) => some (parent.set name (.tables (ts ++ [p.current])))
      | _ => none) path

/-- A header opens a table. Only inner tables may have put anything into it before. -/
def openTable? (p : Progress) (path : List String) (name : String) : Option Progress := do
  let root ← p.close?
  let current ←
    match (Table.findAt? path root).bind (·.get? name) with
    | none => some .opened
    | some (.table t) => if t.implicit && !t.dotted then some (.mk false false t.entries) else none
    | some _ => none
  let root ← root.modifyAt? false (fun parent => some (parent.erase name)) path
  return ⟨root, current, .table path name⟩

/-- A header opens one more table of an array. -/
def openArrayTable? (p : Progress) (path : List String) (name : String) : Option Progress := do
  let root ← p.close?
  let root ← root.modifyAt? false (fun parent =>
    match parent.get? name with
    | none => some (parent.set name (.tables []))
    | some (.tables _) => some parent
    | some _ => none) path
  return ⟨root, .opened, .arrayItem path name⟩

end Progress

/-- What follows the end of a line, which may hold spaces and a comment. -/
def lineEnd? (cs : List Char) : Option (List Char) :=
  let rest :=
    match skipSpaces cs with
    | '#' :: rest => rest.dropWhile isPlain
    | rest => rest
  match rest with
  | [] => some []
  | '\n' :: rest => some rest
  | '\r' :: '\n' :: rest => some rest
  | _ => none

/-- What a line holds. -/
inductive Line where
  | nothing
  | pair (path : List String) (key : String) (v : Toml)
  | header (path : List String) (name : String)
  | arrayHeader (path : List String) (name : String)

/-- The line at the front, without the spaces before it, and what follows it. -/
def line? (cs : List Char) : Option (Line × List Char) :=
  match cs with
  | [] | '\n' :: _ | '\r' :: _ | '#' :: _ => (lineEnd? cs).map (.nothing, ·)
  | '[' :: '[' :: rest =>
    match key? nestingLimit.pred rest with
    | some ((path, name), ']' :: ']' :: rest) => (lineEnd? rest).map (.arrayHeader path name, ·)
    | _ => none
  | '[' :: rest =>
    match key? nestingLimit.pred rest with
    | some ((path, name), ']' :: rest) => (lineEnd? rest).map (.header path name, ·)
    | _ => none
  | cs =>
    match key? nestingLimit.pred cs with
    | some ((path, key), '=' :: rest) => do
      let (v, rest) ← value? (rest.length + 1) 0 (skipSpaces rest)
      (lineEnd? rest).map (.pair path key v, ·)
    | _ => none

/-- The table of at most `fuel` lines. -/
def lines? : Nat → Progress → List Char → Option Table
  | 0, _, _ => none
  | fuel + 1, p, cs =>
    match skipSpaces cs with
    | [] => p.close?
    | cs =>
      match line? cs with
      | none => none
      | some (.nothing, rest) => lines? fuel p rest
      | some (.pair path key v, rest) =>
        match p.current.insert? path key v with
        | some current => lines? fuel { p with current } rest
        | none => none
      | some (.header path name, rest) =>
        match p.openTable? path name with
        | some p => lines? fuel p rest
        | none => none
      | some (.arrayHeader path name, rest) =>
        match p.openArrayTable? path name with
        | some p => lines? fuel p rest
        | none => none

/-- The characters without a byte order mark. -/
def skipMark : List Char → List Char
  | '\ufeff' :: rest => rest
  | cs => cs

/-- The table that a configuration file denotes. Each line but the last has a character, so the
length of the text bounds their number. -/
def parse? (source : String) : Option Toml :=
  let cs := skipMark source.toList
  (lines? (cs.length + 1) .start cs).map Table.toToml

end JavaLens.Toml
