/-!
The tree of a TOML document. Statements add to it one by one: an assignment puts a value under a
dotted key of the table whose header came last, a header opens a table, and a doubled header opens
the next table of a list. A key holds one value for good. A table may be opened once by a header,
also after it came into being as part of a longer path, but not when assignments made it; and
assignments reach into the tables that assignments made and into no others.
-/

namespace TransactionKit

namespace Document

/-- How a table came into being. -/
inductive TableForm where
  /-- By its own header. -/
  | headed
  /-- As a part of the path of a header. -/
  | implied
  /-- By a dotted key of an assignment. -/
  | dotted
deriving DecidableEq, Repr, Inhabited

/-- What a key of a document holds. -/
inductive Tree where
  | text (s : String)
  | integer (i : Int)
  /-- A number with a fraction or an exponent, an infinity, or no number. -/
  | decimal
  | boolean (b : Bool)
  /-- A date, a time, or both. -/
  | moment
  | list (items : List Tree)
  /-- A table written between braces. -/
  | inlined (entries : List (String × Tree))
  | table (form : TableForm) (entries : List (String × Tree))
  /-- The tables opened by a doubled header, last first. -/
  | tables (elements : List (List (String × Tree)))
deriving Repr, Inhabited

/-- The entries of a table. -/
abbrev Entries := List (String × Tree)

/-- What a key holds. -/
def Entries.get? (entries : Entries) (key : String) : Option Tree :=
  (entries.find? fun entry => entry.1 = key).map Prod.snd

/-- The entries with a key bound anew. -/
def Entries.set (entries : Entries) (key : String) (tree : Tree) : Entries :=
  (key, tree) :: entries.filter fun entry => entry.1 ≠ key

/-- Change the table at the end of a path, which `change` learns the form of. Tables missing on
the way come into being, in the form that the statement gives them; a list of tables stands for
its last one. An assignment does not pass through tables with a header of their own. -/
def reach (form : TableForm) (change : TableForm → Entries → Option Entries) :
    (path : List String) → TableForm → Entries → Option Entries
  | [], own, entries => change own entries
  | key :: path, _, entries =>
    match Entries.get? entries key with
    | none => do
      return Entries.set entries key (.table form (← reach form change path form []))
    | some (.table own inner) =>
      if form = .dotted ∧ own = .headed then none
      else do
        return Entries.set entries key (.table own (← reach form change path own inner))
    | some (.tables (last :: others)) => do
      return Entries.set entries key
        (.tables ((← reach form change path .headed last) :: others))
    | some _ => none

/-- Bind a dotted key in a table. Its last part must be free, and the table it lies in must be the
given one or made by assignments. -/
def assign (path : List String) (key : String) (tree : Tree) (entries : Entries) :
    Option Entries :=
  reach .dotted
    (fun own inner =>
      if own = .dotted ∨ path.isEmpty then
        match Entries.get? inner key with
        | none => some (Entries.set inner key tree)
        | some _ => none
      else none)
    path .headed entries

/-- Open a table by its header. -/
def openTable (path : List String) (key : String) (root : Entries) : Option Entries :=
  reach .implied
    (fun _ inner =>
      match Entries.get? inner key with
      | none => some (Entries.set inner key (.table .headed []))
      | some (.table .implied entries) => some (Entries.set inner key (.table .headed entries))
      | some _ => none)
    path .headed root

/-- Open the next table of a list by its doubled header. -/
def openElement (path : List String) (key : String) (root : Entries) : Option Entries :=
  reach .implied
    (fun _ inner =>
      match Entries.get? inner key with
      | none => some (Entries.set inner key (.tables [[]]))
      | some (.tables elements) => some (Entries.set inner key (.tables ([] :: elements)))
      | some _ => none)
    path .headed root

/-- Bind a dotted key in the table that the last header opened. -/
def assignIn (header path : List String) (key : String) (tree : Tree) (root : Entries) :
    Option Entries :=
  reach .implied (fun _ inner => assign path key tree inner) header .headed root

end Document

end TransactionKit
