/-!
Quoted literals. A literal opens and closes with one quote character, which is doubled inside; a
literal may also protect backslashes, each by a backslash before it. `Quoting.encode` writes a
literal and `Quoting.read?` reads one from the front of a text, leaving what follows it.
-/

namespace TransactionKit.Text

/-- How a literal is delimited: its quote character, and whether a backslash inside protects the
character after it. -/
structure Quoting where
  quote : Char
  backslash : Bool
deriving DecidableEq, Repr, Inhabited

namespace Quoting

/-- A character as it stands inside a literal. The quote character is looked at first, so a
literal quoted by backslashes still doubles them once. -/
def encodeChar (q : Quoting) (c : Char) : List Char :=
  if c = q.quote then [c, c]
  else if c = '\\' ∧ q.backslash then ['\\', c]
  else [c]

/-- A text as a literal. -/
def encode (q : Quoting) (text : List Char) : List Char :=
  q.quote :: text.flatMap q.encodeChar ++ [q.quote]

/-- Read the inside of a literal up to its closing quote; the text and what follows the quote. -/
def readInside? (q : Quoting) : List Char → Option (List Char × List Char)
  | [] => none
  | [c] => if c = q.quote then some ([], []) else none
  | c :: d :: rest =>
    if c = q.quote then
      if d = q.quote then (q.readInside? rest).map fun (text, after) => (c :: text, after)
      else some ([], d :: rest)
    else if c = '\\' ∧ q.backslash then
      (q.readInside? rest).map fun (text, after) => (d :: text, after)
    else (q.readInside? (d :: rest)).map fun (text, after) => (c :: text, after)

/-- Read a literal from the front of a text. -/
def read? (q : Quoting) : List Char → Option (List Char × List Char)
  | c :: rest => if c = q.quote then q.readInside? rest else none
  | [] => none

/-- The closing quote is consumed, so what follows a literal is shorter than what followed its
opening quote. -/
theorem length_lt_of_readInside? {q : Quoting} {cs text after : List Char}
    (h : q.readInside? cs = some (text, after)) : after.length < cs.length := by
  fun_induction readInside? q cs generalizing text after <;> grind [Option.map_eq_some_iff]

/-- Without backslashes, what is read up to the closing quote is the text as a literal holds it, and
no quote follows. -/
theorem eq_of_readInside? {q : Quoting} {cs text after : List Char} (plain : q.backslash = false)
    (h : q.readInside? cs = some (text, after)) :
    cs = text.flatMap q.encodeChar ++ q.quote :: after ∧ after.head? ≠ some q.quote := by
  fun_induction readInside? q cs generalizing text after with
  | case1 => cases h
  | case2 =>
    cases h
    simp
  | case3 => cases h
  | case4 rest ih =>
    obtain ⟨⟨read, rest⟩, inner, same⟩ := Option.map_eq_some_iff.mp h
    cases same
    obtain ⟨rfl, stops⟩ := ih inner
    exact ⟨by simp [encodeChar], stops⟩
  | case5 d rest differ =>
    cases h
    exact ⟨rfl, by simpa using differ⟩
  | case6 => simp_all
  | case7 c d rest differ notBackslash ih =>
    obtain ⟨⟨read, rest⟩, inner, same⟩ := Option.map_eq_some_iff.mp h
    cases same
    obtain ⟨eq, stops⟩ := ih inner
    exact ⟨by simp [encodeChar, differ, plain, eq], stops⟩

/-- The characters of a literal are read back in front of whatever is read after them. -/
theorem readInside?_flatMap_append (q : Quoting) (text cs : List Char) :
    q.readInside? (text.flatMap q.encodeChar ++ cs) =
      (q.readInside? cs).map fun (more, after) => (text ++ more, after) := by
  induction text with
  | nil => simp
  | cons c text ih =>
    rw [List.flatMap_cons, List.append_assoc]
    by_cases quote : c = q.quote
    · subst quote
      have doubled : q.encodeChar q.quote = [q.quote, q.quote] := by simp [encodeChar]
      simp [doubled, readInside?, ih, Function.comp_def]
    by_cases escaped : c = '\\' ∧ q.backslash = true
    · obtain ⟨rfl, on⟩ := escaped
      have doubled : q.encodeChar '\\' = ['\\', '\\'] := by simp [encodeChar, quote, on]
      simp [doubled, readInside?, quote, on, ih, Function.comp_def]
    have alone : q.encodeChar c = [c] := by simp [encodeChar, quote, escaped]
    rw [alone, List.singleton_append]
    cases later : text.flatMap q.encodeChar ++ cs with
    | nil =>
      obtain ⟨-, rfl⟩ := List.append_eq_nil_iff.mp later
      simp [readInside?, quote]
    | cons d rest =>
      rw [later] at ih
      simp [readInside?, quote, escaped, ih, Function.comp_def]

/-- The text of a literal is read back whatever follows the literal, unless that is its quote
character. -/
theorem readInside?_flatMap {q : Quoting} (text : List Char) {after : List Char}
    (stops : after.head? ≠ some q.quote) :
    q.readInside? (text.flatMap q.encodeChar ++ q.quote :: after) = some (text, after) := by
  have closed : q.readInside? (q.quote :: after) = some ([], after) := by
    cases after with
    | nil => simp [readInside?]
    | cons d after =>
      have differ : d ≠ q.quote := by simpa using stops
      simp [readInside?, differ]
  simp [readInside?_flatMap_append, closed]

/-- A literal is read back with exactly what follows it, unless that starts with the quote
character: then the literal does not end where it was closed. -/
theorem read?_encode_append (q : Quoting) (text after : List Char) :
    q.read? (q.encode text ++ after) = some (text, after) ↔ after.head? ≠ some q.quote := by
  have opened : q.read? (q.encode text ++ after) =
      q.readInside? (text.flatMap q.encodeChar ++ q.quote :: after) := by
    simp [encode, read?]
  rw [opened]
  constructor
  · intro read first
    obtain ⟨more, rfl⟩ := List.head?_eq_some_iff.mp first
    have doubled : q.readInside? (q.quote :: q.quote :: more) =
        (q.readInside? more).map fun (text, after) => (q.quote :: text, after) := by
      simp [readInside?]
    rw [readInside?_flatMap_append, doubled, Option.map_map] at read
    obtain ⟨⟨longer, rest⟩, -, same⟩ := Option.map_eq_some_iff.mp read
    simp at same
  · exact readInside?_flatMap text

/-- A function that goes through a text with the quote character of the literal it is in, if it is
in one, comes out of a literal where it went in. A doubled quote character inside closes the literal
and opens it again. -/
theorem write_encode {write : Option Char → List Char → List Char} {emit : Char → List Char}
    {q : Quoting} (opening : ∀ cs, write none (q.quote :: cs) =
      emit q.quote ++ write (some q.quote) cs)
    (inside : ∀ c cs, write (some q.quote) (c :: cs) =
      emit c ++ write (if c = q.quote then none else some q.quote) cs)
    (text after : List Char) :
    write none (q.encode text ++ after) = (q.encode text).flatMap emit ++ write none after := by
  have through : write (some q.quote) (text.flatMap q.encodeChar ++ q.quote :: after) =
      (text.flatMap q.encodeChar).flatMap emit ++ (emit q.quote ++ write none after) := by
    induction text with
    | nil => simp [inside]
    | cons c text ih =>
      rw [List.flatMap_cons, List.append_assoc, List.flatMap_append, List.append_assoc, ← ih]
      unfold encodeChar
      split
      · rename_i same
        subst same
        simp [inside, opening]
      · rename_i differ
        split
        · rename_i both
          obtain ⟨rfl, -⟩ := both
          simp [inside, differ]
        · simp [inside, differ]
  simp [encode, opening, through]

example : read? ⟨'\'', false⟩ "'it''s' x".toList = some ("it's".toList, " x".toList) := by
  decide +kernel

end Quoting

end TransactionKit.Text
