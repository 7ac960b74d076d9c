/-!
Readers: functions that take what they read from the front of a text and leave the rest, or fail.
They are put together with `do` and `<|>`; the second reader of an alternative starts where the
first one started. Repetition is bounded by the length of the text, so a reader that is repeated
with `all` should never succeed on nothing.
-/

namespace TransactionKit.Text

/-- A reader takes what it reads from the front of a text, or fails. -/
abbrev Reader (α : Type) := StateT (List Char) Option α

namespace Reader

variable {α : Type}

/-- Read one character that a test accepts. -/
def one (accepts : Char → Bool) : Reader Char
  | c :: cs => if accepts c then some (c, cs) else none
  | [] => none

def mark (c : Char) : Reader Unit
  | d :: cs => if d = c then some ((), cs) else none
  | [] => none

def exactly (expected : List Char) : Reader Unit :=
  expected.forM mark

/-- Read the characters that a test accepts, as many as there are. -/
def takeWhile (accepts : Char → Bool) : Reader (List Char) :=
  fun cs => some (cs.takeWhile accepts, cs.dropWhile accepts)

/-- Read the characters that a test accepts, at least one. -/
def takeWhile1 (accepts : Char → Bool) : Reader (List Char) := do
  let run ← takeWhile accepts
  if run.isEmpty then failure else return run

/-- Read the characters that a test accepts, at least one and at most `width`. -/
def takeUpTo (width : Nat) (accepts : Char → Bool) : Reader (List Char) :=
  fun cs =>
    let run := (cs.take width).takeWhile accepts
    if run.isEmpty then none else some (run, cs.drop run.length)

/-- Read exactly `count` characters that a test accepts. -/
def takeExactly (count : Nat) (accepts : Char → Bool) : Reader (List Char) :=
  fun cs =>
    let run := cs.take count
    if run.length = count ∧ run.all accepts then some (run, cs.drop count) else none

/-- Read the end of a text. -/
def finished : Reader Unit
  | [] => some ((), [])
  | _ => none

/-- What is read if it can be read. -/
def maybe (r : Reader α) : Reader (Option α) :=
  fun cs =>
    match r cs with
    | some (a, rest) => some (some a, rest)
    | none => some (none, cs)

/-- Read as often as possible, at most `limit` times. -/
def many (r : Reader α) : (limit : Nat) → Reader (List α)
  | 0 => pure []
  | limit + 1 => do
    match ← maybe r with
    | none => return []
    | some a => return a :: (← many r limit)

/-- Read as often as possible something that is never empty. -/
def all (r : Reader α) : Reader (List α) :=
  fun cs => many r cs.length cs

/-- Read one or more items with a separator between them. -/
def separated (item : Reader α) (separator : Reader Unit) : Reader (List α) := do
  let head ← item
  return head :: (← all (do separator; item))

/-- What a reader makes of the whole of a text. -/
def whole? (r : Reader α) (cs : List Char) : Option α :=
  match r cs with
  | some (a, []) => some a
  | _ => none

example : (separated (takeWhile1 Char.isDigit) (mark ',')).whole? "1,23".toList =
    some ["1".toList, "23".toList] := by
  decide +kernel

end Reader

end TransactionKit.Text
