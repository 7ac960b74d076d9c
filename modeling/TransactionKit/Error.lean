import TransactionKit.Text.Escape

/-!
The ways an operation can fail, each with what it has to tell. `Error.message` is the one place
that words them, and `Error.isRetryable` says which failures may pass when the operation is
repeated.
-/

namespace TransactionKit

/-- What a statement template can leave open at its end. -/
inductive OpenToken where
  | quotedLiteral
  | parameter
  | functionCall
  | group
deriving DecidableEq, Repr, Inhabited

def OpenToken.name : OpenToken → String
  | quotedLiteral => "quoted literal"
  | parameter => "parameter"
  | functionCall => "function call"
  | group => "parenthesized group"

/-- The cause of a failure. Positions count characters from the start of a template. -/
inductive Error where
  /-- A character that the template grammar does not allow at a position. -/
  | unexpectedChar (c : Char) (position : Nat)
  /-- A token that is never closed, with the position where it starts. -/
  | unterminated (token : OpenToken) (position : Nat)
  /-- A value that the rendering context has no place for. -/
  | unsupportedContext (reason : String)
  /-- A kind name that stands for no kind. -/
  | unknownKind (name : String)
  /-- A value without a form in the kind asked for. -/
  | conversion (value kind : String)
  /-- A date pattern that cannot be written. -/
  | unwritableDate (pattern : String)
  /-- Keys that were not acquired in time. -/
  | lockTimeout (keys : List String)
  /-- A key of a nested lock that the outer lock does not hold. -/
  | nestedConflict (key : String)
  /-- An operation that the state of its object does not allow. -/
  | invalidState (reason : String)
  /-- A failure of the store behind a lock table. -/
  | storage (reason : String)
  /-- A failure of a store connection. -/
  | connection (reason : String)
  /-- Settings that cannot be used. -/
  | config (reason : String)
  /-- A failure of the file system. -/
  | file (reason : String)
deriving DecidableEq, Repr, Inhabited

namespace Error

/-- The text of a failure. -/
def message : Error → String
  | unexpectedChar c position =>
    "Syntax error: unexpected character " ++ Text.shownChar c ++ " at position " ++
      toString position
  | unterminated token position =>
    "Unterminated " ++ token.name ++ " starting at position " ++ toString position
  | unsupportedContext reason => "Unsupported context: " ++ reason
  | unknownKind name => "Unknown rendering kind: " ++ Text.shown name
  | conversion value kind => "Cannot render " ++ value ++ " as " ++ kind
  | unwritableDate pattern => "Cannot write dates by the pattern " ++ Text.shown pattern
  | lockTimeout keys => "Lock timeout acquiring [" ++ "; ".intercalate keys ++ "]"
  | nestedConflict key =>
    "Nested lock conflict: key " ++ Text.shown key ++ " is not held by the outer lock"
  | invalidState reason => "Invalid state: " ++ reason
  | storage reason => "Storage error: " ++ reason
  | connection reason => "Connection error: " ++ reason
  | config reason => "Configuration error: " ++ reason
  | file reason => "I/O error: " ++ reason

/-- Whether the same operation may succeed when it is repeated. -/
def isRetryable : Error → Bool
  | lockTimeout _ => true
  | storage _ => true
  | _ => false

end Error

end TransactionKit
