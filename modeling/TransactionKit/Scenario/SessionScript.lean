import TransactionKit.Connection.Session

/-!
Scripts on a row store: steps that open sessions, use them, and look at the durable rows, with at
most one session at a time. A session that is given up loses what it has not committed.
-/

namespace TransactionKit.Scenario

/-- A step on a row store. -/
inductive SessionStep where
  /-- Open a session; the store may be out of reach. -/
  | connect (missing : Bool)
  /-- Begin a session on a new connection, which may have a transaction open already. -/
  | begin (already : Bool)
  /-- The durable rows. -/
  | peek
  | commit
  | rollback
  | close
  | drop
  | insert (row : Int)
  | select
  /-- Run a statement behind the back of the session. -/
  | execute (statement : String)
  | unknown (name : String)
  /-- A step that cannot be read, and why. -/
  | malformed (reason : String)
deriving DecidableEq, Repr, Inhabited

/-- The reply to a step on a row store. -/
inductive SessionReply where
  | none
  | number (n : Int)
  | rows (rows : List Int)
  | failure (e : Error)
  /-- The step makes no sense, or a statement failed. -/
  | misuse (message : String)
deriving DecidableEq, Repr, Inhabited

/-- The durable rows, and the current session with the rows of its store. -/
structure SessionStage where
  durable : List Int
  session? : Option Session
deriving DecidableEq, Repr, Inhabited

namespace SessionStage

/-- The stage with an empty table and no session. -/
def start : SessionStage :=
  ⟨[], none⟩

/-- The durable rows. -/
def rows (stage : SessionStage) : List Int :=
  stage.session?.elim stage.durable fun session => session.store.durable

/-- The stage without its session. -/
def dropped (stage : SessionStage) : SessionStage :=
  ⟨stage.rows, none⟩

/-- Rows in ascending order. -/
def sorted (rows : List Int) : List Int :=
  rows.mergeSort fun a b => decide (a ≤ b)

/-- Keep a new session, or none. -/
def adopt (stage : SessionStage) : Except Error Session → SessionReply × SessionStage
  | .ok session => (.none, ⟨stage.durable, some session⟩)
  | .error e => (.failure e, stage)

/-- Use the session that there is. -/
def withSession (stage : SessionStage) (use : Session → SessionReply × Session) :
    SessionReply × SessionStage :=
  match stage.session? with
  | none => (.misuse "no connection", stage)
  | some session =>
    let (reply, session) := use session
    (reply, ⟨stage.durable, some session⟩)

def withConnection (stage : SessionStage) (use : Session → SessionReply × Session) :
    SessionReply × SessionStage :=
  stage.withSession fun session =>
    if session.isOpen then use session else (.misuse "closed", session)

def operate (operation : Session → Except Error Unit × Session) (session : Session) :
    SessionReply × Session :=
  match operation session with
  | (.ok (), after) => (.none, after)
  | (.error e, after) => (.failure e, after)

/-- Run a statement behind the back of a session. -/
def executeBehind (text : String) (session : Session) : SessionReply × Session :=
  match Statement.ofText? text with
  | none => (.misuse "no such statement", session)
  | some statement =>
    match session.store.execute statement with
    | .ok store => (.none, { session with store := store })
    | .error e => (.misuse e.message, session)

/-- A new connection, on which a transaction may be open. -/
def connection (rows : List Int) (already : Bool) : RowStore :=
  { RowStore.ofRows rows with working? := if already then some rows else none }

def perform (stage : SessionStage) : SessionStep → SessionReply × SessionStage
  | .connect missing =>
    if missing then (.failure (.connection "unable to open database file"), stage.dropped)
    else stage.dropped.adopt (Session.begin (.ofRows stage.rows))
  | .begin already => stage.dropped.adopt (Session.begin (connection stage.rows already))
  | .peek => (.rows (sorted stage.rows), stage)
  | .commit => stage.withSession (operate Session.commit)
  | .rollback => stage.withSession (operate Session.rollback)
  | .close => stage.withSession (operate Session.close)
  | .drop =>
    match stage.session? with
    | none => (.misuse "no connection", stage)
    | some _ => (.none, stage.dropped)
  | .insert row => stage.withConnection fun session => (.number 1, session.insert row)
  | .select => stage.withConnection fun session => (.rows (sorted session.store.visible), session)
  | .execute text => stage.withConnection (executeBehind text)
  | .unknown name => (.misuse ("step " ++ name), stage)
  | .malformed reason => (.misuse reason, stage)

/-- Perform steps one after the other; the replies, each with the session after the step. -/
def performAll : List SessionStep → SessionStage →
    List (SessionReply × Option Session) × SessionStage
  | [], stage => ([], stage)
  | step :: rest, stage =>
    let (reply, stage) := stage.perform step
    let (answers, last) := performAll rest stage
    ((reply, stage.session?) :: answers, last)

/-- Perform a script on an empty table; the answers, and the rows that are durable at its end. -/
def performScript (steps : List SessionStep) :
    List (SessionReply × Option Session) × List Int :=
  let (answers, stage) := performAll steps start
  (answers, sorted stage.rows)

end SessionStage

end TransactionKit.Scenario
