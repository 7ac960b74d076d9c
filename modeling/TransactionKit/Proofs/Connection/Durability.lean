import Mathlib.Data.List.DropRight
import TransactionKit.Scenario.SessionScript

/-!
What a session makes durable. A row that is inserted is pending until the next commit makes it
durable, or the next rollback or the end of the session loses it. So the durable rows are those that
were there when the session began and, for each commit, the ones that were pending when it came
(`Session.durable_after`), whatever is done with the session and in whatever order.
-/

namespace TransactionKit

namespace Session

/-- What can be done with a session. Rows are inserted through its connection. -/
inductive Use where
  | insert (row : Int)
  | commit
  | rollback
  | close
deriving DecidableEq, Repr

/-- The row that is inserted. -/
def Use.row? : Use → Option Int
  | insert row => some row
  | commit | rollback | close => none

/-- Whether a row is inserted. -/
def Use.inserts (use : Use) : Bool :=
  use.row?.isSome

/-- The session after something is done with it. Without a connection no row can be inserted. -/
def afterUse (session : Session) : Use → Session
  | .insert row => if session.isOpen then session.insert row else session
  | .commit => session.commit.2
  | .rollback => session.rollback.2
  | .close => session.close.2

/-- The session after several uses of it. -/
def after (session : Session) (uses : List Use) : Session :=
  uses.foldl afterUse session

/-- The rows inserted since the latest commit or rollback, or since the session began. -/
def pending (uses : List Use) : List Int :=
  (uses.rtakeWhile Use.inserts).filterMap Use.row?

/-- The rows that commits make durable: for each commit before the session is closed, in order, the
rows that are pending when it comes. -/
def committed (uses : List Use) : List Int :=
  (List.range uses.length).flatMap fun i =>
    if uses[i]? = some .commit ∧ .close ∉ uses.take i then pending (uses.take i) else []

/-! ## What one more use adds -/

theorem pending_concat_insert (uses : List Use) (row : Int) :
    pending (uses ++ [.insert row]) = pending uses ++ [row] := by
  have inserts : (Use.insert row).inserts = true := rfl
  rw [pending, List.rtakeWhile_concat_pos _ _ _ inserts, List.filterMap_append]
  rfl

/-- Whatever inserts no row ends what is pending. -/
theorem pending_concat_of_not_inserts {use : Use} (ends : ¬ use.inserts = true)
    (uses : List Use) : pending (uses ++ [use]) = [] := by
  rw [pending, List.rtakeWhile_concat_neg _ _ _ ends, List.filterMap_nil]

theorem committed_concat (uses : List Use) (use : Use) :
    committed (uses ++ [use]) = committed uses ++
      if use = .commit ∧ .close ∉ uses then pending uses else [] := by
  have before : ∀ i ∈ List.range uses.length,
      (if (uses ++ [use])[i]? = some .commit ∧ .close ∉ (uses ++ [use]).take i then
        pending ((uses ++ [use]).take i) else []) =
      if uses[i]? = some .commit ∧ .close ∉ uses.take i then pending (uses.take i) else [] := by
    intro i member
    have inside : i < uses.length := List.mem_range.mp member
    rw [List.getElem?_append_left inside, List.take_append_of_le_length inside.le]
  have last : (uses ++ [use])[uses.length]? = some use := by simp
  have all : (uses ++ [use]).take uses.length = uses := by simp
  rw [committed, List.length_append, List.length_singleton, List.range_succ, List.flatMap_append,
    List.flatMap_congr before, List.flatMap_singleton, all]
  simp only [last, Option.some.injEq]
  rfl

/-! ## What one use does -/

/-- A session in a transaction, with durable rows and pending ones. -/
def inside (durable pending : List Int) : Session :=
  ⟨⟨durable, some (durable ++ pending)⟩, true, true⟩

/-- A session that is closed. -/
def ended (durable : List Int) : Session :=
  ⟨⟨durable, none⟩, false, false⟩

theorem begin_ofRows (rows : List Int) : Session.begin (.ofRows rows) = .ok (inside rows []) := by
  rw [inside, List.append_nil]
  rfl

variable (durable waiting : List Int)

theorem commit_inside :
    (inside durable waiting).commit = (.ok (), inside (durable ++ waiting) []) := by
  rw [inside, inside, List.append_nil]
  rfl

theorem rollback_inside : (inside durable waiting).rollback = (.ok (), inside durable []) := by
  rw [inside, inside, List.append_nil]
  rfl

theorem close_inside : (inside durable waiting).close = (.ok (), ended durable) := rfl

theorem commit_ended : (ended durable).commit = (.error (notOpen "commit"), ended durable) := rfl

theorem rollback_ended :
    (ended durable).rollback = (.error (notOpen "rollback"), ended durable) := rfl

theorem close_ended : (ended durable).close = (.ok (), ended durable) := rfl

theorem afterUse_inside_insert (row : Int) :
    (inside durable waiting).afterUse (.insert row) = inside durable (waiting ++ [row]) := by
  rw [inside, inside, ← List.append_assoc]
  rfl

/-- Nothing changes a closed session. -/
theorem afterUse_ended (use : Use) : (ended durable).afterUse use = ended durable := by
  cases use <;> rfl

/-! ## Whole sessions -/

/-- After any use of it a session is closed or in a transaction, with the committed rows durable and,
in a transaction, the pending ones waiting. -/
theorem after_inside (rows : List Int) (uses : List Use) :
    (inside rows []).after uses = if .close ∈ uses then ended (rows ++ committed uses)
      else inside (rows ++ committed uses) (pending uses) := by
  induction uses using List.reverseRecOn with
  | nil =>
    have nothing : rows ++ committed [] = rows := List.append_nil rows
    rw [if_neg List.not_mem_nil, nothing]
    rfl
  | append_singleton uses use ih =>
    have later : (inside rows []).after (uses ++ [use]) =
        ((inside rows []).after uses).afterUse use := List.foldl_append
    rw [later, ih]
    by_cases closed : .close ∈ uses
    · have still : .close ∈ uses ++ [use] := List.mem_append_left _ closed
      rw [if_pos closed, if_pos still, committed_concat, if_neg (by simp [closed]), List.append_nil]
      exact afterUse_ended _ use
    · rw [if_neg closed, committed_concat]
      cases use with
      | insert row =>
        rw [if_neg (by simp [closed]), if_neg (by simp), List.append_nil, pending_concat_insert]
        exact afterUse_inside_insert _ _ row
      | commit =>
        rw [if_neg (by simp [closed]), if_pos ⟨rfl, closed⟩, pending_concat_of_not_inserts (by decide),
          ← List.append_assoc]
        exact congrArg Prod.snd (commit_inside _ _)
      | rollback =>
        rw [if_neg (by simp [closed]), if_neg (by simp), List.append_nil,
          pending_concat_of_not_inserts (by decide)]
        exact congrArg Prod.snd (rollback_inside _ _)
      | close =>
        rw [if_pos (by simp), if_neg (by simp), List.append_nil]
        exact congrArg Prod.snd (close_inside _ _)

/-- A session can be begun on any rows. Whatever is done with it then, the durable rows are those
and the committed ones after them, and the session is in a transaction until it is closed. Until
then commits, rollbacks and the close succeed; afterwards commits and rollbacks fail, closing again
succeeds, and nothing changes. -/
theorem durable_after (rows : List Int) :
    ∃ session, Session.begin (.ofRows rows) = .ok session ∧ ∀ uses : List Use,
      (session.after uses).store.durable = rows ++ committed uses ∧
      ((session.after uses).inTransaction = true ↔ .close ∉ uses) ∧
      (.close ∉ uses → (session.after uses).commit.1 = .ok () ∧
        (session.after uses).rollback.1 = .ok () ∧ (session.after uses).close.1 = .ok ()) ∧
      (.close ∈ uses →
        (session.after uses).commit = (.error (notOpen "commit"), session.after uses) ∧
        (session.after uses).rollback = (.error (notOpen "rollback"), session.after uses) ∧
        (session.after uses).close = (.ok (), session.after uses)) := by
  refine ⟨inside rows [], begin_ofRows rows, fun uses => ?_⟩
  rw [after_inside]
  by_cases closed : .close ∈ uses
  · rw [if_pos closed]
    refine ⟨rfl, iff_of_false (by simp [ended]) (not_not.mpr closed), fun opened => ?_, fun _ => ?_⟩
    · exact absurd closed opened
    · exact ⟨commit_ended _, rollback_ended _, close_ended _⟩
  · rw [if_neg closed]
    refine ⟨rfl, iff_of_true rfl closed, fun _ => ?_, fun ended => absurd ended closed⟩
    rw [commit_inside, rollback_inside, close_inside]
    exact ⟨rfl, rfl, rfl⟩

example : committed [.insert 1, .commit, .insert 2, .rollback, .insert 3, .insert 4, .commit,
    .insert 5, .close, .commit] = [1, 3, 4] := by
  decide

/-! ## Scripts -/

/-- The step of a script for a use of its session. -/
def Use.step : Use → Scenario.SessionStep
  | insert row => .insert row
  | commit => .commit
  | rollback => .rollback
  | close => .close

end Session

namespace Scenario.SessionStage

open Session

variable {durable : List Int} {session : Session}

/-- An operation of a session leaves the same session behind in a script. -/
theorem snd_operate (operation : Session → Except Error Unit × Session) :
    (operate operation session).2 = (operation session).2 := by
  unfold operate
  split
  · rename_i answered
    rw [answered]
  · rename_i answered
    rw [answered]

/-- A step of a script does to its session what the use that it stands for does. -/
theorem snd_perform_step (use : Use) :
    ((⟨durable, some session⟩ : SessionStage).perform use.step).2 =
      ⟨durable, some (session.afterUse use)⟩ := by
  have keeps (operation : Session → Except Error Unit × Session) :
      ((⟨durable, some session⟩ : SessionStage).withSession (operate operation)).2 =
        ⟨durable, some (operation session).2⟩ := by
    rw [← snd_operate operation]
    rfl
  cases use with
  | insert row =>
    unfold afterUse
    simp only [Use.step, perform, withConnection, withSession]
    split <;> rfl
  | commit => exact keeps Session.commit
  | rollback => exact keeps Session.rollback
  | close => exact keeps Session.close

theorem snd_performAll_steps (uses : List Use) :
    (performAll (uses.map Use.step) ⟨durable, some session⟩).2 =
      ⟨durable, some (session.after uses)⟩ := by
  induction uses generalizing session with
  | nil => rfl
  | cons use uses ih =>
    rw [List.map_cons, performAll]
    dsimp only
    rw [snd_perform_step, ih]
    rfl

/-- A script that opens a session and uses it leaves the committed rows. -/
theorem snd_performScript_steps (uses : List Use) :
    (performScript (.connect false :: uses.map Use.step)).2 = sorted (committed uses) := by
  have opened : (start.perform (.connect false)).2 = ⟨[], some (inside [] [])⟩ := rfl
  rw [performScript, performAll]
  dsimp only
  rw [opened, snd_performAll_steps, after_inside, List.nil_append]
  split <;> rfl

end Scenario.SessionStage

end TransactionKit
