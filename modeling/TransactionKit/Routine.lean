import TransactionKit.Connection.Store
import TransactionKit.Lock.Backend

/-!
Routines: computations that ask the world outside for something and go on with its answer. A
routine is a tree of calls, so that what a computation does can be told apart from what its calls
mean: a `Handler` answers every call out of a state, and the calls of several routines may be
interleaved one by one. Loops that poll carry a number of rounds and end in `starved` when the
rounds are used up.
-/

namespace TransactionKit

/-- Something asked of the world outside. -/
inductive Call where
  /-- Announce that a key is about to be acquired; a backend may refuse. -/
  | request (backend : Backend) (key : LockKey)
  /-- Insert a record unless its key has one, in one step; whether it was inserted. -/
  | create (backend : Backend) (record : Record)
  /-- The record of a key. -/
  | read (backend : Backend) (key : LockKey)
  /-- Remove the record of a key, if it belongs to the owner when one is given, in one step;
  whether a record was removed. -/
  | remove (backend : Backend) (key : LockKey) (owner? : Option String)
  /-- The time. -/
  | now
  /-- Let at least so many nanoseconds pass. -/
  | sleep (nanos : Nat)
  /-- Open a connection with a transaction in it; nothing if the store has no transactions. -/
  | connect (store : Store)
  /-- Commit the transaction of a connection. -/
  | commit (connection : Connection)
  /-- Roll back the transaction of a connection. -/
  | rollback (connection : Connection)
  /-- Close a connection. -/
  | close (connection : Connection)

/-- The answers that a call can have. -/
@[reducible] def Call.Answer : Call → Type
  | request .. => Except Error Unit
  | create .. => Except Error Bool
  | read .. => Except Error (Option Record)
  | remove .. => Except Error Bool
  | now => Int
  | sleep _ => Unit
  | connect _ => Except Error (Option Connection)
  | commit _ => Except Error Unit
  | rollback _ => Except Error Unit
  | close _ => Except Error Unit

/-- A computation with calls in it. -/
inductive Routine (α : Type) where
  /-- Finished. -/
  | done (result : α)
  /-- A call, and how to go on with its answer. -/
  | call (c : Call) (next : c.Answer → Routine α)
  /-- Out of rounds. -/
  | starved

/-- The meaning of calls: each is answered out of a state that it may change. -/
abbrev Handler (σ : Type) :=
  (c : Call) → σ → c.Answer × σ

namespace Routine

variable {α β γ σ : Type}

/-- One routine after another. -/
def bind : Routine α → (α → Routine β) → Routine β
  | done a, f => f a
  | call c next, f => call c fun answer => (next answer).bind f
  | starved, _ => starved

instance : Monad Routine where
  pure := done
  bind := bind

@[simp] theorem pure_eq_done (a : α) : (pure a : Routine α) = done a := rfl

@[simp] theorem done_bind (a : α) (f : α → Routine β) : (done a >>= f) = f a := rfl

@[simp] theorem call_bind (c : Call) (next : c.Answer → Routine α) (f : α → Routine β) :
    (call c next >>= f) = call c fun answer => next answer >>= f := rfl

@[simp] theorem starved_bind (f : α → Routine β) : ((starved : Routine α) >>= f) = starved := rfl

private theorem bind_done (r : Routine α) : (r >>= done) = r := by
  induction r with
  | done a => rfl
  | call c next hypothesis => exact congrArg (call c) (funext hypothesis)
  | starved => rfl

private theorem bind_bind (r : Routine α) (f : α → Routine β) (g : β → Routine γ) :
    (r >>= f >>= g) = (r >>= fun a => f a >>= g) := by
  induction r with
  | done a => rfl
  | call c next hypothesis => exact congrArg (call c) (funext hypothesis)
  | starved => rfl

instance : LawfulMonad Routine :=
  .mk' Routine bind_done (fun _ _ => rfl) bind_bind

/-- Run a routine: its result, if it does not starve, and the state it leaves. -/
def run (handle : Handler σ) : Routine α → σ → Option α × σ
  | done a, s => (some a, s)
  | call c next, s => run handle (next (handle c s).1) (handle c s).2
  | starved, s => (none, s)

@[simp] theorem run_done (handle : Handler σ) (a : α) (s : σ) :
    run handle (done a) s = (some a, s) := rfl

@[simp] theorem run_call (handle : Handler σ) (c : Call) (next : c.Answer → Routine α) (s : σ) :
    run handle (call c next) s = run handle (next (handle c s).1) (handle c s).2 := rfl

@[simp] theorem run_starved (handle : Handler σ) (s : σ) :
    run handle (starved : Routine α) s = (none, s) := rfl

/-- A sequence runs its second part from where the first ends. -/
theorem run_bind (handle : Handler σ) (r : Routine α) (f : α → Routine β) (s : σ) :
    run handle (r >>= f) s =
      match run handle r s with
      | (some a, t) => run handle (f a) t
      | (none, t) => (none, t) := by
  induction r generalizing s with
  | done a => rfl
  | call c next hypothesis => exact hypothesis (handle c s).1 (handle c s).2
  | starved => rfl

/-- A routine of one call. -/
def ask (c : Call) : Routine c.Answer :=
  call c done

def request (backend : Backend) (key : LockKey) : Routine (Except Error Unit) :=
  ask (.request backend key)

def create (backend : Backend) (record : Record) : Routine (Except Error Bool) :=
  ask (.create backend record)

def read (backend : Backend) (key : LockKey) : Routine (Except Error (Option Record)) :=
  ask (.read backend key)

def remove (backend : Backend) (key : LockKey) (owner? : Option String) :
    Routine (Except Error Bool) :=
  ask (.remove backend key owner?)

def now : Routine Int :=
  ask .now

def sleep (nanos : Nat) : Routine Unit :=
  ask (.sleep nanos)

def connect (store : Store) : Routine (Except Error (Option Connection)) :=
  ask (.connect store)

def commit (connection : Connection) : Routine (Except Error Unit) :=
  ask (.commit connection)

def rollback (connection : Connection) : Routine (Except Error Unit) :=
  ask (.rollback connection)

def close (connection : Connection) : Routine (Except Error Unit) :=
  ask (.close connection)

end Routine

end TransactionKit
