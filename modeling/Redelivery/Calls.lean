import Redelivery.Keyed

/-!
# Calls under way

A call is an operation that may take time.  Whoever makes it gets a number,
under which the answer is put once there is one.  A call can be given a name,
by which it is asked for its answer later on.
-/

namespace Redelivery

/-- The answers of all calls made so far, by number, and the names of some. -/
structure Calls (α : Type) where
  answers : List (Option α)
  names : Keyed String Nat
  deriving Repr

/-- What is known of a call. -/
inductive Outlook (α : Type) where
  /-- No call has the name. -/
  | unknown
  | running
  | done (answer : α)
  deriving DecidableEq, Repr

namespace Calls

variable {α : Type}

/-- No call was made yet. -/
def empty : Calls α :=
  { answers := [], names := Keyed.empty }

/-- Make a call and get its number. -/
def make (calls : Calls α) : Nat × Calls α :=
  (calls.answers.length, { calls with answers := calls.answers ++ [none] })

/-- Make a call under a name.  An older call of that name cannot be asked for
any more. -/
def makeNamed (calls : Calls α) (name : String) : Nat × Calls α :=
  let (call, made) := calls.make
  (call, { made with names := made.names.put name call })

/-- The answer of a call, if it has ended. -/
def answer? (calls : Calls α) (call : Nat) : Option α :=
  (calls.answers[call]?).join

/-- A call ends. -/
def reply (calls : Calls α) (call : Nat) (answer : α) : Calls α :=
  { calls with answers := calls.answers.set call (some answer) }

/-- Whether a call is under way. -/
def anyRunning (calls : Calls α) : Bool :=
  calls.answers.any Option.isNone

/-- Ask for the answer of a named call.  The name is used up by the answer. -/
def join (calls : Calls α) (name : String) : Outlook α × Calls α :=
  match calls.names.find? name with
  | none => (.unknown, calls)
  | some call =>
      match calls.answer? call with
      | none => (.running, calls)
      | some answer => (.done answer, { calls with names := calls.names.remove name })

/-- A call that is just made has no answer. -/
@[simp]
theorem answer?_make (calls : Calls α) : calls.make.2.answer? calls.make.1 = none := by
  simp [make, answer?]

/-- The answer of a call that has ended is the one that it ended with. -/
theorem answer?_reply_self {calls : Calls α} {call : Nat} (made : call < calls.answers.length)
    (answer : α) : (calls.reply call answer).answer? call = some answer := by
  simp [reply, answer?, made]

/-- The end of a call does not change the answer of another one. -/
theorem answer?_reply_of_ne {call other : Nat} (different : call ≠ other) (calls : Calls α)
    (answer : α) : (calls.reply call answer).answer? other = calls.answer? other := by
  simp [reply, answer?, List.getElem?_set_ne different]

end Calls

end Redelivery
