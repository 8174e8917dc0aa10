import Mathlib.Data.List.Nodup
import Redelivery.Proofs.Run

/-!
# The book of messages

What can be told of the messages of a service without looking at a resend is a plain
book.  The page of a sequence bears the mark of suspension and the numbers of the
messages, in the order of their registration.  Five operations write in the book; nothing
else does, however many timers fire and resends go out meanwhile.
-/

namespace Redelivery

/-- What the book says of a sequence. -/
structure Page where
  suspended : Bool
  /-- The numbers of the messages, in the order of their registration. -/
  numbers : List Nat
  distinct : numbers.Nodup

namespace Page

/-- No message, and no suspension. -/
def blank : Page :=
  { suspended := false, numbers := [], distinct := List.nodup_nil }

/-- Add the number of a new message at the end. -/
def append (page : Page) (number : Nat) (fresh : number ∉ page.numbers) : Page :=
  { page with
    numbers := page.numbers ++ [number]
    distinct := List.nodup_append.mpr ⟨page.distinct, List.nodup_singleton number, by
      rintro old present new isNew rfl
      exact fresh (List.mem_singleton.mp isNew ▸ present)⟩ }

/-- Cross out acknowledged numbers. -/
def without (page : Page) (acknowledged : Nat → Bool) : Page :=
  { page with
    numbers := page.numbers.filter fun number => !acknowledged number
    distinct := page.distinct.filter _ }

/-- Put or take off the mark of suspension. -/
def mark (page : Page) (suspended : Bool) : Page :=
  { page with suspended }

end Page

/-- A page for every sequence. -/
abbrev Book : Type :=
  SequenceKey → Page

namespace Book

/-- The book at the beginning. -/
def blank : Book :=
  fun _ => .blank

/-- Write the page of a sequence anew. -/
def write (book : Book) (sequence : SequenceKey) (page : Page) : Book :=
  fun other => if other = sequence then page else book other

@[simp]
theorem write_self (book : Book) (sequence : SequenceKey) (page : Page) :
    book.write sequence page sequence = page :=
  if_pos rfl

theorem write_of_ne {sequence other : SequenceKey} (different : other ≠ sequence) (book : Book)
    (page : Page) : book.write sequence page other = book other :=
  if_neg different

/-- Whether a message can be entered: it has a sequence, its numbering starts at one, its
policy has no defect, and its number is not in use. -/
def Accepts (book : Book) (message : Message) : Prop :=
  message.sequence.isEmpty = false ∧ message.number ≠ 0 ∧ message.policy.defect? = none ∧
    message.number ∉ (book message.sequence).numbers

instance (book : Book) (message : Message) : Decidable (book.Accepts message) :=
  inferInstanceAs (Decidable (_ ∧ _ ∧ _ ∧ _))

/-- Enter a message, if it can be entered. -/
def enter (book : Book) (message : Message) : Book :=
  if accepted : book.Accepts message then
    book.write message.sequence
      ((book message.sequence).append message.number accepted.2.2.2)
  else book

/-- What a command writes. -/
def obey (book : Book) : Command → Book
  | .add message => book.enter message
  | .purgeAcknowledged sequence acknowledged =>
      book.write sequence ((book sequence).without acknowledged)
  | .purgeAll sequence => book.write sequence .blank
  | .suspend sequence => book.write sequence ((book sequence).mark true)
  | .resume sequence => book.write sequence ((book sequence).mark false)
  | .stop _ | .shutdown | .request _ _ | .join _ | .serve _ | .announce _ | .setExecutors _
  | .closeAgenda | .prepare _ _ | .exchangeStore _ => book

/-- What a move writes: activities, sleepers and the clock write nothing. -/
def after (book : Book) : Move → Book
  | .command command => book.obey command
  | .step _ | .rouse _ _ | .wait _ | .reorder _ => book

/-- The book that the moves of a run have written. -/
def written (moves : List Move) : Book :=
  moves.foldl after blank

theorem written_concat (moves : List Move) (move : Move) :
    written (moves ++ [move]) = (written moves).after move := by
  simp [written]

-- The second message with a number is refused, so that one acknowledgment leaves one number.
example :
    (written
      [.command (.add (Sample.message 2 none)), .command (.add (Sample.message 1 none)),
        .command (.add (Sample.message 2 none)),
        .command (.purgeAcknowledged Sample.sequence fun number => number == 2)]
      Sample.sequence).numbers = [1] :=
  rfl

end Book

end Redelivery
