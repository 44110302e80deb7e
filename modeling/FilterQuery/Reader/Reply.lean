import FilterQuery.Log
import FilterQuery.SyntaxError.Cause
import FilterQuery.Text.Bytes

/-!
# Replies of readers

A reader starts in a state, the text that it has not read yet and the number of groups that are
open, and replies with a value and the state after it, or with a fault. Either way it leaves a log.

* `Reply.andThen`: one reader after another; the logs follow each other.
* `Reading`: a reply that is known to leave less text than a bound, so that readers may call each
  other on what is left.
* `Reading.val_andThen`: forgetting the bounds commutes with `andThen`.
-/

namespace FilterQuery

open Text

/-- Where a reader stands. -/
structure State where
  /-- The text that has not been read yet. -/
  unread : List Char
  /-- The number of groups that are open. -/
  depth : Nat
  deriving DecidableEq, Repr, Inhabited

/-- Why and where reading failed. The place is given by the text that starts there. -/
structure Fault where
  /-- Why reading failed. -/
  cause : Cause
  /-- The text from the place of the fault on. -/
  unread : List Char
  deriving DecidableEq, Repr, Inhabited

/-- The syntax error that a fault is, in the text `input` that was read from its start. -/
def Fault.errorIn (fault : Fault) (input : List Char) : SyntaxError :=
  fault.cause.errorAt (offset input fault.unread)

/-- What a reader of values in `α` replies. -/
inductive Reply (α : Type) where
  /-- A value was read, and reading can go on in the state `next`. -/
  | done (value : α) (next : State) (log : Log)
  /-- Reading failed. -/
  | failed (fault : Fault) (log : Log)
  deriving DecidableEq, Repr

namespace Reply

variable {α β : Type}

/-- The records that were left. -/
def log : Reply α → Log
  | done _ _ log => log
  | failed _ log => log

/-- The value that was read, or the fault. -/
def result : Reply α → Except Fault α
  | done value _ _ => .ok value
  | failed fault _ => .error fault

/-- The reply with earlier records put before its own. -/
def after (earlier : Log) : Reply α → Reply α
  | done value next log => done value next (earlier ++ log)
  | failed fault log => failed fault (earlier ++ log)

/-- The reply of a second reader that goes on where the first one stopped. -/
def andThen (first : Reply α) (second : α → State → Reply β) : Reply β :=
  match first with
  | done value next log => (second value next).after log
  | failed fault log => failed fault log

/-- If a value was read, fewer characters are left than the bound for that value. -/
def LeavesBelow (bound : α → Nat) : Reply α → Prop
  | done value next _ => next.unread.length < bound value
  | failed _ _ => True

@[simp]
theorem after_nil (reply : Reply α) : reply.after [] = reply := by
  cases reply <;> rfl

@[simp]
theorem after_after (earlier later : Log) (reply : Reply α) :
    (reply.after later).after earlier = reply.after (earlier ++ later) := by
  cases reply <;> simp [after]

@[simp]
theorem done_andThen (value : α) (next : State) (log : Log) (second : α → State → Reply β) :
    (done value next log).andThen second = (second value next).after log := rfl

@[simp]
theorem failed_andThen (fault : Fault) (log : Log) (second : α → State → Reply β) :
    (failed fault log).andThen second = failed fault log := rfl

@[simp]
theorem log_after (earlier : Log) (reply : Reply α) :
    (reply.after earlier).log = earlier ++ reply.log := by
  cases reply <;> rfl

theorem after_andThen (earlier : Log) (first : Reply α) (second : α → State → Reply β) :
    (first.after earlier).andThen second = (first.andThen second).after earlier := by
  cases first with
  | done value next log => rw [done_andThen, after_after, after, done_andThen]
  | failed fault log => rfl

theorem after_eq_done_iff {earlier log : Log} {reply : Reply α} {value : α} {next : State} :
    reply.after earlier = done value next log ↔
      ∃ own, reply = done value next own ∧ log = earlier ++ own := by
  cases reply <;> simp [after, eq_comm, and_assoc]

theorem after_eq_failed_iff {earlier log : Log} {reply : Reply α} {fault : Fault} :
    reply.after earlier = failed fault log ↔
      ∃ own, reply = failed fault own ∧ log = earlier ++ own := by
  cases reply <;> simp [after, eq_comm, and_assoc]

theorem andThen_eq_done_iff {first : Reply α} {second : α → State → Reply β} {value : β}
    {next : State} {log : Log} : first.andThen second = done value next log ↔
      ∃ found middle earlier own, first = done found middle earlier ∧
        second found middle = done value next own ∧ log = earlier ++ own := by
  cases first <;> simp [after_eq_done_iff, and_assoc]

theorem andThen_eq_failed_iff {first : Reply α} {second : α → State → Reply β} {fault : Fault}
    {log : Log} : first.andThen second = failed fault log ↔
      first = failed fault log ∨ ∃ found middle earlier own, first = done found middle earlier ∧
        second found middle = failed fault own ∧ log = earlier ++ own := by
  cases first <;> simp [after_eq_failed_iff, and_assoc]

theorem LeavesBelow.after {bound : α → Nat} {reply : Reply α} (h : reply.LeavesBelow bound)
    (earlier : Log) : (reply.after earlier).LeavesBelow bound := by
  cases reply <;> exact h

theorem LeavesBelow.mono {bound bound' : α → Nat} {reply : Reply α}
    (h : reply.LeavesBelow bound) (hle : ∀ value, bound value ≤ bound' value) :
    reply.LeavesBelow bound' := by
  cases reply with
  | done value next log => exact Nat.lt_of_lt_of_le h (hle value)
  | failed fault log => trivial

end Reply

/-- A reply that leaves fewer characters than the bound for the value it holds. -/
abbrev Reading (α : Type) (bound : α → Nat) := { reply : Reply α // reply.LeavesBelow bound }

namespace Reading

variable {α β : Type} {bound : α → Nat}

/-- A value that leaves no record. -/
def done (value : α) (next : State) (h : next.unread.length < bound value) : Reading α bound :=
  ⟨.done value next [], h⟩

/-- A fault that leaves no record. -/
def fail (fault : Fault) : Reading α bound :=
  ⟨.failed fault [], trivial⟩

/-- The reply of a second reader that leaves no more than it started with. -/
def andThen {limit : Nat} (first : Reading α bound) (hle : ∀ value, bound value ≤ limit)
    (second : (value : α) → (next : State) → next.unread.length < bound value →
      Reading β fun _ => next.unread.length + 1) : Reading β fun _ => limit :=
  match first with
  | ⟨.done value next log, h⟩ =>
    ⟨(second value next h).val.after log, (second value next h).property.after log |>.mono
      fun _ => Nat.lt_of_lt_of_le h (hle value)⟩
  | ⟨.failed fault log, _⟩ => ⟨.failed fault log, trivial⟩

theorem val_andThen {limit : Nat} (first : Reading α bound) (hle : ∀ value, bound value ≤ limit)
    (second : (value : α) → (next : State) → next.unread.length < bound value →
      Reading β fun _ => next.unread.length + 1)
    (plain : α → State → Reply β)
    (hplain : ∀ value next h, (second value next h).val = plain value next) :
    (first.andThen hle second).val = first.val.andThen plain := by
  match first with
  | ⟨.done value next log, h⟩ => exact congrArg (Reply.after log) (hplain value next h)
  | ⟨.failed fault log, _⟩ => rfl

end Reading

end FilterQuery
