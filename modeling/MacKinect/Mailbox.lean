import Mathlib.Data.List.Basic

/-! The spec's FrameMailbox as an abstract model: one slot that a write overwrites and
a take empties. The adapters are related to it through the slot events of their runs,
oldest first. -/
namespace MacKinect.Mailbox

inductive Event (α : Type) where
  | write (value : α)
  | take

def Event.after : Option α → Event α → Option α
  | _, .write value => some value
  | _, .take => none

/-- What a take returns after `history`. -/
def pending (history : List (Event α)) : Option α := history.foldl Event.after none

/-- The slot, and what the latest take that found it full handed out. -/
def Event.handOut : Option α × Option α → Event α → Option α × Option α
  | (_, given), .write value => (some value, given)
  | (slot, given), .take => (none, slot.or given)

/-- What the latest take that found a value handed out. -/
def handedOut (history : List (Event α)) : Option α := (history.foldl Event.handOut (none, none)).2

/-- The newest value `select` finds among the writes, takes ignored. -/
def latest (select : α → Option β) (history : List (Event α)) : Option β :=
  history.foldl (fun found event => match event with
    | .write value => (select value).or found
    | .take => found) none

section Laws

variable {α β : Type} (history : List (Event α)) (value : α) (select : α → Option β)

@[simp] theorem pending_nil : pending ([] : List (Event α)) = none := rfl

@[simp] theorem pending_write : pending (history ++ [.write value]) = some value := by
  simp [pending, Event.after]

@[simp] theorem pending_take : pending (history ++ [.take]) = none := by
  simp [pending, Event.after]

theorem slot_handOut : (history.foldl Event.handOut (none, none)).1 = pending history := by
  induction history using List.reverseRecOn with
  | nil => rfl
  | append_singleton history event ih =>
    cases event <;> simp [List.foldl_append, Event.handOut, ← ih]

@[simp] theorem handedOut_nil : handedOut ([] : List (Event α)) = none := rfl

@[simp] theorem handedOut_write : handedOut (history ++ [.write value]) = handedOut history := by
  simp [handedOut, Event.handOut]

@[simp] theorem handedOut_take :
    handedOut (history ++ [.take]) = (pending history).or (handedOut history) := by
  simp [handedOut, Event.handOut, ← slot_handOut]

@[simp] theorem latest_nil : latest select ([] : List (Event α)) = none := rfl

@[simp] theorem latest_write :
    latest select (history ++ [.write value]) = (select value).or (latest select history) := by
  simp [latest]

@[simp] theorem latest_take : latest select (history ++ [.take]) = latest select history := by
  simp [latest]

/-- A pending value is the newest write, so it is also the newest write `latest` sees. -/
theorem latest_of_pending {history : List (Event α)} {value : α} (stamp : α → β)
    (last : pending history = some value) : latest (fun a => some (stamp a)) history = some (stamp value) := by
  induction history using List.reverseRecOn with
  | nil => cases last
  | append_singleton history event _ =>
    cases event with
    | write a => simp_all
    | take => simp at last

/-- A pending value was written. -/
theorem mem_of_pending {history : List (Event α)} {value : α} (last : pending history = some value) :
    .write value ∈ history := by
  induction history using List.reverseRecOn with
  | nil => cases last
  | append_singleton history event _ =>
    cases event with
    | write a => simp_all
    | take => simp at last

/-- `latest` finds something exactly when some write is selected. -/
theorem latest_isSome_iff :
    (latest select history).isSome ↔ ∃ a, .write a ∈ history ∧ (select a).isSome := by
  induction history using List.reverseRecOn with
  | nil => simp
  | append_singleton history event ih =>
    cases event with
    | take => simp [ih]
    | write a =>
      cases picked : select a
      · simp [picked, ih, or_and_right, exists_or]
      · simp only [latest_write, picked]
        exact iff_of_true rfl ⟨a, by simp, by simp [picked]⟩

end Laws

end MacKinect.Mailbox
