import Mathlib.Algebra.Order.Ring.Nat
import Mathlib.Algebra.BigOperators.Group.List.Basic

/-! A stream that carries frames one after another: the frame in hand, of which a part is gone,
the frames behind it and the items of a frame that is not complete yet. -/

structure Conveyor (Item : Type) where
  gone : List Item
  rest : List Item
  queued : List (List Item)
  pending : List Item

namespace Conveyor

variable {Item : Type}

def empty : Conveyor Item :=
  { gone := []
    rest := []
    queued := []
    pending := [] }

/-- What is in the stream, without a trace of where its frames begin. -/
def stream (belt : Conveyor Item) : List Item :=
  belt.rest ++ belt.queued.flatten ++ belt.pending

def frame (belt : Conveyor Item) : List Item := belt.gone ++ belt.rest

def write (belt : Conveyor Item) (items : List Item) : Conveyor Item :=
  { belt with pending := belt.pending ++ items }

def post (belt : Conveyor Item) : Conveyor Item :=
  { belt with
    queued := belt.queued ++ [belt.pending]
    pending := [] }

def take (belt : Conveyor Item) : Conveyor Item :=
  match belt.queued with
  | [] => belt
  | frame :: later =>
      { belt with
        gone := []
        rest := frame
        queued := later }

def read (belt : Conveyor Item) (count : Nat) : Conveyor Item :=
  { belt with
    gone := belt.gone ++ belt.rest.take count
    rest := belt.rest.drop count }

@[simp] theorem stream_empty : (empty : Conveyor Item).stream = [] := rfl

@[simp] theorem stream_write (belt : Conveyor Item) (items : List Item) :
    (belt.write items).stream = belt.stream ++ items := by
  simp [stream, write]

@[simp] theorem stream_post (belt : Conveyor Item) : belt.post.stream = belt.stream := by
  simp [stream, post]

theorem stream_take (belt : Conveyor Item) (used : belt.rest = []) :
    belt.take.stream = belt.stream := by
  cases behind : belt.queued with
  | nil => simp [stream, take, behind]
  | cons frame later => simp [stream, take, behind, used]

theorem stream_read (belt : Conveyor Item) (count : Nat) (within : count ≤ belt.rest.length) :
    (belt.read count).stream = belt.stream.drop count := by
  simp [stream, read, List.drop_append_of_le_length within]

theorem take_stream (belt : Conveyor Item) (count : Nat) (within : count ≤ belt.rest.length) :
    belt.stream.take count = belt.rest.take count := by
  simp [stream, List.take_append_of_le_length within]

@[simp] theorem frame_read (belt : Conveyor Item) (count : Nat) :
    (belt.read count).frame = belt.frame := by
  simp [frame, read]

theorem rest_le_stream (belt : Conveyor Item) : belt.rest.length ≤ belt.stream.length := by
  simp [stream]

theorem stream_length (belt : Conveyor Item) :
    belt.stream.length =
      belt.rest.length + (belt.queued.map List.length).sum + belt.pending.length := by
  simp [stream, Nat.add_assoc]

end Conveyor
