import Mathlib.Data.List.Basic
import Mathlib.Algebra.Order.Group.Nat

/-! A stream of messages, each a head of fixed length that announces the length of its body or is
refused, and a reader that fills the head and then the body in whatever portions come. -/

structure Announced (α : Type*) where
  head : Nat
  announces : List α → Option Nat
  head_pos : 0 < head

namespace Announced

variable {α : Type*} (format : Announced α)

/-- The messages of a stream, up to a head that is refused or a message that is not all there. -/
def messages (stream : List α) : List (List α × List α) :=
  if stream.length < format.head then []
  else
    match format.announces (stream.take format.head) with
    | none => []
    | some size =>
        if stream.length < format.head + size then []
        else
          (stream.take format.head, (stream.drop format.head).take size) ::
            messages ((stream.drop format.head).drop size)
termination_by stream.length
decreasing_by
  have positive := format.head_pos
  simp only [List.length_drop]
  omega

def whole (message : List α × List α) : List α := message.1 ++ message.2

def Framed (message : List α × List α) : Prop :=
  message.1.length = format.head ∧ format.announces message.1 = some message.2.length

/-- What a reader holds of the message that it is in. -/
def Partial (head body : List α) : Prop :=
  (body = [] ∧ head.length < format.head) ∨
    ∃ size, head.length = format.head ∧ format.announces head = some size ∧ body.length < size

def Refused (head : List α) : Prop :=
  head.length = format.head ∧ format.announces head = none

theorem messages_framed (message : List α × List α) (rest : List α)
    (framed : format.Framed message) :
    format.messages (whole message ++ rest) = message :: format.messages rest := by
  obtain ⟨length, announced⟩ := framed
  have first : (whole message ++ rest).take format.head = message.1 := by
    rw [whole, List.append_assoc, ← length, List.take_left]
  have later : (whole message ++ rest).drop format.head = message.2 ++ rest := by
    rw [whole, List.append_assoc, ← length, List.drop_left]
  have total : (whole message ++ rest).length =
      format.head + message.2.length + rest.length := by
    rw [whole, List.length_append, List.length_append, length]
  rw [messages, if_neg (by omega), first, announced]
  dsimp only
  rw [if_neg (by omega), later, List.take_left, List.drop_left]

theorem messages_flatMap (done : List (List α × List α)) (rest : List α)
    (framed : ∀ message ∈ done, format.Framed message) :
    format.messages (done.flatMap whole ++ rest) = done ++ format.messages rest := by
  induction done with
  | nil => rfl
  | cons message later ih =>
      rw [List.flatMap_cons, List.append_assoc,
        format.messages_framed _ _ (framed message List.mem_cons_self),
        ih fun other member => framed other (List.mem_cons_of_mem message member)]
      rfl

theorem messages_partial (head body : List α) (held : format.Partial head body) :
    format.messages (head ++ body) = [] := by
  rw [messages]
  rcases held with ⟨rfl, short⟩ | ⟨size, length, announced, short⟩
  · rw [if_pos (by rw [List.append_nil]; exact short)]
  · have total : (head ++ body).length = format.head + body.length := by
      rw [List.length_append, length]
    rw [if_neg (by omega), ← length, List.take_left, announced]
    dsimp only
    rw [if_pos (by omega)]

theorem messages_refused (head rest : List α) (refused : format.Refused head) :
    format.messages (head ++ rest) = [] := by
  rw [messages, if_neg (by rw [List.length_append, refused.1]; omega), ← refused.1,
    List.take_left, refused.2]

end Announced
