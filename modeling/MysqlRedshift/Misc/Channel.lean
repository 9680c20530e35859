import Mathlib.Data.List.Basic

/-!
# Buffered channels

A channel of Go with a buffer, as far as one receiver and any number of senders see it.
A communication that would have to wait is `none`; what becomes of it is the business of
the statement that it stands in. A value that Go hands to a receiver which already waits
is here sent and then received.
-/

namespace MysqlRedshift.Misc

/-- A channel of capacity `cap`: what was sent and is not received yet, oldest first. -/
structure Channel (cap : Nat) (α : Type) where
  buffer : List α
  bounded : buffer.length ≤ cap

namespace Channel

variable {cap : Nat} {α β : Type}

/-- `make(chan T, cap)`. -/
def make (cap : Nat) (α : Type) : Channel cap α := ⟨[], Nat.zero_le cap⟩

/-- `ch <- v`. -/
def send (ch : Channel cap α) (v : α) : Option (Channel cap α) :=
  if room : ch.buffer.length < cap then
    some ⟨ch.buffer ++ [v], by rw [List.length_append]; exact room⟩
  else none

/-- `<-ch`. -/
def receive (ch : Channel cap α) : Option (α × Channel cap α) :=
  match h : ch.buffer with
  | [] => none
  | v :: rest => some (v, ⟨rest, by
      have bounded := ch.bounded
      rw [h, List.length_cons] at bounded
      omega⟩)

/-- A `select` of one communication, with a `default` or without: it waits if the
communication does and there is no default. -/
def select (comm default : Option β) : Option β := comm.or default

variable {ch ch' : Channel cap α} {v : α}

theorem send_eq_some_iff : ch.send v = some ch' ↔ ch'.buffer = ch.buffer ++ [v] := by
  unfold send
  split
  · next room =>
    constructor
    · intro sent
      cases sent
      rfl
    · intro same
      cases ch'
      cases same
      rfl
  · next full =>
    refine iff_of_false (by simp) fun same => full ?_
    have bounded := ch'.bounded
    rw [same, List.length_append] at bounded
    exact bounded

/-- A sender has to wait exactly while the buffer is full. -/
theorem send_eq_none_iff : ch.send v = none ↔ ch.buffer.length = cap := by
  have bounded := ch.bounded
  unfold send
  split
  · next room => exact iff_of_false (by simp) (Nat.ne_of_lt room)
  · next full => exact iff_of_true rfl (by omega)

theorem receive_eq_some_iff : ch.receive = some (v, ch') ↔ ch.buffer = v :: ch'.buffer := by
  obtain ⟨buffer, bounded⟩ := ch
  obtain ⟨buffer', bounded'⟩ := ch'
  cases buffer with
  | nil => simp [receive]
  | cons x rest => simp [receive]

theorem receive_eq_none_iff : ch.receive = none ↔ ch.buffer = [] := by
  obtain ⟨buffer, bounded⟩ := ch
  cases buffer with
  | nil => simp [receive]
  | cons x rest => simp [receive]

end Channel

end MysqlRedshift.Misc
