import AstView.Emitter
import AstView.Proofs.Utf8

/-!
# Sinks that run out of room

However a rendering is cut into pieces, a sink with limited room ends up with as many of its bytes
as there is room for, and writing fails exactly if there are more. One piece takes room from the
next ones and nothing else (`write_of_room`), so this holds of all pieces by induction
(`writeAll_of_room`). A sink in memory takes everything.
-/
namespace AstView

namespace Rendering

theorem bytes_nil : Rendering.bytes [] = [] := rfl

theorem bytes_cons (piece : Bytes) (rest : Rendering) :
    Rendering.bytes (piece :: rest) = piece ++ Rendering.bytes rest := rfl

end Rendering

namespace Sink

theorem written_memory : memory.written = [] := rfl

theorem written_limited (room : Nat) (exhaustion : Exhaustion) :
    (limited room exhaustion).written = [] := rfl

/-- What is taken comes behind what was taken before. -/
theorem written_cons (sink : Sink) (piece : Bytes) (room : Option Nat) (exhaustion : Exhaustion) :
    written ⟨piece :: sink.taken, room, exhaustion⟩ = sink.written ++ piece := by
  simp only [written, List.reverse_cons, List.flatten_append, List.flatten_cons, List.flatten_nil,
    List.append_nil]

/-! ## Limited room -/

section
variable {sink : Sink} {room : Nat} (limited : sink.room = some room)
include limited

/-- Writing a piece puts the bytes that there is room for behind the others, takes up their room,
leaves what the sink does at its end as it is, and fails if not all bytes went in. -/
theorem write_of_room (piece : Bytes) :
    ∃ next : Sink,
      sink.write piece = (next, if piece.length ≤ room then none else some sink.exhaustion) ∧
        next.written = sink.written ++ piece.take room ∧
        next.room = some (room - piece.length) ∧ next.exhaustion = sink.exhaustion := by
  unfold write
  rw [limited]
  by_cases fits : piece.length ≤ room
  · let next : Sink := ⟨piece :: sink.taken, some (room - piece.length), sink.exhaustion⟩
    have written : next.written = sink.written ++ piece := written_cons sink piece _ _
    refine ⟨next, ?_, ?_, rfl, rfl⟩
    · simp only [if_pos fits]
      rfl
    · rw [written, List.take_of_length_le fits]
  · let next : Sink := ⟨piece.take room :: sink.taken, some 0, sink.exhaustion⟩
    have full : room - piece.length = 0 := by omega
    refine ⟨next, ?_, written_cons sink _ _ _, ?_, rfl⟩
    · simp only [if_neg fits]
      rfl
    · rw [full]

/-- Writing pieces leaves the bytes that there is room for, and fails if there are more. -/
theorem writeAll_of_room (rendering : Rendering) :
    ((sink.writeAll rendering).1.written = sink.written ++ rendering.bytes.take room) ∧
      (sink.writeAll rendering).2 =
        if rendering.bytes.length ≤ room then none else some sink.exhaustion := by
  induction rendering generalizing sink room with
  | nil =>
    simp only [writeAll, Rendering.bytes_nil, List.take_nil, List.append_nil, List.length_nil,
      Nat.zero_le, if_true, and_self]
  | cons piece rest ih =>
    obtain ⟨next, wrote, written, left, same⟩ := write_of_room limited piece
    have lengths : (Rendering.bytes (piece :: rest)).length =
        piece.length + (Rendering.bytes rest).length := by
      rw [Rendering.bytes_cons, List.length_append]
    by_cases fits : piece.length ≤ room
    · -- The piece goes in whole, and the others find the room that it leaves.
      have later := ih left
      have step : sink.writeAll (piece :: rest) = next.writeAll rest := by
        simp only [writeAll, wrote, if_pos fits]
      have enough : (Rendering.bytes (piece :: rest)).length ≤ room ↔
          (Rendering.bytes rest).length ≤ room - piece.length := by omega
      have whole : piece.take room = piece := List.take_of_length_le fits
      constructor
      · rw [step, later.1, written, whole, Rendering.bytes_cons, List.take_append, whole,
          List.append_assoc]
      · rw [step, later.2, same]
        simp only [enough]
    · -- The piece fills the sink, and the others are not written.
      have step : sink.writeAll (piece :: rest) = (next, some sink.exhaustion) := by
        simp only [writeAll, wrote, if_neg fits]
      have beyond : ¬(Rendering.bytes (piece :: rest)).length ≤ room := by omega
      have short : room ≤ piece.length := by omega
      constructor
      · rw [step, written, Rendering.bytes_cons, List.take_append_of_le_length short]
      · rw [step, if_neg beyond]

end

/-! ## No limit -/

/-- A sink without a limit takes all pieces. -/
theorem writeAll_of_unlimited {sink : Sink} (unlimited : sink.room = none)
    (rendering : Rendering) :
    (sink.writeAll rendering).1.written = sink.written ++ rendering.bytes ∧
      (sink.writeAll rendering).2 = none := by
  induction rendering generalizing sink with
  | nil =>
    refine ⟨?_, rfl⟩
    rw [Rendering.bytes_nil, List.append_nil]
    rfl
  | cons piece rest ih =>
    have step : sink.writeAll (piece :: rest) =
        Sink.writeAll { sink with taken := piece :: sink.taken } rest := by
      simp only [writeAll, write, unlimited]
    have later := @ih { sink with taken := piece :: sink.taken } unlimited
    rw [step, later.1, later.2, written_cons, Rendering.bytes_cons, List.append_assoc]
    exact ⟨rfl, rfl⟩

/-! ## Results -/

/-- The result of writing to a sink is a success or the error of its end. -/
theorem put_eq (sink : Sink) (rendering : Rendering) :
    sink.put rendering = ((sink.writeAll rendering).1,
      match (sink.writeAll rendering).2 with
      | none => .ok ()
      | some exhaustion => .error (.write exhaustion.message)) := by
  unfold put
  obtain ⟨next, failure⟩ := sink.writeAll rendering
  cases failure <;> rfl

/-- Writing to a sink fails only as the sink does at its end. -/
theorem put_error {sink : Sink} {rendering : Rendering} {error : Error}
    (failed : (sink.put rendering).2 = .error error) :
    ∃ exhaustion : Exhaustion, error = .write exhaustion.message := by
  rw [put_eq] at failed
  split at failed
  · cases failed
  · cases failed
    exact ⟨_, rfl⟩

/-- A sink in memory ends up with all bytes of a rendering. -/
theorem put_memory (rendering : Rendering) :
    (memory.put rendering).1.written = rendering.bytes ∧ (memory.put rendering).2 = .ok () := by
  have unlimited : memory.room = none := rfl
  have all := writeAll_of_unlimited unlimited rendering
  rw [put_eq, all.1, all.2, written_memory, List.nil_append]
  exact ⟨rfl, rfl⟩

/-- A sink with limited room ends up with the bytes of a rendering that there is room for. -/
theorem put_limited (room : Nat) (exhaustion : Exhaustion) (rendering : Rendering) :
    ((limited room exhaustion).put rendering).1.written = rendering.bytes.take room ∧
      ((limited room exhaustion).put rendering).2 =
        if rendering.bytes.length ≤ room then .ok () else .error (.write exhaustion.message) := by
  have own : (limited room exhaustion).room = some room := rfl
  have cut := writeAll_of_room own rendering
  rw [put_eq, cut.1, cut.2, written_limited, List.nil_append]
  refine ⟨rfl, ?_⟩
  by_cases fits : rendering.bytes.length ≤ room
  · rw [if_pos fits, if_pos fits]
  · rw [if_neg fits, if_neg fits]
    rfl

end Sink

end AstView
