import DataHarness.Library.Reading
import DataHarness.Worker.Reply

/-!
# Reading the pipes of a worker

`_read_bounded` asks a pipe for 64 KiB at most, and for one byte more than fit at most. However the
pipe splits its bytes into reads, the bytes within the limit are returned, and more of them are a
violation of the protocol (`readStream_spec`).
-/

namespace DataHarness

namespace ConnectorWorkerClient

/-- `_read_bounded`, of a pipe that would give a number of bytes for each request, with a number of
requests at most. -/
def readStream (limit : Int) (message : String) (wishes : Nat → Nat) (content : List UInt8)
    (fuel : Nat) : Option (Except WorkerError (List UInt8) × Reading.State UInt8) :=
  Reading.read (64 * 1024) limit (.protocolViolation message) wishes fuel (.initial content)

/-- Whatever the split, every request is for some bytes, the reading ends, all bytes within the limit
are returned, more of them are a violation, and one more than the limit is taken at most. -/
theorem readStream_spec {limit : Int} (limited : 1 ≤ limit) (message : String)
    (wishes : Nat → Nat) (content : List UInt8) :
    ∃ result final,
      readStream limit message wishes content (content.length + 1) = some (result, final) ∧
        (∀ number ∈ final.requests, 0 < number) ∧
        ((content.length : Int) ≤ limit → result = .ok content) ∧
        (limit < content.length → result = .error (.protocolViolation message)) ∧
        (content.length : Int) - final.rest.length ≤ limit + 1 := by
  have positive : (0 : Int) < 64 * 1024 := by decide
  have bounded : 0 ≤ limit := by omega
  obtain ⟨result, final, reads, outcome⟩ :=
    Reading.read_spec positive bounded (WorkerError.protocolViolation message) wishes content
  exact ⟨result, final, reads, outcome.asked, outcome.whole, outcome.longer, outcome.consumed⟩

/-- Three bytes are returned under a limit of three, one byte with each read. -/
theorem readStream_spec_three :
    ∃ result final, readStream 3 "too long" (fun _ => 1) [104, 105, 10] 4 = some (result, final) ∧
      (∀ number ∈ final.requests, 0 < number) ∧ (3 ≤ (3 : Int) → result = .ok [104, 105, 10]) ∧
        ((3 : Int) < 3 → result = .error (.protocolViolation "too long")) ∧
          3 - (final.rest.length : Int) ≤ 3 + 1 :=
  readStream_spec (by decide) "too long" (fun _ => 1) [104, 105, 10]

/-- The result is that of reading the chunks the pipe gave. -/
theorem readBounded_of_read {limit : Nat} {wishes : Nat → Nat} {fuel : Nat}
    {state final : Reading.State UInt8} {result : Except WorkerError (List UInt8)}
    (size : state.size = state.chunks.flatten.length)
    (reads : Reading.read (64 * 1024) limit
      (WorkerError.protocolViolation "worker response exceeds configured byte limit") wishes fuel
        state = some (result, final)) :
    ∃ chunks, readBounded limit chunks state.chunks.flatten = result ∧
      chunks.flatten ++ final.rest = state.rest := by
  induction fuel generalizing state with
  | zero => cases reads
  | succ fuel ih =>
    let chunk := Reading.give (wishes state.requests.length) state.rest
      (Reading.request (64 * 1024) limit state.size)
    have front : chunk ++ state.rest.drop chunk.length = state.rest := Reading.give_append _ _ _
    unfold Reading.read at reads
    by_cases nothing : chunk.length = 0
    · have ended := Prod.mk.inj (Option.some.inj ((if_pos nothing).symm.trans reads))
      refine ⟨[], ended.1, ?_⟩
      rw [← ended.2]
      show [] ++ state.rest.drop chunk.length = state.rest
      rw [nothing]
      rfl
    · have some : chunk ≠ [] := by
        intro none
        rw [none] at nothing
        exact nothing rfl
      have rest := (if_neg nothing).symm.trans reads
      by_cases large : (limit : Int) < ((state.size + chunk.length : Nat) : Int)
      · have ended := Prod.mk.inj (Option.some.inj ((if_pos large).symm.trans rest))
        have beyond : limit < state.chunks.flatten.length + chunk.length := by omega
        refine ⟨[chunk], ?_, ?_⟩
        · rw [← ended.1, readBounded, if_neg some, if_pos beyond]
        · rw [← ended.2, List.flatten_singleton]
          exact front
      · have fits : ¬ limit < state.chunks.flatten.length + chunk.length := by omega
        have onward := (if_neg large).symm.trans rest
        have length : state.size + chunk.length = (state.chunks ++ [chunk]).flatten.length := by
          rw [List.flatten_append, List.flatten_singleton, List.length_append, size]
        obtain ⟨chunks, same, left⟩ := ih length onward
        refine ⟨chunk :: chunks, ?_, ?_⟩
        · rw [readBounded, if_neg some, if_neg fits, ← same, List.flatten_append,
            List.flatten_singleton]
        · rw [List.flatten_cons, List.append_assoc, left]
          exact front

/-- What `invoke` makes of the output of a worker is what it makes of the chunks the pipe gave. -/
theorem readBounded_of_readStream {limit : Nat} {wishes : Nat → Nat} {content : List UInt8}
    {fuel : Nat} {result : Except WorkerError (List UInt8)} {final : Reading.State UInt8}
    (reads : readStream limit "worker response exceeds configured byte limit" wishes content fuel =
      some (result, final)) :
    ∃ chunks, readBounded limit chunks [] = result ∧ chunks.flatten ++ final.rest = content :=
  readBounded_of_read rfl reads

end ConnectorWorkerClient

end DataHarness
