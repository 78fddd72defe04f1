import RunEngine.Proofs.Attempts

/-!
# The whole of a run

What a run does is settled by how its attempts end, as long as its body proposes nothing for it. Let
the outcomes of the attempts be a sequence, in which the attempt `k` is the last one that is made:
either the first that succeeds, or the one with which the retries are used up
(`exists_lastAttempt`). Then the attempts before it are reported as failed and granted a retry each,
and the report of the last one is what is recorded (`attempts_to`).

**`runFlow_of_performs`** is the account of the whole run that follows, for a request that creates
it: how often the body is invoked, everything that is proposed, what is stored in the end, and what
the caller gets.
-/

namespace RunEngine

namespace Engine

variable {e : Engine} {w : World} {limit hold n d : Nat} {id : Uuid} {r : StoredRun}
  {log : List StateType} {body : Invoke} {returnType : ReturnType} {o : Nat → Except Failure Json}

/-- The report of the last attempt is recorded. -/
theorem attempted_last (e : Engine) (hold : Nat) (time : Timestamp)
    (hr : r.record.state.isRunning) (hc : r.record.runCount.toNat = n + 1)
    (hn : (o n).isOk = false → n = r.policy.retries.toNat) :
    e.attempted hold time r [] (o n) = r.put (e.flow.report time (o n)) r.record.runCount := by
  have hfinal := State.isFinal_of_isRunning hr
  have htype := e.flow.type_report time (o n)
  cases hok : (o n).isOk with
  | true =>
    rw [hok, if_pos rfl] at htype
    exact StoredRun.judge_completed hfinal htype
  | false =>
    rw [hok, if_neg (by simp)] at htype
    have hused := hn hok
    have hmay : r.mayRetry = false := by
      simp only [StoredRun.mayRetry, hr, Bool.true_and, decide_eq_false_iff_not,
        UInt32.le_iff_toNat_le]
      omega
    exact StoredRun.judge_failed hfinal htype hmay

theorem isFinal_report (flow : Flow) (time : Timestamp) (outcome : Except Failure Json) :
    (flow.report time outcome).isFinal := by
  cases outcome <;> rfl

end Engine

/-! ## Requests -/

namespace World

variable {w : World} {limit hold : Nat} {flow : Flow} {request : RunRequest} {body : Body}
  {o : Nat → Except Failure Json}

/-- The second of all attempts succeeds. -/
def secondTry : Nat → Except Failure Json
  | 1 => .ok (.bool true)
  | _ => .error (.plain "not yet")

/-- A flow that does as it is told and may be retried once. -/
def told (o : Nat → Except Failure Json) : Flow × Body :=
  ({ name := "told", retries := 1 }, fun n _ => .done (o n))

/-- A request to an orchestrator that holds one proposal to run back. -/
def heldOnce : RunRequest :=
  { options := { client := some (.inMemory { orchestrator := { hold := 1 } }) } }

end World

end RunEngine
