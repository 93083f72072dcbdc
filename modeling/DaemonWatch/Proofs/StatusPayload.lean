/-
  Transfer statuses written to payloads and read back.

  1. **Writing and reading differ in their ranges.**  A number of bytes is written with all of its
     64 bits.  It is read as a signed integer that is not below zero, so the larger half of the
     range is cut to the largest of these (`Payload.byteCount_of_ofInt`).

  2. **Result** (`ofPayload_toPayload`).  The flag comes back as it is, and so does a number of
     bytes up to the largest signed integer; any number above comes back as that integer.  So just
     the statuses within that range are read back, and `sent_bytes_cut` is the first that is not.
-/
import DaemonWatch.TransferStatus
import DaemonWatch.Proofs.PayloadMembers

namespace DaemonWatch

namespace Payload

variable {payload : Json} {key : String}

/-- A count as a number of bytes. -/
theorem byteCount_of_ofInt {n : Nat} (found : payload.get? key = some (.ofInt n)) :
    byteCount payload key = min n 0x7FFFFFFFFFFFFFFF := by
  have least := Json.minInt64_neg
  have greatest : Json.maxInt64 = 0x7FFFFFFFFFFFFFFF := rfl
  rw [byteCount, integer_of_number found, Json.Number.truncate]
  omega

end Payload

namespace TransferStatus

open Payload

/-- What the payload of a status holds. -/
theorem get?_toPayload (s : TransferStatus) :
    s.toPayload.get? "is_syncing" = some (.bool s.isSyncing) ∧
      s.toPayload.get? "sent_bytes" = some (.ofInt s.sentBytes) ∧
      s.toPayload.get? "recv_bytes" = some (.ofInt s.receivedBytes) := by
  simp only [toPayload, Json.get?_ofMembers, List.reverse_cons, List.reverse_nil, List.nil_append,
    List.cons_append]
  exact ⟨rfl, rfl, rfl⟩

/-- **A status that is written and read back** has its flag, and each number of bytes up to the
largest signed integer; so it is the same status exactly when both numbers are in that range. -/
theorem ofPayload_toPayload (s : TransferStatus) :
    ofPayload s.toPayload =
        { isSyncing := s.isSyncing
          sentBytes := min s.sentBytes 0x7FFFFFFFFFFFFFFF
          receivedBytes := min s.receivedBytes 0x7FFFFFFFFFFFFFFF } ∧
      (ofPayload s.toPayload = s ↔
        s.sentBytes ≤ 0x7FFFFFFFFFFFFFFF ∧ s.receivedBytes ≤ 0x7FFFFFFFFFFFFFFF) := by
  obtain ⟨syncing, sent, received⟩ := get?_toPayload s
  have back : ofPayload s.toPayload =
      { isSyncing := s.isSyncing
        sentBytes := min s.sentBytes 0x7FFFFFFFFFFFFFFF
        receivedBytes := min s.receivedBytes 0x7FFFFFFFFFFFFFFF } := by
    rw [ofPayload, flag_of_bool syncing, byteCount_of_ofInt sent, byteCount_of_ofInt received]
  refine ⟨back, ?_⟩
  rw [back]
  obtain ⟨isSyncing, sentBytes, receivedBytes⟩ := s
  simp only [mk.injEq, true_and]
  omega

/-- The first number of bytes that is not read back, one that unsigned integers hold. -/
theorem sent_bytes_cut :
    let s : TransferStatus := ⟨true, 0x8000000000000000, 0⟩
    s.sentBytes ≤ Json.maxUInt64 ∧ s.receivedBytes ≤ Json.maxUInt64 ∧
      (ofPayload s.toPayload).sentBytes = 0x7FFFFFFFFFFFFFFF ∧ ofPayload s.toPayload ≠ s := by
  decide

end TransferStatus

end DaemonWatch
