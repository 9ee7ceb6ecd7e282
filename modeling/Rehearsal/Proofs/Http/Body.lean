import Rehearsal.Http.Body
import Mathlib.Data.List.Basic

/-!
# Bodies in chunks

How a body is cut into chunks is up to the server and to the network between, so it must not make a
difference: neither to what is kept of a body nor to whether its breaking off is noticed. This is
seen by telling where reading stands from the bytes that have arrived, whatever chunks they came in:
what is held is the beginning of them, as much as is wanted. A chunk that goes past the limit is cut
there, and one that comes after it is not looked at.

## Main results

* `Body.take_append_chunk`: what is held after one more chunk
* `Body.read_eq`: reading told by the bytes and the ending alone
* `Body.read_keeps_beginning`: what is kept, what is noticed, and that cuts do not matter
-/

namespace Rehearsal

namespace Body

variable {ε : Type}

/-- **One chunk.** If the beginning of what had arrived is held, then with the chunk the beginning
of all that has arrived by now is. -/
theorem take_append_chunk (limit : Nat) (seen chunk : Bytes) :
    seen.take limit ++ chunk.take (limit - (seen.take limit).length) =
      (seen ++ chunk).take limit := by
  have hroom : limit - (seen.take limit).length = limit - seen.length := by
    rw [List.length_take]
    omega
  rw [hroom, List.take_append]

/-- There is room for more exactly if less than the limit has arrived. -/
theorem length_take_lt_iff (limit : Nat) (seen : Bytes) :
    (seen.take limit).length < limit ↔ seen.length < limit := by
  rw [List.length_take]
  omega

/-- Reading on, told by the bytes that have arrived before. -/
theorem readAfter_take (limit : Nat) (ending : Option ε) (seen : Bytes) (chunks : List Bytes) :
    readAfter limit ending (seen.take limit) chunks =
      ((seen ++ chunks.flatten).take limit,
        if (seen ++ chunks.flatten).length < limit then ending else none) := by
  induction chunks generalizing seen with
  | nil =>
    simp only [readAfter, length_take_lt_iff, List.flatten_nil, List.append_nil]
    split <;> rfl
  | cons chunk chunks ih =>
    simp only [readAfter, length_take_lt_iff, List.flatten_cons]
    split
    next =>
      rw [take_append_chunk, ih (seen ++ chunk), List.append_assoc]
    next hfull =>
      -- Enough has arrived already, so nothing that comes makes a difference.
      have hfull' : ¬(seen ++ (chunk ++ chunks.flatten)).length < limit := by
        rw [List.length_append]
        omega
      rw [if_neg hfull', List.take_append_of_le_length (Nat.not_lt.mp hfull)]

/-- **Reading is told by the bytes and the ending**: the beginning is kept, and the ending is
noticed where less than the limit has arrived. -/
theorem read_eq (limit : Nat) (chunks : List Bytes) (ending : Option ε) :
    read limit chunks ending =
      (chunks.flatten.take limit, if chunks.flatten.length < limit then ending else none) := by
  have h : readAfter limit ending ([].take limit) chunks = _ :=
    readAfter_take limit ending [] chunks
  rwa [List.take_nil, List.nil_append] at h

/-- What is kept of a body that does not break off is its beginning. -/
theorem read_of_complete (limit : Nat) (chunks : List Bytes) :
    read limit chunks (none : Option ε) = (chunks.flatten.take limit, none) := by
  rw [read_eq, ite_self]

/-- **Reading does not depend on how a body is cut.** Of a body of any length, in any chunks, as
many bytes are kept from its beginning as there are up to the limit. That it breaks off is noticed
exactly if it does and there are fewer bytes than the limit. Any other chunks with the same bytes
and the same ending come to the same. -/
theorem read_keeps_beginning (limit : Nat) (chunks : List Bytes) (ending : Option ε) :
    (read limit chunks ending).1 = chunks.flatten.take (min limit chunks.flatten.length) ∧
    (read limit chunks ending).1.length = min limit chunks.flatten.length ∧
    (∀ fault, (read limit chunks ending).2 = some fault ↔
      ending = some fault ∧ chunks.flatten.length < limit) ∧
    ∀ others : List Bytes, others.flatten = chunks.flatten →
      read limit others ending = read limit chunks ending := by
  refine ⟨?_, ?_, fun fault => ?_, fun others hsame => ?_⟩
  · rw [read_eq, List.take_eq_take_min]
  · rw [read_eq, List.length_take]
  · rw [read_eq, Option.ite_none_right_eq_some, and_comm]
  · rw [read_eq, read_eq, hsame]

end Body

end Rehearsal
