/-
# The forms of responses

Responses, and the objects that travel in them, have a form whatever they contain: a status word is
two bytes, a version three and a challenge four, and the data of a response are bounded by nothing.
-/

import Countersign.Command.Request
import Countersign.Command.Response
import Countersign.Proofs.Bytes.BigEndian
import Countersign.Proofs.Wire.Writing

namespace Countersign

/-- The written form of a response. -/
def Response.form (response : Response) : Bytes :=
  response.data ++ BigEndian.fixed 2 response.status.toNat

theorem Response.length_form (response : Response) :
    response.form.length = response.data.length + 2 := by
  rw [form, List.length_append, BigEndian.length_fixed]

/-- A response is read from its written form. -/
theorem Response.read_form (response : Response) : read response.form = .ok (response, []) := by
  have hlong : ¬response.form.length < 2 := by
    rw [length_form]
    omega
  have hdata : response.form.length - 2 = response.data.length := by
    rw [length_form, Nat.add_sub_cancel]
  have hstatus : response.status.toNat < BigEndian.capacity 2 := response.status.toNat_lt
  rw [read, if_neg hlong, hdata]
  simp only [form, List.take_left, List.drop_left, BigEndian.value_fixed_of_lt hstatus,
    UInt16.ofNat_toNat]

/-- A byte string is the written form of the response that is read from it. -/
theorem Response.eq_form_of_read {bytes rest : Bytes} {response : Response}
    (hread : read bytes = .ok (response, rest)) : bytes = response.form := by
  obtain ⟨hlong, hfound⟩ := refuse_else_eq_ok_iff.1 hread
  cases hfound
  have hwidth : (bytes.drop (bytes.length - 2)).length = 2 := by
    rw [List.length_drop]
    omega
  have hstatus := BigEndian.value_lt_of_length_le (Nat.le_of_eq hwidth)
  have hdigits := BigEndian.fixed_value (bytes.drop (bytes.length - 2))
  rw [hwidth] at hdigits
  rw [form, UInt16.toNat_ofNat', Nat.mod_eq_of_lt hstatus, hdigits, List.take_append_drop]

/-- A response puts its written form. -/
theorem Response.putsForm (response : Response) : PutsForm response response.form where
  size := congrArg Except.ok (length_form response).symm
  write buffer := by
    simp only [Encode.write, ← length_form]
    by_cases hroom : buffer.room.length < response.form.length
    · rw [if_pos hroom, Buffer.put, if_pos hroom]
    · rw [if_neg hroom]
      exact Buffer.put_put _ _ buffer

/-- A version puts its three bytes. -/
theorem Version.putsForm (version : Version) : PutsForm version version.toBytes :=
  ⟨rfl, fun _ => rfl⟩

/-- A challenge puts its four bytes. -/
theorem Challenge.putsForm (challenge : Challenge) : PutsForm challenge challenge.toBytes where
  size := congrArg Except.ok (BigEndian.length_fixed _ _).symm
  write _ := rfl

end Countersign
