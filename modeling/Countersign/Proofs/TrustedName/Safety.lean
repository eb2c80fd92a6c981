/-
# Reading descriptors in place

A descriptor is read in a loop over records, which ends when the offset has reached the end of the
memory, and the bytes that the signature covers are sliced off at an offset that the loop has left
behind. So two things have to be seen: that every round moves the offset, and that it never passes
the end. The walk over records says both. It reports at most as many items as there are bytes, so
the loop has ended when it has had one more round.
-/

import Countersign.Proofs.Tlv.Walk
import Countersign.Proofs.Wire.Decoders
import Countersign.TrustedName.Info

namespace Countersign

namespace Tlv.Reader

/-- The next item of a walk over memory. A record that is refused moves the walk to the end. -/
def nextInPlace {ε : Type} (reader : Reader) :
    InPlace ε (Option (Except WireError Tlv × Reader)) :=
  if reader.buffer.length ≤ reader.offset then .ok none
  else do
    let slice ← sliceFrom reader.offset reader.buffer
    match ← outcomeOf (DecodeInPlace.find slice : InPlace WireError (Tlv × Nat)) with
    | .error cause => .ok (some (.error cause, { reader with offset := reader.buffer.length }))
    | .ok (record, count) =>
      let offset ← plus reader.offset count
      .ok (some (.ok record, { reader with offset }))

variable {reader : Reader}

theorem nextInPlace_eq {ε : Type} (hmemory : Addressable reader.buffer)
    (hinside : reader.offset ≤ reader.buffer.length) :
    nextInPlace reader = (.ok reader.next : InPlace ε _) := by
  have hstands : StandsAt reader.buffer reader.offset (reader.buffer.drop reader.offset) :=
    ⟨hinside, rfl⟩
  have hfollows : Follows _ (DecodeInPlace.find _) (Tlv.read (reader.buffer.drop reader.offset)) :=
    Tlv.readsInside _ (hstands.addressable hmemory)
  unfold nextInPlace next
  by_cases hend : reader.buffer.length ≤ reader.offset
  · rw [if_pos hend, if_pos hend]
  · rw [if_neg hend, if_neg hend, sliceFrom_of_le hinside]
    simp only [bind, Except.bind]
    rcases hfollows.cases with ⟨cause, hfind, hread⟩ | ⟨record, count, rest, hrest, hfind, hread⟩
    · rw [hfind, hread]
      rfl
    · have hplus := @StandsAt.plus_eq _ _ _ count ε hstands hmemory
        (Nat.le_add_right_of_le hrest.inside)
      have hlength := (hstands.trans hrest).place_add_length
      have hoffset : reader.buffer.length - rest.length = reader.offset + count := by omega
      simp only [hfind, hread, outcomeOf, hplus, hoffset]

/-- A step keeps the memory, and does not lead beyond its end. -/
theorem next_inside {item : Except WireError Tlv} {after : Reader}
    (hnext : reader.next = some (item, after)) :
    after.buffer = reader.buffer ∧ after.offset ≤ reader.buffer.length := by
  unfold next at hnext
  split at hnext
  · cases hnext
  · split at hnext
    · cases hnext
      exact ⟨rfl, Nat.sub_le _ _⟩
    · cases hnext
      exact ⟨rfl, Nat.le_refl _⟩

/-- A walk with at least as many rounds as there are bytes has reported everything, and has not used
up all of them if there is one more. -/
theorem itemsWithin_of_length_le {bytes : Bytes} {limit : Nat} (hlimit : bytes.length ≤ limit) :
    (itemsWithin limit (start bytes)).1 = (items bytes).1 ∧
      (items bytes).1.length ≤ bytes.length := by
  obtain ⟨records, rest, fault, rfl, hfits, hhalts⟩ := exists_row bytes
  have hcount := (length_items_le records hhalts).2
  have hall : (located 0 records ++ refused (records.flatMap form ++ rest).length fault).length ≤
      (records.flatMap form ++ rest).length := by
    rw [List.length_append, length_located, length_refused]
    exact hcount
  rw [items_of_halts hfits hhalts]
  refine ⟨?_, hall⟩
  exact (itemsWithin_of_halts hfits hhalts [] limit).1.trans
    (List.take_of_length_le (Nat.le_trans hall hlimit))

end Tlv.Reader

namespace TrustedNameInfo

namespace Draft

/-- Collects the fields of a descriptor in a loop over the records of the memory. -/
def collectInPlace : (limit : Nat) → Tlv.Reader → Draft → InPlace WireError Draft
  | 0, _, _ => endBy .endless
  | limit + 1, reader, draft => do
    match ← reader.nextInPlace with
    | none => .ok draft
    | some (item, after) =>
      let draft ← safely (draft.step (item, after.offset))
      collectInPlace limit after draft

/-- The descriptor, once everything is collected from the memory. -/
def finishInPlace (draft : Draft) (memory : Bytes) : InPlace WireError TrustedNameInfo := do
  let structureType ← safely (required .structureType draft.structureType)
  if structureType ≠ trustedNameStructureType then refuse .invalidEncoding
  else
    let version ← safely (required .version draft.version)
    let nameType ← safely (required .trustedNameType draft.nameType)
    let nameSource ← safely (required .trustedNameSource draft.nameSource)
    let trustedName ← safely (required .trustedName draft.trustedName)
    let chainId ← safely (required .chainId draft.chainId)
    let address ← safely (required .address draft.address)
    let keyId ← safely (required .signerKeyId draft.keyId)
    let algo ← safely (required .signerAlgo draft.algo)
    let signed ← sliceTo draft.signedLength memory
    let signature ← safely (required .derSignature draft.signature)
    .ok
      { version, nameType, nameSource, trustedName, chainId, address,
        sourceContract := draft.sourceContract
        challenge := draft.challenge
        keyId, algo, signed, signature }

/-- What the records before the signature take is where the last of them has ended. -/
theorem signedLength_of_step {draft next : Draft} {item : Except WireError Tlv} {offset : Nat}
    (hstep : draft.step (item, offset) = .ok next) :
    next.signedLength = draft.signedLength ∨ next.signedLength = offset := by
  cases item with
  | error cause => cases hstep
  | ok record =>
    simp only [step] at hstep
    split at hstep
    · cases hstep
    · split at hstep
      · cases hstep
        exact Or.inl rfl
      · obtain ⟨collected, -, rfl⟩ := map_eq_ok_iff.1 hstep
        exact Or.inr rfl

/-- With more rounds than items, the loop takes in all of them, and leaves an offset in the
memory. -/
theorem collectInPlace_eq {limit : Nat} {reader : Tlv.Reader} {draft : Draft}
    (hmemory : Addressable reader.buffer) (hinside : reader.offset ≤ reader.buffer.length)
    (hsigned : draft.signedLength ≤ reader.buffer.length)
    (hlimit : (Tlv.Reader.itemsWithin limit reader).1.length < limit) :
    collectInPlace limit reader draft =
        safely ((Tlv.Reader.itemsWithin limit reader).1.foldlM step draft) ∧
      ∀ last, (Tlv.Reader.itemsWithin limit reader).1.foldlM step draft = .ok last →
        last.signedLength ≤ reader.buffer.length := by
  induction limit generalizing reader draft with
  | zero => exact absurd hlimit (Nat.not_lt_zero _)
  | succ limit ih =>
    rw [collectInPlace, Tlv.Reader.nextInPlace_eq hmemory hinside]
    rw [Tlv.Reader.itemsWithin] at hlimit ⊢
    cases hnext : reader.next with
    | none =>
      refine ⟨rfl, fun last hlast => ?_⟩
      cases hlast
      exact hsigned
    | some found =>
      obtain ⟨item, after⟩ := found
      obtain ⟨hbuffer, hafter⟩ := Tlv.Reader.next_inside hnext
      simp only [hnext, List.length_cons, Nat.add_lt_add_iff_right] at hlimit
      simp only [List.foldlM_cons, safely_bind]
      change (safely (draft.step (item, after.offset)) >>= collectInPlace limit after) = _ ∧ _
      cases hstep : draft.step (item, after.offset) with
      | error cause => exact ⟨rfl, fun last hlast => by cases hlast⟩
      | ok next =>
        -- The length of the signed part is an offset that the walk has come to, and the walk never
        -- passes the end.
        have hnextSigned : next.signedLength ≤ after.buffer.length := by
          rw [hbuffer]
          rcases signedLength_of_step hstep with hkept | hmoved
          · exact hkept ▸ hsigned
          · exact hmoved ▸ hafter
        rw [← hbuffer] at hmemory hafter ⊢
        exact ih hmemory hafter hnextSigned hlimit

theorem finishInPlace_eq {draft : Draft} {memory : Bytes}
    (hsigned : draft.signedLength ≤ memory.length) :
    draft.finishInPlace memory = safely (draft.finish memory) := by
  simp only [finishInPlace, finish, sliceTo_of_le hsigned, safely_bind, safely_ite]
  rfl

end Draft

/-- Reads the whole memory as a descriptor in place. -/
def parseInPlace (memory : Bytes) : InPlace WireError TrustedNameInfo := do
  let draft ← Draft.collectInPlace (memory.length + 1) (Tlv.Reader.start memory) {}
  draft.finishInPlace memory

/-- A descriptor is read in place as it is read from the front. -/
theorem parseInPlace_eq {memory : Bytes} (hmemory : Addressable memory) :
    parseInPlace memory = safely (parse memory) := by
  obtain ⟨hitems, hcount⟩ := Tlv.Reader.itemsWithin_of_length_le (Nat.le_succ memory.length)
  rw [← hitems] at hcount
  obtain ⟨hcollect, hsigned⟩ := @Draft.collectInPlace_eq (memory.length + 1)
    (Tlv.Reader.start memory) {} hmemory (Nat.zero_le _) (Nat.zero_le _) (Nat.lt_succ_of_le hcount)
  rw [hitems] at hcollect hsigned
  rw [parseInPlace, hcollect, parse, safely_bind]
  cases hfound : (Tlv.Reader.items memory).1.foldlM Draft.step {} with
  | error cause => rfl
  | ok draft => exact Draft.finishInPlace_eq (hsigned draft hfound)

end TrustedNameInfo

end Countersign
