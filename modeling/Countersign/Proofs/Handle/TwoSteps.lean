/-
# Registration in two steps

A client registers a partner in two steps, and never repeats one. It sends the credentials, and then
the signature of the root over what it has sent. The second step is taken exactly if the first one
went well, and the first step that does not go well is what the client reports. This holds whatever
carries the exchanges and whatever comes back: a device, a stream that breaks, or something that
answers as it likes.

All that is assumed is that the signature fits a command, as every pair of two numbers of 32 bytes
does.
-/

import Countersign.Proofs.Handle.Registration
import Countersign.Proofs.Handle.Sharing
import Countersign.Proofs.Signature.Ecdsa

namespace Countersign

/-- The answer says that the command was carried out. -/
def Succeeded (answer : Except Error Response) : Prop :=
  ∃ data, answer = .ok ⟨data, 0x9000⟩

/-- Why a command was not carried out, as far as the client knows: what went wrong on the way, or
the status word, which may be any other word than the one for success. -/
def failureOf : Except Error Response → Option Error
  | .error cause => some cause
  | .ok response => if response.status = 0x9000 then none else some (.status response.status)

theorem failureOf_eq_none_iff {answer : Except Error Response} :
    failureOf answer = none ↔ Succeeded answer := by
  cases answer with
  | error cause =>
    refine iff_of_false (Option.some_ne_none cause) ?_
    rintro ⟨data, hanswer⟩
    cases hanswer
  | ok response =>
    obtain ⟨data, status⟩ := response
    by_cases hstatus : status = 0x9000
    · subst hstatus
      exact iff_of_true rfl ⟨data, rfl⟩
    · refine iff_of_false ?_ ?_
      · simp only [failureOf, hstatus, if_false, reduceCtorEq, not_false_eq_true]
      · rintro ⟨data', hanswer⟩
        cases hanswer
        exact hstatus rfl

/-- What a client makes of an answer if it wants to know no more than whether it went well. -/
theorem map_toResult_eq (answer : Except Error Response) :
    ((answer >>= Response.toResult).map fun _ => ()) =
      (failureOf answer).elim (.ok ()) .error := by
  cases answer with
  | error cause => rfl
  | ok response =>
    have hsuccess : response.isSuccess = true ↔ response.status = 0x9000 := beq_iff_eq
    simp only [failureOf, bind, Except.bind, Response.toResult, hsuccess]
    by_cases hstatus : response.status = 0x9000
    · simp only [if_pos hstatus, Except.map, Option.elim]
    · simp only [if_neg hstatus, Except.map, Option.elim]

/-- An exchange, and what came back for it. -/
structure Answered where
  exchange : Exchange
  answer : Except Error Response

/-- Whatever carries exchanges: it has any state of its own, and in each state any answer to any
exchange. -/
abbrev Carrier (σ : Type) : Type :=
  (exchange : Exchange) → StateM σ (ExchangeAnswer exchange)

namespace Carrier

variable {σ α : Type} (carrier : Carrier σ)

/-- The same carrier, which notes what it carries. -/
def noting : Carrier (σ × List Answered) :=
  fun exchange (state, noted) =>
    let (answer, next) := carrier exchange state
    (answer, next, noted ++ [⟨exchange, answer⟩])

/-- Holds a dialog over a carrier: what it ends in, and the exchanges that were made, in their
order. -/
def hold (state : σ) (dialog : Dialog ExchangeAnswer α) : α × List Answered :=
  let (result, _, noted) := (dialog.hold carrier.noting : StateM (σ × List Answered) α) (state, [])
  (result, noted)

end Carrier

namespace Handle

variable {handle : Handle}

/-- The exchange that carries these data under an instruction, with the rate and the flow of the
handle. -/
def exchangeOf (handle : Handle) (instruction : Instruction) (data : Bytes) : Exchange :=
  ⟨Command.form ⟨exchangeClass, instruction.code, handle.rate.code, handle.flow.code, data⟩,
    handle.timeout⟩

/-- A request with short data is the exchange that carries them. -/
theorem run_order_of_short {request : Request} {payload : Bytes}
    (hpayload : request.payload? = some payload) (hshort : payload.length ≤ maxCommandData) :
    (handle.order request).run = .ask (handle.exchangeOf request.instruction payload)
      fun answer => .done ((failureOf answer).elim (.ok ()) .error) := by
  have hcommand : request.toCommand handle.rate.code handle.flow.code = .ok _ :=
    Request.toCommand_eq_ok_iff.2 ⟨payload, Request.encode_of_payload hpayload, hshort, rfl⟩
  rw [run_order_of_toCommand_ok hcommand]
  exact congrArg (Dialog.ask _) (funext fun answer => congrArg Dialog.done (map_toResult_eq answer))

variable {S : SignatureScheme} {partner root : Authority S} {entropy : Bytes}

/-- Credentials that do not fit a command are not even offered. -/
theorem run_register_of_long
    (hlong : maxCommandData < (partner.credentialsFor handle.flow).length) :
    (handle.register partner root entropy).run =
      .done (.error (.wire (.elementTooLong (partner.credentialsFor handle.flow).length))) := by
  have hdata := @Request.encode_of_payload
    (.setPartnerKey (partner.credentialsFor handle.flow)) _ rfl
  have hrefused := Request.toCommand_of_long hdata hlong handle.rate.code handle.flow.code
  rw [run_register_eq, run_order_of_toCommand_error hrefused]
  rfl

/-- The dialog of two exchanges, the second one of which is made if the first one went well. -/
def inTwoSteps (first second : Exchange) : Dialog ExchangeAnswer (Except Error Unit) :=
  .ask first fun answer => match failureOf answer with
    | some cause => .done (.error cause)
    | none => .ask second fun answer => .done ((failureOf answer).elim (.ok ()) .error)

/-- A registration is the exchange of the credentials and, if that went well, the exchange of the
signature over them. -/
theorem run_register_of_short
    (hshort : (partner.credentialsFor handle.flow).length ≤ maxCommandData)
    (hsigned : (root.sign entropy (partner.credentialsFor handle.flow)).length ≤ maxCommandData) :
    (handle.register partner root entropy).run =
      inTwoSteps (handle.exchangeOf .setPartnerKey (partner.credentialsFor handle.flow))
        (handle.exchangeOf .checkPartner
          (root.sign entropy (partner.credentialsFor handle.flow))) := by
  rw [run_register_eq, run_order_of_short rfl hshort]
  refine congrArg (Dialog.ask _) (funext fun answer => ?_)
  dsimp only
  cases failureOf answer with
  | some cause => rfl
  | none => exact @run_order_of_short handle (.checkPartner _) _ rfl hsigned

end Handle

namespace Carrier

variable {S : SignatureScheme} {σ : Type}

/-- A result, and the exchanges that were made before it, are those of two steps: the second one is
made after the first one has succeeded, and the first failure is the result. -/
structure TwoSteps (carrier : Carrier σ) (state : σ) (first second : Exchange)
    (held : Except Error Unit × List Answered) : Prop where
  begins : held.2.head? = some ⟨first, (carrier first state).1⟩
  goesOn_iff : held.2.tail ≠ [] ↔ Succeeded (carrier first state).1
  goesOn : held.2.tail ≠ [] →
    held.2.tail = [⟨second, (carrier second (carrier first state).2).1⟩]
  ok_iff : held.1 = .ok () ↔
    held.2.length = 2 ∧ ∀ answered ∈ held.2, Succeeded answered.answer
  error_iff : ∀ cause, held.1 = .error cause ↔
    held.2.findSome? (fun answered => failureOf answered.answer) = some cause

/-- What two steps end in, and what is exchanged in them. -/
theorem hold_inTwoSteps (carrier : Carrier σ) (state : σ) (first second : Exchange) :
    carrier.hold state (Handle.inTwoSteps first second) =
      match failureOf (carrier first state).1 with
      | some cause => (.error cause, [⟨first, (carrier first state).1⟩])
      | none => ((failureOf (carrier second (carrier first state).2).1).elim (.ok ()) .error,
          [⟨first, (carrier first state).1⟩,
            ⟨second, (carrier second (carrier first state).2).1⟩]) := by
  have hfirst (rest : Except Error Response → Dialog ExchangeAnswer (Except Error Unit)) :
      ((Dialog.ask first rest).hold carrier.noting : StateM (σ × List Answered) _) (state, []) =
        ((rest (carrier first state).1).hold carrier.noting : StateM (σ × List Answered) _)
          ((carrier first state).2, [⟨first, (carrier first state).1⟩]) := rfl
  rw [hold, Handle.inTwoSteps, hfirst]
  cases failureOf (carrier first state).1 with
  | some cause => rfl
  | none => rfl

/-- Two steps are taken as they should be, whatever carries them. -/
theorem twoSteps_inTwoSteps (carrier : Carrier σ) (state : σ) (first second : Exchange) :
    carrier.TwoSteps state first second (carrier.hold state (Handle.inTwoSteps first second)) := by
  have hsucceeded := @failureOf_eq_none_iff (carrier first state).1
  rw [hold_inTwoSteps]
  cases hfirst : failureOf (carrier first state).1 with
  | some cause =>
    have hnot : ¬Succeeded (carrier first state).1 := by
      rw [← hsucceeded, hfirst]
      exact Option.some_ne_none cause
    refine ⟨rfl, ?_, ?_, ?_, ?_⟩
    · exact iff_of_false (fun hmore => hmore rfl) hnot
    · exact fun hmore => absurd rfl hmore
    · refine iff_of_false ?_ ?_
      · rintro ⟨⟩
      · rintro ⟨⟨⟩, -⟩
    · intro found
      simp only [List.findSome?_cons, hfirst, Except.error.injEq, Option.some.injEq]
  | none =>
    refine ⟨rfl, ?_, fun _ => rfl, ?_, ?_⟩
    · exact iff_of_true (List.cons_ne_nil _ _) (hsucceeded.1 hfirst)
    · simp only [List.length_cons, List.length_nil, List.forall_mem_cons, ← failureOf_eq_none_iff,
        hfirst, true_and]
      cases failureOf (carrier second (carrier first state).2).1 with
      | none => simp
      | some cause => simp
    · intro cause
      simp only [List.findSome?_cons, hfirst, List.findSome?_nil]
      cases failureOf (carrier second (carrier first state).2).1 with
      | none => simp
      | some found => simp

/-- The registration of a partner takes at most two exchanges, whatever carries them. Credentials
that do not fit a command are refused before the first one. Otherwise the first exchange carries the
credentials for the flow, and a second one is made exactly if the first one succeeded; it carries
the signature of the root over the same credentials. The partner is registered exactly if both
succeeded, and otherwise the first failure is the result. -/
theorem register_two_steps (carrier : Carrier σ) (state : σ) (handle : Handle)
    (partner root : Authority S) (entropy : Bytes)
    (hsigned : (root.sign entropy (partner.credentialsFor handle.flow)).length ≤ maxCommandData) :
    (maxCommandData < (partner.credentialsFor handle.flow).length →
      carrier.hold state (handle.register partner root entropy).run =
        (.error (.wire (.elementTooLong (partner.credentialsFor handle.flow).length)), [])) ∧
    ((partner.credentialsFor handle.flow).length ≤ maxCommandData →
      carrier.TwoSteps state
        (handle.exchangeOf .setPartnerKey (partner.credentialsFor handle.flow))
        (handle.exchangeOf .checkPartner (root.sign entropy (partner.credentialsFor handle.flow)))
        (carrier.hold state (handle.register partner root entropy).run)) := by
  constructor
  · intro hlong
    rw [Handle.run_register_of_long hlong]
    rfl
  · intro hshort
    rw [Handle.run_register_of_short hshort hsigned]
    exact carrier.twoSteps_inTwoSteps state _ _

/-- Carries no command anywhere, and answers with what was laid down before, as long as it lasts. -/
def laidDown : Carrier (List (Except Error Response)) :=
  fun _ answers => (answers.headD (.error .requestTimeout), answers.tail)

/-- The credentials are accepted, and the signature is refused with a word that is not listed. -/
def sampleAnswers : List (Except Error Response) :=
  [.ok ⟨[], 0x9000⟩, .ok ⟨[7], 0x1234⟩, .ok ⟨[], 0x9000⟩]

open Conversation in
/-- The client does not try again, and reports the word as it is. -/
theorem register_two_steps_refused :
    (sampleRoot.sign [] (samplePartner.credentialsFor sampleHandle.flow)).length ≤ maxCommandData ∧
      (samplePartner.credentialsFor sampleHandle.flow).length ≤ maxCommandData ∧
      ∃ transcript, transcript.length = 2 ∧
        laidDown.hold sampleAnswers (sampleHandle.register samplePartner sampleRoot []).run =
          (.error (.status 0x1234), transcript) := by
  have hsigned : (sampleRoot.sign [] (samplePartner.credentialsFor sampleHandle.flow)).length ≤
      maxCommandData :=
    Nat.le_trans (Ecdsa.length_sign_le _ _ _) (by decide)
  have hshort : (samplePartner.credentialsFor sampleHandle.flow).length ≤ maxCommandData := by
    decide +kernel
  have hsteps := (register_two_steps laidDown sampleAnswers sampleHandle samplePartner sampleRoot []
    hsigned).2 hshort
  generalize laidDown.hold sampleAnswers
    (sampleHandle.register samplePartner sampleRoot []).run = held at hsteps ⊢
  obtain ⟨result, transcript⟩ := held
  have hmore := hsteps.goesOn_iff.2 ⟨[], rfl⟩
  obtain ⟨rest, rfl⟩ := List.head?_eq_some_iff.1 hsteps.begins
  obtain rfl : rest = _ := hsteps.goesOn hmore
  obtain rfl : result = _ := (hsteps.error_iff _).2 rfl
  exact ⟨hsigned, hshort, _, rfl, rfl⟩

end Carrier

end Countersign
