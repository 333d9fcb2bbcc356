import PromoBot.Affiliate.ShadowRunController
import PromoBot.Lib.Fallible

/-!
# How the shadow listener ends a message

`AliExpressShadowMessageProcessor.process`
(`affiliate/aliexpress_shadow_listener.py`), from the ends of its steps: which
terminal record the call makes, or that an exception escapes before it has made
one.

A message goes one of two ways.  The canonical path has a handler around all of it,
so it always ends in a record.  The coin path has the read of the row and the claim
in front of its handlers, and the handlers themselves finish the row in a
transaction of their own before they make their record; an exception in one of these
leaves the call.  The charges a call makes on the way (`before_api_call` and the
like) are steps of their own, and no part of this.

Cancellation and the death of the process are no ends of a call here.
-/

namespace PromoBot
namespace AliExpressShadowMessageProcessor

open Fallible

/-! ## The steps -/

/-- A delivery report: its `status` and `error_code`. -/
structure DeliveryReport where
  status : String
  errorCode : Option String
  deriving DecidableEq, Repr

/-- `report.error_code or default`. -/
def DeliveryReport.codeOr (r : DeliveryReport) (default : String) : String :=
  (r.errorCode.filter (· ≠ "")).getD default

/-- An exception on the canonical path. -/
inductive CanonicalError
  /-- `AliExpressConversionRejected`. -/
  | rejected (code : String) (failed : Bool)
  /-- Any other `Exception`. -/
  | other
  deriving DecidableEq, Repr

/-- How the steps of the canonical path end. -/
structure CanonicalSteps where
  /-- `relay_processor.process`. -/
  relay : Except CanonicalError Unit
  /-- `conversion.convert`: the proof of the preview and whether it was cached. -/
  convert : Except CanonicalError (Option Nat × Bool)
  /-- The session that purges and saves. -/
  save : Except CanonicalError Unit
  /-- `deliver_automatic`; `none` without a delivery service. -/
  delivery : Option (Except CanonicalError DeliveryReport)

/-- An exception on the coin path, after the claim. -/
inductive CoinError
  /-- `CoinShadowPreviewRejected`. -/
  | rejected (code : String)
  /-- Any other `Exception`. -/
  | other
  deriving DecidableEq, Repr

/-- How the steps of the coin path end. -/
structure CoinSteps where
  /-- The session of the claim: whether it claimed the row. -/
  claim : Except String Bool
  /-- The checks of the text and `prepare`: whether the preview was cached. -/
  prepare : Except CoinError Bool
  /-- `deliver_automatic` or `deliver_multi_automatic`. -/
  delivery : Except CoinError DeliveryReport
  /-- The session that completes the row. -/
  complete : Except CoinError Unit
  /-- `_finish_coin_source` after a delivery that was not sent. -/
  finishUnsent : Except CoinError Unit
  /-- `_finish_coin_source` in a handler. -/
  finish : Except String Unit

/-- How the steps of a call end. -/
structure ShadowSteps where
  /-- With the coin services: the session that reads the row, and whether its text has
  the look of a coin message. -/
  source : Option (Except String Bool)
  canonical : CanonicalSteps
  coin : CoinSteps

/-! ## The canonical path -/

/-- What a delivery report comes to. -/
def deliveryRecord (cacheHit : Bool) : Option DeliveryReport → TerminalRecord
  | some report =>
    if report.status ≠ "sent" then
      .rejected (report.codeOr "SHADOW_AUTO_DELIVERY_FAILED") true true
    else .processed cacheHit true
  | none => .processed cacheHit true

/-- The `try` of `process`. -/
def canonicalBody (s : CanonicalSteps) : Except CanonicalError TerminalRecord := do
  s.relay
  let (affiliateProofId, cacheHit) ← s.convert
  check (affiliateProofId.isSome = true)
    (.rejected "ALIEXPRESS_PROOF_CORRELATION_MISSING" false)
  s.save
  match s.delivery with
  | none => return deliveryRecord cacheHit none
  | some delivery => return deliveryRecord cacheHit (some (← delivery))

/-- The canonical path, which always ends in a record. -/
def canonical (s : CanonicalSteps) : TerminalRecord :=
  match canonicalBody s with
  | .ok r => r
  | .error (.rejected code failed) => .rejected code failed true
  | .error .other => .rejected "AFFILIATE_SHADOW_PROCESSING_FAILED" true true

/-! ## The coin path -/

/-- The `try` of `_process_coin`. -/
def coinBody (safeCode : String → String) (s : CoinSteps) : Except CoinError TerminalRecord := do
  let cacheHit ← s.prepare
  let delivery ← s.delivery
  if delivery.status ≠ "sent" then
    s.finishUnsent
    return .rejected (safeCode (delivery.codeOr "COIN_SHADOW_DELIVERY_FAILED")) true true
  else
    s.complete
    return .processed cacheHit true

/-- `_process_coin`; an exception which escapes is given by its text. -/
def processCoin (safeCode : String → String) (s : CoinSteps) : Except String TerminalRecord := do
  if ← s.claim then
    match coinBody safeCode s with
    | .ok r => return r
    | .error (.rejected code) =>
      s.finish
      return .rejected (safeCode code) false true
    | .error .other =>
      s.finish
      return .rejected "COIN_SHADOW_PROCESSING_UNCERTAIN" true true
  else return .skipped "COIN_SHADOW_SOURCE_ALREADY_CLAIMED"

/-- `process`: the record of the call, or the exception which escapes. -/
def process (safeCode : String → String) (s : ShadowSteps) : Except String TerminalRecord := do
  match s.source with
  | some source =>
    if ← source then processCoin safeCode s.coin
    else return canonical s.canonical
  | none => return canonical s.canonical

/-! ## Which calls return -/

/-- A step of the `try` of `_process_coin` raises. -/
def BodyRaises (s : CoinSteps) : Prop :=
  (∃ e, s.prepare = .error e) ∨
    (∃ e, s.delivery = .error e) ∨
      ∃ report, s.delivery = .ok report ∧
        if report.status ≠ "sent" then ∃ e, s.finishUnsent = .error e
        else ∃ e, s.complete = .error e

/-- The steps of the coin path outside its handlers do not raise: the claim, and the
transaction in which a handler finishes the row. -/
def CoinContained (s : CoinSteps) : Prop :=
  ∃ claimed, s.claim = .ok claimed ∧ (claimed = true → BodyRaises s → s.finish = .ok ())

/-- The steps of a call outside its handlers do not raise. -/
def Contained (s : ShadowSteps) : Prop :=
  ∀ source ∈ s.source, ∃ coinCandidate, source = .ok coinCandidate ∧
    (coinCandidate = true → CoinContained s.coin)

theorem coinBody_raises_iff (safeCode : String → String) (s : CoinSteps) :
    (∃ e, coinBody safeCode s = .error e) ↔ BodyRaises s := by
  unfold coinBody BodyRaises
  cases s.prepare with
  | error e => exact ⟨fun _ => Or.inl ⟨e, rfl⟩, fun _ => ⟨e, rfl⟩⟩
  | ok cacheHit =>
    cases s.delivery with
    | error e => exact ⟨fun _ => Or.inr (Or.inl ⟨e, rfl⟩), fun _ => ⟨e, rfl⟩⟩
    | ok report =>
      have hno : ∀ {α : Type} {ε : Type} {a : α}, ¬ ∃ e : ε, (Except.ok a : Except ε α) = .error e := by
        rintro α ε a ⟨e, h⟩
        cases h
      simp only [hno, false_or, Except.ok.injEq, exists_eq_left']
      show (∃ e, (if report.status ≠ "sent" then _ else _) = _) ↔ _
      split
      · cases s.finishUnsent with
        | error e => exact ⟨fun _ => ⟨e, rfl⟩, fun _ => ⟨e, rfl⟩⟩
        | ok => exact iff_of_false hno hno
      · cases s.complete with
        | error e => exact ⟨fun _ => ⟨e, rfl⟩, fun _ => ⟨e, rfl⟩⟩
        | ok => exact iff_of_false hno hno

theorem exists_processCoin_iff (safeCode : String → String) (s : CoinSteps) :
    (∃ r, processCoin safeCode s = .ok r) ↔ CoinContained s := by
  unfold CoinContained
  rw [← coinBody_raises_iff safeCode]
  unfold processCoin
  cases s.claim with
  | error e =>
    constructor
    · rintro ⟨r, h⟩
      cases h
    · rintro ⟨claimed, h, _⟩
      cases h
  | ok claimed =>
    cases claimed with
    | false => exact ⟨fun _ => ⟨false, rfl, nofun⟩, fun _ => ⟨_, rfl⟩⟩
    | true =>
      show (∃ r, (match coinBody safeCode s with
        | .ok r => (pure r : Except String TerminalRecord)
        | .error (.rejected code) => do s.finish; return .rejected (safeCode code) false true
        | .error .other => do
          s.finish; return .rejected "COIN_SHADOW_PROCESSING_UNCERTAIN" true true) = .ok r) ↔ _
      cases coinBody safeCode s with
      | ok r =>
        refine ⟨fun _ => ⟨true, rfl, fun _ h => ?_⟩, fun _ => ⟨r, rfl⟩⟩
        obtain ⟨e, h⟩ := h
        cases h
      | error e =>
        constructor
        · rintro ⟨r, h⟩
          refine ⟨true, rfl, fun _ _ => ?_⟩
          cases hfinish : s.finish with
          | ok => rfl
          | error e' => cases e <;> (rw [hfinish] at h; cases h)
        · rintro ⟨claimed, hclaimed, h⟩
          have hfinish := h (Except.ok.inj hclaimed).symm ⟨e, rfl⟩
          cases e with
          | rejected code => exact ⟨_, by dsimp only; rw [hfinish]; rfl⟩
          | other => exact ⟨_, by dsimp only; rw [hfinish]; rfl⟩

/-- **Which calls of `process` make a record.**  A call which is not contained ends with an
exception, and without one. -/
theorem exists_process_iff (safeCode : String → String) (s : ShadowSteps) :
    (∃ r, process safeCode s = .ok r) ↔ Contained s := by
  unfold process Contained
  cases s.source with
  | none => exact ⟨fun _ => nofun, fun _ => ⟨_, rfl⟩⟩
  | some source =>
    cases source with
    | error e =>
      constructor
      · rintro ⟨r, h⟩
        cases h
      · intro h
        obtain ⟨_, h, _⟩ := h _ rfl
        cases h
    | ok coinCandidate =>
      cases coinCandidate with
      | false =>
        refine ⟨fun _ => ?_, fun _ => ⟨_, rfl⟩⟩
        rintro source ⟨⟩
        exact ⟨false, rfl, nofun⟩
      | true =>
        refine (exists_processCoin_iff safeCode s.coin).trans ⟨fun h => ?_, fun h => ?_⟩
        · rintro source ⟨⟩
          exact ⟨true, rfl, fun _ => h⟩
        · obtain ⟨coinCandidate, hcandidate, h⟩ := h _ rfl
          exact h (Except.ok.inj hcandidate).symm

end AliExpressShadowMessageProcessor
end PromoBot
