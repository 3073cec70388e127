import Dbt2.Oracle

/-!
# How often a retried call takes effect

Each attempt to call a procedure returns a status and has taken effect or not. What took effect is
committed, by `OCI_COMMIT_ON_SUCCESS` or by the commit that precedes the next attempt.

* `Truthful`: how the status and the effect go together;
* `AppliesOnce`: the retry loop applies the procedure's effect once if it reports a success, and
  not at all if it does not;
* `applies_once`: it does if no attempt that took effect is read as one to repeat.
-/

namespace Dbt2.Oracle

structure Attempt where
  status : OciStatus
  took : Bool
  deriving DecidableEq

def Attempt.call {S : Type} (effect : S → S) (a : Attempt) (s : S) : OciStatus × S :=
  (a.status, if a.took then effect s else s)

/-- A success has taken effect, with a warning or not. An error has been undone, unless a lost
connection left that unknown. -/
structure Truthful (a : Attempt) : Prop where
  success : a.status = .success ∨ a.status = .successWithInfo → a.took
  failure : a.took → a.status = .success ∨ a.status = .successWithInfo ∨
    ∃ last, a.status = .error NOT_SAFE_REPLAY last

/-- The attempt took effect, but the classifier takes its status for a failure to repeat. -/
def Attempt.Misread (a : Attempt) : Prop :=
  a.status = .successWithInfo ∨ a.took ∧ ∃ last, a.status = .error NOT_SAFE_REPLAY last

theorem Truthful.misread {a : Attempt} (truthful : Truthful a) :
    a.Misread ↔ a.took ∧ a.status ≠ .success := by
  constructor
  · rintro (warning | ⟨took, last, error⟩)
    · exact ⟨truthful.success (.inr warning), by simp [warning]⟩
    · exact ⟨took, by simp [error]⟩
  · rintro ⟨took, unsuccessful⟩
    obtain success | warning | error := truthful.failure took
    · exact absurd success unsuccessful
    · exact .inl warning
    · exact .inr ⟨took, error⟩

/-- The attempts up to the first that is not repeated. -/
def made (verdict : OciStatus → Verdict) : List Attempt → List Attempt
  | [] => []
  | a :: as => if verdict a.status = .again then a :: made verdict as else [a]

/-- The effect is applied once if the loop ends with a success, and not at all if it does not; an
attempt is only followed by another if it had no effect. -/
structure AppliesOnce (verdict : OciStatus → Verdict) (as : List Attempt) : Prop where
  left : ∀ (S : Type) (effect : S → S) (s left : S) (v : Verdict),
    attempts verdict (as.map (Attempt.call effect)) s = some (v, left) →
      left = if v = .returned OK 0 then effect s else s
  again : ∀ a ∈ made verdict as, verdict a.status = .again → a.took = false

section Verdict

variable {rollback : Int → Int}

/-- Only one status is taken for a success. -/
theorem verdict_success {status : OciStatus} :
    verdict rollback status = .returned OK 0 ↔ status = .success := by
  constructor
  · intro returned
    unfold verdict at returned
    split at returned
    · cases classified : ocierror status with
      | none => simp [classified] at returned
      | some errcode =>
        simp only [classified] at returned
        split at returned
        · cases returned
        · injection returned with rc
          exact absurd rc (by decide)
    · rename_i plain
      split at returned
      · injection returned with rc
        exact absurd rc (by decide)
      · rename_i data
        by_contra failed
        exact plain ⟨data, failed⟩
  · rintro rfl
    rfl

/-- A warning is taken for an error that the call may be repeated after. -/
theorem verdict_warning : verdict rollback .successWithInfo = .again := rfl

theorem verdict_unsafe (last : Int) : verdict rollback (.error NOT_SAFE_REPLAY last) = .again := rfl

theorem AppliesOnce.success {as : List Attempt} (truthful : ∀ a ∈ as, Truthful a)
    (once : AppliesOnce (verdict rollback) as) {a : Attempt} (mem : a ∈ as)
    (attempted : a ∈ made (verdict rollback) as) (took : a.took) : a.status = .success := by
  obtain success | warning | ⟨last, error⟩ := (truthful a mem).failure took
  · exact success
  · have untaken := once.again a attempted (by rw [warning, verdict_warning])
    simp [took] at untaken
  · have untaken := once.again a attempted (by rw [error, verdict_unsafe])
    simp [took] at untaken

theorem made_subset {verdict : OciStatus → Verdict} {as : List Attempt} {a : Attempt}
    (mem : a ∈ made verdict as) : a ∈ as := by
  induction as with
  | nil => exact mem
  | cons b as ih =>
    unfold made at mem
    split at mem
    · obtain rfl | later := List.mem_cons.mp mem
      · exact List.mem_cons_self
      · exact List.mem_cons_of_mem b (ih later)
    · rw [List.mem_singleton.mp mem]
      exact List.mem_cons_self

theorem attempts_cons {verdict : OciStatus → Verdict} {S : Type} {effect : S → S} {a : Attempt}
    {calls : List (S → OciStatus × S)} {s : S} :
    attempts verdict (a.call effect :: calls) s =
      if verdict a.status = .again then attempts verdict calls (a.call effect s).2
      else some (verdict a.status, (a.call effect s).2) := rfl

/-- If only successes take effect, the loop ends with the first. -/
theorem attempts_left {as : List Attempt} (truthful : ∀ a ∈ as, Truthful a)
    (success : ∀ a ∈ made (verdict rollback) as, a.took → a.status = .success) {S : Type}
    {effect : S → S} {s left : S} {v : Verdict}
    (ended : attempts (verdict rollback) (as.map (Attempt.call effect)) s = some (v, left)) :
    left = if v = .returned OK 0 then effect s else s := by
  induction as with
  | nil => cases ended
  | cons a as ih =>
    unfold made at success
    rw [List.map_cons, attempts_cons] at ended
    by_cases again : verdict rollback a.status = .again
    · rw [if_pos again] at ended success
      have untaken : a.took = false := by
        by_contra took
        have success := success a List.mem_cons_self (Bool.eq_true_of_not_eq_false took)
        rw [success] at again
        cases again
      simp only [Attempt.call, untaken] at ended
      exact ih (fun b mem => truthful b (List.mem_cons_of_mem a mem))
        (fun b mem => success b (List.mem_cons_of_mem a mem)) ended
    · rw [if_neg again] at ended success
      cases ended
      simp only [verdict_success, Attempt.call]
      by_cases took : a.took
      · rw [if_pos took, if_pos (success a (List.mem_singleton_self a) took)]
      · have failed : a.status ≠ .success := fun succeeded =>
          took ((truthful a List.mem_cons_self).success (.inl succeeded))
        rw [if_neg took, if_neg failed]

theorem verdict_applies_once {as : List Attempt} (truthful : ∀ a ∈ as, Truthful a) :
    AppliesOnce (verdict rollback) as ↔ ∀ a ∈ made (verdict rollback) as, ¬ a.Misread := by
  constructor
  · intro once a attempted misread
    obtain ⟨took, unsuccessful⟩ := (truthful a (made_subset attempted)).misread.mp misread
    exact unsuccessful (once.success truthful (made_subset attempted) attempted took)
  · intro read
    have success : ∀ a ∈ made (verdict rollback) as, a.took → a.status = .success := by
      intro a attempted took
      by_contra unsuccessful
      exact read a attempted
        ((truthful a (made_subset attempted)).misread.mpr ⟨took, unsuccessful⟩)
    constructor
    · intro S effect s left v ended
      exact attempts_left truthful success ended
    · intro a attempted again
      by_contra took
      have succeeded := success a attempted (Bool.eq_true_of_not_eq_false took)
      rw [succeeded] at again
      cases again

end Verdict

/-- A New-Order or Payment takes effect once, and is reported to have, exactly if no attempt that
took effect is taken for a failure to repeat. -/
theorem applies_once {as : List Attempt} (truthful : ∀ a ∈ as, Truthful a) :
    (AppliesOnce executeNewOrderOracle as ↔ ∀ a ∈ made executeNewOrderOracle as, ¬ a.Misread) ∧
    (AppliesOnce executePaymentOracle as ↔ ∀ a ∈ made executePaymentOracle as, ¬ a.Misread) :=
  ⟨verdict_applies_once truthful, verdict_applies_once truthful⟩

/-- A serialization failure, then a success. -/
def failedOnce : List Attempt :=
  [⟨.error NOT_SERIALIZABLE NOT_SERIALIZABLE, false⟩, ⟨.success, true⟩]

theorem mem_failedOnce {a : Attempt} :
    a ∈ failedOnce ↔
      a = ⟨.error NOT_SERIALIZABLE NOT_SERIALIZABLE, false⟩ ∨ a = ⟨.success, true⟩ := by
  simp [failedOnce]

theorem failedOnce_truthful : ∀ a ∈ failedOnce, Truthful a := by
  intro a mem
  obtain rfl | rfl := mem_failedOnce.mp mem
  · exact ⟨by simp, by simp⟩
  · exact ⟨by simp, by simp⟩

theorem failedOnce_read : ∀ a ∈ failedOnce, ¬ a.Misread := by
  intro a mem
  obtain rfl | rfl := mem_failedOnce.mp mem
  · simp [Attempt.Misread]
  · simp [Attempt.Misread]

theorem applies_once_failedOnce :
    AppliesOnce executeNewOrderOracle failedOnce ∧ AppliesOnce executePaymentOracle failedOnce :=
  ⟨(applies_once failedOnce_truthful).1.mpr fun a made => failedOnce_read a (made_subset made),
    (applies_once failedOnce_truthful).2.mpr fun a made => failedOnce_read a (made_subset made)⟩

/-- A success with a warning, then a success. -/
def warnedOnce : List Attempt := [⟨.successWithInfo, true⟩, ⟨.success, true⟩]

/-- A warning is taken for a failure, and the procedure applied again. -/
theorem not_applies_once :
    ¬ ∀ as : List Attempt, (∀ a ∈ as, Truthful a) →
      AppliesOnce executeNewOrderOracle as ∧ AppliesOnce executePaymentOracle as := by
  intro once
  have truthful : ∀ a ∈ warnedOnce, Truthful a := by
    intro a mem
    simp only [warnedOnce, List.mem_cons, List.not_mem_nil, or_false] at mem
    obtain rfl | rfl := mem
    · exact ⟨by simp, by simp⟩
    · exact ⟨by simp, by simp⟩
  have twice := (once warnedOnce truthful).1.left Nat (· + 1) 0 2 (.returned OK 0) rfl
  exact absurd twice (by decide)

end Dbt2.Oracle
