import Dbt2.ProcessTransaction

/-!
# The transaction mix

The shares that the driver is given, the thresholds it makes of them, and how a terminal chooses
the type of its next transaction. New-Order has the share that the others leave, and Stock-Level is
chosen where no comparison holds.

* `recalculateMix`: checks the share of New-Order and adds up the thresholds;
* `TransactionMix.choose`: the chain of comparisons, the same in all three drivers;
* `mixKept_iff`: which of the accepted mixes the choices keep to.
-/

namespace Dbt2

open Draws

inductive MixType where
  | newOrder
  | payment
  | orderStatus
  | delivery
  | stockLevel
  deriving DecidableEq

def MixType.transaction : MixType → Int
  | newOrder => NEW_ORDER
  | payment => PAYMENT
  | orderStatus => ORDER_STATUS
  | delivery => DELIVERY
  | stockLevel => STOCK_LEVEL

def MIX_DELIVERY : ℚ := 4 / 100
def MIX_ORDER_STATUS : ℚ := 4 / 100
def MIX_PAYMENT : ℚ := 43 / 100
def MIX_STOCK_LEVEL : ℚ := 4 / 100

/-- As the driver starts with it, unless an option says otherwise. -/
structure TransactionMix where
  deliveryActual : ℚ := MIX_DELIVERY
  newOrderActual : ℚ := 0
  paymentActual : ℚ := MIX_PAYMENT
  orderStatusActual : ℚ := MIX_ORDER_STATUS
  stockLevelActual : ℚ := MIX_STOCK_LEVEL
  deliveryThreshold : ℚ := 0
  newOrderThreshold : ℚ := 0
  paymentThreshold : ℚ := 0
  orderStatusThreshold : ℚ := 0
  stockLevelThreshold : ℚ := 0

/-- `key_time_t` or `think_time_t`. -/
structure TypeTimes where
  delivery : Int
  newOrder : Int
  orderStatus : Int
  payment : Int
  stockLevel : Int

structure Choice where
  transaction : MixType
  keyingTime : Int
  meanThinkTime : Int

namespace TransactionMix

variable (t : TransactionMix)

/-- The configured share of a type. -/
def actual : MixType → ℚ
  | .newOrder => t.newOrderActual
  | .payment => t.paymentActual
  | .orderStatus => t.orderStatusActual
  | .delivery => t.deliveryActual
  | .stockLevel => t.stockLevelActual

/-- Where the interval of a type begins and ends. -/
def lower : MixType → ℚ
  | .newOrder => 0
  | .payment => t.newOrderThreshold
  | .orderStatus => t.paymentThreshold
  | .delivery => t.orderStatusThreshold
  | .stockLevel => t.deliveryThreshold

def upper : MixType → ℚ
  | .newOrder => t.newOrderThreshold
  | .payment => t.paymentThreshold
  | .orderStatus => t.orderStatusThreshold
  | .delivery => t.deliveryThreshold
  | .stockLevel => t.stockLevelThreshold

/-- What the terminal does with a value of `get_percentage`. -/
def choose (keyTime thinkTime : TypeTimes) (threshold : ℚ) : Choice :=
  if threshold < t.newOrderThreshold then
    ⟨.newOrder, keyTime.newOrder, thinkTime.newOrder⟩
  else if t.paymentActual ≠ 0 ∧ threshold < t.paymentThreshold then
    ⟨.payment, keyTime.payment, thinkTime.payment⟩
  else if t.orderStatusActual ≠ 0 ∧ threshold < t.orderStatusThreshold then
    ⟨.orderStatus, keyTime.orderStatus, thinkTime.orderStatus⟩
  else if t.deliveryActual ≠ 0 ∧ threshold < t.deliveryThreshold then
    ⟨.delivery, keyTime.delivery, thinkTime.delivery⟩
  else
    ⟨.stockLevel, keyTime.stockLevel, thinkTime.stockLevel⟩

end TransactionMix

/-- The code it returns, and the mix it leaves. -/
def recalculateMix (t : TransactionMix) : Int × TransactionMix :=
  let t := { t with
    newOrderActual :=
      1 - (t.deliveryActual + t.orderStatusActual + t.paymentActual + t.stockLevelActual) }
  if t.newOrderActual < 0 then (ERROR, t)
  else
    let t := { t with newOrderThreshold := t.newOrderActual }
    let t := { t with paymentThreshold := t.newOrderThreshold + t.paymentActual }
    let t := { t with orderStatusThreshold := t.paymentThreshold + t.orderStatusActual }
    let t := { t with deliveryThreshold := t.orderStatusThreshold + t.deliveryActual }
    let t := { t with stockLevelThreshold := t.deliveryThreshold + t.stockLevelActual }
    (OK, t)

/-! ## What is asked of a mix -/

/-- The values of `get_percentage`. -/
def percentages : Set ℚ := {v | ∃ m : Nat, m ≤ 2 ^ 53 - 1 ∧ v = m / (2 ^ 53 - 1)}

/-- The transaction types split the percentages according to their shares. -/
structure MixKept (t : TransactionMix) : Prop where
  monotone : 0 ≤ t.newOrderThreshold ∧ t.newOrderThreshold ≤ t.paymentThreshold ∧
    t.paymentThreshold ≤ t.orderStatusThreshold ∧ t.orderStatusThreshold ≤ t.deliveryThreshold ∧
    t.deliveryThreshold ≤ t.stockLevelThreshold ∧ t.stockLevelThreshold = 1
  interval : ∀ k, ∃ lo hi, hi - lo = t.actual k ∧
    ∃ I : Set ℚ, (I = Set.Ico lo hi ∨ I = Set.Icc lo hi) ∧
      ∀ v ∈ percentages, ∀ keyTime thinkTime,
        (t.choose keyTime thinkTime v).transaction = k ↔ v ∈ I
  never : ∀ k, t.actual k = 0 → ∀ v ∈ percentages, ∀ keyTime thinkTime,
    (t.choose keyTime thinkTime v).transaction ≠ k

/-! ## Percentages -/

theorem getPercentage_emits : Emits getPercentage (· ∈ percentages) := by
  refine (Emits.trivial _).bind fun r _ => Emits.pure ⟨highBits r, ?_, rfl⟩
  have := highBits_lt r
  omega

/-- A type without a share is never drawn from a mix that is kept to. -/
theorem MixKept.draws_shared {t : TransactionMix} (kept : MixKept t)
    (keyTime thinkTime : TypeTimes) :
    Emits (do let threshold ← getPercentage; pure (t.choose keyTime thinkTime threshold))
      fun drawn => t.actual drawn.transaction ≠ 0 := by
  refine getPercentage_emits.bind fun threshold mem => Emits.pure fun zero => ?_
  exact kept.never _ zero threshold mem keyTime thinkTime rfl

theorem percentage_bounds {v : ℚ} (mem : v ∈ percentages) : 0 ≤ v ∧ v ≤ 1 := by
  obtain ⟨m, le, rfl⟩ := mem
  have upper : (m : ℚ) ≤ 2 ^ 53 - 1 := by
    have cast : (m : ℚ) ≤ ((2 ^ 53 - 1 : Nat) : ℚ) := by exact_mod_cast le
    norm_num at cast ⊢
    exact cast
  constructor
  · apply div_nonneg (Nat.cast_nonneg m)
    norm_num
  · rw [div_le_one (by norm_num)]
    exact upper

/-- The largest draw is divided by itself. -/
theorem one_mem_percentages : (1 : ℚ) ∈ percentages := ⟨2 ^ 53 - 1, le_rfl, by norm_num⟩

/-! ## The thresholds -/

/-- What `recalculate_mix` leaves of a mix that it accepts. -/
structure Recalculated (s t : TransactionMix) : Prop where
  delivery : t.deliveryActual = s.deliveryActual
  orderStatus : t.orderStatusActual = s.orderStatusActual
  payment : t.paymentActual = s.paymentActual
  stockLevel : t.stockLevelActual = s.stockLevelActual
  rest : t.newOrderActual + t.paymentActual + t.orderStatusActual + t.deliveryActual +
    t.stockLevelActual = 1
  nonneg : 0 ≤ t.newOrderActual
  newOrderThreshold : t.newOrderThreshold = t.newOrderActual
  paymentThreshold : t.paymentThreshold = t.newOrderThreshold + t.paymentActual
  orderStatusThreshold : t.orderStatusThreshold = t.paymentThreshold + t.orderStatusActual
  deliveryThreshold : t.deliveryThreshold = t.orderStatusThreshold + t.deliveryActual
  stockLevelThreshold : t.stockLevelThreshold = t.deliveryThreshold + t.stockLevelActual

theorem recalculateMix_ok {t : TransactionMix} (accepted : (recalculateMix t).1 = OK) :
    Recalculated t (recalculateMix t).2 := by
  unfold recalculateMix at accepted ⊢
  dsimp only at accepted ⊢
  split at accepted
  · exact absurd (show ERROR = OK from accepted) (by decide)
  · next nonneg =>
    rw [if_neg nonneg]
    exact {
      delivery := rfl
      orderStatus := rfl
      payment := rfl
      stockLevel := rfl
      rest := by ring
      nonneg := not_lt.mp nonneg
      newOrderThreshold := rfl
      paymentThreshold := rfl
      orderStatusThreshold := rfl
      deliveryThreshold := rfl
      stockLevelThreshold := rfl }

namespace Recalculated

variable {s t : TransactionMix}

/-- The thresholds end at the whole. -/
theorem stockLevelThreshold_eq (r : Recalculated s t) : t.stockLevelThreshold = 1 := by
  rw [r.stockLevelThreshold, r.deliveryThreshold, r.orderStatusThreshold, r.paymentThreshold,
    r.newOrderThreshold]
  exact r.rest

/-- The share of a type is the length of its interval. -/
theorem upper_sub_lower (r : Recalculated s t) (k : MixType) :
    t.upper k - t.lower k = t.actual k := by
  cases k with
  | newOrder => exact (sub_zero _).trans r.newOrderThreshold
  | payment => exact sub_eq_of_eq_add' r.paymentThreshold
  | orderStatus => exact sub_eq_of_eq_add' r.orderStatusThreshold
  | delivery => exact sub_eq_of_eq_add' r.deliveryThreshold
  | stockLevel => exact sub_eq_of_eq_add' r.stockLevelThreshold

theorem lower_le_upper (r : Recalculated s t) {k : MixType} (share : 0 ≤ t.actual k) :
    t.lower k ≤ t.upper k := by
  have length := r.upper_sub_lower k
  linarith

/-- The thresholds rise if no share is negative. -/
theorem monotone (r : Recalculated s t) (shares : ∀ k, 0 ≤ t.actual k) :
    0 ≤ t.newOrderThreshold ∧ t.newOrderThreshold ≤ t.paymentThreshold ∧
      t.paymentThreshold ≤ t.orderStatusThreshold ∧
      t.orderStatusThreshold ≤ t.deliveryThreshold ∧
      t.deliveryThreshold ≤ t.stockLevelThreshold :=
  ⟨r.lower_le_upper (shares .newOrder), r.lower_le_upper (shares .payment),
    r.lower_le_upper (shares .orderStatus), r.lower_le_upper (shares .delivery),
    r.lower_le_upper (shares .stockLevel)⟩

/-- A type without a share has an empty interval, so nothing changes when it is passed over. -/
theorem guard_iff (r : Recalculated s t) {k : MixType} {v : ℚ} (above : t.lower k ≤ v) :
    (t.actual k ≠ 0 ∧ v < t.upper k) ↔ v < t.upper k := by
  refine and_iff_right_of_imp fun below none => ?_
  have length := r.upper_sub_lower k
  linarith

theorem choose_transaction (r : Recalculated s t) (keyTime thinkTime : TypeTimes) (v : ℚ) :
    (t.choose keyTime thinkTime v).transaction =
      if v < t.newOrderThreshold then .newOrder
      else if v < t.paymentThreshold then .payment
      else if v < t.orderStatusThreshold then .orderStatus
      else if v < t.deliveryThreshold then .delivery
      else .stockLevel := by
  unfold TransactionMix.choose
  by_cases first : v < t.newOrderThreshold
  · rw [if_pos first, if_pos first]
  rw [if_neg first, if_neg first]
  have payment : (t.paymentActual ≠ 0 ∧ v < t.paymentThreshold) ↔ v < t.paymentThreshold :=
    r.guard_iff (k := .payment) (not_lt.mp first)
  by_cases second : v < t.paymentThreshold
  · rw [if_pos (payment.mpr second), if_pos second]
  rw [if_neg fun h => second h.2, if_neg second]
  have orderStatus : (t.orderStatusActual ≠ 0 ∧ v < t.orderStatusThreshold) ↔
      v < t.orderStatusThreshold := r.guard_iff (k := .orderStatus) (not_lt.mp second)
  by_cases third : v < t.orderStatusThreshold
  · rw [if_pos (orderStatus.mpr third), if_pos third]
  rw [if_neg fun h => third h.2, if_neg third]
  have delivery : (t.deliveryActual ≠ 0 ∧ v < t.deliveryThreshold) ↔ v < t.deliveryThreshold :=
    r.guard_iff (k := .delivery) (not_lt.mp third)
  by_cases fourth : v < t.deliveryThreshold
  · rw [if_pos (delivery.mpr fourth), if_pos fourth]
  · rw [if_neg fun h => fourth h.2, if_neg fourth]

/-- A type is chosen on its interval, of which only the last includes its end. -/
theorem chosen_iff (r : Recalculated s t) (shares : ∀ k, 0 ≤ t.actual k)
    (keyTime thinkTime : TypeTimes) {v : ℚ} (nonneg : 0 ≤ v) (k : MixType) :
    (t.choose keyTime thinkTime v).transaction = k ↔
      t.lower k ≤ v ∧ (k ≠ .stockLevel → v < t.upper k) := by
  obtain ⟨-, second, third, fourth, -⟩ := r.monotone shares
  rw [r.choose_transaction]
  cases k with
  | newOrder => simp only [TransactionMix.lower, TransactionMix.upper]; grind
  | payment => simp only [TransactionMix.lower, TransactionMix.upper]; grind
  | orderStatus => simp only [TransactionMix.lower, TransactionMix.upper]; grind
  | delivery => simp only [TransactionMix.lower, TransactionMix.upper]; grind
  | stockLevel => simp only [TransactionMix.lower, TransactionMix.upper]; grind

end Recalculated

/-! ## Which mixes are kept to -/

/-- All accepted mixes are, except those that give a type a negative share or Stock-Level none: it
is what the largest percentage comes to. -/
theorem mixKept_iff (t : TransactionMix) (accepted : (recalculateMix t).1 = OK) :
    MixKept (recalculateMix t).2 ↔ 0 ≤ t.paymentActual ∧ 0 ≤ t.orderStatusActual ∧
      0 ≤ t.deliveryActual ∧ 0 < t.stockLevelActual := by
  have r := recalculateMix_ok accepted
  rw [← r.payment, ← r.orderStatus, ← r.delivery, ← r.stockLevel]
  generalize (recalculateMix t).2 = u at r
  constructor
  · intro kept
    obtain ⟨-, second, third, fourth, fifth, -⟩ := kept.monotone
    have share {k : MixType} (le : u.lower k ≤ u.upper k) : 0 ≤ u.actual k := by
      rw [← r.upper_sub_lower k]
      exact sub_nonneg.mpr le
    have stockLevel : 0 ≤ u.actual .stockLevel := share fifth
    refine ⟨share (k := .payment) second, share (k := .orderStatus) third,
      share (k := .delivery) fourth, stockLevel.lt_of_ne fun none => ?_⟩
    have shares (k : MixType) : 0 ≤ u.actual k := by
      cases k with
      | newOrder => exact r.nonneg
      | payment => exact share second
      | orderStatus => exact share third
      | delivery => exact share fourth
      | stockLevel => exact stockLevel
    have times : TypeTimes := ⟨0, 0, 0, 0, 0⟩
    refine kept.never .stockLevel none.symm 1 one_mem_percentages times times ?_
    rw [r.chosen_iff shares times times zero_le_one]
    refine ⟨?_, fun other => absurd rfl other⟩
    exact (r.lower_le_upper stockLevel).trans r.stockLevelThreshold_eq.le
  · rintro ⟨payment, orderStatus, delivery, stockLevel⟩
    have shares (k : MixType) : 0 ≤ u.actual k := by
      cases k with
      | newOrder => exact r.nonneg
      | payment => exact payment
      | orderStatus => exact orderStatus
      | delivery => exact delivery
      | stockLevel => exact stockLevel.le
    have whole := r.stockLevelThreshold_eq
    obtain ⟨first, second, third, fourth, fifth⟩ := r.monotone shares
    refine ⟨⟨first, second, third, fourth, fifth, whole⟩, fun k => ?_, fun k none => ?_⟩
    · refine ⟨u.lower k, u.upper k, r.upper_sub_lower k, ?_⟩
      by_cases last : k = .stockLevel
      · refine ⟨_, .inr rfl, fun v mem keyTime thinkTime => ?_⟩
        obtain ⟨nonneg, le⟩ := percentage_bounds mem
        rw [r.chosen_iff shares keyTime thinkTime nonneg, Set.mem_Icc]
        subst last
        exact and_congr_right fun _ =>
          iff_of_true (fun other => absurd rfl other) (le.trans whole.ge)
      · refine ⟨_, .inl rfl, fun v mem keyTime thinkTime => ?_⟩
        obtain ⟨nonneg, -⟩ := percentage_bounds mem
        rw [r.chosen_iff shares keyTime thinkTime nonneg, Set.mem_Ico]
        exact and_congr_right fun _ => forall_prop_of_true last
    · intro v mem keyTime thinkTime chosen
      rw [r.chosen_iff shares keyTime thinkTime (percentage_bounds mem).1] at chosen
      have length := r.upper_sub_lower k
      have other : k ≠ .stockLevel := by
        rintro rfl
        exact stockLevel.ne' none
      linarith [chosen.1, chosen.2 other]

theorem mixKept_iff_default : (recalculateMix {}).1 = OK ∧
    (MixKept (recalculateMix {}).2 ↔ (0 : ℚ) ≤ 43 / 100 ∧ (0 : ℚ) ≤ 4 / 100 ∧
      (0 : ℚ) ≤ 4 / 100 ∧ (0 : ℚ) < 4 / 100) :=
  ⟨by decide +kernel, mixKept_iff {} (by decide +kernel)⟩

/-- With `-t 0` the largest percentage still selects Stock-Level. -/
theorem not_mixKept : ¬ ∀ t, (recalculateMix t).1 = OK → MixKept (recalculateMix t).2 := by
  intro kept
  have mix := kept { stockLevelActual := 0 } (by decide +kernel)
  exact mix.never .stockLevel (by decide +kernel) 1 one_mem_percentages ⟨0, 0, 0, 0, 0⟩
    ⟨0, 0, 0, 0, 0⟩ (by decide +kernel)

end Dbt2
