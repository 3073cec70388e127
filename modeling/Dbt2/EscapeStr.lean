import Dbt2.Lib.Memory
import Dbt2.Lib.Quoting
import Dbt2.Lib.Stepping

/-!
# Texts inside SQL statements

`dbt2_escape_str` of `dbc_nonsp.c` and the literals that `PAYMENT_7_BC` and `PAYMENT_8` make of its
results. Texts are bytes, as in memory; the counters of the loop are an `int` each.

* `runs`, `run_overflows`: what the loop writes, if a counter holds its length;
* `escapes_iff`: the literal is read back as the text as long as that is so;
* `read_payment7Bc`, `read_payment8`: the literals of the two statements.
-/

namespace Dbt2.EscapeStr

open Stepping Memory

/-- What `strlen` goes through. -/
structure CString where
  bytes : List UInt8
  nonzero : 0 ∉ bytes

def CString.strlen (s : CString) : Nat := s.bytes.length

abbrev quote : UInt8 := 39
abbrev backslash : UInt8 := 92
abbrev parenthesis : UInt8 := 41

/-- The buffer for the result, from its first byte on, and the counter `j`. -/
structure Output where
  escStr : Int → UInt8
  j : Int

abbrev Outcome := Except (Halt Empty)

/-- `esc_str[j++] = c`. -/
def put (c : UInt8) (s : Output) : Outcome Output := do
  let j ← signed 31 (s.j + 1)
  .ok ⟨Function.update s.escStr s.j c, j⟩

def charAt (origStr : CString) (i : Int) : Outcome UInt8 :=
  match origStr.bytes[i.toNat]? with
  | some c => .ok c
  | none => .error .outOfBounds

def escapeByte (haveSqlite3 : Bool) (origStr : CString) (i : Int) (s : Output) :
    Outcome (Flow Output) := do
  let c ← charAt origStr i
  let s ←
    if c = quote then put quote s
    else if !haveSqlite3 ∧ c = backslash then put backslash s
    else if !haveSqlite3 ∧ c = parenthesis then put backslash s
    else .ok s
  let s ← put c s
  .ok (.next s)

/-- `int len = strlen(orig_str)`. -/
def len (origStr : CString) : Int := Int.bmod origStr.strlen (2 ^ 32)

/-- With the contents of `esc_str` before and after, unless it is null. -/
def dbt2EscapeStr (haveSqlite3 : Bool) (origStr : Option CString) (escStr : Option (Int → UInt8))
    (fuel : Nat) : Outcome (Option (Int → UInt8)) :=
  match origStr, escStr with
  | some origStr, some escStr => do
    let s ← forLoop (signed 31) (len origStr) 1 (escapeByte haveSqlite3 origStr) fuel 0 ⟨escStr, 0⟩
    .ok (some (Function.update s.escStr s.j 0))
  | _, escStr => .ok escStr

/-! ## The loop -/

def escaped (s : List UInt8) : List UInt8 := Quoting.doubled quote s

/-- After `k` rounds. -/
def written (before : Int → UInt8) (s : CString) (k : Nat) : Output :=
  ⟨store before 0 (escaped (s.bytes.take k)), (escaped (s.bytes.take k)).length⟩

theorem put_ok {c : UInt8} {m : Int → UInt8} {j : Int} (nonneg : 0 ≤ j) (fits : j + 1 < 2 ^ 31) :
    put c ⟨m, j⟩ = .ok ⟨Function.update m j c, j + 1⟩ := by
  unfold put
  dsimp only
  rw [signed_ok (by omega) fits]
  rfl

theorem put_overflow {c : UInt8} {m : Int → UInt8} {j : Int} (last : 2 ^ 31 ≤ j + 1) :
    put c ⟨m, j⟩ = .error .overflow := by
  unfold put
  dsimp only
  rw [signed_overflow last]
  rfl

/-- What a round writes. -/
def puts : List UInt8 → Output → Outcome Output
  | [], s => .ok s
  | c :: t, s => put c s >>= puts t

theorem puts_ok {t : List UInt8} {m : Int → UInt8} {j : Int} (nonneg : 0 ≤ j)
    (fits : j + t.length < 2 ^ 31) : puts t ⟨m, j⟩ = .ok ⟨store m j t, j + t.length⟩ := by
  induction t generalizing m j with
  | nil => simp [puts, store]
  | cons c t ih =>
    rw [List.length_cons, Nat.cast_succ] at fits ⊢
    rw [puts, put_ok nonneg (by omega)]
    change puts t ⟨Function.update m j c, j + 1⟩ = _
    rw [ih (by omega) (by omega), store, add_assoc, add_comm (1 : Int)]

theorem puts_overflow {t : List UInt8} {m : Int → UInt8} {j : Int} (nonneg : 0 ≤ j)
    (before : j < 2 ^ 31) (long : 2 ^ 31 ≤ j + t.length) : puts t ⟨m, j⟩ = .error .overflow := by
  induction t generalizing m j with
  | nil =>
    rw [List.length_nil] at long
    omega
  | cons c t ih =>
    rw [List.length_cons, Nat.cast_succ] at long
    by_cases last : 2 ^ 31 ≤ j + 1
    · rw [puts, put_overflow last]
      rfl
    · rw [puts, put_ok nonneg (by omega)]
      exact ih (by omega) (by omega) (by omega)

theorem escaped_quote : escaped [quote] = [quote, quote] := rfl

theorem escaped_other {c : UInt8} (other : c ≠ quote) : escaped [c] = [c] := by
  simp [escaped, other]

theorem puts_one (c : UInt8) : puts [c] = put c := by
  funext o
  rw [puts]
  cases put c o <;> rfl

theorem escapeByte_eq {s : CString} {k : Nat} (lt : k < s.bytes.length) (o : Output) :
    escapeByte true s k o = puts (escaped [s.bytes[k]]) o >>= fun o => .ok (.next o) := by
  have here : charAt s k = .ok s.bytes[k] := by simp [charAt, lt]
  unfold escapeByte
  rw [here]
  by_cases own : s.bytes[k] = quote
  · rw [own, escaped_quote, puts, puts_one, bind_assoc]
    rfl
  · rw [escaped_other own, puts_one]
    change (do
      let o ← if s.bytes[k] = quote then _ else Except.ok o
      let o ← put s.bytes[k] o
      Except.ok (Flow.next o)) = _
    rw [if_neg own]
    rfl

theorem escaped_append (s t : List UInt8) : escaped (s ++ t) = escaped s ++ escaped t :=
  Quoting.doubled_append s t

theorem length_escaped (s : List UInt8) : (escaped s).length = s.length + s.count quote :=
  Quoting.length_doubled s

theorem length_escaped_mono (s : List UInt8) {k n : Nat} (le : k ≤ n) :
    (escaped (s.take k)).length ≤ (escaped (s.take n)).length := by
  have initial := List.take_sublist_take_left (l := s) le
  rw [length_escaped, length_escaped]
  exact Nat.add_le_add initial.length_le (initial.count_le quote)

variable {s : CString} {before : Int → UInt8} {k n : Nat}

theorem written_zero : written before s 0 = ⟨before, 0⟩ := by simp [written, escaped, store]

theorem escapeByte_ok (lt : k < s.bytes.length)
    (fits : (escaped (s.bytes.take (k + 1))).length < 2 ^ 31) :
    escapeByte true s k (written before s k) = .ok (.next (written before s (k + 1))) := by
  rw [List.take_succ_eq_append_getElem lt, escaped_append, List.length_append] at fits
  rw [escapeByte_eq lt, written, puts_ok (by omega) (by omega), written,
    List.take_succ_eq_append_getElem lt, escaped_append, store_append, List.length_append,
    Nat.cast_add, zero_add]
  rfl

theorem escapeByte_overflow (lt : k < s.bytes.length)
    (fits : (escaped (s.bytes.take k)).length < 2 ^ 31)
    (long : 2 ^ 31 ≤ (escaped (s.bytes.take (k + 1))).length) :
    escapeByte true s k (written before s k) = .error .overflow := by
  rw [List.take_succ_eq_append_getElem lt, escaped_append, List.length_append] at long
  rw [escapeByte_eq lt, written, puts_overflow (by omega) (by omega) (by omega)]
  rfl

/-- The rounds of the loop. -/
abbrev Rounds (s : CString) (i : Int) (o : Output) (r : Outcome Output) : Prop :=
  Loop (signed 31) (len s) 1 (fun _ => escapeByte true s) i o r

theorem len_le (s : CString) : len s ≤ s.strlen := by
  unfold len Int.bmod
  dsimp only
  split <;> omega

theorem len_lt (s : CString) : len s < 2 ^ 31 := by
  unfold len Int.bmod
  dsimp only
  split <;> omega

theorem first_rounds {r : Outcome Output} (le : (n : Int) ≤ len s)
    (fits : (escaped (s.bytes.take n)).length < 2 ^ 31) (rest : Rounds s n (written before s n) r) :
    Rounds s 0 (written before s 0) r := by
  have inside := le.trans (len_le s)
  have bounded := len_lt s
  unfold CString.strlen at inside
  refine Loop.rounds n (written before s) (fun k lt => ?_) (by simpa using rest)
  have next := length_escaped_mono s.bytes (show k + 1 ≤ n from lt)
  have counts : (signed 31 (k + 1) : Outcome Int) = .ok (k + 1) :=
    signed_ok (by omega) (by omega)
  simp only [zero_add, mul_one, Nat.cast_succ]
  rw [escapeByte_ok (by omega) (by omega)]
  exact ⟨by omega, .const _, counts⟩

/-- How many bytes of a text the loop goes through. -/
@[irreducible]
def passed (s : CString) : Nat := (len s).toNat

theorem passed_nonneg (some : 0 ≤ len s) : (passed s : Int) = len s := by
  unfold passed
  exact Int.toNat_of_nonneg some

theorem passed_neg (none : ¬ 0 ≤ len s) : passed s = 0 := by
  unfold passed
  exact Int.toNat_of_nonpos (by omega)

/-- What becomes of the text. -/
def result (s : CString) : List UInt8 := escaped (s.bytes.take (passed s))

/-- The end of the text. -/
def finish (o : Output) : Outcome (Option (Int → UInt8)) :=
  .ok (some (Function.update o.escStr o.j 0))

theorem dbt2EscapeStr_some (fuel : Nat) : dbt2EscapeStr true (some s) (some before) fuel =
    forLoop (signed 31) (len s) 1 (escapeByte true s) fuel 0 ⟨before, 0⟩ >>= finish := by
  rw [dbt2EscapeStr]
  rfl

theorem runs (fits : (result s).length < 2 ^ 31) :
    Ends (dbt2EscapeStr true (some s) (some before))
      (.ok (some (store before 0 (result s ++ [0])))) := by
  have loop : Rounds s 0 (written before s 0) (.ok (written before s (passed s))) := by
    by_cases some : 0 ≤ len s
    · have all := passed_nonneg some
      exact first_rounds all.le fits (.exit (by omega))
    · rw [passed_neg some]
      exact .exit (by omega)
  rw [written_zero] at loop
  have final : finish (written before s (passed s)) =
      .ok (some (store before 0 (result s ++ [0]))) := by
    rw [store_append, zero_add, store, store, finish, written, result]
  rw [← final, funext dbt2EscapeStr_some]
  exact loop.ends.bind (.const _)

/-- The first round that does not fit ends the loop. -/
theorem run_overflows (long : 2 ^ 31 ≤ (result s).length) :
    Ends (dbt2EscapeStr true (some s) (some before)) (.error .overflow) := by
  obtain ⟨m, unfit, least⟩ : ∃ m, 2 ^ 31 ≤ (escaped (s.bytes.take m)).length ∧
      ∀ k < m, ¬ 2 ^ 31 ≤ (escaped (s.bytes.take k)).length := by
    have some : ∃ m, 2 ^ 31 ≤ (escaped (s.bytes.take m)).length := ⟨_, long⟩
    exact ⟨Nat.find some, Nat.find_spec some, fun k => Nat.find_min some⟩
  have within : m ≤ passed s := by
    by_contra beyond
    exact least (passed s) (by omega) long
  cases m with
  | zero => simp [escaped] at unfit
  | succ k =>
    have fits : (escaped (s.bytes.take k)).length < 2 ^ 31 := not_le.mp (least k (by omega))
    have inside : (k : Int) < len s := by
      unfold passed at within
      omega
    have lt : k < s.bytes.length := by
      have := inside.trans_le (len_le s)
      unfold CString.strlen at this
      omega
    have halts : Rounds s k (written before s k) (.error .overflow) := by
      apply Loop.halt inside
      rw [escapeByte_overflow lt fits unfit]
      exact .const _
    have loop := first_rounds inside.le fits halts
    rw [written_zero] at loop
    rw [funext dbt2EscapeStr_some]
    exact loop.ends.bind_halt

/-! ## Reading the literal -/

/-- The text at the beginning of a buffer. -/
def CString.At (s : CString) (m : Int → UInt8) : Prop :=
  load m 0 (s.bytes.length + 1) = s.bytes ++ [0]

theorem CString.At.length_le {s t : CString} {m : Int → UInt8} (hs : s.At m) (ht : t.At m) :
    t.bytes.length ≤ s.bytes.length := by
  by_contra longer
  have initial : t.bytes.take (s.bytes.length + 1) = s.bytes ++ [0] := by
    have cut := congrArg (List.take (s.bytes.length + 1)) ht
    rwa [load_take _ _ (by omega), hs, List.take_append_of_le_length (by omega), eq_comm] at cut
  have stop : 0 ∈ t.bytes.take (s.bytes.length + 1) := by simp [initial]
  exact t.nonzero (List.mem_of_mem_take stop)

theorem CString.At.unique {s t : CString} {m : Int → UInt8} (hs : s.At m) (ht : t.At m) :
    s.bytes = t.bytes := by
  have same := Nat.le_antisymm (ht.length_le hs) (hs.length_le ht)
  unfold CString.At at hs ht
  rw [same, ht] at hs
  exact (List.append_cancel_right hs).symm

theorem take_nonzero (s : CString) (n : Nat) : 0 ∉ escaped (s.bytes.take n) := fun mem =>
  s.nonzero (List.mem_of_mem_take (Quoting.mem_doubled.mp mem))

def resultText (s : CString) : CString := ⟨result s, take_nonzero s (passed s)⟩

theorem result_at (s : CString) (before : Int → UInt8) :
    (resultText s).At (store before 0 (result s ++ [0])) := by
  have same := load_store before 0 (result s ++ [0])
  rw [List.length_append, List.length_singleton] at same
  exact same

/-- Nothing but the first `2 * length + 1` bytes changes, and they hold what a literal reads. -/
structure RoundTrip (s : CString) (before after : Int → UInt8) : Prop where
  within : ∀ p, p < 0 ∨ 2 * s.strlen + 1 ≤ p → after p = before p
  literal : ∃ text : CString, text.At after ∧ ∀ rest, rest.head? ≠ some quote →
    Quoting.read quote (quote :: (text.bytes ++ quote :: rest)) = some (s.bytes, rest)

/-- Whatever the buffer holds. -/
def Escapes (s : CString) : Prop := ∀ before, ∃ after,
  Ends (dbt2EscapeStr true (some s) (some before)) (.ok (some after)) ∧ RoundTrip s before after

theorem read_result (s : CString) {rest : List UInt8} (closed : rest.head? ≠ some quote) :
    Quoting.read quote (quote :: (result s ++ quote :: rest)) =
      some (s.bytes.take (passed s), rest) := Quoting.read_literal _ closed

theorem result_all (all : s.bytes.length ≤ passed s) : result s = escaped s.bytes := by
  rw [result, List.take_of_length_le all]

theorem length_le_passed (short : s.bytes.length < 2 ^ 31) : s.bytes.length ≤ passed s := by
  unfold passed len CString.strlen
  rw [Int.bmod_eq_of_le (by omega) (by omega)]
  omega

theorem escapes_of_fits (fits : s.bytes.length + s.bytes.count quote < 2 ^ 31) : Escapes s := by
  have all := length_le_passed (s := s) (by omega)
  have size : (result s).length = s.bytes.length + s.bytes.count quote := by
    rw [result_all all, length_escaped]
  intro before
  use store before 0 (result s ++ [0]), runs (by omega)
  constructor
  · intro p outside
    have quotes : s.bytes.count quote ≤ s.bytes.length := List.count_le_length
    apply store_outside
    rw [List.length_append, size, List.length_singleton]
    unfold CString.strlen at outside
    omega
  · use resultText s, result_at s before
    intro rest closed
    rw [← List.take_of_length_le all]
    exact read_result s closed

theorem fits_of_escapes (escapes : Escapes s) :
    s.bytes.length + s.bytes.count quote < 2 ^ 31 := by
  obtain ⟨after, ended, -, text, found, literal⟩ := escapes fun _ => 0
  by_cases fits : (result s).length < 2 ^ 31
  · obtain rfl := Option.some.inj (Except.ok.inj (ended.unique (runs fits)))
    have same : text.bytes = result s := found.unique (result_at s _)
    have back := literal [] (by simp)
    rw [same, read_result s (by simp)] at back
    have all : s.bytes.take (passed s) = s.bytes := congrArg Prod.fst (Option.some.inj back)
    rwa [result, all, length_escaped] at fits
  · cases ended.unique (run_overflows (not_lt.mp fits))

theorem escapes_iff (s : CString) :
    Escapes s ↔ s.bytes.length + s.bytes.count quote < 2 ^ 31 :=
  ⟨fits_of_escapes, escapes_of_fits⟩

def letters (n : Nat) : CString := ⟨List.replicate n 65, by simp⟩

/-- The length of two gigabytes is negative as an `int`. -/
theorem not_escapes_long : ¬ Escapes (letters (2 ^ 31)) := by
  intro escapes
  have fits := fits_of_escapes escapes
  have long : (letters (2 ^ 31)).bytes.length = 2 ^ 31 := List.length_replicate
  omega

/-! ## Payment -/

abbrev space : UInt8 := 32

/-- `PAYMENT_7_BC` from `'%s'` on. -/
def payment7BcData (escCData rest : List UInt8) : List UInt8 :=
  quote :: (escCData ++ quote :: space :: rest)

/-- `PAYMENT_8` from `'%s    %s')` on. -/
def payment8Data (myWName myDName : List UInt8) : List UInt8 :=
  quote :: (myWName ++ [space, space, space, space] ++ myDName ++ [quote, parenthesis])

theorem read_payment7Bc (cData rest : List UInt8) :
    Quoting.read quote (payment7BcData (escaped cData) rest) = some (cData, space :: rest) :=
  Quoting.read_literal cData (by rw [List.head?_cons]; decide)

theorem read_payment8 (wName dName : List UInt8) :
    Quoting.read quote (payment8Data (escaped wName) (escaped dName)) =
      some (wName ++ [space, space, space, space] ++ dName, [parenthesis]) := by
  have spaces : escaped [space, space, space, space] = [space, space, space, space] := rfl
  have whole : escaped wName ++ [space, space, space, space] ++ escaped dName =
      escaped (wName ++ [space, space, space, space] ++ dName) := by
    rw [escaped_append, escaped_append, spaces]
  rw [payment8Data, whole]
  exact Quoting.read_literal _ (by decide)

end Dbt2.EscapeStr
