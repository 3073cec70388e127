import Dbt2.Lib.ByteOrder

/-!
# Results in binary format

`ntohll` of `common.c` and the `libpq_get_*` functions of the libpq client. Words are their bits,
and so are floating-point numbers. A `long` has 64 bits, and shifts and conversions do to its bits
what they do on a machine with two's complement.

* `ntohll_eq`: `ntohll` reads the bytes of its argument in network order;
* `libpq_decodes`: so the clients see what the server wrote, in any byte order of the host.
-/

namespace Dbt2.NetworkOrder

open ByteOrder

variable (host : Endian)

def ntohl (x : BitVec 32) : BitVec 32 := word (n := 4) .big (bytes (n := 4) host x)

def ntohll (x : BitVec 64) : BitVec 64 :=
  if ntohl host 1 = 1 then x
  else
    ((ntohl host (((x <<< 32).sshiftRight 32).setWidth 32)).setWidth 64 <<< 32) |||
      (ntohl host ((x.sshiftRight 32).setWidth 32)).setWidth 64

/-- Which fields are null, and the memory at the value of a field. -/
structure PGresult where
  getisnull : Int → Int → Bool
  getvalue : Int → Int → Nat → BitVec 8

/-- The word of `n` bytes a pointer points to. -/
def load (n : Nat) (p : Nat → BitVec 8) : BitVec (8 * n) := word host fun i => p i

/-- The bits of a `float`. -/
def libpqGetFloat4 (res : PGresult) (row field : Int) : BitVec 32 :=
  if res.getisnull row field then 0
  else ntohl host (load host 4 (res.getvalue row field))

/-- The bits of a `double`. -/
def libpqGetFloat8 (res : PGresult) (row field : Int) : BitVec 64 :=
  if res.getisnull row field then 0
  else ntohll host (load host 8 (res.getvalue row field))

def libpqGetInt32 (res : PGresult) (row field : Int) : Int32 :=
  if res.getisnull row field then 0
  else Int32.ofBitVec (ntohl host (load host 4 (res.getvalue row field)))

/-! ## Words -/

variable {host}

theorem ntohl_big (x : BitVec 32) : ntohl .big x = x := word_bytes (n := 4) .big x

theorem ntohl_little (x : BitVec 32) : ntohl .little x = swap (n := 4) x := rfl

theorem ntohl_little_one : ntohl .little 1 ≠ 1 := by
  intro same
  have bit := getLsbD_swap (n := 4) 1 0 (j := 0) (by norm_num)
  rw [← ntohl_little, same] at bit
  revert bit
  decide

/-- `(int) ((x << 32) >> 32)`. -/
theorem low_bits (x : BitVec 64) {k : Nat} (lt : k < 32) :
    (((x <<< 32).sshiftRight 32).setWidth 32).getLsbD k = x.getLsbD k := by
  have inside : 32 + k < 64 := by omega
  have below : ¬ 64 ≤ k := by omega
  rw [BitVec.getLsbD_setWidth, BitVec.getLsbD_sshiftRight, if_pos inside, BitVec.getLsbD_shiftLeft]
  simp only [lt, inside, below, decide_true, decide_false, Nat.not_lt.mpr (Nat.le_add_right 32 k),
    Bool.not_false, Bool.true_and, Nat.add_sub_cancel_left]

/-- `(int) (x >> 32)`. -/
theorem high_bits (x : BitVec 64) {k : Nat} (lt : k < 32) :
    ((x.sshiftRight 32).setWidth 32).getLsbD k = x.getLsbD (32 + k) := by
  have inside : 32 + k < 64 := by omega
  have below : ¬ 64 ≤ k := by omega
  rw [BitVec.getLsbD_setWidth, BitVec.getLsbD_sshiftRight, if_pos inside]
  simp only [lt, below, decide_true, decide_false, Bool.not_false, Bool.true_and]

theorem ntohll_big (x : BitVec 64) : ntohll .big x = x := if_pos (ntohl_big 1)

/-- Bits of the two halves. -/
theorem getLsbD_halves (u v : BitVec 32) {k : Nat} (lt : k < 32) :
    (u.setWidth 64 <<< 32 ||| v.setWidth 64).getLsbD k = v.getLsbD k ∧
      (u.setWidth 64 <<< 32 ||| v.setWidth 64).getLsbD (32 + k) = u.getLsbD k := by
  have inside : 32 + k < 64 := by omega
  have below : k < 64 := by omega
  constructor <;> simp [lt, inside, below]

theorem ntohll_little (x : BitVec 64) : ntohll .little x = swap (n := 8) x := by
  rw [ntohll, if_neg ntohl_little_one, ntohl_little, ntohl_little]
  apply ext_bytes (n := 8)
  intro i j lt
  rw [getLsbD_swap (n := 8) x i lt, Fin.val_rev]
  by_cases lower : i.val < 4
  · have byte := getLsbD_swap (n := 4) ((x.sshiftRight 32).setWidth 32) ⟨i, lower⟩ lt
    rw [Fin.val_rev] at byte
    dsimp only at byte
    rw [(getLsbD_halves _ _ (by omega)).1, byte, high_bits x (by omega)]
    congr 1
    omega
  · obtain ⟨i', same⟩ : ∃ i' : Fin 4, i.val = 4 + i' := ⟨⟨i - 4, by omega⟩, by dsimp; omega⟩
    have byte := getLsbD_swap (n := 4) (((x <<< 32).sshiftRight 32).setWidth 32) i' lt
    rw [Fin.val_rev] at byte
    have split : 8 * i.val + j = 32 + (8 * i' + j) := by omega
    rw [split, (getLsbD_halves _ _ (by omega)).2, byte, low_bits x (by omega)]
    congr 1
    omega

theorem ntohll_eq (x : BitVec 64) : ntohll host x = word (n := 8) .big (bytes (n := 8) host x) := by
  cases host with
  | big => rw [ntohll_big, word_bytes (n := 8)]
  | little => exact ntohll_little x

theorem ntohll_ntohll (x : BitVec 64) : ntohll host (ntohll host x) = x := by
  cases host with
  | big => rw [ntohll_big, ntohll_big]
  | little => rw [ntohll_little, ntohll_little, swap_swap (n := 8)]

/-! ## Results -/

theorem ntohl_load (p : Nat → BitVec 8) :
    ntohl host (load host 4 p) = word (n := 4) .big fun i => p i := by
  rw [ntohl, load, bytes_word]

theorem ntohll_load (p : Nat → BitVec 8) :
    ntohll host (load host 8 p) = word (n := 8) .big fun i => p i := by
  rw [ntohll_eq, load, bytes_word]

/-- A field holds the `n` bytes of a word in network order. -/
structure Carries (res : PGresult) (row field : Int) (n : Nat) (w : BitVec (8 * n)) : Prop where
  notNull : res.getisnull row field = false
  value : ∀ i : Fin n, res.getvalue row field i = bytes .big w i

theorem Carries.word_eq {res : PGresult} {row field : Int} {n : Nat} {w : BitVec (8 * n)}
    (carries : Carries res row field n w) :
    (word .big fun i : Fin n => res.getvalue row field i) = w := by
  rw [funext carries.value, word_bytes]

/-- A result all of whose fields hold the same word. -/
def encoded {n : Nat} (w : BitVec (8 * n)) : PGresult where
  getisnull _ _ := false
  getvalue _ _ i := if lt : i < n then bytes .big w ⟨i, lt⟩ else 0

theorem carries_encoded {n : Nat} (w : BitVec (8 * n)) (row field : Int) :
    Carries (encoded w) row field n w :=
  ⟨rfl, fun i => dif_pos i.isLt⟩

/-- What is decoded is what was encoded. -/
structure Decodes (host : Endian) : Prop where
  float4 : ∀ (res : PGresult) (row field : Int) (w : BitVec 32), Carries res row field 4 w →
    libpqGetFloat4 host res row field = w
  float8 : ∀ (res : PGresult) (row field : Int) (w : BitVec 64), Carries res row field 8 w →
    libpqGetFloat8 host res row field = w
  int32 : ∀ (res : PGresult) (row field : Int) (n : Int32),
    Carries res row field 4 n.toBitVec → libpqGetInt32 host res row field = n

theorem libpq_decodes (host : Endian) : Decodes host := by
  constructor
  · intro res row field w carries
    rw [libpqGetFloat4, carries.notNull, ntohl_load]
    exact carries.word_eq
  · intro res row field w carries
    rw [libpqGetFloat8, carries.notNull, ntohll_load]
    exact carries.word_eq
  · intro res row field n carries
    rw [libpqGetInt32, carries.notNull, ntohl_load]
    exact congrArg Int32.ofBitVec carries.word_eq

def Reverses (host : Endian) : Prop :=
  ∀ (x : BitVec 64) (i : Fin 8), bytes (n := 8) host (ntohll host x) i = bytes (n := 8) host x i.rev

/-- On a host in network order `ntohll` has nothing to do. -/
theorem decoding (host : Endian) :
    Decodes host ∧ (∀ x, ntohll host (ntohll host x) = x) ∧ (host = .little → Reverses host) ∧
      (host = .big → ∀ x, ntohll host x = x) := by
  refine ⟨libpq_decodes host, ntohll_ntohll, ?_, ?_⟩
  · rintro rfl x i
    rw [ntohll_little]
    exact bytes_swap (n := 8) .little x i
  · rintro rfl x
    exact ntohll_big x

/-- The double -10. -/
theorem decoding_balance :
    libpqGetFloat8 .little (encoded (n := 8) 0xC024000000000000) 0 9 = 0xC024000000000000 :=
  (decoding .little).1.float8 _ 0 9 _ (carries_encoded (n := 8) _ 0 9)

theorem not_reverses : ¬ ∀ host,
    Decodes host ∧ (∀ x, ntohll host (ntohll host x) = x) ∧ Reverses host := by
  intro all
  have reversed := (all .big).2.2 1 0
  rw [ntohll_big] at reversed
  revert reversed
  decide

end Dbt2.NetworkOrder
