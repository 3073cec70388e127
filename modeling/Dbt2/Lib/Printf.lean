import Dbt2.Lib.Decimal

/-!
# Formatted texts

What a formatting function writes for a format with the conversions `%d`, `%s` and `%f`, and how
many bytes that takes in UTF-8.

* `format`: the text;
* `byteSize_format`: its size is that of the rest of the format and of the arguments;
* `size_int_le`, `size_text_le`, `size_real_le`: how large arguments can be.
-/

namespace Printf

/-- A floating-point number. -/
inductive Number where
  | finite (q : ℚ)
  | infinite (negative : Bool)
  | nan (negative : Bool)

inductive Arg where
  | int (n : Int)
  /-- A text may be a null pointer. -/
  | text (s : Option (List Char))
  | real (x : Number)

def sign (negative : Bool) : List Char := if negative then ['-'] else []

/-- Rounded to six places. -/
def Number.chars : Number → List Char
  | finite q =>
    let scaled := (round (|q| * 10 ^ 6)).toNat
    sign (q < 0) ++ Nat.toDigits 10 (scaled / 10 ^ 6) ++
      '.' :: Decimal.padded 6 (scaled % 10 ^ 6)
  | infinite negative => sign negative ++ ['i', 'n', 'f']
  | nan negative => sign negative ++ ['n', 'a', 'n']

namespace Arg

def conversion : Arg → Char
  | int _ => 'd'
  | text _ => 's'
  | real _ => 'f'

def chars : Arg → List Char
  | int n => Decimal.digitsInt n
  | text s => s.getD ['(', 'n', 'u', 'l', 'l', ')']
  | real x => x.chars

end Arg

inductive Piece where
  | literal (c : Char)
  | conversion (c : Char)

def pieces : List Char → List Piece
  | '%' :: c :: fmt => .conversion c :: pieces fmt
  | c :: fmt => .literal c :: pieces fmt
  | [] => []

/-- A format given in parts. -/
def joined (sep : List Char) (parts : List String) : List Piece :=
  pieces (List.intercalate sep (parts.map String.toList))

/-- A conversion takes the next argument, whose kind it should name. -/
def format : List Piece → List Arg → List Char
  | .literal c :: ps, args => c :: format ps args
  | .conversion _ :: ps, arg :: args => arg.chars ++ format ps args
  | .conversion _ :: ps, [] => format ps []
  | [], _ => []

def conversions : List Piece → List Char
  | .literal _ :: ps => conversions ps
  | .conversion c :: ps => c :: conversions ps
  | [] => []

/-! ## Sizes -/

def byteSize (cs : List Char) : Nat := (cs.map Char.utf8Size).sum

/-- The size of a format but for its conversions. -/
def literalSize : List Piece → Nat
  | .literal c :: ps => c.utf8Size + literalSize ps
  | .conversion _ :: ps => literalSize ps
  | [] => 0

def Arg.size (arg : Arg) : Nat := byteSize arg.chars

@[simp]
theorem byteSize_nil : byteSize [] = 0 := rfl

@[simp]
theorem byteSize_cons (c : Char) (cs : List Char) :
    byteSize (c :: cs) = c.utf8Size + byteSize cs := by
  simp [byteSize]

@[simp]
theorem byteSize_append (cs ds : List Char) : byteSize (cs ++ ds) = byteSize cs + byteSize ds := by
  simp [byteSize]

/-- With an argument for each conversion. -/
theorem byteSize_format {ps : List Piece} {args : List Arg}
    (matching : conversions ps = args.map Arg.conversion) :
    byteSize (format ps args) = literalSize ps + (args.map Arg.size).sum := by
  induction ps generalizing args with
  | nil =>
    rw [conversions, eq_comm, List.map_eq_nil_iff] at matching
    simp [matching, format, literalSize]
  | cons p ps ih =>
    cases p with
    | literal c =>
      rw [format, byteSize_cons, ih matching, literalSize]
      omega
    | conversion c =>
      cases args with
      | nil => cases matching
      | cons arg args =>
        rw [conversions, List.map_cons, List.cons.injEq] at matching
        rw [format, byteSize_append, ih matching.2, literalSize, List.map_cons, List.sum_cons,
          Arg.size]
        omega

/-- The characters of some strings, which are easier to compute with. -/
def Spelt (parts : List String) (css : List (List Char)) : Prop :=
  List.Forall₂ (fun s cs => s = String.ofList cs) parts css

theorem joined_eq {sep : List Char} {parts : List String} {css : List (List Char)}
    (spelt : Spelt parts css) : joined sep parts = pieces (List.intercalate sep css) := by
  have same : parts.map String.toList = css := by
    induction spelt with
    | nil => rfl
    | cons first _ ih => rw [List.map_cons, first, String.toList_ofList, ih]
  rw [joined, same]

/-! ## Sizes of arguments -/

theorem byteSize_digits {cs : List Char} (digits : ∀ c ∈ cs, c.isDigit) :
    byteSize cs = cs.length := by
  induction cs with
  | nil => rfl
  | cons c cs ih =>
    have digit := Char.isDigit_iff_toNat.mp (digits c List.mem_cons_self)
    have ascii : c.toNat ≤ 127 := digit.2.trans (by decide)
    have first : c.utf8Size = 1 := Char.utf8Size_eq_one_iff.mpr (UInt32.le_iff_toNat_le.mpr ascii)
    rw [byteSize_cons, ih fun c mem => digits c (List.mem_cons_of_mem _ mem), first,
      List.length_cons, Nat.add_comm]

theorem byteSize_toDigits (n : Nat) :
    byteSize (Nat.toDigits 10 n) = (Nat.toDigits 10 n).length :=
  byteSize_digits fun _ mem => Nat.isDigit_of_mem_toDigits (by decide) (by decide) mem

theorem size_int (n : Int) : (Arg.int n).size = (Decimal.digitsInt n).length := by
  unfold Arg.size Arg.chars Decimal.digitsInt
  cases n with
  | ofNat n => exact byteSize_toDigits n
  | negSucc n =>
    rw [byteSize_cons, byteSize_toDigits, List.length_cons, Nat.add_comm]
    rfl

theorem size_int_le {n : Int} {k : Nat} (pos : 0 < k) (bound : n.natAbs < 10 ^ k) :
    (Arg.int n).size ≤ k + 1 := by
  rw [size_int]
  unfold Decimal.digitsInt
  cases n with
  | ofNat n =>
    have digits : (Nat.toDigits 10 n).length ≤ k :=
      (Nat.length_toDigits_le_iff (by decide) pos).mpr bound
    exact Nat.le_succ_of_le digits
  | negSucc n =>
    have digits : (Nat.toDigits 10 (n + 1)).length ≤ k :=
      (Nat.length_toDigits_le_iff (by decide) pos).mpr bound
    exact Nat.succ_le_succ digits

theorem byteSize_le (cs : List Char) : byteSize cs ≤ 4 * cs.length := by
  induction cs with
  | nil => rfl
  | cons c cs ih =>
    have := c.utf8Size_le_four
    rw [byteSize_cons, List.length_cons]
    omega

/-- A text of at most `n` characters, or a null pointer. -/
theorem size_text_le {s : Option (List Char)} {n : Nat} (short : ∀ cs ∈ s, cs.length ≤ n) :
    (Arg.text s).size ≤ max (4 * n) 6 := by
  cases s with
  | none => exact le_max_of_le_right (by decide)
  | some cs =>
    have fits : byteSize cs ≤ 4 * n :=
      (byteSize_le cs).trans (Nat.mul_le_mul_left 4 (short cs rfl))
    exact le_max_of_le_left fits

theorem byteSize_sign_le (negative : Bool) : byteSize (sign negative) ≤ 1 := by
  cases negative <;> decide

/-- A finite number is bounded. -/
def Number.Within (bound : Nat) : Number → Prop
  | finite q => |q| ≤ bound
  | infinite _ | nan _ => True

theorem size_real_le {x : Number} {bound k : Nat} (pos : 0 < k) (within : x.Within bound)
    (digits : bound < 10 ^ k) : (Arg.real x).size ≤ k + 8 := by
  unfold Arg.size Arg.chars
  cases x with
  | finite q =>
    have scaled : (round (|q| * 10 ^ 6)).toNat ≤ bound * 10 ^ 6 := by
      have most : |q| ≤ bound := within
      have below : round (|q| * 10 ^ 6) < (bound * 10 ^ 6 : Nat) + 1 := by
        rw [round_eq, Int.floor_lt]
        push_cast
        linarith
      omega
    have whole : (Nat.toDigits 10 ((round (|q| * 10 ^ 6)).toNat / 10 ^ 6)).length ≤ k := by
      apply (Nat.length_toDigits_le_iff (by decide) pos).mpr
      omega
    have places : (Decimal.padded 6 ((round (|q| * 10 ^ 6)).toNat % 10 ^ 6)).length = 6 :=
      Decimal.length_padded (by decide) (Nat.mod_lt _ (by decide))
    have := byteSize_sign_le (q < 0)
    simp only [Number.chars, byteSize_append, byteSize_cons, byteSize_toDigits,
      byteSize_digits fun c mem => Decimal.isDigit_of_mem_padded mem, places]
    have : '.'.utf8Size = 1 := by decide
    omega
  | infinite negative | nan negative =>
    have := byteSize_sign_le negative
    have word : ∀ cs ∈ [['i', 'n', 'f'], ['n', 'a', 'n']], byteSize cs = 3 := by decide
    simp only [Number.chars, byteSize_append, word _ List.mem_cons_self,
      word _ (List.mem_cons_of_mem _ List.mem_cons_self)]
    omega

end Printf
