import Dbt2.Lib.Fallible

/-!
# Options of a command line

`getopt_long`, for an option string that does not begin with one of `+`, `-` and `:`. Arguments
are lists of characters. A short option may be in one argument with others, or with its value; a
long one may be cut short as long as it is clear which one it is.

* `scan`: what the calls for a command line return;
* `foldlM_last`: where each option sets variables, a variable is left with what the last option
  for it said.
-/

namespace Getopt

/-- What a call returns, with `optarg`. -/
inductive Got (K : Type) where
  | short (c : Char) (optarg : Option (List Char))
  | long (option : K) (optarg : Option (List Char))
  /-- `?` -/
  | unknown
  deriving DecidableEq

/-- The array `long_options`; two entries with equal `entry` differ in nothing but their names. -/
structure LongOptions (K E : Type) where
  options : List K
  name : K → List Char
  hasArg : K → Bool
  entry : K → E

/-- What one argument is, by itself. -/
inductive Argument (K : Type) where
  | operand
  | terminator
  | options (gots : List (Got K))
  /-- The last option takes the next argument. -/
  | wants (gots : List (Got K)) (option : List Char → Got K)

section

variable {K E : Type} [DecidableEq E] (shorts : List (Char × Bool)) (longs : LongOptions K E)

/-- An option by its name, or by the beginning of one that leaves no doubt. -/
def findLong (name : List Char) : Option K :=
  match longs.options.find? (longs.name · = name) with
  | some k => some k
  | none => match longs.options.filter (name.isPrefixOf <| longs.name ·) with
    | [] => none
    | k :: others =>
      if others.all fun o => longs.hasArg o = longs.hasArg k ∧ longs.entry o = longs.entry k then
        some k
      else none

/-- The options in one argument; `gots` are those before. -/
def readShort (gots : List (Got K)) : List Char → Argument K
  | [] => .options gots
  | c :: cs => match shorts.lookup c with
    | none => readShort (gots ++ [.unknown]) cs
    | some false => readShort (gots ++ [.short c none]) cs
    | some true =>
      if cs = [] then .wants gots fun v => .short c (some v)
      else .options (gots ++ [.short c (some cs)])

/-- What follows `--`. -/
def readLong (text : List Char) : Argument K :=
  let value := text.dropWhile (· ≠ '=')
  match findLong longs (text.takeWhile (· ≠ '=')) with
  | none => .options [.unknown]
  | some k => match longs.hasArg k, value with
    | false, [] => .options [.long k none]
    | false, _ => .options [.unknown]
    | true, [] => .wants [] fun v => .long k (some v)
    | true, _ :: v => .options [.long k (some v)]

def readArgument : List Char → Argument K
  | ['-', '-'] => .terminator
  | '-' :: '-' :: text => readLong longs text
  | '-' :: c :: cs => readShort shorts [] (c :: cs)
  | _ => .operand

/-- Operands are passed over, unless `POSIXLY_CORRECT` is set: the first one then ends the
options. -/
def scan (posixlyCorrect : Bool) : List (List Char) → List (Got K)
  | [] => []
  | arg :: args => match readArgument shorts longs arg with
    | .operand => if posixlyCorrect then [] else scan posixlyCorrect args
    | .terminator => []
    | .options gots => gots ++ scan posixlyCorrect args
    | .wants gots option => match args with
      | [] => gots ++ [.unknown]
      | v :: args => gots ++ option v :: scan posixlyCorrect args

end

/-! ## The last option -/

/-- The value of an option under its short or its long spelling, read by `f`. -/
def given {K α : Type} [DecidableEq K] (short : Option Char) (long : Option K)
    (f : List Char → Option α) : Got K → Option α
  | .short c (some v) => if short = some c then f v else none
  | .long k (some v) => if long = some k then f v else none
  | _ => none

/-- What the last of the options that say something tells, or else the default. -/
def last {G α : Type} (tells : G → Option α) (default : α) (gots : List G) : α :=
  (gots.filterMap tells).getLast?.getD default

section

variable {G S α ε : Type} {tells : G → Option α}

@[simp] theorem last_nil (default : α) : last tells default [] = default := rfl

theorem last_cons (default : α) (g : G) (gots : List G) :
    last tells default (g :: gots) = last tells ((tells g).getD default) gots := by
  cases said : tells g with
  | none => simp [last, said]
  | some a => cases rest : gots.filterMap tells <;> simp [last, said, rest, List.getLast?_cons]

/-- If each option sets a variable to what it tells, or leaves it, the last one decides. -/
theorem foldlM_last {step : S → G → Except ε S} {get : S → α} {gots : List G} {s t : S}
    (done : gots.foldlM step s = .ok t)
    (sets : ∀ s g t, step s g = .ok t → get t = (tells g).getD (get s)) :
    get t = last tells (get s) gots := by
  induction gots generalizing s with
  | nil =>
    cases done
    rfl
  | cons g gots ih =>
    obtain ⟨u, first, rest⟩ := Fallible.foldlM_cons_eq_ok.mp done
    rw [ih rest, sets s g u first, last_cons]

end

end Getopt
