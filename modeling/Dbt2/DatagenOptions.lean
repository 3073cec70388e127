import Dbt2.Datagen
import Dbt2.Lib.Getopt

/-!
# The options of datagen

What `main` of `datagen.c` makes of its command line before it generates anything. The long
spellings of `-p` and `-P` are in the table of long options, but nothing looks at their values.

* `DatagenOptions.main`: the settings it generates with, or what it returns;
* `Documented`: each setting is that of the last option for it in the usage text;
* `options_documented_iff`: so it is if `--part` and `--partitions` make no difference.
-/

namespace Dbt2

open Getopt

def MODE_PGSQL : Int := 1
def MODE_MYSQL : Int := 2
def MODE_FLAT : Int := 0
def MODE_DIRECT : Int := 1
def MAX_PARTITIONS : Int := 9999

/-- The values of `table`; an `ORDER_LINE` is generated with its order. -/
inductive GeneratedTable where
  | warehouse
  | district
  | customer
  | item
  | order
  | stock
  | newOrder
  | history
  | all
  deriving DecidableEq

structure DatagenOptions extends Datagen where
  outputPath : Option (List Char) := none
  modeLoad : Int := MODE_FLAT
  modeString : Int := MODE_PGSQL
  rowsPerCommit : BitVec 64 := 0
  table : GeneratedTable := .all

/-! ## Numbers -/

/-- A sign and digits, after white space. -/
def signedDigits (s : List Char) : Bool × Nat :=
  let value (s : List Char) : Nat :=
    (s.takeWhile Char.isDigit).foldl (fun n c => 10 * n + (c.toNat - '0'.toNat)) 0
  match s.dropWhile (· ∈ [' ', '\t', '\n', '\x0b', '\x0c', '\r']) with
  | '-' :: s => (true, value s)
  | '+' :: s => (false, value s)
  | s => (false, value s)

/-- `strtol` keeps within a `long`, of which the low half is taken. -/
def atoi (s : List Char) : Int :=
  let (negative, n) := signedDigits s
  let value : Int := if negative then max (-n) (-2 ^ 63) else min n (2 ^ 63 - 1)
  (BitVec.ofInt 32 value).toInt

def strtoull (s : List Char) : BitVec 64 :=
  let (negative, n) := signedDigits s
  if 2 ^ 64 ≤ n then BitVec.allOnes 64
  else if negative then BitVec.ofInt 64 (-n) else BitVec.ofNat 64 n

/-! ## Options -/

inductive DatagenLong where
  | direct
  | rowsPerCommit
  | seed
  | table
  | part
  | partitions
  | pgsql
  | mysql
  deriving DecidableEq

inductive DatagenFlag where
  | modeLoad
  | modeString
  deriving DecidableEq

def shortOptions : List (Char × Bool) :=
  [('c', true), ('d', true), ('i', true), ('n', true), ('o', true), ('P', true), ('p', true),
    ('w', true)]

/-- The flag of an entry and what it is set to, where there is one. -/
def longOptions : LongOptions DatagenLong (Option (DatagenFlag × Int)) where
  options := [.direct, .rowsPerCommit, .seed, .table, .part, .partitions, .pgsql, .mysql]
  name
    | .direct => ['d', 'i', 'r', 'e', 'c', 't']
    | .rowsPerCommit => ['r', 'o', 'w', 's', '-', 'p', 'e', 'r', '-', 'c', 'o', 'm', 'm', 'i', 't']
    | .seed => ['s', 'e', 'e', 'd']
    | .table => ['t', 'a', 'b', 'l', 'e']
    | .part => ['p', 'a', 'r', 't']
    | .partitions => ['p', 'a', 'r', 't', 'i', 't', 'i', 'o', 'n', 's']
    | .pgsql => ['p', 'g', 's', 'q', 'l']
    | .mysql => ['m', 'y', 's', 'q', 'l']
  hasArg
    | .direct | .pgsql | .mysql => false
    | _ => true
  entry
    | .direct => some (.modeLoad, MODE_DIRECT)
    | .pgsql => some (.modeString, MODE_PGSQL)
    | .mysql => some (.modeString, MODE_MYSQL)
    | _ => none

def tableNamed (optarg : List Char) : Option GeneratedTable :=
  if optarg = "warehouse".toList then some .warehouse
  else if optarg = "district".toList then some .district
  else if optarg = "customer".toList then some .customer
  else if optarg = "item".toList then some .item
  else if optarg = "orders".toList then some .order
  else if optarg = "stock".toList then some .stock
  else if optarg = "new_order".toList then some .newOrder
  else if optarg = "history".toList then some .history
  else none

/-- A path but for a slash at its end. -/
def outputDirectory (optarg : List Char) : List Char :=
  if optarg.getLast? = some '/' then optarg.dropLast else optarg

namespace DatagenOptions

/-- What `getopt_long` itself does for a long option. -/
def setFlag (o : DatagenOptions) (k : DatagenLong) : DatagenOptions :=
  match longOptions.entry k with
  | some (.modeLoad, val) => { o with modeLoad := val }
  | some (.modeString, val) => { o with modeString := val }
  | none => o

/-- `case 0` of the switch. -/
def longOption (o : DatagenOptions) (k : DatagenLong) (optarg : Option (List Char)) :
    Except Int DatagenOptions :=
  let o := o.setFlag k
  match k, optarg with
  | .table, some v => match tableNamed v with
    | some table => .ok { o with table }
    | none => .error 2
  | .rowsPerCommit, some v => .ok { o with rowsPerCommit := strtoull v }
  | .seed, some v => .ok { o with seed := strtoull v }
  | _, _ => .ok o

/-- The other cases. -/
def shortOption (o : DatagenOptions) (c : Char) (optarg : List Char) : Except Int DatagenOptions :=
  if c = 'c' then .ok { o with customers := atoi optarg }
  else if c = 'd' then .ok { o with outputPath := some (outputDirectory optarg) }
  else if c = 'i' then .ok { o with items := atoi optarg }
  else if c = 'n' then .ok { o with newOrders := atoi optarg }
  else if c = 'o' then .ok { o with orders := atoi optarg }
  else if c = 'P' then
    if atoi optarg < 1 then .error 2
    else if MAX_PARTITIONS < atoi optarg then .error 2
    else .ok { o with partitions := atoi optarg }
  else if c = 'p' then
    if atoi optarg < 1 then .error 2 else .ok { o with part := atoi optarg }
  else if c = 'w' then .ok { o with warehouses := atoi optarg }
  else .error 2

/-- All short options take a value. -/
def option (o : DatagenOptions) : Got DatagenLong → Except Int DatagenOptions
  | .short c (some optarg) => o.shortOption c optarg
  | .long k optarg => o.longOption k optarg
  | _ => .error 2

/-- As the variables are declared. -/
def start : DatagenOptions := { warehouses := 0, seed := 0 }

def checked (isDirectory : List Char → Bool) (o : DatagenOptions) : Except Int Unit :=
  if o.modeString ≠ MODE_MYSQL ∧ o.modeString ≠ MODE_PGSQL then .error 5
  else if o.partitions < o.part then .error 3
  else if o.warehouses = 0 then .error 3
  else if o.outputPath.any (! isDirectory ·) then .error 3
  else if o.modeLoad = MODE_DIRECT ∧ o.modeString = MODE_MYSQL then .error 4
  else if o.rowsPerCommit ≠ 0 ∧ o.modeLoad ≠ MODE_DIRECT then .error 4
  else .ok ()

end DatagenOptions

/-- The options on a command line without the program's name. -/
def datagenOptions (posixlyCorrect : Bool) (args : List (List Char)) : List (Got DatagenLong) :=
  scan shortOptions longOptions posixlyCorrect args

/-- A seed of zero asks for one from the system. -/
def DatagenOptions.main (posixlyCorrect : Bool) (isDirectory : List Char → Bool)
    (entropy : BitVec 64) (args : List (List Char)) : Except Int DatagenOptions :=
  if args = [] then .error 1 else do
    let o ← (datagenOptions posixlyCorrect args).foldlM option start
    o.checked isDirectory
    .ok { o with seed := if o.seed = 0 then entropy else o.seed }

/-! ## What the usage text says -/

/-- The number after the last option of a spelling. -/
def lastNumber (short : Option Char) (long : Option DatagenLong) (default : Int) :
    List (Got DatagenLong) → Int :=
  last (given short long fun v => some (atoi v)) default

/-- What the option itself stands for. -/
def stands {α : Type} (values : DatagenLong → Option α) : Got DatagenLong → Option α
  | .long k _ => values k
  | _ => none

def databaseMode : DatagenLong → Option Int
  | .pgsql => some MODE_PGSQL
  | .mysql => some MODE_MYSQL
  | _ => none

/-- All settings but the part and the number of partitions. -/
structure Documented (entropy : BitVec 64) (gots : List (Got DatagenLong)) (o : DatagenOptions) :
    Prop where
  warehouses : o.warehouses = lastNumber (some 'w') none 0 gots
  customers : o.customers = lastNumber (some 'c') none 3000 gots
  items : o.items = lastNumber (some 'i') none 100000 gots
  orders : o.orders = lastNumber (some 'o') none 3000 gots
  newOrders : o.newOrders = lastNumber (some 'n') none 900 gots
  seed : o.seed = let s := last (given none (some .seed) fun v => some (strtoull v)) 0 gots
    if s = 0 then entropy else s
  outputPath :
    o.outputPath = last (given (some 'd') none fun v => some (some (outputDirectory v))) none gots
  modeLoad : o.modeLoad =
    last (stands fun k => if k = .direct then some MODE_DIRECT else none) MODE_FLAT gots
  modeString : o.modeString = last (stands databaseMode) MODE_PGSQL gots
  rowsPerCommit : o.rowsPerCommit =
    last (given none (some .rowsPerCommit) fun v => some (strtoull v)) 0 gots
  table : o.table = last (given none (some .table) tableNamed) .all gots

/-- Both, under either spelling. -/
structure DocumentedPart (gots : List (Got DatagenLong)) (o : DatagenOptions) : Prop where
  part : o.part = lastNumber (some 'p') (some .part) 1 gots
  partitions : o.partitions = lastNumber (some 'P') (some .partitions) 1 gots

/-- The last of `-p` and `--part`, and of `-P` and `--partitions`, gives the number that the last
short one gives. -/
def LongPartsAgree (gots : List (Got DatagenLong)) : Prop :=
  lastNumber (some 'p') (some .part) 1 gots = lastNumber (some 'p') none 1 gots ∧
    lastNumber (some 'P') (some .partitions) 1 gots = lastNumber (some 'P') none 1 gots

instance LongPartsAgree.decidable (gots : List (Got DatagenLong)) :
    Decidable (LongPartsAgree gots) :=
  inferInstanceAs (Decidable (_ ∧ _))

namespace DatagenOptions

/-- What one option sets. -/
structure Sets (o o' : DatagenOptions) (g : Got DatagenLong) : Prop where
  warehouses : o'.warehouses = (given (some 'w') none (fun v => some (atoi v)) g).getD o.warehouses
  customers : o'.customers = (given (some 'c') none (fun v => some (atoi v)) g).getD o.customers
  items : o'.items = (given (some 'i') none (fun v => some (atoi v)) g).getD o.items
  orders : o'.orders = (given (some 'o') none (fun v => some (atoi v)) g).getD o.orders
  newOrders : o'.newOrders = (given (some 'n') none (fun v => some (atoi v)) g).getD o.newOrders
  seed : o'.seed = (given none (some .seed) (fun v => some (strtoull v)) g).getD o.seed
  outputPath : o'.outputPath =
    (given (some 'd') none (fun v => some (some (outputDirectory v))) g).getD o.outputPath
  modeLoad : o'.modeLoad =
    (stands (fun k => if k = .direct then some MODE_DIRECT else none) g).getD o.modeLoad
  modeString : o'.modeString = (stands databaseMode g).getD o.modeString
  rowsPerCommit : o'.rowsPerCommit =
    (given none (some .rowsPerCommit) (fun v => some (strtoull v)) g).getD o.rowsPerCommit
  table : o'.table = (given none (some .table) tableNamed g).getD o.table
  part : o'.part = (given (some 'p') none (fun v => some (atoi v)) g).getD o.part
  partitions : o'.partitions = (given (some 'P') none (fun v => some (atoi v)) g).getD o.partitions

theorem longOption_sets {o o' : DatagenOptions} {k : DatagenLong} {optarg : Option (List Char)}
    (done : o.longOption k optarg = .ok o') : Sets o o' (.long k optarg) := by
  cases k with
  | table =>
    cases optarg with
    | none =>
      cases done
      constructor <;> simp [given, stands, databaseMode, setFlag, longOptions]
    | some v =>
      simp only [longOption] at done
      split at done
      · next named =>
        cases done
        constructor <;> simp [given, stands, databaseMode, setFlag, longOptions, named]
      · cases done
  | rowsPerCommit | seed =>
    cases optarg <;> cases done <;>
      constructor <;> simp [given, stands, databaseMode, setFlag, longOptions]
  | direct | part | partitions | pgsql | mysql =>
    cases done
    constructor <;> cases optarg <;> simp [given, stands, databaseMode, setFlag, longOptions]

theorem shortOption_sets {o o' : DatagenOptions} {c : Char} {optarg : List Char}
    (done : o.shortOption c optarg = .ok o') : Sets o o' (.short c (some optarg)) := by
  unfold shortOption at done
  split_ifs at done with isC isD isI isN isO isP few many isp none' isW
  all_goals
    cases done
    subst c
    constructor <;> simp [given, stands]

theorem option_sets {o o' : DatagenOptions} {g : Got DatagenLong} (done : o.option g = .ok o') :
    Sets o o' g := by
  cases g with
  | short c optarg =>
    cases optarg with
    | none => cases done
    | some v => exact shortOption_sets done
  | long k optarg => exact longOption_sets done
  | unknown => cases done

/-- The part and the number of partitions are positive. -/
def Positive (o : DatagenOptions) : Prop := 1 ≤ o.part ∧ 1 ≤ o.partitions

theorem option_positive {o o' : DatagenOptions} {g : Got DatagenLong} (done : o.option g = .ok o')
    (positive : o.Positive) : o'.Positive := by
  obtain ⟨part, partitions⟩ := positive
  cases g with
  | short c optarg =>
    cases optarg with
    | none => cases done
    | some v =>
      change o.shortOption c v = .ok o' at done
      unfold shortOption at done
      split_ifs at done
      all_goals
        cases done
        constructor <;> dsimp only <;> omega
  | long k optarg =>
    have sets := option_sets done
    constructor
    · rw [sets.part]
      cases optarg <;> exact part
    · rw [sets.partitions]
      cases optarg <;> exact partitions
  | unknown => cases done

/-- The checks, where they let the program go on. -/
theorem checked_ok {isDirectory : List Char → Bool} {o : DatagenOptions}
    (done : o.checked isDirectory = .ok ()) : o.part ≤ o.partitions := by
  unfold checked at done
  split_ifs at done
  omega

theorem main_eq_ok {posixlyCorrect : Bool} {isDirectory : List Char → Bool} {entropy : BitVec 64}
    {args : List (List Char)} {o : DatagenOptions}
    (started : main posixlyCorrect isDirectory entropy args = .ok o) :
    ∃ p : DatagenOptions, (datagenOptions posixlyCorrect args).foldlM option start = .ok p ∧
      p.part ≤ p.partitions ∧ o = { p with seed := if p.seed = 0 then entropy else p.seed } := by
  unfold main at started
  split_ifs at started
  obtain ⟨p, parsed, rest⟩ := Fallible.bind_eq_ok.mp started
  obtain ⟨_, checks, is⟩ := Fallible.bind_eq_ok.mp rest
  cases is
  exact ⟨p, parsed, checked_ok checks, rfl⟩

variable {posixlyCorrect : Bool} {isDirectory : List Char → Bool} {entropy : BitVec 64}
  {args : List (List Char)} {o : DatagenOptions}

theorem documented_of_main (started : main posixlyCorrect isDirectory entropy args = .ok o) :
    Documented entropy (datagenOptions posixlyCorrect args) o := by
  obtain ⟨p, parsed, -, rfl⟩ := main_eq_ok started
  constructor
  · exact foldlM_last parsed fun _ _ _ done => (option_sets done).warehouses
  · exact foldlM_last parsed fun _ _ _ done => (option_sets done).customers
  · exact foldlM_last parsed fun _ _ _ done => (option_sets done).items
  · exact foldlM_last parsed fun _ _ _ done => (option_sets done).orders
  · exact foldlM_last parsed fun _ _ _ done => (option_sets done).newOrders
  · have seed := foldlM_last parsed fun _ _ _ done => (option_sets done).seed
    simp only [seed]
    rfl
  · exact foldlM_last parsed fun _ _ _ done => (option_sets done).outputPath
  · exact foldlM_last parsed fun _ _ _ done => (option_sets done).modeLoad
  · exact foldlM_last parsed fun _ _ _ done => (option_sets done).modeString
  · exact foldlM_last parsed fun _ _ _ done => (option_sets done).rowsPerCommit
  · exact foldlM_last parsed fun _ _ _ done => (option_sets done).table

/-- Only the short spellings are heeded. -/
theorem parts_of_main (started : main posixlyCorrect isDirectory entropy args = .ok o) :
    (o.part = lastNumber (some 'p') none 1 (datagenOptions posixlyCorrect args) ∧
      o.partitions = lastNumber (some 'P') none 1 (datagenOptions posixlyCorrect args)) ∧
      1 ≤ o.part ∧ o.part ≤ o.partitions := by
  obtain ⟨p, parsed, ordered, rfl⟩ := main_eq_ok started
  have positive : p.Positive :=
    Fallible.foldlM_invariant (fun _ _ _ => option_positive) parsed ⟨le_rfl, le_rfl⟩
  refine ⟨⟨?_, ?_⟩, positive.1, ordered⟩
  · exact foldlM_last parsed fun _ _ _ done => (option_sets done).part
  · exact foldlM_last parsed fun _ _ _ done => (option_sets done).partitions

/-- Where generation starts, the part is one of the parts, and all settings are the documented ones,
exactly if the long spellings of `-p` and `-P` make no difference. -/
theorem options_documented_iff
    (started : main posixlyCorrect isDirectory entropy args = .ok o) :
    (Documented entropy (datagenOptions posixlyCorrect args) o ∧
        DocumentedPart (datagenOptions posixlyCorrect args) o ∧ 1 ≤ o.part ∧
        o.part ≤ o.partitions) ↔
      LongPartsAgree (datagenOptions posixlyCorrect args) := by
  obtain ⟨⟨part, partitions⟩, bounds⟩ := parts_of_main started
  constructor
  · rintro ⟨-, documented, -⟩
    exact ⟨documented.part ▸ part, documented.partitions ▸ partitions⟩
  · rintro ⟨samePart, samePartitions⟩
    exact ⟨documented_of_main started, ⟨part.trans samePart.symm,
      partitions.trans samePartitions.symm⟩, bounds⟩

/-- `-w 10 --seed=7 out -P4 --pgsql -p 2` -/
def shortParts : List (List Char) :=
  ["-w".toList, "10".toList, "--seed=7".toList, "out".toList, "-P4".toList, "--pgsql".toList,
    "-p".toList, "2".toList]

theorem options_documented_short : ∃ o,
    main false (fun _ => true) 1 shortParts = .ok o ∧ (o.part, o.partitions) = (2, 4) ∧
      Documented 1 (datagenOptions false shortParts) o ∧
      DocumentedPart (datagenOptions false shortParts) o := by
  obtain ⟨o, started, parts⟩ := Fallible.toOption_map_eq_some.mp
    (by decide : (main false (fun _ => true) 1 shortParts).toOption.map
      (fun o => (o.part, o.partitions)) = some (2, 4))
  have all := (options_documented_iff started).mpr (by decide)
  exact ⟨o, started, parts, all.1, all.2.1⟩

/-- `-w 10 --partitions 4 --part 2` -/
def longParts : List (List Char) :=
  ["-w".toList, "10".toList, "--partitions".toList, "4".toList, "--part".toList, "2".toList]

/-- All warehouses are generated. -/
theorem options_not_documented : ∃ o, main false (fun _ => true) 1 longParts = .ok o ∧
    (o.part, o.partitions) = (1, 1) ∧
      lastNumber (some 'p') (some .part) 1 (datagenOptions false longParts) = 2 ∧
      lastNumber (some 'P') (some .partitions) 1 (datagenOptions false longParts) = 4 ∧
      ¬ DocumentedPart (datagenOptions false longParts) o := by
  have part : lastNumber (some 'p') (some .part) 1 (datagenOptions false longParts) = 2 := by
    decide
  obtain ⟨o, started, parts⟩ := Fallible.toOption_map_eq_some.mp
    (by decide : (main false (fun _ => true) 1 longParts).toOption.map
      (fun o => (o.part, o.partitions)) = some (1, 1))
  refine ⟨o, started, parts, part, by decide, fun documented => ?_⟩
  have first : o.part = 1 := congrArg Prod.fst parts
  rw [documented.part, part] at first
  exact absurd first (by decide)

end DatagenOptions

end Dbt2
