/-
Module: GomukuServer.Proofs.Configuration
Layer: Proofs
Purpose: What a configuration file means: each key has the value of the last line that sets it, from
  the first `=` to the end of the line, and comments and unknown keys have no effect.  A file that
  is written with one line for each setting is read back as it was.
Trusted boundary: none
Main exports: setting, lastValue, Config.of, loadConfigFile_text, save, load_save
-/
import GomukuServer.Db.ConfigFile
import GomukuServer.Proofs.PoolAccounting
import Mathlib.Data.List.TakeWhile
import Mathlib.Data.List.Induction
import Mathlib.Logic.Function.Basic
import Mathlib.Tactic.SplitIfs

namespace GomukuServer.Proofs.Configuration

open Base Base.TextFile Db

/-! ### What a file means -/

/-- The key and the value that a line sets. -/
def setting (line : List Char) : Option (List Char × List Char) :=
  if '=' ∈ line then some (line.takeWhile (· ≠ '='), (line.dropWhile (· ≠ '=')).tail) else none

/-- The value of the last line that sets a key. -/
def lastValue (lines : List (List Char)) (key : List Char) : Option (List Char) :=
  (((lines.filterMap setting).filter (·.1 = key)).getLast?).map Prod.snd

/-- The settings with these values.  What is not set is empty or zero. -/
def configOf (values : List Char → Option (List Char)) : Config where
  initSize := atoi ((values "initSize".toList).getD [])
  maxSize := atoi ((values "maxSize".toList).getD [])
  maxIdleTime := atoi ((values "maxIdleTime".toList).getD [])
  ip := (values "ip".toList).getD []
  port := Config.toPort (atoi ((values "port".toList).getD []))
  username := (values "username".toList).getD []
  password := (values "password".toList).getD []
  dbname := (values "dbname".toList).getD []
  connectionTimeout := atoi ((values "connectionTimeOut".toList).getD [])

/-- A line without a newline or a NUL in it. -/
def Plain (line : List Char) : Prop := '\n' ∉ line ∧ '\x00' ∉ line

instance (line : List Char) : Decidable (Plain line) :=
  inferInstanceAs (Decidable ('\n' ∉ line ∧ '\x00' ∉ line))

/-! ### One line -/

/-- A line without a `=` sets nothing; any other is a key, a `=` and a value. -/
theorem setting_cases (line : List Char) :
    ('=' ∉ line ∧ setting line = none) ∨
      ∃ key value, '=' ∉ key ∧ line = key ++ '=' :: value ∧ setting line = some (key, value) := by
  by_cases inside : '=' ∈ line
  · obtain ⟨key, value, rfl, before⟩ := List.eq_append_cons_of_mem inside
    have others : ∀ char ∈ key, decide (char ≠ '=') = true := by
      intro char there
      simpa using fun same : char = '=' => before (same ▸ there)
    refine .inr ⟨key, value, before, rfl, ?_⟩
    rw [setting, if_pos inside, List.takeWhile_append_of_pos others,
      List.dropWhile_append_of_pos others]
    simp
  · exact .inl ⟨inside, if_neg inside⟩

theorem idxOf?_append_cons {key : List Char} {char : Char} (before : char ∉ key)
    (rest : List Char) : (key ++ char :: rest).idxOf? char = some key.length := by
  induction key with
  | nil => simp [List.idxOf?_cons]
  | cons first key inductionHypothesis =>
      rw [List.mem_cons, not_or] at before
      have other : (first == char) = false := by simpa using Ne.symm before.1
      simp [List.idxOf?_cons, other, inductionHypothesis before.2]

/-- What a line is for the body of the loop, with or without its newline. -/
theorem readLine_eq (config : Config) {line : List Char} (plain : '\n' ∉ line)
    (ending : List Char) (ends : ending = [] ∨ ending = ['\n']) :
    config.readLine (line ++ ending) =
      match setting line with
      | none => config
      | some (key, value) => config.assign key value := by
  rcases setting_cases line with ⟨none, noSetting⟩ | ⟨key, value, before, rfl, found⟩
  · have nowhere : '=' ∉ line ++ ending := by
      rcases ends with rfl | rfl <;> simp [none]
    rw [Config.readLine, List.idxOf?_eq_none_iff.mpr nowhere, noSetting]
  · have noNewline : '\n' ∉ value := fun inside => plain (by simp [inside])
    rw [found, List.append_assoc, List.cons_append, Config.readLine, idxOf?_append_cons before]
    have keyEq : (key ++ '=' :: (value ++ ending)).take key.length = key := List.take_left
    have valueEq : (key ++ '=' :: (value ++ ending)).drop (key.length + 1) = value ++ ending := by
      simp
    have fromEq : (key ++ '=' :: (value ++ ending)).drop key.length = '=' :: (value ++ ending) :=
      List.drop_left
    simp only [keyEq, valueEq, fromEq]
    rcases ends with rfl | rfl
    · have nowhere : '\n' ∉ '=' :: (value ++ []) := by simp [noNewline]
      rw [List.idxOf?_eq_none_iff.mpr nowhere, List.append_nil]
    · have there : ('=' :: (value ++ ['\n'])).idxOf? '\n' = some (value.length + 1) := by
        rw [← List.cons_append]
        exact idxOf?_append_cons (by simp [noNewline]) []
      rw [there]
      simp

/-! ### All lines -/

/-- To assign a key is to give it its value. -/
theorem assign_configOf (values : List Char → Option (List Char)) (key value : List Char) :
    (configOf values).assign key value = configOf (Function.update values key (some value)) := by
  have other {name : List Char} (ne : key ≠ name) :
      Function.update values key (some value) name = values name :=
    Function.update_of_ne (Ne.symm ne) _ _
  unfold Config.assign
  split_ifs with ip port username password dbname initSize maxSize maxIdleTime connectionTimeOut
  case neg =>
    simp only [configOf, other ip, other port, other username, other password, other dbname,
      other initSize, other maxSize, other maxIdleTime, other connectionTimeOut]
  all_goals
    subst key
    simp [configOf, Function.update]

/-- A later line has precedence. -/
theorem lastValue_append (lines : List (List Char)) (line : List Char) :
    lastValue (lines ++ [line]) =
      match setting line with
      | none => lastValue lines
      | some (key, value) => Function.update (lastValue lines) key (some value) := by
  cases found : setting line with
  | none =>
      funext name
      simp [lastValue, found]
  | some pair =>
      obtain ⟨key, value⟩ := pair
      funext name
      by_cases same : name = key
      · subst same
        simp [lastValue, found, List.filterMap_append]
      · have other : key ≠ name := Ne.symm same
        simp [lastValue, found, List.filterMap_append, Function.update_of_ne same, other]

/-- The body of the loop gives a plain line its meaning. -/
theorem readArray_configOf {line : List Char} (plain : Plain line) {ending : List Char}
    (ends : ending = [] ∨ ending = ['\n']) (lines : List (List Char)) :
    (configOf (lastValue lines)).readArray (line ++ ending) =
      configOf (lastValue (lines ++ [line])) := by
  have whole : (line ++ ending).takeWhile (· ≠ '\x00') = line ++ ending := by
    rw [List.takeWhile_eq_self_iff]
    intro char inside
    have noNul : '\x00' ∉ line ++ ending := by
      rcases ends with rfl | rfl <;> simp [plain.2]
    simpa using fun same : char = '\x00' => noNul (same ▸ inside)
  rw [Config.readArray, whole, readLine_eq _ plain.1 ending ends, lastValue_append]
  cases setting line with
  | none => rfl
  | some pair => exact assign_configOf ..

/-- The loop gives plain lines their meaning. -/
theorem foldl_readArray {lines : List (List Char)} (plain : ∀ line ∈ lines, Plain line) :
    (lines.map (· ++ ['\n'])).foldl Config.readArray .zero = configOf (lastValue lines) := by
  induction lines using List.reverseRecOn with
  | nil => decide
  | append_singleton lines line inductionHypothesis =>
      have before := inductionHypothesis fun other inside => plain other (by simp [inside])
      rw [List.map_append, List.foldl_append, before]
      exact readArray_configOf (plain line (by simp)) (.inr rfl) lines

/-- Whatever is in a file whose lines fit into the array and have no NUL in them: it is read to its
end, and each setting has the value that the last line with its key gives to it. -/
theorem loadConfigFile_text {lines : List (List Char)} {last : List Char}
    (plain : ∀ line ∈ lines, Plain line) (plainLast : Plain last)
    (fits : ∀ line ∈ lines, line.length < lineSize) (fitsLast : last.length ≤ lineSize) :
    loadConfigFile (some (text '\n' lines last)) =
      .ok (configOf (lastValue (lines ++ [last])), true) := by
  have idle (config : Config) : config.readArray [] = config := rfl
  have room : 0 < lineSize := by decide
  have read := readAll_text room idle (fun line inside => (plain line inside).1) fits plainLast.1
    fitsLast
    (Nat.lt_succ_self (text '\n' lines last).length) .zero
  have ended := readArray_configOf plainLast (.inl rfl) lines
  rw [List.append_nil] at ended
  rw [foldl_readArray plain, ended] at read
  simp only [loadConfigFile, read]

/-- A file with a comment, a key that is set twice, a password with a `=` in it and no newline at
its end. -/
theorem loadConfigFile_text_overridden :
    loadConfigFile (some (text '\n'
        ["#initSize=1".toList, "initSize=2".toList, "password=a=b".toList] "initSize= 3".toList)) =
      .ok ({ Config.zero with initSize := 3, password := "a=b".toList }, true) := by
  rw [loadConfigFile_text (by decide) (by decide) (by decide) (by decide)]
  decide

/-- No file keeps the loop from ending. -/
theorem exists_loadConfigFile (file : List Char) :
    ∃ config, loadConfigFile (some file) = .ok (config, true) := by
  have room : 0 < lineSize := by decide
  obtain ⟨config, read⟩ := exists_readAll '\n' room Config.readArray
    (Nat.lt_succ_self file.length) .zero
  exact ⟨config, by simp only [loadConfigFile, read]⟩

/-- Whatever the file is, the constructor of the pool returns.  It has created as many connections
as are configured, or none without a file, and all of them are accounted for. -/
theorem exists_construct (file : Option (List Char)) (clock : Nat → Int) :
    ∃ config loaded pool, loadConfigFile file = .ok (config, loaded) ∧
      MysqlConnectionPool.construct file clock = .ok pool ∧
      PoolAccounting.Balanced pool ∧ pool.settings = config.toSettings ∧
      pool.connectionCnt = if loaded then (config.initSize.toNat : Int) else 0 := by
  cases file with
  | none =>
      exact ⟨.zero, false, .empty Config.zero.toSettings, rfl, rfl,
        PoolAccounting.balanced_empty _, rfl, rfl⟩
  | some file =>
      obtain ⟨config, read⟩ := exists_loadConfigFile file
      obtain ⟨balanced, settings, count⟩ := PoolAccounting.balanced_new config.toSettings clock
      refine ⟨config, true, .new config.toSettings clock, read, ?_, balanced, settings, count⟩
      rw [MysqlConnectionPool.construct, read]
      rfl

/-! ### Writing and reading back -/

/-- A number in decimal. -/
def decimal (value : Int) : List Char :=
  (if value < 0 then ['-'] else []) ++ Nat.toDigits 10 value.natAbs

/-- A line that sets a key. -/
def assignment (key : String) (value : List Char) : List Char := key.toList ++ '=' :: value

/-- The settings as keys and values, in the order of `Mysql.ini`. -/
def entries (config : Config) : List (String × List Char) :=
  [("ip", config.ip), ("port", decimal config.port.toNat), ("username", config.username),
    ("password", config.password), ("dbname", config.dbname),
    ("initSize", decimal config.initSize), ("maxSize", decimal config.maxSize),
    ("maxIdleTime", decimal config.maxIdleTime),
    ("connectionTimeOut", decimal config.connectionTimeout)]

/-- One line for each setting. -/
def save (config : Config) : List (List Char) :=
  (entries config).map fun entry => assignment entry.1 entry.2

/-- An `int`. -/
def IsInt (value : Int) : Prop := -2 ^ 31 ≤ value ∧ value < 2 ^ 31

instance (value : Int) : Decidable (IsInt value) :=
  inferInstanceAs (Decidable (-2 ^ 31 ≤ value ∧ value < 2 ^ 31))

/-- Settings whose lines fit into the array. -/
structure Writable (config : Config) : Prop where
  texts : ∀ entry ∈ [("ip", config.ip), ("username", config.username),
    ("password", config.password), ("dbname", config.dbname)],
    Plain entry.2 ∧ (assignment entry.1 entry.2).length < lineSize
  numbers : ∀ number ∈ [config.initSize, config.maxSize, config.maxIdleTime,
    config.connectionTimeout], IsInt number

theorem digits_eq {text : List Char} (all : ∀ char ∈ text, char.isDigit = true) (number : Nat) :
    digits number text = Nat.ofDigitChars 10 text number := by
  induction text generalizing number with
  | nil => simp [digits]
  | cons char text inductionHypothesis =>
      rw [digits, if_pos (all char (List.mem_cons_self ..)), Nat.ofDigitChars_cons]
      exact inductionHypothesis (fun other inside => all other (List.mem_cons_of_mem _ inside)) _

theorem digits_toDigits (number : Nat) : digits 0 (Nat.toDigits 10 number) = number := by
  rw [digits_eq fun char inside => Nat.isDigit_of_mem_toDigits (by decide) (by decide) inside]
  exact Nat.ofDigitChars_toDigits (by decide) (by decide)

/-- A digit is neither white space nor a sign. -/
theorem isSpace_of_isDigit {char : Char} (digit : char.isDigit = true) :
    isSpace char = false ∧ char ≠ '-' ∧ char ≠ '+' := by
  refine ⟨?_, ?_, ?_⟩
  · by_contra space
    rw [Bool.not_eq_false] at space
    have inside : char ∈ " \t\n\x0b\x0c\r".toList := List.contains_iff_mem.mp space
    have others : (" \t\n\x0b\x0c\r".toList.all fun other => !other.isDigit) = true := by
      decide +kernel
    have other := List.all_eq_true.mp others char inside
    simp [digit] at other
  · rintro rfl
    cases digit
  · rintro rfl
    cases digit

/-- `strtol` of digits is the number. -/
theorem strtol_toDigits {number : Nat} (small : number < 2 ^ 63) :
    strtol (Nat.toDigits 10 number) = number := by
  obtain ⟨first, rest, split⟩ := List.exists_cons_of_ne_nil (@Nat.toDigits_ne_nil number 10)
  have inside : first ∈ Nat.toDigits 10 number := split ▸ List.mem_cons_self ..
  have digit := Nat.isDigit_of_mem_toDigits (by decide) (by decide) inside
  obtain ⟨noSpace, noMinus, noPlus⟩ := isSpace_of_isDigit digit
  have kept : (Nat.toDigits 10 number).dropWhile isSpace = Nat.toDigits 10 number := by
    rw [split, List.dropWhile_cons_of_neg (by simp [noSpace])]
  have value := digits_toDigits number
  rw [strtol, kept]
  split
  · rename_i minus
    rw [split] at minus
    exact absurd (List.cons.inj minus).1 noMinus
  · rename_i plus
    rw [split] at plus
    exact absurd (List.cons.inj plus).1 noPlus
  · rw [value]
    omega

/-- `strtol` of a minus sign and digits is the negative number. -/
theorem strtol_minus {number : Nat} (small : number < 2 ^ 63) :
    strtol ('-' :: Nat.toDigits 10 number) = -number := by
  have kept : ('-' :: Nat.toDigits 10 number).dropWhile isSpace = '-' :: Nat.toDigits 10 number :=
    List.dropWhile_cons_of_neg (by decide)
  simp only [strtol, kept, digits_toDigits]
  omega

/-- `atoi` undoes the printing of an `int`. -/
theorem atoi_decimal {value : Int} (isInt : IsInt value) : atoi (decimal value) = value := by
  obtain ⟨above, below⟩ := isInt
  have read : strtol (decimal value) = value := by
    by_cases negative : value < 0
    · rw [decimal, if_pos negative, List.singleton_append, strtol_minus (by omega)]
      omega
    · rw [decimal, if_neg negative, List.nil_append, strtol_toDigits (by omega)]
      omega
  rw [atoi, read, Int.bmod_def]
  split <;> omega

theorem toPort_decimal (port : UInt16) : Config.toPort (atoi (decimal port.toNat)) = port := by
  have small := port.toNat_lt
  rw [atoi_decimal ⟨by omega, by omega⟩, Config.toPort]
  have same : ((port.toNat : Int) % 2 ^ 16).toNat = port.toNat := by omega
  rw [same]
  exact UInt16.ofNat_toNat

/-- The keys are short and have nothing in them that ends a key or a line. -/
structure GoodKey (key : String) : Prop where
  noEquals : '=' ∉ key.toList
  plain : Plain key.toList
  short : key.toList.length ≤ 17

/-- The keys of `Mysql.ini`. -/
def keys : List String :=
  ["ip", "port", "username", "password", "dbname", "initSize", "maxSize", "maxIdleTime",
    "connectionTimeOut"]

theorem goodKey_of_mem {key : String} (inside : key ∈ keys) : GoodKey key := by
  have all : ∀ key ∈ keys, '=' ∉ key.toList ∧ ('\n' ∉ key.toList ∧ '\x00' ∉ key.toList) ∧
      key.toList.length ≤ 17 := by decide
  obtain ⟨noEquals, plain, short⟩ := all key inside
  exact ⟨noEquals, plain, short⟩

theorem setting_assignment {key : String} (good : GoodKey key) (value : List Char) :
    setting (assignment key value) = some (key.toList, value) := by
  rcases setting_cases (assignment key value) with
    ⟨nowhere, _⟩ | ⟨other, rest, before, split, found⟩
  · simp [assignment] at nowhere
  · have first := idxOf?_append_cons good.noEquals value
    have second := idxOf?_append_cons before rest
    rw [← split, assignment] at second
    have length := Option.some.inj (first.symm.trans second)
    obtain ⟨rfl, same⟩ := List.append_inj split length
    rw [found, (List.cons.inj same).2]

/-- A line is plain if its value is. -/
theorem plain_assignment {key : String} (good : GoodKey key) {value : List Char}
    (plain : Plain value) : Plain (assignment key value) := by
  constructor
  · simp [assignment, good.plain.1, plain.1]
  · simp [assignment, good.plain.2, plain.2]

/-- A printed number is plain and fits into a line. -/
theorem decimal_fits {key : String} (good : GoodKey key) {value : Int} (isInt : IsInt value) :
    Plain (decimal value) ∧ (assignment key (decimal value)).length < lineSize := by
  obtain ⟨above, below⟩ := isInt
  have keyShort := good.short
  have few : (Nat.toDigits 10 value.natAbs).length ≤ 10 :=
    (Nat.length_toDigits_le_iff (by decide) (by decide)).mpr (by omega)
  have digit : ∀ char ∈ Nat.toDigits 10 value.natAbs, char.isDigit = true := fun char inside =>
    Nat.isDigit_of_mem_toDigits (by decide) (by decide) inside
  have sign : (if value < 0 then ['-'] else []).length ≤ 1 := by split <;> simp
  have notIn (char : Char) (noDigit : char.isDigit = false) (noMinus : char ≠ '-') :
      char ∉ decimal value := by
    intro inside
    rw [decimal, List.mem_append] at inside
    rcases inside with minus | number
    · split at minus <;> simp [noMinus] at minus
    · simp [digit char number] at noDigit
  refine ⟨⟨notIn _ rfl (by decide), notIn _ rfl (by decide)⟩, ?_⟩
  simp only [assignment, decimal, List.length_append, List.length_cons, lineSize]
  omega

/-- Among pairs with different keys each key is found once. -/
theorem filter_of_nodup {pairs : List (List Char × List Char)}
    (different : (pairs.map Prod.fst).Nodup) {pair : List Char × List Char}
    (inside : pair ∈ pairs) : pairs.filter (·.1 = pair.1) = [pair] := by
  induction pairs with
  | nil => cases inside
  | cons first pairs inductionHypothesis =>
      rw [List.map_cons, List.nodup_cons] at different
      rcases List.mem_cons.mp inside with rfl | later
      · have others : pairs.filter (·.1 = pair.1) = [] := by
          rw [List.filter_eq_nil_iff]
          intro other there
          simpa using fun same : other.1 = pair.1 => different.1 (same ▸ List.mem_map_of_mem there)
        simp [others]
      · have other : first.1 ≠ pair.1 := fun same =>
          different.1 (same ▸ List.mem_map_of_mem later)
        rw [List.filter_cons_of_neg (by simpa using other)]
        exact inductionHypothesis different.2 later

/-- Each setting that is written is the last one of its key. -/
theorem lastValue_save {config : Config} {key : String} {value : List Char}
    (inside : (key, value) ∈ entries config) :
    lastValue (save config ++ [[]]) key.toList = some value := by
  have all : (entries config).map Prod.fst = keys := rfl
  have settings : (save config ++ [[]]).filterMap setting =
      (entries config).map fun entry => (entry.1.toList, entry.2) := by
    have ended : [[]].filterMap setting = [] := rfl
    rw [List.filterMap_append, ended, List.append_nil, save, List.filterMap_map,
      ← List.filterMap_eq_map]
    refine List.filterMap_congr fun entry there => ?_
    exact setting_assignment (goodKey_of_mem (all ▸ List.mem_map_of_mem there)) entry.2
  have different : (((entries config).map fun entry =>
      (entry.1.toList, entry.2)).map Prod.fst).Nodup := by
    have names : ((entries config).map fun entry => (entry.1.toList, entry.2)).map Prod.fst =
        keys.map String.toList := by
      rw [← all, List.map_map, List.map_map]
      rfl
    rw [names]
    decide
  have found := filter_of_nodup different (List.mem_map_of_mem inside)
  rw [lastValue, settings, found]
  rfl

/-- The settings that are written are the settings that are meant. -/
theorem configOf_save {config : Config} (writable : Writable config) :
    configOf (lastValue (save config ++ [[]])) = config := by
  have initSize := atoi_decimal (writable.numbers config.initSize (by simp))
  have maxSize := atoi_decimal (writable.numbers config.maxSize (by simp))
  have maxIdleTime := atoi_decimal (writable.numbers config.maxIdleTime (by simp))
  have connectionTimeout := atoi_decimal (writable.numbers config.connectionTimeout (by simp))
  rw [configOf, @lastValue_save config "initSize" (decimal config.initSize) (by simp [entries]),
    @lastValue_save config "maxSize" (decimal config.maxSize) (by simp [entries]),
    @lastValue_save config "maxIdleTime" (decimal config.maxIdleTime) (by simp [entries]),
    @lastValue_save config "ip" config.ip (by simp [entries]),
    @lastValue_save config "port" (decimal config.port.toNat) (by simp [entries]),
    @lastValue_save config "username" config.username (by simp [entries]),
    @lastValue_save config "password" config.password (by simp [entries]),
    @lastValue_save config "dbname" config.dbname (by simp [entries]),
    @lastValue_save config "connectionTimeOut" (decimal config.connectionTimeout)
      (by simp [entries])]
  simp only [Option.getD_some, initSize, maxSize, maxIdleTime, connectionTimeout, toPort_decimal]

/-- The lines fit into the array. -/
theorem entries_fit {config : Config} (writable : Writable config) {key : String}
    {value : List Char} (inside : (key, value) ∈ entries config) :
    Plain value ∧ (assignment key value).length < lineSize := by
  have good : GoodKey key :=
    goodKey_of_mem (List.mem_map_of_mem (f := Prod.fst) inside : key ∈ keys)
  have number (value : Int) (isNumber : value ∈ [config.initSize, config.maxSize,
      config.maxIdleTime, config.connectionTimeout]) :
      Plain (decimal value) ∧ (assignment key (decimal value)).length < lineSize :=
    decimal_fits good (writable.numbers value isNumber)
  have small := config.port.toNat_lt
  have port := decimal_fits good (⟨by omega, by omega⟩ : IsInt config.port.toNat)
  simp only [entries, List.mem_cons, List.not_mem_nil, or_false, Prod.mk.injEq] at inside
  rcases inside with ⟨rfl, rfl⟩ | ⟨rfl, rfl⟩ | ⟨rfl, rfl⟩ | ⟨rfl, rfl⟩ | ⟨rfl, rfl⟩ | ⟨rfl, rfl⟩ |
    ⟨rfl, rfl⟩ | ⟨rfl, rfl⟩ | ⟨rfl, rfl⟩
  · exact writable.texts ("ip", config.ip) (by simp)
  · exact port
  · exact writable.texts ("username", config.username) (by simp)
  · exact writable.texts ("password", config.password) (by simp)
  · exact writable.texts ("dbname", config.dbname) (by simp)
  · exact number _ (by simp)
  · exact number _ (by simp)
  · exact number _ (by simp)
  · exact number _ (by simp)

/-- Settings that are written to a file, one line for each, are read back as they were. -/
theorem load_save {config : Config} (writable : Writable config) :
    loadConfigFile (some (text '\n' (save config) [])) = .ok (config, true) := by
  have fits : ∀ line ∈ save config, Plain line ∧ line.length < lineSize := by
    intro line inside
    obtain ⟨⟨key, value⟩, entry, rfl⟩ := List.mem_map.mp inside
    have key_mem : key ∈ keys := List.mem_map_of_mem (f := Prod.fst) entry
    obtain ⟨plain, short⟩ := entries_fit writable entry
    exact ⟨plain_assignment (goodKey_of_mem key_mem) plain, short⟩
  have empty : Plain [] := ⟨List.not_mem_nil, List.not_mem_nil⟩
  rw [loadConfigFile_text (fun line inside => (fits line inside).1) empty
    (fun line inside => (fits line inside).2) (Nat.zero_le _), configOf_save writable]

/-- The settings of `Mysql.ini`. -/
def mysqlIni : Config where
  initSize := 10
  maxSize := 1024
  maxIdleTime := 60
  ip := "127.0.0.1".toList
  port := 3306
  username := "root".toList
  password := "123456".toList
  dbname := "qt_goband".toList
  connectionTimeout := 100

theorem load_save_mysqlIni :
    loadConfigFile (some (text '\n' (save mysqlIni) [])) = .ok (mysqlIni, true) :=
  load_save ⟨by decide, by decide⟩

end GomukuServer.Proofs.Configuration
