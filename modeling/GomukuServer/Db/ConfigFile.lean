/-
Module: GomukuServer.Db.ConfigFile
Layer: Db
Purpose: `loadConfigFile`: the settings of the connection pool, read line by line from `Mysql.ini`.
Trusted boundary: a character stands for one byte; `atoi` is the documented one of glibc
Main exports: atoi, Config, Config.assign, Config.readLine, loadConfigFile, construct
-/
import Mathlib.Algebra.Group.Int.Defs
import GomukuServer.Base.TextFile
import GomukuServer.Db.MysqlConnectionPool

namespace GomukuServer.Db

open Base Base.TextFile

/-! ### Numbers -/

/-- `isspace`. -/
def isSpace (char : Char) : Bool := " \t\n\x0b\x0c\r".toList.contains char

/-- The number that a text begins with. -/
def digits : Nat → List Char → Nat
  | number, [] => number
  | number, char :: text =>
      if char.isDigit then digits (10 * number + (char.toNat - '0'.toNat)) text else number

/-- `strtol` to the base ten. -/
def strtol (text : List Char) : Int :=
  match text.dropWhile isSpace with
  | '-' :: rest => max (-2 ^ 63) (-(digits 0 rest : Int))
  | '+' :: rest => min (2 ^ 63 - 1) (digits 0 rest : Int)
  | rest => min (2 ^ 63 - 1) (digits 0 rest : Int)

/-- `atoi`, the `int` of a `long`. -/
def atoi (text : List Char) : Int := Int.bmod (strtol text) (2 ^ 32)

/-! ### The settings -/

/-- The members that `loadConfigFile` sets. -/
structure Config extends Settings where
  ip : List Char
  port : UInt16
  username : List Char
  password : List Char
  dbname : List Char
  connectionTimeout : Int
deriving DecidableEq, Repr

namespace Config

/-- The members of the static pool before its constructor runs. -/
def zero : Config where
  initSize := 0
  maxSize := 0
  maxIdleTime := 0
  ip := []
  port := 0
  username := []
  password := []
  dbname := []
  connectionTimeout := 0

/-- `unsigned short` from `int`. -/
def toPort (value : Int) : UInt16 := UInt16.ofNat (value % 2 ^ 16).toNat

/-- The chain of comparisons with the keys. -/
def assign (config : Config) (key value : List Char) : Config :=
  if key = "ip".toList then { config with ip := value }
  else if key = "port".toList then { config with port := toPort (atoi value) }
  else if key = "username".toList then { config with username := value }
  else if key = "password".toList then { config with password := value }
  else if key = "dbname".toList then { config with dbname := value }
  else if key = "initSize".toList then { config with initSize := atoi value }
  else if key = "maxSize".toList then { config with maxSize := atoi value }
  else if key = "maxIdleTime".toList then { config with maxIdleTime := atoi value }
  else if key = "connectionTimeOut".toList then { config with connectionTimeout := atoi value }
  else config

/-- The body of the loop, for a line as a string.  Without a newline behind the `=` the value goes
to the end of the string, since the length that is computed from -1 is a very large one. -/
def readLine (config : Config) (str : List Char) : Config :=
  match str.idxOf? '=' with
  | none => config
  | some idx =>
      let value :=
        match (str.drop idx).idxOf? '\n' with
        | none => str.drop (idx + 1)
        | some distance => (str.drop (idx + 1)).take (distance - 1)
      config.assign (str.take idx) value

/-- The body of the loop, for what `fgets` has put into the array. -/
def readArray (config : Config) (line : List Char) : Config :=
  config.readLine (line.takeWhile (· ≠ '\x00'))

end Config

/-- How many characters `fgets` reads into `line`. -/
def lineSize : Nat := 1023

/-- `loadConfigFile`, on the file if it can be opened. -/
def loadConfigFile : Option (List Char) → Except Fault (Config × Bool)
  | none => .ok (.zero, false)
  | some file =>
      match readAll '\n' lineSize Config.readArray (file.length + 1) .zero file with
      | none => .error .nonTermination
      | some config => .ok (config, true)

/-- The constructor of the pool.  Without a file there are no connections and no threads. -/
def MysqlConnectionPool.construct (file : Option (List Char)) (clock : Nat → Int) :
    Except Fault MysqlConnectionPool := do
  let (config, loaded) ← loadConfigFile file
  pure (if loaded then .new config.toSettings clock else .empty config.toSettings)

end GomukuServer.Db
