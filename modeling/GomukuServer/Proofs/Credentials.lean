/-
Module: GomukuServer.Proofs.Credentials
Layer: Proofs
Purpose: Which user names and passwords reach MySQL as data.  They are put between the quotes of
  `REGISTER_USER` and `LOGIN_USER` as they are, so the statement reads as it is meant exactly if
  neither of them has a quote or an escape that MySQL would take for one.
Trusted boundary: MySQL's lexing of single-quoted literals in its default mode
Main exports: mysql, ReadsAs, AnswersLogin, CarriedAsData, Harmless, carriedAsData_iff,
  not_carriedAsData_injected
-/
import GomukuServer.Base.Quoted
import GomukuServer.Db.UserStatements

namespace GomukuServer.Proofs.Credentials

open Base Base.Quoted Db Db.UserStatements

/-- Single-quoted literals.  An escape stays in front of the wildcards. -/
def mysql : Quoted.Rules Char where
  quote := '\''
  escape := '\\'
  unescape
    | '0' => some '\x00'
    | 'b' => some '\x08'
    | 'n' => some '\n'
    | 'r' => some '\r'
    | 't' => some '\t'
    | 'Z' => some '\x1a'
    | '%' => none
    | '_' => none
    | char => some char
  distinct := by decide

/-- The statement reads as the format does, with these values for the literals of the format, which
has no others. -/
def ReadsAs (format sql : String) (values : List String) : Prop :=
  ∃ template, lex mysql .outside format.toList = some template ∧
    (template.filter Piece.isLiteral).length = values.length ∧
    lex mysql .outside sql.toList = some (withValues template (values.map String.toList))

/-- MySQL answers a statement that reads as a login with rows of the table whose user name equals
the first literal and whose password equals the hash of the second, in its sense of equality. -/
def AnswersLogin (client : MysqlClient) (db : UserDB) (sha2 : String → String)
    (equals : String → String → Prop) : Prop :=
  ∀ con sql username password res, ReadsAs LOGIN_USER sql [username, password] →
    MysqlConnection.query client con sql = some res →
    ∀ row ∈ res.rows, ∃ user ∈ db.rows, row = (columns user).map some ∧
      equals user.userName username ∧ equals user.passWord (sha2 password)

/-- Both statements read as they are meant, and a login succeeds only for a row with this user name
and the hash of this password. -/
structure CarriedAsData (username password : String) : Prop where
  registers : ∃ sql, registerText username password = .ok sql ∧
    ReadsAs REGISTER_USER sql [username, password]
  logsIn : ∃ sql, loginText username password = .ok sql ∧
    ReadsAs LOGIN_USER sql [username, password]
  entersOwn : ∀ client db sha2 equals, AnswersLogin client db sha2 equals →
    ∀ con reason texts, loginUser client con username password = .ok ((true, reason), texts) →
      ∃ user ∈ db.rows, equals user.userName username ∧ equals user.passWord (sha2 password) ∧
        texts = columns user

/-- Every backslash stands in front of a wildcard. -/
def Guarded (text : List Char) : Prop :=
  ∀ before after, text = before ++ '\\' :: after →
    ∃ next more, after = next :: more ∧ (next = '%' ∨ next = '_')

/-- The text has no quote and no backslash but in front of a wildcard. -/
def Harmless (text : String) : Prop := '\'' ∉ text.toList ∧ Guarded text.toList

/-! ### What a literal may contain -/

theorem unescape_eq_none_iff (char : Char) :
    mysql.unescape char = none ↔ char = '%' ∨ char = '_' := by
  simp only [mysql]
  split <;> simp_all

theorem Guarded.tail {char : Char} {text : List Char} (guarded : Guarded (char :: text)) :
    Guarded text :=
  fun before after split => guarded (char :: before) after (by rw [split, List.cons_append])

/-- A guarded text behind another character. -/
theorem Guarded.cons {char : Char} {text : List Char} (guarded : Guarded text)
    (first : char = '\\' → ∃ next more, text = next :: more ∧ (next = '%' ∨ next = '_')) :
    Guarded (char :: text) := by
  intro before after split
  cases before with
  | nil =>
      obtain ⟨rfl, rfl⟩ := List.cons.inj split
      exact first rfl
  | cons other before => exact guarded before after (List.cons.inj split).2

/-- A text without quotes and backslashes. -/
theorem harmless_of_plain {text : String} (noQuote : '\'' ∉ text.toList)
    (noEscape : '\\' ∉ text.toList) : Harmless text :=
  ⟨noQuote, fun before after split => absurd (by rw [split]; simp) noEscape⟩

/-- A clean value has no quote, and its backslashes stand in front of wildcards. -/
theorem guarded_of_clean {text : List Char} (clean : Clean mysql text) :
    '\'' ∉ text ∧ Guarded text := by
  induction clean with
  | nil => exact ⟨List.not_mem_nil, by intro before after split; simp at split⟩
  | plain noQuote noEscape _ inductionHypothesis =>
      obtain ⟨noneLeft, guarded⟩ := inductionHypothesis
      refine ⟨?_, guarded.cons fun escape => absurd escape noEscape⟩
      exact fun inside => (List.mem_cons.mp inside).elim (Ne.symm noQuote) noneLeft
  | @pair char rest kept _ inductionHypothesis =>
      obtain ⟨noneLeft, guarded⟩ := inductionHypothesis
      have wildcard := (unescape_eq_none_iff char).mp kept
      have noEscape : char ≠ '\\' := by rintro rfl; simp at wildcard
      have noQuote : '\'' ≠ char := by rintro rfl; simp at wildcard
      refine ⟨by simp [mysql, noneLeft, noQuote], ?_⟩
      exact (guarded.cons fun escape => absurd escape noEscape).cons
        fun _ => ⟨char, rest, rfl, wildcard⟩

/-- A value without quotes whose backslashes stand in front of wildcards is clean. -/
theorem clean_of_guarded : ∀ text : List Char, '\'' ∉ text → Guarded text → Clean mysql text
  | [], _, _ => .nil
  | char :: text, noQuote, guarded => by
      rw [List.mem_cons, not_or] at noQuote
      by_cases escape : char = '\\'
      · subst escape
        obtain ⟨next, more, rfl, wildcard⟩ := guarded [] text rfl
        have clean := clean_of_guarded more (by simp_all) guarded.tail.tail
        exact .pair ((unescape_eq_none_iff next).mpr wildcard) clean
      · exact .plain (Ne.symm noQuote.1) escape (clean_of_guarded text noQuote.2 guarded.tail)

/-- The clean values are the harmless texts. -/
theorem clean_iff (text : String) : Clean mysql text.toList ↔ Harmless text :=
  ⟨guarded_of_clean, fun harmless => clean_of_guarded text.toList harmless.1 harmless.2⟩

/-! ### What the statements read as -/

/-- A format with `%s` between quotes, twice, and no other quotes and conversions. -/
structure Template (format : String) where
  before : String
  middle : String
  after : String
  parts : format = before ++ "'" ++ "%s" ++ "'" ++ middle ++ "'" ++ "%s" ++ "'" ++ after
  noQuote : '\'' ∉ before.toList ∧ '\'' ∉ middle.toList ∧ '\'' ∉ after.toList
  noPercent : '%' ∉ before.toList ∧ '%' ∉ middle.toList ∧ '%' ∉ after.toList
  apart : middle.toList ≠ [] ∧ after.toList ≠ []

namespace Template

variable {format : String} (template : Template format)

/-- The format with two texts in it. -/
def fill (first second : String) : String :=
  template.before ++ "'" ++ first ++ "'" ++ template.middle ++ "'" ++ second ++ "'" ++
    template.after

/-- What the format with two texts in it is meant to read as. -/
def pieces (first second : String) : List (Piece Char) :=
  letters template.before.toList ++ .literal first.toList ::
    (letters template.middle.toList ++ .literal second.toList ::
      (letters template.after.toList ++ []))

/-- How many bytes the format has besides the conversions. -/
def size : Nat :=
  template.before.utf8ByteSize + template.middle.utf8ByteSize + template.after.utf8ByteSize + 4

theorem separated_pieces (first second : String) :
    Separated mysql (template.pieces first second) := by
  obtain ⟨noneBefore, noneMiddle, noneAfter⟩ := template.noQuote
  refine separated_letters mysql noneBefore (separated_literal mysql template.apart.1 ?_)
  refine separated_letters mysql noneMiddle (separated_literal mysql template.apart.2 ?_)
  exact separated_letters mysql noneAfter trivial

theorem render_pieces (first second : String) :
    render mysql (template.pieces first second) = (template.fill first second).toList := by
  have quote : ("'").toList = ['\''] := rfl
  rw [pieces, render_letters, render_literal, render_letters, render_literal, render_letters,
    render_nil]
  simp only [fill, String.toList_append, quote, List.append_assoc, List.cons_append,
    List.nil_append, List.append_nil]
  rfl

theorem mem_pieces {first second : String} {value : List Char} :
    .literal value ∈ template.pieces first second ↔
      value = first.toList ∨ value = second.toList := by
  simp [pieces, literal_notMem_letters]

/-- The format with two texts in it reads as it is meant exactly if both are harmless. -/
theorem lex_fill_iff (first second : String) :
    lex mysql .outside (template.fill first second).toList = some (template.pieces first second) ↔
      Harmless first ∧ Harmless second := by
  have separated := template.separated_pieces first second
  rw [← render_pieces, lex_render_iff mysql separated, ← clean_iff, ← clean_iff]
  simp only [mem_pieces, forall_eq_or_imp, forall_eq]

/-- In the sense of the format itself. -/
theorem readsAs_fill_iff (first second : String) :
    ReadsAs format (template.fill first second) [first, second] ↔
      Harmless first ∧ Harmless second := by
  have harmless : Harmless "%s" := (clean_iff "%s").mp
    (.plain (by decide) (by decide) (.plain (by decide) (by decide) .nil))
  have read := (template.lex_fill_iff "%s" "%s").mpr ⟨harmless, harmless⟩
  rw [fill, ← template.parts] at read
  have literals : ((template.pieces "%s" "%s").filter Piece.isLiteral).length = 2 := by
    simp only [pieces, List.filter_append, List.filter_cons, filter_letters, Piece.isLiteral]
    rfl
  have values : withValues (template.pieces "%s" "%s") ([first, second].map String.toList) =
      template.pieces first second := by
    simp only [pieces, withValues_letters, withValues, List.map_cons, List.map_nil]
  rw [← template.lex_fill_iff, ← values]
  constructor
  · rintro ⟨other, otherRead, _, filled⟩
    obtain rfl := Option.some.inj (read.symm.trans otherRead)
    exact filled
  · exact fun filled => ⟨_, read, literals, filled⟩

/-- What is printed for two texts. -/
theorem sqlText_eq_ok_iff {first second sql : String} (wholeFirst : '\x00' ∉ first.toList)
    (wholeSecond : '\x00' ∉ second.toList) :
    sqlText format [.text first, .text second] = .ok sql ↔
      template.size + first.utf8ByteSize + second.utf8ByteSize < sqlSize ∧
        sql = template.fill first second := by
  have parts : format = (template.before ++ "'") ++ "%s" ++ ("'" ++ template.middle ++ "'") ++
      "%s" ++ ("'" ++ template.after) := by
    simp only [template.parts, String.append_assoc]
  have quote : ("'").toList = ['\''] := rfl
  have written := sprintf_texts parts (by simp [quote, template.noPercent]) first second
  rw [Printf.c_str_of_whole wholeFirst, Printf.c_str_of_whole wholeSecond] at written
  rw [UserStatements.sqlText_eq_ok_iff written]
  have same : template.before ++ "'" ++ first ++ ("'" ++ template.middle ++ "'") ++ second ++
      ("'" ++ template.after) = template.fill first second := by
    simp only [fill, String.append_assoc]
  have bytes : (template.fill first second).utf8ByteSize =
      template.size + first.utf8ByteSize + second.utf8ByteSize := by
    have one : ("'").utf8ByteSize = 1 := rfl
    simp only [fill, size, String.utf8ByteSize_append, one]
    omega
  rw [same, bytes]

/-- Two texts are carried as data exactly if they fit and are harmless. -/
theorem printed_readsAs_iff {first second : String} (wholeFirst : '\x00' ∉ first.toList)
    (wholeSecond : '\x00' ∉ second.toList) :
    (∃ sql, sqlText format [.text first, .text second] = .ok sql ∧
        ReadsAs format sql [first, second]) ↔
      template.size + first.utf8ByteSize + second.utf8ByteSize < sqlSize ∧
        Harmless first ∧ Harmless second := by
  rw [← template.readsAs_fill_iff]
  constructor
  · rintro ⟨sql, printed, reads⟩
    obtain ⟨fits, rfl⟩ := (template.sqlText_eq_ok_iff wholeFirst wholeSecond).mp printed
    exact ⟨fits, reads⟩
  · rintro ⟨fits, reads⟩
    exact ⟨_, (template.sqlText_eq_ok_iff wholeFirst wholeSecond).mpr ⟨fits, rfl⟩, reads⟩

end Template

/-- The template of `REGISTER_USER`. -/
def registerTemplate : Template REGISTER_USER where
  before := "INSERT INTO users (userName, passWord, userPoint, totalCount, winCount) VALUES ("
  middle := ", SHA2("
  after := ", 256), 1000, 0, 0);"
  parts := by decide +kernel
  noQuote := by simp
  noPercent := by simp
  apart := by simp

/-- The template of `LOGIN_USER`. -/
def loginTemplate : Template LOGIN_USER where
  before := "SELECT userId, userName, userPoint, totalCount, winCount FROM users WHERE userName = "
  middle := " AND passWord = SHA2("
  after := ", 256);"
  parts := by decide +kernel
  noQuote := by simp
  noPercent := by simp
  apart := by simp

/-- A login that succeeds has the columns of a row that MySQL has answered with. -/
theorem entersOwn_of_readsAs {username password : String}
    (reads : ∃ sql, loginText username password = .ok sql ∧
      ReadsAs LOGIN_USER sql [username, password])
    {client : MysqlClient} {db : UserDB} {sha2 : String → String} {equals : String → String → Prop}
    (answers : AnswersLogin client db sha2 equals) {con : Option Ref} {reason : String}
    {texts : List String}
    (entered : loginUser client con username password = .ok ((true, reason), texts)) :
    ∃ user ∈ db.rows, equals user.userName username ∧ equals user.passWord (sha2 password) ∧
      texts = columns user := by
  obtain ⟨sql, printed, same⟩ := reads
  simp only [loginUser, printed, ok_bind, bind_eq_ok] at entered
  obtain ⟨ref, _, row_num, counted, entered⟩ := entered
  cases asked : MysqlConnection.query client ref sql with
  | none => simp [asked, mysql_num_rows, follow, Except.map] at counted
  | some res =>
      split at entered
      · simp at entered
      · obtain ⟨ret, read, entered⟩ := bind_eq_ok.mp entered
        have returned : "登录成功" = reason ∧ ret = texts := by simpa using entered
        obtain ⟨_, rfl⟩ := returned
        simp only [asked, firstRow, mysql_fetch_row, follow, Except.map, ok_bind] at read
        cases rows : res.rows with
        | nil => simp [rows] at read
        | cons row rest =>
            have answered := answers ref sql username password res same asked
            obtain ⟨user, inside, rfl, name, word⟩ := answered row (by simp [rows])
            simp only [rows, List.head?_cons, ok_bind, mapM_columnText, Except.ok.injEq] at read
            exact ⟨user, inside, name, word, read.symm⟩

/-- For all user names and passwords without NUL: both statements carry them as data, and so a login
enters a row with that name and password only, if and only if neither has a quote or a backslash in
front of anything but a wildcard, and the statements fit into their arrays. -/
theorem carriedAsData_iff {username password : String} (wholeName : '\x00' ∉ username.toList)
    (wholeWord : '\x00' ∉ password.toList) :
    CarriedAsData username password ↔
      Harmless username ∧ Harmless password ∧
        username.utf8ByteSize + password.utf8ByteSize < 3979 := by
  have registerSize : registerTemplate.size = 111 := by decide +kernel
  have loginSize : loginTemplate.size = 117 := by decide +kernel
  have registers := registerTemplate.printed_readsAs_iff wholeName wholeWord
  have logsIn := loginTemplate.printed_readsAs_iff wholeName wholeWord
  rw [registerSize] at registers
  rw [loginSize] at logsIn
  unfold sqlSize at registers logsIn
  constructor
  · intro carried
    obtain ⟨fits, name, word⟩ := logsIn.mp carried.logsIn
    exact ⟨name, word, by omega⟩
  · rintro ⟨name, word, fits⟩
    have loginReads := logsIn.mpr ⟨by omega, name, word⟩
    exact ⟨registers.mpr ⟨by omega, name, word⟩, loginReads,
      fun _ _ _ _ answers _ _ _ entered => entersOwn_of_readsAs loginReads answers entered⟩

/-- A user name and a password of which nothing is lost. -/
theorem carriedAsData_wildcard : CarriedAsData "al" "\\%" := by
  refine (carriedAsData_iff (by decide) (by decide)).mpr
    ⟨(clean_iff "al").mp ?_, (clean_iff "\\%").mp ?_, by decide⟩
  · exact .plain (by decide) (by decide) (.plain (by decide) (by decide) .nil)
  · exact .pair rfl .nil

/-- The password `' OR '1'='1` is not read as a password. -/
theorem not_carriedAsData_injected : ¬ CarriedAsData "ann" "' OR '1'='1" := by
  intro carried
  have reads := (loginTemplate.printed_readsAs_iff (by decide) (by decide)).mp carried.logsIn
  exact reads.2.2.1 (by decide)

end GomukuServer.Proofs.Credentials
