/-
Module: GomukuServer.Proofs.SqlBuffers
Layer: Proofs
Purpose: The array for the statement of a registration or a login.  `sprintf` does not know how long
  it is, but the dispatcher accepts no body of more than 1024 bytes, so neither text is longer.
Trusted boundary: a string that JsonCpp decodes is never longer than the text it is decoded from
Main exports: DecodesNoLonger, Fits, statements_fit
-/
import GomukuServer.Db.UserStatements
import GomukuServer.Module.Dispatch
import GomukuServer.Proofs.FrameBounds
import GomukuServer.Proofs.MessageSafety

namespace GomukuServer.Proofs.SqlBuffers

open Base Base.Printf Db Db.UserStatements MyMuduo Net Net.ProtocolDispatcher
open GomukuServer.Module
open MessageSafety (ascii)

/-- No string in a parsed value is longer, in bytes, than the text that was parsed. -/
def DecodesNoLonger (json : JsonCpp) : Prop :=
  ∀ body root path text, json.parse body = .ok (some root) → root.reached path = .string text →
    text.utf8ByteSize ≤ body.length

/-- What `onRegister` and `onLogin` read from a request. -/
def credentials (req : Json.Value) : Except Fault (String × String) := do
  let username ← (← req.getMember "username").asCString
  let password ← (← req.getMember "password").asCString
  pure (username, password)

/-- What `sprintf` writes for a statement with two texts, and the NUL behind it, fit into the
array. -/
def Fits (format username password : String) : Prop :=
  ∃ text : String, sprintf format.toList [.text username, .text password] = .ok text.toList ∧
    text.utf8ByteSize + 1 ≤ sqlSize

/-- These are the texts that a registration uses. -/
theorem onRegister_credentials (server : Server) (conn : Manager.ConnId) (req : Json.Value)
    (outcome : RegisterOutcome) :
    server.onRegister conn req outcome = (do
      let (username, password) ← credentials req
      let (db, success, reason) ← server.db.registerUser username password outcome
      pure ({ server with db := db }.sendMsg conn .REGISTER_ACK
        (.object [("success", .bool success), ("reason", .string reason)]))) := by
  simp only [Server.onRegister, credentials, bind_assoc, pure_bind]

/-- And a login. -/
theorem requestedRow_credentials (server : Server) (req : Json.Value) (outcome : LoginOutcome) :
    Server.requestedRow server req outcome = (do
      let (username, password) ← credentials req
      server.db.loginUser username password outcome) := by
  simp only [Server.requestedRow, credentials, bind_assoc, pure_bind]

/-- A statement is printed without leaving the array exactly if it fits. -/
theorem fits_iff (format username password : String) : Fits format username password ↔
    ∃ sql, sqlText format [.text username, .text password] = .ok sql := by
  unfold Fits sqlText
  constructor
  · rintro ⟨text, written, fits⟩
    refine ⟨text, ?_⟩
    rw [written, ok_bind, String.ofList_toList]
    exact if_pos fits
  · rintro ⟨sql, printed⟩
    obtain ⟨chars, written, within⟩ := bind_eq_ok.mp printed
    dsimp only at within
    split at within
    · rename_i fits
      exact ⟨String.ofList chars, by rw [written, String.toList_ofList], fits⟩
    · cases within

/-! ### How long the texts are -/

/-- What the dispatcher takes out of the buffer is no longer than it accepts. -/
theorem length_extract_le {buf rest : Buffer} {msg : List Byte}
    (extracted : extract buf = .ok (rest, some msg)) : msg.length ≤ 1024 := by
  unfold extract at extracted
  dsimp only at extracted
  split at extracted
  · split at extracted
    · cases extracted
    · rename_i accepted
      split at extracted
      · obtain ⟨⟨text, after⟩, taken, built⟩ := bind_eq_ok.mp extracted
        obtain ⟨rfl, rfl⟩ : after = rest ∧ text = msg := by simpa using built
        unfold Buffer.retrieveAsString at taken
        split at taken
        · cases taken
        · rename_i short
          split at taken
          · cases taken
          · have positive : 0 ≤ readSize buf := by
              by_contra negative
              exact short (FrameBounds.maxStringSize_lt_toSize (Int.not_le.mp negative))
            obtain ⟨same, _⟩ := FrameBounds.toSize_readSize accepted positive
            obtain ⟨rfl, _⟩ := Prod.mk.inj (Except.ok.inj taken)
            have length := List.length_take_le (toSize (readSize buf))
              (buf.retrieve headerSize).peek
            simp only [maxSize] at accepted
            omega
      · cases extracted
  · cases extracted

/-- The request of a dispatched message is a member of the body that was parsed. -/
theorem dispatch_ok {json : JsonCpp} {buf rest : Buffer} {called : Dispatched}
    (dispatched : (dispatcher json).dispatch buf = .ok (rest, some called)) :
    ∃ root, called.msg.length ≤ 1024 ∧ json.parse called.msg = .ok (some root) ∧
      called.call.data = root.member "data" := by
  unfold dispatch at dispatched
  obtain ⟨⟨after, taken⟩, extracted, rest_⟩ := bind_eq_ok.mp dispatched
  cases taken with
  | none => simp at rest_
  | some msg =>
      obtain ⟨call, handled, built⟩ := bind_eq_ok.mp rest_
      cases call with
      | none => simp at built
      | some call =>
          obtain ⟨_, rfl⟩ : after = rest ∧ ⟨buf.readable, msg, call⟩ = called := by
            simpa using built
          obtain ⟨_, root, parsed, same⟩ := handle_eq_some handled
          exact ⟨root, length_extract_le extracted, parsed, same⟩

/-- Cutting a text at its first NUL makes it no longer. -/
theorem utf8ByteSize_c_str_le (text : String) : (c_str text).utf8ByteSize ≤ text.utf8ByteSize := by
  have parts : c_str text ++ String.ofList (text.toList.dropWhile (· ≠ '\x00')) = text := by
    rw [c_str, ← String.ofList_append, List.takeWhile_append_dropWhile, String.ofList_toList]
  have bytes := congrArg String.utf8ByteSize parts
  rw [String.utf8ByteSize_append] at bytes
  omega

/-- A text that was read from a member of the request. -/
theorem utf8ByteSize_asCString_le {json : JsonCpp} (noLonger : DecodesNoLonger json)
    {body : List Byte} {root : Json.Value} (parsed : json.parse body = .ok (some root))
    {key text : String}
    (read : ((root.member "data").getMember key >>= Json.Value.asCString) = .ok text) :
    text.utf8ByteSize ≤ body.length := by
  obtain ⟨value, found, string⟩ := bind_eq_ok.mp read
  obtain ⟨_, same⟩ := Json.Value.returns_getMember.mp ⟨value, found, rfl⟩
  cases value with
  | string whole =>
      have bound := noLonger body root ["data", key] whole parsed same.symm
      obtain rfl := Except.ok.inj string
      exact Nat.le_trans (utf8ByteSize_c_str_le whole) bound
  | _ => cases string

/-! ### The statements -/

/-- Two texts of at most 1024 bytes fit into a statement. -/
theorem fits_of_short {format before middle after : String}
    (parts : format = before ++ "%s" ++ middle ++ "%s" ++ after)
    (plain : '%' ∉ before.toList ∧ '%' ∉ middle.toList ∧ '%' ∉ after.toList)
    (small : before.utf8ByteSize + middle.utf8ByteSize + after.utf8ByteSize ≤ 1024)
    {username password : String} (shortName : username.utf8ByteSize ≤ 1024)
    (shortPassword : password.utf8ByteSize ≤ 1024) : Fits format username password := by
  refine ⟨_, sprintf_texts parts plain username password, ?_⟩
  have name := utf8ByteSize_c_str_le username
  have pass := utf8ByteSize_c_str_le password
  simp only [String.utf8ByteSize_append, sqlSize]
  omega

theorem fits_REGISTER_USER {username password : String} (shortName : username.utf8ByteSize ≤ 1024)
    (shortPassword : password.utf8ByteSize ≤ 1024) : Fits REGISTER_USER username password := by
  have parts : REGISTER_USER = ("INSERT INTO users (userName, passWord, userPoint, " ++
      "totalCount, winCount) VALUES ('") ++ "%s" ++ "', SHA2('" ++ "%s" ++
      "', 256), 1000, 0, 0);" := by decide +kernel
  exact fits_of_short parts (by simp) (by decide +kernel) shortName shortPassword

theorem fits_LOGIN_USER {username password : String} (shortName : username.utf8ByteSize ≤ 1024)
    (shortPassword : password.utf8ByteSize ≤ 1024) : Fits LOGIN_USER username password := by
  have parts : LOGIN_USER = ("SELECT userId, userName, userPoint, totalCount, winCount " ++
      "FROM users WHERE userName = '") ++ "%s" ++ "' AND passWord = SHA2('" ++ "%s" ++
      "', 256);" := by decide +kernel
  exact fits_of_short parts (by simp) (by decide +kernel) shortName shortPassword

/-- For every buffer out of which the dispatcher calls a handler, and all texts that the handler of
a registration or a login reads from its request, the statement fits into its array. -/
theorem statements_fit {json : JsonCpp} (noLonger : DecodesNoLonger json) {buf rest : Buffer}
    {called : Dispatched} (dispatched : (dispatcher json).dispatch buf = .ok (rest, some called))
    {username password : String} (read : credentials called.call.data = .ok (username, password)) :
    (called.call.protocol = ProtocolId.REGISTER_REQ.code →
        Fits REGISTER_USER username password) ∧
      (called.call.protocol = ProtocolId.LOGIN_REQ.code → Fits LOGIN_USER username password) := by
  obtain ⟨root, short, parsed, data⟩ := dispatch_ok dispatched
  simp only [data, credentials, bind_eq_ok] at read
  obtain ⟨name, hasName, username', nameText, pass, hasPass, password', passText, built⟩ := read
  obtain ⟨rfl, rfl⟩ : username' = username ∧ password' = password := by simpa using built
  have shortName := utf8ByteSize_asCString_le noLonger parsed
    (bind_eq_ok.mpr ⟨name, hasName, nameText⟩)
  have shortPassword := utf8ByteSize_asCString_le noLonger parsed
    (bind_eq_ok.mpr ⟨pass, hasPass, passText⟩)
  constructor
  · intro _
    exact fits_REGISTER_USER (by omega) (by omega)
  · intro _
    exact fits_LOGIN_USER (by omega) (by omega)

/-- A registration as Ann's client writes it. -/
def annRegisters : List Byte :=
  ascii ("\x7b\"protocol\":1001,\"data\":\x7b\"username\":\"ann\",\"password\":\"secret\"\x7d\x7d")

/-- What JsonCpp makes of it. -/
def annRegistersRoot : Json.Value :=
  .object [("data", .object [("password", .string "secret"), ("username", .string "ann")]),
    ("protocol", .int 1001)]

/-- JsonCpp, as far as this text goes. -/
def annJson : JsonCpp where
  parse body := .ok (if body = annRegisters then some annRegistersRoot else none)
  receivedStyledString _ := ""
  toStyledString _ := ""

/-- Her statement fits. -/
theorem statements_fit_annRegisters : Fits REGISTER_USER "ann" "secret" := by
  have noLonger : DecodesNoLonger annJson := by
    intro body root path text parsed reached
    obtain ⟨rfl, rfl⟩ : body = annRegisters ∧ annRegistersRoot = root := by
      simpa [annJson] using parsed
    have listed := Json.Value.texts_reached_subset annRegistersRoot path
    rw [reached] at listed
    have short : ∀ text ∈ annRegistersRoot.texts, text.utf8ByteSize ≤ annRegisters.length := by
      decide +kernel
    exact short text (listed (by simp [Json.Value.texts]))
  let buf := Buffer.new.append (Framing.frame headerSize annRegisters)
  have whole : buf.readable = Framing.frame headerSize annRegisters := by simp [buf]
  obtain ⟨rest, extracted, _⟩ := extract_frame (by decide) (by decide) whole
  have parsed : (dispatcher annJson).parse annRegisters = .ok (some annRegistersRoot) := by
    simp [dispatcher, annJson]
  have handled : (dispatcher annJson).handle annRegisters =
      .ok (some ⟨1001, annRegistersRoot.member "data"⟩) := by
    rw [handle, parsed]
    rfl
  have dispatched : (dispatcher annJson).dispatch buf =
      .ok (rest, some ⟨buf.readable, annRegisters, ⟨1001, annRegistersRoot.member "data"⟩⟩) := by
    rw [dispatch, extracted, ok_bind]
    simp only [handled, ok_bind, pure_eq_ok, Option.map_some]
  exact (statements_fit noLonger dispatched rfl).1 rfl

end GomukuServer.Proofs.SqlBuffers
