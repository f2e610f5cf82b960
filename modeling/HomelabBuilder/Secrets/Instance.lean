import HomelabBuilder.Foundation.Json
import HomelabBuilder.Foundation.Text
import HomelabBuilder.Services.GraphInput

/-! # What an instance seals secrets with and where it may call

`secrets.go`, `ssrf.go` and the address checks of the Proxmox `client.go`.
-/

namespace HomelabBuilder.Secrets

open Services (UUID)

/-- The ciphertext, nonce and key version columns of a row. They are written
together, and no ciphertext is empty. -/
structure Sealed where
  ciphertext : List UInt8
  nonce : List UInt8
  version : Int
  deriving DecidableEq

/-- The master keys. What is sealed opens to nothing else under the same associated
data; it does not open under a key the instance no longer has. -/
structure Keyring where
  sealText : (plaintext aad : String) → (nonce : List UInt8) → Sealed
  openSealed : Sealed → (aad : String) → Option String
  open_seal : ∀ plaintext aad nonce opened,
    openSealed (sealText plaintext aad nonce) aad = some opened → opened = plaintext

/-- A keyring for examples, which opens the given texts. -/
def Keyring.knowing (texts : List String) : Keyring where
  sealText plaintext aad nonce := ⟨plaintext.toUTF8.data.toList ++ aad.toUTF8.data.toList, nonce, 1⟩
  openSealed stored aad :=
    texts.find? fun text => text.toUTF8.data.toList ++ aad.toUTF8.data.toList = stored.ciphertext
  open_seal := by
    intro plaintext aad nonce opened found
    have same := List.find?_some found
    have bytes : opened.toUTF8.data.toList = plaintext.toUTF8.data.toList :=
      List.append_cancel_right (of_decide_eq_true same)
    exact String.toByteArray_inj.mp (ByteArray.ext (Array.ext' bytes))

def keyAAD (userID : UUID) : String := "hlb:assistant-key:v1|user:" ++ userID.text

def integrationSecretAAD (userID integrationID : UUID) : String :=
  "hlb:integration-secret:v1|user:" ++ userID.text ++ "|integration:" ++ integrationID.text

/-- What `url.Parse` finds in an address. -/
structure ParsedURL where
  scheme : String
  hasUser : Bool := false
  /-- Host and port, percent escapes decoded. -/
  host : String
  hostname : String
  rawQuery : String := ""
  fragment : String := ""
  /-- The address as `String` writes it. -/
  text : String

structure Instance where
  keyring : Option Keyring
  /-- The assistant is switched on. -/
  assistant : Bool
  /-- Integrations are switched on. -/
  integrations : Bool
  allowPrivate : Bool
  parseURL : String → Option ParsedURL
  isBlockedHost : String → Bool
  /-- `proxmox.ParseExport`, at a time. -/
  parseExport : String → Int → Option Json

/-! ## Addresses -/

inductive AddressIssue
  | missing
  | tooLong
  | malformed
  | insecure
  | scheme
  | credentials
  | query
  | blocked
  deriving DecidableEq

def trimRightSlash (text : String) : String := String.ofList (text.toList.rdropWhile (· = '/'))

namespace Instance

variable (server : Instance)

/-- The scheme and user checks that both kinds of addresses share. -/
def checkScheme (parsed : ParsedURL) : Except AddressIssue Unit :=
  if parsed.scheme = "http" ∧ server.allowPrivate = false then .error .insecure
  else if parsed.scheme ≠ "https" ∧ parsed.scheme ≠ "http" then .error .scheme
  else if parsed.hasUser then .error .credentials
  else .ok ()

def validateBaseURL (raw : String) : Except AddressIssue String :=
  let raw := trimSpace raw
  if raw = "" then .error .missing
  else if 300 < raw.utf8ByteSize then .error .tooLong
  else
    match (server.parseURL raw).filter (·.host ≠ "") with
    | none => .error .malformed
    | some parsed => do
        server.checkScheme parsed
        if parsed.rawQuery ≠ "" ∨ parsed.fragment ≠ "" then .error .query
        else if server.allowPrivate = false ∧ server.isBlockedHost parsed.hostname then
          .error .blocked
        else .ok (trimRightSlash parsed.text)

def normalizeBaseURL (raw : String) : Except AddressIssue String :=
  let raw := trimSpace raw
  if raw = "" then .error .missing
  else if 300 < raw.utf8ByteSize then .error .tooLong
  else
    let raw := if contains raw "://" then raw else "https://" ++ raw
    match (server.parseURL raw).filter (·.hostname ≠ "") with
    | none => .error .malformed
    | some parsed => do
        server.checkScheme parsed
        if server.allowPrivate = false ∧ server.isBlockedHost parsed.hostname then .error .blocked
        else .ok (parsed.scheme ++ "://" ++ parsed.host)

end Instance

/-! ## Tokens and certificates -/

def isTokenChar (char : Char) : Bool :=
  ('A' ≤ char && char ≤ 'Z') || ('a' ≤ char && char ≤ 'z') || ('0' ≤ char && char ≤ '9') ||
    char ∈ ['.', '_', '-']

/-- `user@realm!tokenname`. -/
def isTokenID (text : List Char) : Bool :=
  let user := text.takeWhile isTokenChar
  match text.dropWhile isTokenChar with
  | '@' :: rest =>
      let realm := rest.takeWhile isTokenChar
      match rest.dropWhile isTokenChar with
      | '!' :: name =>
          !user.isEmpty && !realm.isEmpty && !name.isEmpty && name.all isTokenChar
      | _ => false
  | _ => false

def normalizeTokenID (raw : String) : Option String :=
  let trimmed := trimSpace raw
  let id := (cutPrefix "PVEAPIToken=" trimmed).elim trimmed String.ofList
  if isTokenID id.toList = false ∨ 160 < id.utf8ByteSize then none else some id

def normalizeSecret (raw : String) : Option String :=
  let secret := trimSpace raw
  if secret = "" ∨ 200 < secret.utf8ByteSize ∨
      secret.toList.any (· ∈ [' ', '\t', '\r', '\n', Char.ofNat 0]) then none
  else some secret

def pairs : List Char → List Char
  | first :: second :: third :: rest => first :: second :: ':' :: pairs (third :: rest)
  | rest => rest

/-- `proxmox.NormalizeFingerprint`: a SHA-256 in hex, else nothing. -/
def normalizeFingerprint (raw : String) : Option String :=
  let compact := ((trimSpace raw).toList.filter (· ∉ [':', ' ', '-'])).map Char.toLower
  if compact.length = 64 ∧ compact.all (· ∈ "0123456789abcdef".toList) then
    some (String.ofList (pairs (compact.map Char.toUpper)))
  else none

end HomelabBuilder.Secrets
