import CareerProjects.CommandControl.Messages

/-! The canonical text of a command and the check of its signature. -/

namespace CareerProjects.CommandControl
open Library

/-- What the program gets from outside: the JSON reader, and HMAC-SHA256 under the shared
secret, whose digests have 32 bytes. -/
structure Platform where
  readTree : JavaString → Option Json
  hmacSha256 : List UInt8 → List UInt8
  digestLength : ∀ message, (hmacSha256 message).length = 32

def Platform.ofTables (trees : List (JavaString × Json))
    (digests : List (List UInt8 × List UInt8)) : Platform where
  readTree line := (trees.find? (·.1 == line)).map (·.2)
  hmacSha256 message := (((digests.find? (·.1 == message)).map (·.2)).getD []).takeD 32 0
  digestLength _ := List.takeD_length ..

namespace MessageAuthenticator

def payloadJson (command : CommandMessage) : JavaString := (Json.object command.payload).write

/-- The exact string that is signed, the signature excluded. -/
def createCanonicalMessage (command : CommandMessage) : JavaString :=
  JavaString.join 10 [command.messageId, command.commandType.name, command.targetId,
    JavaString.integer command.sequenceNumber, command.timestamp.toString, payloadJson command]

def calculateSignatureBytes (platform : Platform) (command : CommandMessage) : List UInt8 :=
  platform.hmacSha256 (JavaString.getBytes (createCanonicalMessage command))

def hexValue (unit : UInt16) : UInt8 :=
  if unit.toNat < 58 then unit.toUInt8 - 48 else unit.toUInt8 - 87

def hexDigit (value : UInt8) : UInt16 := if value < 10 then 48 + value.toUInt16 else 87 + value.toUInt16

def parseHex : JavaString → List UInt8
  | high :: low :: rest => (hexValue high * 16 + hexValue low) :: parseHex rest
  | _ => []

def formatHex (bytes : List UInt8) : JavaString :=
  bytes.flatMap fun byte => [hexDigit (byte / 16), hexDigit (byte % 16)]

theorem hexValue_hexDigit (byte : UInt8) :
    hexValue (hexDigit (byte / 16)) * 16 + hexValue (hexDigit (byte % 16)) = byte := by
  have bound := byte.toNat_lt
  rw [← UInt8.ofNat_toNat (x := byte)]
  generalize byte.toNat = code at bound
  interval_cases code <;> rfl

theorem parseHex_formatHex (bytes : List UInt8) : parseHex (formatHex bytes) = bytes := by
  induction bytes with
  | nil => rfl
  | cons byte bytes ih =>
    rw [formatHex, List.flatMap_cons]
    simp only [List.cons_append, List.nil_append, parseHex, hexValue_hexDigit]
    exact congrArg _ ih

theorem isHex_hexDigit (byte : UInt8) :
    isHex (hexDigit (byte / 16)) = true ∧ isHex (hexDigit (byte % 16)) = true := by
  have bound := byte.toNat_lt
  rw [← UInt8.ofNat_toNat (x := byte)]
  generalize byte.toNat = code at bound
  interval_cases code <;> decide

theorem isSignature_formatHex {bytes : List UInt8} (length : bytes.length = 32) :
    isSignature (formatHex bytes) = true := by
  have size : ∀ digits : List UInt8, (formatHex digits).length = 2 * digits.length := by
    intro digits
    induction digits with
    | nil => rfl
    | cons byte digits ih =>
      rw [formatHex, List.flatMap_cons, List.length_append]
      simp only [List.length_cons, List.length_nil]
      rw [formatHex] at ih
      omega
  rw [isSignature, size, length, List.all_eq_true.mpr]
  · rfl
  · intro unit member
    obtain ⟨byte, -, digit⟩ := List.mem_flatMap.mp member
    have hex := isHex_hexDigit byte
    simp only [List.mem_cons, List.not_mem_nil, or_false] at digit
    rcases digit with rfl | rfl
    · exact hex.1
    · exact hex.2

/-- The command's signature is the digest of its canonical text. -/
def verify (platform : Platform) (command : CommandMessage) : Bool :=
  calculateSignatureBytes platform command == parseHex command.signature

theorem verify_iff {platform : Platform} {command : CommandMessage} : verify platform command = true ↔
    parseHex command.signature = platform.hmacSha256 (JavaString.getBytes (createCanonicalMessage command)) := by
  rw [verify, beq_iff_eq, calculateSignatureBytes]
  exact eq_comm

end MessageAuthenticator

end CareerProjects.CommandControl
