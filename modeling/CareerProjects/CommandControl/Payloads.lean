import CareerProjects.CommandControl.ControlStation

/-! Payloads in the canonical text: `json.dumps` on the station, Jackson on the server. The
station's text is ASCII and the server's is not, so the two agree on plain payloads only. -/

namespace CareerProjects.CommandControl
open Library PythonString

namespace ControlStation

def payloadText (rootNode : List (JavaString × Json)) : Except JavaString JavaString := do
  let payload ← CommandMessageParser.parsePayload rootNode
  pure (Json.object payload.1).write

theorem payloadText_dict {payload : PythonDict} {rootNode : List (JavaString × Json)}
    (field : CommandMessageParser.get rootNode "payload" =
      some (PythonValue.dict payload.items).received) :
    payloadText rootNode = .ok (jacksonText (.dict payload.items)) := by
  rw [PythonValue.received] at field
  rw [payloadText, CommandMessageParser.parsePayload, field, jacksonText, PythonValue.received,
    Json.toMap]
  rfl

/-- For every payload: the server makes of it the text that the station signed, and every command
with this payload that arrives with its other lines as they were signed is authentic, if and only
if all its strings and keys, at every depth, are of plain characters. -/
theorem payload_signed_alike (payload : PythonDict) :
    ((∀ rootNode, CommandMessageParser.get rootNode "payload" =
          some (PythonValue.dict payload.items).received →
        payloadText rootNode = .ok (units ((PythonValue.dict payload.items).dumps true))) ∧
      ∀ (platform : Platform) (now : Datetime) (messageId commandType : PythonString)
        (sequenceNumber : Int) (command : SignedCommand) (accepted : CommandMessage),
        createCommand platform now messageId commandType sequenceNumber payload = some command →
        platform.readTree command.commandJson = some command.value.received →
        CommandMessageParser.parse platform.readTree command.commandJson = .ok accepted →
        (lines command.toCommand).eraseIdx 5 = (serverLines accepted).eraseIdx 5 →
        MessageAuthenticator.verify platform accepted = true) ↔
    (PythonValue.dict payload.items).every isPlain = true := by
  have texts := jacksonText_eq_iff payload.distinct
  constructor
  · rintro ⟨same, -⟩
    have field : CommandMessageParser.get
        [(.ofString "payload", (PythonValue.dict payload.items).received)] "payload" =
          some (PythonValue.dict payload.items).received := rfl
    exact texts.mp (Except.ok.inj ((payloadText_dict field).symm.trans (same _ field)))
  · intro plain
    refine ⟨fun rootNode field => ?_, ?_⟩
    · rw [payloadText_dict field, texts.mpr plain]
      rfl
    · intro platform now messageId commandType sequenceNumber command accepted created reads accepts
        others
      have fields := accepted_fields reads accepts
      refine verify_of_lines created fields ?_
      have payloads : MessageAuthenticator.payloadJson accepted =
          pythonText (.dict command.payload.items) := by
        rw [accepted_payload fields, (createCommand_some created).2.1]
        exact texts.mpr plain
      simp only [lines, serverLines, List.eraseIdx_cons_succ, List.eraseIdx_cons_zero] at others ⊢
      simp_all

def accentPayload : PythonDict := ⟨[(.ofString "note", .str (.ofString "caf\u00e9"))], rfl⟩

def escapedDigest : List UInt8 :=
  [0x71, 0x27, 0xca, 0x32, 0x51, 0x42, 0x04, 0xfd, 0x81, 0x0d, 0x47, 0x53, 0x96, 0xe4, 0x0e,
    0x47, 0xb2, 0x1c, 0xec, 0x12, 0xfb, 0xc5, 0x4d, 0x44, 0x9c, 0xaf, 0x16, 0x28, 0x12, 0x35,
    0xc9, 0x6f]

def unescapedDigest : List UInt8 :=
  [0x6d, 0xdc, 0x66, 0x3e, 0x85, 0xe7, 0x99, 0x5e, 0x70, 0xd5, 0x23, 0x4c, 0x3d, 0x33, 0x7e,
    0x9c, 0x84, 0x2d, 0xb8, 0xed, 0x7f, 0x52, 0x55, 0xec, 0xa4, 0x12, 0xbb, 0x72, 0x3d, 0xc5,
    0xba, 0x5e]

def accentCommand : SignedCommand := sampleCommand (sampleTime 0 (by decide)) accentPayload escapedDigest

def accentPlatform : Platform :=
  samplePlatform accentCommand
    (sampleText "2026-01-01T00:00:00Z" "\x7b\"note\":\"caf\\u00e9\"\x7d", escapedDigest)
    (sampleText "2026-01-01T00:00:00Z" "\x7b\"note\":\"caf\u00e9\"\x7d", unescapedDigest)

def accentAccepted : CommandMessage :=
  sampleAccepted 0 newYear.nanosRange [(.ofString "note", .text (.ofString "caf\u00e9"))] (by simp [Sorted])
    escapedDigest (by decide)

set_option maxRecDepth 50000 in
/-- The station signs an escape sequence and the server verifies the letter. -/
theorem payload_signed_differently :
    units ((PythonValue.dict accentPayload.items).dumps true) =
        .ofString "\x7b\"note\":\"caf\\u00e9\"\x7d" ∧
      payloadText accentCommand.fields = .ok (.ofString "\x7b\"note\":\"caf\u00e9\"\x7d") ∧
      payloadText accentCommand.fields ≠
        .ok (units ((PythonValue.dict accentPayload.items).dumps true)) ∧
      createCommand accentPlatform (sampleTime 0 (by decide)) (.ofString "CMD-1")
        (.ofString "START_SYSTEM") 1 accentPayload = some accentCommand ∧
      accentPlatform.readTree accentCommand.commandJson = some accentCommand.value.received ∧
      CommandMessageParser.parse accentPlatform.readTree accentCommand.commandJson =
        .ok accentAccepted ∧
      (lines accentCommand.toCommand).eraseIdx 5 = (serverLines accentAccepted).eraseIdx 5 ∧
      MessageAuthenticator.verify accentPlatform accentAccepted = false := by
  refine ⟨by decide +kernel, by rfl, ?_, by rfl, by rfl, by rfl, by decide +kernel, by decide +kernel⟩
  intro same
  have texts : payloadText accentCommand.fields = .ok (jacksonText (.dict accentPayload.items)) :=
    payloadText_dict rfl
  have differ : jacksonText (.dict accentPayload.items) ≠
      units ((PythonValue.dict accentPayload.items).dumps true) := by
    decide +kernel
  exact differ (Except.ok.inj (texts.symm.trans same))

end ControlStation

end CareerProjects.CommandControl
