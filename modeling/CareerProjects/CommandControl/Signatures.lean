import CareerProjects.CommandControl.Authentication

/-! What a signature says about a command. The canonical text has one line for each field,
but a message id or a target id may itself hold line breaks. So the lines of the first
three fields can be dealt out in more than one way, and encoding makes some texts equal. -/

namespace CareerProjects.CommandControl
open Library

namespace CommandMessage

def SameFields (a b : CommandMessage) : Prop :=
  a.messageId = b.messageId ∧ a.commandType = b.commandType ∧ a.targetId = b.targetId ∧
    a.sequenceNumber = b.sequenceNumber ∧ a.timestamp = b.timestamp ∧ a.payload = b.payload

def sign (command : CommandMessage) (signature : JavaString) (hex : isSignature signature = true) :
    CommandMessage :=
  { command with
    signature := signature
    signatureHex := hex }

end CommandMessage

/-- The first text of the second triple goes on where that of the first ends, with its second and
perhaps with lines of its third. -/
def Shifted (a b c a' b' c' : JavaString) : Prop :=
  ∃ lines, a' = a ++ 10 :: (b ++ lines) ∧ 10 :: c = lines ++ 10 :: (b' ++ 10 :: c')

theorem Shifted.same {a b c a' b' c' : JavaString} (shifted : Shifted a b c a' b' c') :
    a ++ 10 :: (b ++ 10 :: c) = a' ++ 10 :: (b' ++ 10 :: c') := by
  obtain ⟨lines, rfl, rest⟩ := shifted
  rw [rest]
  simp only [List.append_assoc, List.cons_append]

theorem shifted_of_prefix {a b c b' c' more : JavaString} (line : 10 ∉ b) (line' : 10 ∉ b')
    (same : 10 :: (b ++ 10 :: c) = more ++ 10 :: (b' ++ 10 :: c')) :
    more = [] ∧ b = b' ∧ c = c' ∨ Shifted a b c (a ++ more) b' c' := by
  cases more with
  | nil => exact .inl ⟨rfl, JavaString.cut_unique line line' (List.cons.inj same).2⟩
  | cons first more =>
    obtain ⟨rfl, tails⟩ := List.cons.inj same
    rcases List.append_eq_append_iff.mp tails with ⟨lines, rfl, rest⟩ | ⟨others, rfl, rest⟩
    · exact .inr ⟨lines, rfl, rest⟩
    · cases others with
      | nil => exact .inr ⟨[], by simp, rest.symm⟩
      | cons unit others =>
        rw [← (List.cons.inj rest).1] at line
        simp at line

theorem lines_eq_iff {a b c a' b' c' : JavaString} (line : 10 ∉ b) (line' : 10 ∉ b') :
    a ++ 10 :: (b ++ 10 :: c) = a' ++ 10 :: (b' ++ 10 :: c') ↔
      (a = a' ∧ b = b' ∧ c = c') ∨ Shifted a b c a' b' c' ∨ Shifted a' b' c' a b c := by
  constructor
  · intro same
    rcases List.append_eq_append_iff.mp same with ⟨more, rfl, rest⟩ | ⟨more, rfl, rest⟩
    · rcases shifted_of_prefix line line' rest with ⟨rfl, equal⟩ | shifted
      · exact .inl ⟨by simp, equal⟩
      · exact .inr (.inl shifted)
    · rcases shifted_of_prefix line' line rest with ⟨rfl, equal⟩ | shifted
      · exact .inl ⟨by simp, equal.1.symm, equal.2.symm⟩
      · exact .inr (.inr shifted)
  · rintro (⟨rfl, rfl, rfl⟩ | shifted | shifted)
    · rfl
    · exact shifted.same
    · exact shifted.same.symm

namespace CommandMessage

/-- The first three fields, as they are encoded, line for line. -/
def SameHead (a b : CommandMessage) : Prop :=
  a.messageId.encoded = b.messageId.encoded ∧ a.commandType = b.commandType ∧
    a.targetId.encoded = b.targetId.encoded

/-- The message id of the second command holds a line break and the first command's type. -/
def Resplit (a b : CommandMessage) : Prop :=
  Shifted a.messageId.encoded a.commandType.name a.targetId.encoded
    b.messageId.encoded b.commandType.name b.targetId.encoded

def SameTail (a b : CommandMessage) : Prop :=
  a.sequenceNumber = b.sequenceNumber ∧ a.timestamp = b.timestamp ∧
    (Json.object a.payload).encoded.plain = (Json.object b.payload).encoded.plain

def Confusable (a b : CommandMessage) : Prop :=
  SameTail a b ∧ (Resplit a b ∨ Resplit b a ∨ SameHead a b ∧
    (a.messageId ≠ b.messageId ∨ a.targetId ≠ b.targetId ∨ a.payload ≠ b.payload))

end CommandMessage

namespace MessageAuthenticator

theorem plain_name (commandType : CommandType) :
    ∀ unit ∈ commandType.name, JavaString.isSurrogate unit = false := by
  cases commandType <;> exact @of_decide_eq_true _ (List.decidableBAll _ _) (by decide)

theorem plain_toString (instant : Instant) :
    (∀ unit ∈ instant.toString, JavaString.isSurrogate unit = false) ∧ 10 ∉ instant.toString := by
  have units := instant.isDateUnit_toString
  constructor
  · intro unit member
    exact JavaString.isSurrogate_small (Instant.isDateUnit_bounds (units unit member)).2
  · exact fun member => absurd (units 10 member) (by decide)

theorem encoded_canonical (command : CommandMessage) :
    (createCanonicalMessage command).encoded =
      (((command.messageId.encoded ++ 10 :: (command.commandType.name ++
        10 :: command.targetId.encoded)) ++ 10 :: JavaString.integer command.sequenceNumber) ++
          10 :: command.timestamp.toString) ++ 10 :: (Json.object command.payload).encoded.write := by
  have newline : JavaString.isSurrogate 10 = false := rfl
  have number : ∀ unit ∈ JavaString.integer command.sequenceNumber,
      JavaString.isSurrogate unit = false := fun unit member =>
    (Json.isSurrogate_numeric ((Json.integer_numeric _).2 unit member)).1
  have payload := Json.encoded_write (.object command.payload) []
  rw [List.append_nil] at payload
  simp only [createCanonicalMessage, JavaString.join, payloadJson, List.append_assoc,
    List.cons_append]
  rw [JavaString.encoded_append_cons _ newline, JavaString.encoded_append_cons _ newline,
    JavaString.encoded_append_cons _ newline, JavaString.encoded_append_cons _ newline,
    JavaString.encoded_append_cons _ newline, JavaString.encoded_of_plain (plain_name _),
    JavaString.encoded_of_plain number, JavaString.encoded_of_plain (plain_toString _).1, payload]
  simp [JavaString.encoded]

theorem canonical_bytes_iff (a b : CommandMessage) :
    JavaString.getBytes (createCanonicalMessage a) = JavaString.getBytes (createCanonicalMessage b) ↔
      CommandMessage.SameTail a b ∧
        (CommandMessage.SameHead a b ∨ CommandMessage.Resplit a b ∨ CommandMessage.Resplit b a) := by
  have tail : ∀ command : CommandMessage, 10 ∉ command.timestamp.toString ∧
      10 ∉ (Json.object command.payload).encoded.write ∧ 10 ∉ JavaString.integer command.sequenceNumber := by
    intro command
    refine ⟨(plain_toString _).2, fun member => ?_, fun member => ?_⟩
    · exact absurd (Json.printable_write _ 10 member) (by decide)
    · exact absurd ((Json.integer_numeric _).2 10 member) (by decide)
  obtain ⟨timeA, payloadA, numberA⟩ := tail a
  obtain ⟨timeB, payloadB, numberB⟩ := tail b
  rw [JavaString.getBytes_eq_iff_encoded, encoded_canonical, encoded_canonical]
  constructor
  · intro same
    obtain ⟨same, payloads⟩ := JavaString.cut_last payloadA payloadB same
    obtain ⟨same, times⟩ := JavaString.cut_last timeA timeB same
    obtain ⟨same, numbers⟩ := JavaString.cut_last numberA numberB same
    have heads := (lines_eq_iff a.commandType.newline_not_mem_name
      b.commandType.newline_not_mem_name).mp same
    exact ⟨⟨JavaString.integer_injective numbers, Instant.toString_injective times,
      Json.write_eq_iff.mp payloads⟩, heads.imp_left fun head =>
        ⟨head.1, CommandType.name_injective head.2.1, head.2.2⟩⟩
  · rintro ⟨⟨numbers, times, payloads⟩, heads⟩
    have first := (lines_eq_iff a.commandType.newline_not_mem_name
      b.commandType.newline_not_mem_name).mpr (heads.imp_left fun head =>
        ⟨head.1, congrArg _ head.2.1, head.2.2⟩)
    rw [first, numbers, times, Json.write_eq_iff.mpr payloads]

theorem verify_sign {platform : Platform} {command : CommandMessage} {signature : JavaString}
    {hex : isSignature signature = true} : verify platform (command.sign signature hex) = true ↔
      calculateSignatureBytes platform command = parseHex signature :=
  beq_iff_eq

theorem shared_signature {platform : Platform} {a b : CommandMessage}
    (same : calculateSignatureBytes platform a = calculateSignatureBytes platform b) :
    ∃ signature hex, verify platform (a.sign signature hex) = true ∧
      verify platform (b.sign signature hex) = true := by
  refine ⟨formatHex (calculateSignatureBytes platform a),
    isSignature_formatHex (platform.digestLength _), ?_, ?_⟩
  · rw [verify_sign, parseHex_formatHex]
  · rw [verify_sign, parseHex_formatHex, same]

theorem fields_differ {a b : CommandMessage} (confusable : CommandMessage.Confusable a b) :
    ¬CommandMessage.SameFields a b := by
  have longer : ∀ {a b : CommandMessage}, CommandMessage.Resplit a b → a.messageId ≠ b.messageId := by
    rintro a b ⟨lines, split, -⟩ same
    have lengths := congrArg List.length split
    simp only [same, List.length_append, List.length_cons] at lengths
    omega
  intro same
  rcases confusable.2 with resplit | resplit | ⟨-, differ⟩
  · exact longer resplit same.1
  · exact longer resplit same.1.symm
  · rcases differ with id | target | payload
    · exact id same.1
    · exact target same.2.2.1
    · exact payload same.2.2.2.2.2

/-- For any two commands, whether the parser gave them or not: the canonical text and the signature
each determine the signed fields if and only if the commands are not confusable. The digests of
the two texts are taken not to collide. -/
theorem signature_binds_fields (platform : Platform) (a b : CommandMessage)
    (noCollision : calculateSignatureBytes platform a = calculateSignatureBytes platform b →
      JavaString.getBytes (createCanonicalMessage a) =
        JavaString.getBytes (createCanonicalMessage b)) :
    ((createCanonicalMessage a = createCanonicalMessage b → CommandMessage.SameFields a b) ∧
      ∀ signature hex, verify platform (a.sign signature hex) = true →
        verify platform (b.sign signature hex) = true → CommandMessage.SameFields a b) ↔
    ¬CommandMessage.Confusable a b := by
  have bytes := canonical_bytes_iff a b
  constructor
  · rintro ⟨-, bound⟩ confusable
    have same := bytes.mpr ⟨confusable.1, confusable.2.elim
      (fun resplit => .inr (.inl resplit)) (Or.elim · (fun resplit => .inr (.inr resplit))
        fun head => .inl head.1)⟩
    obtain ⟨signature, hex, validA, validB⟩ := @shared_signature platform a b
      (congrArg platform.hmacSha256 same)
    exact fields_differ confusable (bound signature hex validA validB)
  · intro clear
    have fields : JavaString.getBytes (createCanonicalMessage a) =
        JavaString.getBytes (createCanonicalMessage b) → CommandMessage.SameFields a b := by
      intro same
      obtain ⟨tail, heads⟩ := bytes.mp same
      by_contra differ
      refine clear ⟨tail, ?_⟩
      rcases heads with head | resplit
      · refine .inr (.inr ⟨head, ?_⟩)
        by_contra equal
        simp only [not_or, not_not] at equal
        exact differ ⟨equal.1, head.2.1, equal.2.1, tail.1, tail.2.1, equal.2.2⟩
      · exact resplit.imp_right .inl
    constructor
    · exact fun same => fields (congrArg _ same)
    · intro signature hex validA validB
      exact fields (noCollision ((verify_sign.mp validA).trans (verify_sign.mp validB).symm))

def splitDigest : List UInt8 :=
  [0x52, 0x3b, 0xc9, 0x0e, 0x06, 0x11, 0xc9, 0xbb, 0x74, 0x81, 0x4d, 0xd8, 0x53, 0xb5, 0xa0,
    0xa8, 0x48, 0x58, 0xe1, 0xbf, 0x10, 0x17, 0x73, 0x0b, 0xa0, 0x09, 0xd4, 0x74, 0x40, 0x11,
    0x98, 0x4a]

def splitTree (messageId targetId : String) : Json :=
  .object [(.ofString "message_id", .text (.ofString messageId)),
    (.ofString "command_type", .text (.ofString "START_SYSTEM")),
    (.ofString "target_id", .text (.ofString targetId)),
    (.ofString "sequence_number", .integer 1),
    (.ofString "timestamp", .text (.ofString "2026-01-01T00:00:00Z")),
    (.ofString "payload", .object []), (.ofString "signature", .text (formatHex splitDigest))]

def earlyTree : Json := splitTree "a" "b\nSTART_SYSTEM\nc"

def lateTree : Json := splitTree "a\nSTART_SYSTEM\nb" "c"

def splitCanonical : JavaString :=
  JavaString.join 10 [.ofString "a", .ofString "START_SYSTEM", .ofString "b",
    .ofString "START_SYSTEM", .ofString "c", [49], .ofString "2026-01-01T00:00:00Z", [123, 125]]

def splitPlatform : Platform :=
  .ofTables [(earlyTree.write, earlyTree), (lateTree.write, lateTree)]
    [(JavaString.getBytes splitCanonical, splitDigest)]

def splitCommand (messageId targetId : String)
    (idTrimmed : JavaString.trim (.ofString messageId) = .ofString messageId)
    (targetTrimmed : JavaString.trim (.ofString targetId) = .ofString targetId) : CommandMessage where
  messageId := .ofString messageId
  commandType := .startSystem
  targetId := .ofString targetId
  sequenceNumber := 1
  timestamp := newYear
  payload := []
  signature := formatHex splitDigest
  messageIdTrimmed := idTrimmed
  targetIdTrimmed := targetTrimmed
  sequenceNumberRange := firstNumber_range
  payloadSorted := noEntries_sorted
  signatureHex := by decide

def earlyCommand : CommandMessage :=
  splitCommand "a" "b\nSTART_SYSTEM\nc" (by decide) (by decide)

def lateCommand : CommandMessage :=
  splitCommand "a\nSTART_SYSTEM\nb" "c" (by decide) (by decide)

set_option maxRecDepth 50000 in
/-- Both lines are accepted, with one signature that is valid for both commands. -/
theorem signature_shared :
    CommandMessageParser.parse splitPlatform.readTree earlyTree.write = .ok earlyCommand ∧
      CommandMessageParser.parse splitPlatform.readTree lateTree.write = .ok lateCommand ∧
      createCanonicalMessage earlyCommand = createCanonicalMessage lateCommand ∧
      earlyCommand.signature = lateCommand.signature ∧
      verify splitPlatform earlyCommand = true ∧ verify splitPlatform lateCommand = true ∧
      ¬CommandMessage.SameFields earlyCommand lateCommand := by
  refine ⟨by rfl, by rfl, by decide +kernel, rfl, by decide +kernel, by decide +kernel, ?_⟩
  intro same
  exact absurd same.1 (by decide)

theorem signature_binds_fields_split :
    createCanonicalMessage earlyCommand = createCanonicalMessage lateCommand ∧
      CommandMessage.Confusable earlyCommand lateCommand := by
  have text : createCanonicalMessage earlyCommand = createCanonicalMessage lateCommand := by
    decide +kernel
  refine ⟨text, ?_⟩
  by_contra clear
  have same := ((signature_binds_fields splitPlatform earlyCommand lateCommand fun _ => by
    rw [text]).mpr clear).1 text
  exact absurd same.1 (by decide)

end MessageAuthenticator

end CareerProjects.CommandControl
