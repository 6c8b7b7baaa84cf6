import CareerProjects.CommandControl.Messages
import CareerProjects.Library.Throwing

/-! The messages of the parser. All of them are texts of its own, but for the name of an
unknown field and the name of an unsupported command type, which it repeats. -/

namespace CareerProjects.CommandControl
open Library

namespace CommandMessageParser

def missing (fieldName : String) : JavaString :=
  .ofString "Missing required field: " ++ .ofString fieldName

def about (fieldName complaint : String) : JavaString :=
  .ofString "Field '" ++ .ofString fieldName ++ .ofString complaint

def ownMessages : List JavaString :=
  ["message_id", "command_type", "target_id", "timestamp", "signature"].flatMap (fun fieldName =>
    [missing fieldName, about fieldName "' cannot be blank.",
      about fieldName "' must contain text."]) ++
  [missing "sequence_number", about "sequence_number" "' must contain an integer.",
    about "sequence_number" "' exceeds the supported integer range.",
    about "sequence_number" "' must be greater than zero.",
    .ofString "Field 'signature' must contain exactly 64 hexadecimal characters.",
    .ofString "Field 'timestamp' must contain a valid ISO-8601 UTC timestamp.",
    .ofString "Field 'payload' must contain a JSON object.",
    .ofString "Command message cannot be blank.", .ofString "Malformed JSON command message.",
    .ofString "The command message must be a JSON object."] ++
  [.ofString "messageId" ++ .ofString " cannot be blank",
    .ofString "targetId" ++ .ofString " cannot be blank",
    .ofString "signature" ++ .ofString " cannot be blank",
    .ofString "sequenceNumber must be greater than zero",
    .ofString "signature must contain exactly 64 hexadecimal characters"].map
      (.ofString "Command model validation failed: " ++ ·)

/-- A message that repeats input. -/
inductive Repeats (rootNode : List (JavaString × Json)) : JavaString → Prop
  | unknownField (entry : JavaString × Json) (inside : entry ∈ rootNode)
      (unknown : entry.1 ∉ allowedFields) :
      Repeats rootNode (.ofString "Unknown command field: " ++ entry.1)
  | unsupportedType (text : JavaString)
      (read : requireText rootNode "command_type" = .ok text)
      (unsupported : CommandType.valueOf text = none) :
      Repeats rootNode (.ofString "Unsupported command type: " ++ text)

def Explained (rootNode : List (JavaString × Json)) (message : JavaString) : Prop :=
  message ∈ ownMessages ∨ Repeats rootNode message

theorem own {rootNode : List (JavaString × Json)} {message : JavaString}
    (known : message ∈ ownMessages) : Explained rootNode message := .inl known

theorem requireText_failing {rootNode : List (JavaString × Json)} {fieldName : String}
    (listed : fieldName ∈ ["message_id", "command_type", "target_id", "timestamp", "signature"]) :
    Failing (Explained rootNode) (requireText rootNode fieldName) := by
  have texts : ∀ message ∈ [missing fieldName, about fieldName "' cannot be blank.",
      about fieldName "' must contain text."], message ∈ ownMessages := by
    intro message member
    simp only [ownMessages, List.mem_append]
    exact .inl (.inl (List.mem_flatMap.mpr ⟨fieldName, listed, member⟩))
  unfold requireText
  split
  · exact .error (own (texts _ (by simp [missing])))
  · split
    · exact .error (own (texts _ (by simp [about])))
    · exact .ok _
  · exact .error (own (texts _ (by simp [about])))

theorem validateUnknownFields_failing (rootNode : List (JavaString × Json)) :
    Failing (Explained rootNode) (validateUnknownFields rootNode) := by
  unfold validateUnknownFields
  cases found : rootNode.find? (fun entry => !allowedFields.contains entry.1) with
  | none => exact .ok _
  | some entry =>
    have unknown := List.find?_some found
    refine .error (.inr (.unknownField entry (List.mem_of_find?_eq_some found) ?_))
    simpa using unknown

theorem requirePositiveLong_failing (rootNode : List (JavaString × Json)) :
    Failing (Explained rootNode) (requirePositiveLong rootNode "sequence_number") := by
  unfold requirePositiveLong
  split
  · exact .error (own (by simp [ownMessages, missing]))
  · split
    · split
      · exact .error (own (by simp [ownMessages, about]))
      · exact .ok _
    · exact .error (own (by simp [ownMessages, about]))
  · exact .error (own (by simp [ownMessages, about]))

theorem create_failing (rootNode : List (JavaString × Json)) {messageId targetId : JavaString}
    {commandType : CommandType} {sequenceNumber : Int}
    {inLong : sequenceNumber ≤ 9223372036854775807} {timestamp : Instant}
    {payload : List (JavaString × Json)} {sorted : Sorted payload} {signature : JavaString} :
    Failing (fun message => Explained rootNode (.ofString "Command model validation failed: " ++
      message)) (CommandMessage.create messageId commandType targetId sequenceNumber inLong
        timestamp payload sorted signature) := by
  have text : ∀ (value : JavaString) (fieldName : String),
      fieldName ∈ ["messageId", "targetId", "signature"] →
      Failing (fun message => Explained rootNode (.ofString "Command model validation failed: " ++
        message)) (CommandMessage.requireText value fieldName) := by
    intro value fieldName listed
    unfold CommandMessage.requireText
    split
    · refine .error (own ?_)
      simp only [List.mem_cons, List.not_mem_nil, or_false] at listed
      rcases listed with rfl | rfl | rfl <;> simp [ownMessages]
    · exact .ok _
  unfold CommandMessage.create
  refine .bind (text _ _ (by simp)) fun messageId _ => .bind (text _ _ (by simp)) fun targetId _ => ?_
  split
  · refine .bind (text _ _ (by simp)) fun signature _ => ?_
    split
    · exact .ok _
    · exact .error (own (by simp [ownMessages]))
  · exact .error (own (by simp [ownMessages]))

theorem parseRoot_failing (rootNode : List (JavaString × Json)) :
    Failing (Explained rootNode) (parseRoot rootNode) := by
  unfold parseRoot
  refine .bind (validateUnknownFields_failing rootNode) fun _ _ => ?_
  refine .bind (requireText_failing (by simp)) fun messageId _ => ?_
  refine .bind (requireText_failing (by simp)) fun commandTypeText read => ?_
  refine .bind (requireText_failing (by simp)) fun targetId _ => ?_
  refine .bind (requirePositiveLong_failing rootNode) fun sequenceNumber _ => ?_
  refine .bind (requireText_failing (by simp)) fun timestampText _ => ?_
  refine .bind ?_ fun signature _ => .bind ?_ fun commandType _ => .bind ?_ fun timestamp _ =>
    .bind ?_ fun payload _ => ?_
  · refine .bind (requireText_failing (by simp)) fun signature _ => ?_
    simp only
    split
    · exact .ok _
    · exact .error (own (by simp [ownMessages]))
  · unfold parseCommandType
    cases known : CommandType.valueOf commandTypeText with
    | some commandType => exact .ok _
    | none => exact .error (.inr (.unsupportedType commandTypeText read known))
  · unfold parseTimestamp
    split
    · exact .ok _
    · exact .error (own (by simp [ownMessages]))
  · unfold parsePayload
    split
    · exact .ok _
    · exact .ok _
    · exact .error (own (by simp [ownMessages]))
  · have created := @create_failing rootNode messageId targetId commandType sequenceNumber.1
      sequenceNumber.2 timestamp payload.1 payload.2 signature
    cases outcome : CommandMessage.create messageId commandType targetId sequenceNumber.1
      sequenceNumber.2 timestamp payload.1 payload.2 signature with
    | ok command => exact .ok _
    | error message => exact .error (created message outcome)

theorem parse_failing (readTree : JavaString → Option Json) (jsonMessage : JavaString) :
    Failing (fun message => message ∈ ownMessages ∨
      ∃ rootNode, readTree jsonMessage = some (.object rootNode) ∧ Repeats rootNode message)
      (parse readTree jsonMessage) := by
  unfold parse
  split
  · exact .error (.inl (by simp [ownMessages]))
  · cases read : readTree jsonMessage with
    | none => exact .error (.inl (by simp [ownMessages]))
    | some tree =>
      cases tree with
      | object rootNode =>
        intro message failed
        exact (parseRoot_failing rootNode message failed).imp id fun repeats =>
          ⟨rootNode, rfl, repeats⟩
      | _ => exact .error (.inl (by simp [ownMessages]))

theorem ownMessages_texts : ∀ message ∈ ownMessages,
    JavaString.isBlank message = false ∧ JavaString.isEncodable (JavaString.trim message) = true := by
  decide +kernel

/-- No message is blank. -/
theorem parse_message {readTree : JavaString → Option Json} {jsonMessage message : JavaString}
    (failed : parse readTree jsonMessage = .error message) :
    JavaString.isBlank message = false := by
  rcases parse_failing readTree jsonMessage message failed with known | ⟨rootNode, -, repeats⟩
  · exact (ownMessages_texts message known).1
  · cases repeats with
    | unknownField entry inside unknown => exact JavaString.isBlank_append (by decide) _
    | unsupportedType text read unsupported => exact JavaString.isBlank_append (by decide) _

end CommandMessageParser

end CareerProjects.CommandControl
