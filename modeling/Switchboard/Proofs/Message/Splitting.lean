import Mathlib.Logic.Relation
import Switchboard.Proofs.Message.NormalForm
import Switchboard.Waiter.Pattern

set_option autoImplicit false

namespace Switchboard

namespace Segment

def source? : Segment → Option MessageSource
  | .source id time => some ⟨id, time⟩
  | _ => none

def quoted? : Segment → Option QuotedMessage
  | .quote id groupId senderId targetId origin =>
    some ⟨id, groupId, senderId, targetId, ⟨normalise origin⟩⟩
  | _ => none

def isContent (segment : Segment) : Bool := segment.source?.isNone && segment.quoted?.isNone

end Segment

def sourceOf (segments : List Segment) : MessageSource :=
  (segments.filterMap Segment.source?).getLast?.getD .absent

def quoteOf (segments : List Segment) : Option QuotedMessage :=
  (segments.filterMap Segment.quoted?).getLast?

/-- What a chain says, apart from identities and quotes. -/
def contentOf (segments : List Segment) : List Segment :=
  normalise (segments.filter Segment.isContent)

theorem sourceOf_concat (segments : List Segment) (segment : Segment) :
    sourceOf (segments ++ [segment]) = segment.source?.getD (sourceOf segments) := by
  unfold sourceOf
  rw [List.filterMap_append, List.getLast?_append]
  cases found : segment.source? <;> simp [found]

theorem quoteOf_concat (segments : List Segment) (segment : Segment) :
    quoteOf (segments ++ [segment]) = segment.quoted?.or (quoteOf segments) := by
  unfold quoteOf
  rw [List.filterMap_append, List.getLast?_append]
  cases found : segment.quoted? <;> simp [found]

theorem contentOf_concat (segments : List Segment) (segment : Segment) :
    contentOf (segments ++ [segment]) =
      if segment.isContent then appendSegment (contentOf segments) segment
      else contentOf segments := by
  unfold contentOf
  rw [List.filter_append]
  by_cases content : segment.isContent
  · rw [if_pos content, List.filter_cons_of_pos content, List.filter_nil, normalise_concat]
  · rw [if_neg content, List.filter_cons_of_neg content, List.filter_nil, List.append_nil]

theorem mem_normalise {segment : Segment} {segments : List Segment}
    (member : segment ∈ normalise segments) : segment ∈ segments ∨ segment.isText := by
  induction segments using List.reverseRecOn with
  | nil =>
    rw [normalise_nil] at member
    cases member
  | append_singleton segments last ih =>
    rw [normalise_concat] at member
    rcases appendSegment_cases (normalise segments) last with
      ⟨-, same⟩ | ⟨front, before, text, split, rfl, same⟩
    · rw [same, List.mem_append] at member
      rcases member with earlier | final
      · exact (ih earlier).imp_left (List.mem_append_left _)
      · exact .inl (List.mem_append_right _ final)
    · rw [same, List.mem_append] at member
      rcases member with earlier | final
      · have held : segment ∈ normalise segments := split ▸ List.mem_append_left _ earlier
        exact (ih held).imp_left (List.mem_append_left _)
      · rw [List.mem_singleton.mp final]
        exact .inr rfl

theorem isContent_of_isText {segment : Segment} (isText : segment.isText) : segment.isContent := by
  cases segment <;> first | rfl | cases isText

theorem isContent_of_mem {segment : Segment} {segments : List Segment}
    (member : segment ∈ contentOf segments) : segment.isContent := by
  rcases mem_normalise member with kept | isText
  · exact List.of_mem_filter kept
  · exact isContent_of_isText isText

theorem textOf_contentOf (segments : List Segment) :
    textOf (contentOf segments) = textOf segments := by
  rw [contentOf, textOf_normalise]
  induction segments with
  | nil => rfl
  | cons segment rest ih =>
    rw [textOf_cons]
    by_cases content : segment.isContent
    · rw [List.filter_cons_of_pos content, textOf_cons, ih]
    · rw [List.filter_cons_of_neg content, ih]
      cases segment with
      | source id time => exact String.empty_append.symm
      | quote id groupId senderId targetId origin => exact String.empty_append.symm
      | _ => exact absurd rfl content

/-- Merging texts does not change the outcome of a fold that takes a text in two portions as it
takes it at once. -/
theorem foldl_normalise {α : Type} {take : α → Segment → α}
    (portions : ∀ value before after,
      take (take value (.plain before)) (.plain after) = take value (.plain (before ++ after)))
    (value : α) (segments : List Segment) :
    (normalise segments).foldl take value = segments.foldl take value := by
  induction segments using List.reverseRecOn with
  | nil => rw [normalise_nil]
  | append_singleton segments segment ih =>
    rw [normalise_concat, List.foldl_append, ← ih]
    rcases appendSegment_cases (normalise segments) segment with
      ⟨-, same⟩ | ⟨front, before, text, split, rfl, same⟩
    · rw [same, List.foldl_append]
    · rw [same, split, List.foldl_append, List.foldl_append]
      exact (portions _ before text).symm

theorem appendSegment_text (front : List Segment) (before after : String) :
    appendSegment (front ++ [.plain before]) (.plain after) =
      front ++ [.plain (before ++ after)] := by
  rcases appendSegment_cases (front ++ [.plain before]) (.plain after) with
    ⟨apart, -⟩ | ⟨others, held, text, split, plain, same⟩
  · rcases apart _ List.getLast?_concat with nothing | nothing <;> cases nothing
  · obtain ⟨rfl, last⟩ := List.append_inj' split rfl
    cases last
    cases plain
    exact same

theorem appendSegment_portions (segments : List Segment) (before after : String) :
    appendSegment (appendSegment segments (.plain before)) (.plain after) =
      appendSegment segments (.plain (before ++ after)) := by
  rcases appendSegment_cases segments (.plain before) with
    ⟨apart, same⟩ | ⟨front, held, text, rfl, plain, same⟩
  · rw [same, appendSegment_text]
    rcases appendSegment_cases segments (.plain (before ++ after)) with
      ⟨-, whole⟩ | ⟨front, held, text, rfl, -, -⟩
    · exact whole.symm
    · rcases apart _ List.getLast?_concat with nothing | nothing <;> cases nothing
  · cases plain
    rw [same, appendSegment_text, appendSegment_text, String.append_assoc]

namespace ReceivedMessage

def ofParts (segments : List Segment) : ReceivedMessage :=
  ⟨sourceOf segments, quoteOf segments, ⟨contentOf segments⟩⟩

theorem receive_ofParts (segments : List Segment) (segment : Segment) :
    (ofParts segments).receive segment = ofParts (segments ++ [segment]) := by
  rw [ofParts, ofParts, sourceOf_concat, quoteOf_concat, contentOf_concat]
  cases segment with
  | quote id groupId senderId targetId origin =>
    rw [receive, Message.ofSegments_eq]
    rfl
  | _ => rfl

theorem foldl_receive (segments : List Segment) :
    segments.foldl receive empty = ofParts segments := by
  induction segments using List.reverseRecOn with
  | nil =>
    rw [List.foldl_nil, ofParts, contentOf, List.filter_nil, normalise_nil]
    rfl
  | append_singleton segments segment ih =>
    rw [List.foldl_append, ih]
    exact receive_ofParts segments segment

theorem receive_portions (message : ReceivedMessage) (before after : String) :
    (message.receive (.plain before)).receive (.plain after) =
      message.receive (.plain (before ++ after)) := by
  simp only [receive, Message.push, appendSegment_portions]

theorem ofMessage_ofSegments (segments : List Segment) :
    ofMessage (.ofSegments segments) = ofParts segments := by
  rw [ofMessage, Message.ofSegments_eq, foldl_normalise receive_portions, foldl_receive]

theorem decode_eq (chain : Json) :
    decode chain = (Shape.list Segment.decode chain).map ofParts := by
  rw [decode, Message.decode]
  cases Shape.list Segment.decode chain with
  | error fault => rfl
  | ok segments => exact congrArg Except.ok (ofMessage_ofSegments segments)

end ReceivedMessage

/-- One text of a chain is cut in two. -/
inductive Cut : List Segment → List Segment → Prop
  | text (front back : List Segment) (before after : String) :
      Cut (front ++ .plain (before ++ after) :: back)
        (front ++ .plain before :: .plain after :: back)

/-- Two chains that are alike but for where their texts are cut. -/
def Recut : List Segment → List Segment → Prop := Relation.EqvGen Cut

theorem Recut.ofParts_eq {segments others : List Segment} (recut : Recut segments others) :
    ReceivedMessage.ofParts segments = ReceivedMessage.ofParts others := by
  induction recut with
  | rel segments others cut =>
    obtain ⟨front, back, before, after⟩ := cut
    rw [← ReceivedMessage.foldl_receive, ← ReceivedMessage.foldl_receive, List.foldl_append,
      List.foldl_append, List.foldl_cons, List.foldl_cons, List.foldl_cons,
      ReceivedMessage.receive_portions]
  | refl segments => rfl
  | symm segments others _ ih => exact ih.symm
  | trans segments middle others _ _ first second => exact first.trans second

namespace Pattern

theorem evaluate_textEq {event : Event} {received : ReceivedMessage}
    (message : event.received? = some received) (text : String) :
    evaluate event (.textEq text) = ([], .ofBool (received.plainText = text)) := by
  rw [evaluate, onMessage, message, Option.any_some]

theorem evaluate_replying {event : Event} {received : ReceivedMessage}
    (message : event.received? = some received) (id : MessageId) :
    evaluate event (.replying id) = ([], .ofBool (received.quote.any (·.id = id))) := by
  rw [evaluate, onMessage, message, Option.any_some]

end Pattern

/-- Splitting a received chain. Its identity is the last one in it, its quote the last quote, with
the texts of what it quotes merged; its content is the normal form of all other segments. The
content holds no identity and no quote, it says what all texts of the chain say, and it is the same
whether texts are merged before the chain is split or not. So patterns on the text and on the quote
of a message have the same answers wherever the texts of its chain are cut. -/
theorem chain_split :
    (∀ chain : Json, ReceivedMessage.decode chain =
      (Shape.list Segment.decode chain).map fun segments =>
        ⟨(segments.filterMap Segment.source?).getLast?.getD .absent,
          (segments.filterMap Segment.quoted?).getLast?,
          ⟨normalise (segments.filter Segment.isContent)⟩⟩) ∧
    (∀ segments : List Segment,
      let received := ReceivedMessage.ofMessage (.ofSegments segments)
      Merged received.content.segments ∧
      (∀ segment ∈ received.content.segments, segment.isContent) ∧
      received = segments.foldl ReceivedMessage.receive .empty ∧
      received.plainText = textOf segments) ∧
    (∀ (event : Event) (segments : List Segment),
      event.received? = some (.ofMessage (.ofSegments segments)) →
      (∀ text, (Pattern.textEq text).evaluate event =
        ([], .ofBool (textOf segments = text))) ∧
      ∀ id, (Pattern.replying id).evaluate event =
        ([], .ofBool ((segments.filterMap Segment.quoted?).getLast?.any (·.id = id)))) ∧
    ∀ segments others : List Segment, Recut segments others →
      ReceivedMessage.ofMessage (.ofSegments segments) =
        ReceivedMessage.ofMessage (.ofSegments others) := by
  refine ⟨ReceivedMessage.decode_eq, ?_, ?_, ?_⟩
  · intro segments
    simp only [ReceivedMessage.ofMessage_ofSegments]
    exact ⟨merged_normalise _, fun segment member => isContent_of_mem member,
      (ReceivedMessage.foldl_receive segments).symm, textOf_contentOf segments⟩
  · intro event segments message
    rw [ReceivedMessage.ofMessage_ofSegments] at message
    refine ⟨fun text => ?_, fun id => Pattern.evaluate_replying message id⟩
    rw [Pattern.evaluate_textEq message]
    exact congrArg (fun said => ([], Verdict.ofBool (decide (said = text))))
      (textOf_contentOf segments)
  · intro segments others recut
    rw [ReceivedMessage.ofMessage_ofSegments, ReceivedMessage.ofMessage_ofSegments]
    exact recut.ofParts_eq

/-- An answer whose text surrounds the quote, with an earlier identity and an earlier quote. -/
def scatteredChain : List Segment :=
  [.source ⟨1⟩ 5, .plain "y", .quote ⟨2⟩ ⟨0⟩ ⟨7⟩ 0 [], .source ⟨3⟩ 9, .plain "e",
    .quote ⟨4⟩ ⟨0⟩ ⟨7⟩ 0 [.plain "re", .plain "ady?"], .plain "s", .mentionAll]

def scatteredAnswer : Event :=
  ⟨.friendMessage, ⟨.ofMessage (.ofSegments scatteredChain), ⟨⟨7⟩, "", ""⟩⟩⟩

/-- The answer says `yes` to the question, and would if its text were cut elsewhere. -/
theorem scattered_chain_split :
    (scatteredAnswer.received? = some (.ofMessage (.ofSegments scatteredChain)) ∧
      (Pattern.textEq "yes").evaluate scatteredAnswer = ([], .accepts) ∧
      (Pattern.replying ⟨4⟩).evaluate scatteredAnswer = ([], .accepts)) ∧
    Recut [.source ⟨3⟩ 9, .plain ("ye" ++ "s")] [.source ⟨3⟩ 9, .plain "ye", .plain "s"] ∧
      ReceivedMessage.ofMessage (.ofSegments [.source ⟨3⟩ 9, .plain ("ye" ++ "s")]) =
        ReceivedMessage.ofMessage (.ofSegments [.source ⟨3⟩ 9, .plain "ye", .plain "s"]) := by
  obtain ⟨-, -, answers, recuts⟩ := chain_split
  have message : scatteredAnswer.received? = some (.ofMessage (.ofSegments scatteredChain)) := rfl
  obtain ⟨texts, quotes⟩ := answers scatteredAnswer scatteredChain message
  have recut : Recut [.source ⟨3⟩ 9, .plain ("ye" ++ "s")]
      [.source ⟨3⟩ 9, .plain "ye", .plain "s"] :=
    .rel _ _ (Cut.text [.source ⟨3⟩ 9] [] "ye" "s")
  exact ⟨⟨message, texts "yes", quotes ⟨4⟩⟩, recut, recuts _ _ recut⟩

end Switchboard
