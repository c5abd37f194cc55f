import Mathlib.Data.List.Chain
import Switchboard.Message.Basic
import Switchboard.Proofs.Shape.Reading

set_option autoImplicit false

/- Segments and messages on the wire. A segment is read back from the object that it is on the wire,
and so is every message that can be made: its plain segments are merged already, and reading merges
nothing more. What is read at all is such a message, so to read, write and read again is to read
once. The numbers of a segment are of 64 bits, those of faces of 32. `Segment.Fits` says so. -/

namespace Switchboard

open Shape (Fields text_str)

/-- The numbers of 64 bits with a sign. -/
def FitsInt64 (value : Int) : Prop := -9223372036854775808 ≤ value ∧ value ≤ 9223372036854775807

/-- The numbers of 32 bits with a sign. -/
def FitsInt32 (value : Int) : Prop := -2147483648 ≤ value ∧ value ≤ 2147483647

theorem Shape.int64_eq_ok {value : Json} {result : Int} :
    Shape.int64 value = .ok result ↔ value = .int result ∧ FitsInt64 result :=
  Shape.intBetween_eq_ok

theorem Shape.int32_eq_ok {value : Json} {result : Int} :
    Shape.int32 value = .ok result ↔ value = .int result ∧ FitsInt32 result :=
  Shape.intBetween_eq_ok

theorem Shape.fits_of_int64 (value : Json) (result : Int) (read : Shape.int64 value = .ok result) :
    FitsInt64 result :=
  (Shape.int64_eq_ok.mp read).2

theorem Shape.fits_of_int32 (value : Json) (result : Int) (read : Shape.int32 value = .ok result) :
    FitsInt32 result :=
  (Shape.int32_eq_ok.mp read).2

theorem Shape.int64_int {value : Int} (fits : FitsInt64 value) :
    Shape.int64 (.int value) = .ok value :=
  Shape.int64_eq_ok.mpr ⟨rfl, fits⟩

theorem Shape.int32_int {value : Int} (fits : FitsInt32 value) :
    Shape.int32 (.int value) = .ok value :=
  Shape.int32_eq_ok.mpr ⟨rfl, fits⟩

theorem Shape.fits_of_wrapped {α : Type} {wrap : Int → α} {number : α → Int}
    (own : ∀ value, number (wrap value) = value) (value : Json) (result : α)
    (read : wrap <$> Shape.int64 value = .ok result) : FitsInt64 (number result) := by
  cases shown : Shape.int64 value with
  | error fault =>
    rw [shown] at read
    cases read
  | ok found =>
    rw [shown] at read
    cases read
    rw [own]
    exact Shape.fits_of_int64 value found shown

theorem MessageId.fits (value : Json) (id : MessageId) (read : MessageId.decode value = .ok id) :
    FitsInt64 id.number :=
  Shape.fits_of_wrapped (fun _ => rfl) value id read

theorem UserId.fits (value : Json) (id : UserId) (read : UserId.decode value = .ok id) :
    FitsInt64 id.number :=
  Shape.fits_of_wrapped (fun _ => rfl) value id read

theorem GroupId.fits (value : Json) (id : GroupId) (read : GroupId.decode value = .ok id) :
    FitsInt64 id.number :=
  Shape.fits_of_wrapped (fun _ => rfl) value id read

theorem MessageId.decode_encode {id : MessageId} (fits : FitsInt64 id.number) :
    MessageId.decode id.encode = .ok id := by
  rw [decode, encode, Shape.int64_int fits]
  rfl

theorem UserId.decode_encode {id : UserId} (fits : FitsInt64 id.number) :
    UserId.decode id.encode = .ok id := by
  rw [decode, encode, Shape.int64_int fits]
  rfl

theorem GroupId.decode_encode {id : GroupId} (fits : FitsInt64 id.number) :
    GroupId.decode id.encode = .ok id := by
  rw [decode, encode, Shape.int64_int fits]
  rfl

namespace Segment

mutual

/-- The numbers of the segment, and of those it quotes, are in their ranges. -/
def Fits : Segment → Prop
  | .source id time => FitsInt64 id.number ∧ FitsInt64 time
  | .quote id groupId senderId targetId origin =>
    FitsInt64 id.number ∧ FitsInt64 groupId.number ∧ FitsInt64 senderId.number ∧
      FitsInt64 targetId ∧ AllFit origin
  | .mention target _ => FitsInt64 target.number
  | .face faceId _ => ∀ id ∈ faceId, FitsInt32 id
  | _ => True

/-- The numbers of all segments are in their ranges. -/
def AllFit : List Segment → Prop
  | [] => True
  | segment :: segments => Fits segment ∧ AllFit segments

end

theorem allFit_iff {segments : List Segment} :
    AllFit segments ↔ ∀ segment ∈ segments, segment.Fits := by
  induction segments with
  | nil => exact iff_of_true trivial fun _ member => nomatch member
  | cons segment segments ih => rw [AllFit, ih, List.forall_mem_cons]

theorem fits_of_body {decodeOrigin : Shape.Decoder (List Segment)}
    (origins : ∀ value segments, decodeOrigin value = .ok segments → AllFit segments) {tag : Tag}
    {body : Json} {segment : Segment} (read : ofBody decodeOrigin tag body = .ok segment) :
    segment.Fits := by
  have anything : ∀ value text, Shape.text value = .ok text → True := fun _ _ _ => trivial
  have zero : FitsInt64 0 := by simp [FitsInt64]
  cases tag with
  | source =>
    refine Shape.record_all ?_ read
    exact .both (.map (.required MessageId.fits) fun _ number _ time => ⟨number, time⟩)
      (.required Shape.fits_of_int64)
  | quote =>
    refine Shape.record_all ?_ read
    exact .both (.both (.both (.both (.map (.required MessageId.fits)
      fun _ number _ group _ sender _ target _ quoted => ⟨number, group, sender, target, quoted⟩)
      (.defaulted GroupId.fits zero)) (.required UserId.fits))
      (.defaulted Shape.fits_of_int64 zero)) (.defaulted origins trivial)
  | mention =>
    refine Shape.record_all ?_ read
    exact .both (.map (.required UserId.fits) fun _ number _ _ => number)
      (.defaulted anything trivial)
  | face =>
    refine Shape.record_all ?_ read
    exact .both (.map (.optional Shape.fits_of_int32) fun _ number _ _ => number)
      (.optional anything)
  | mentionAll | unknown =>
    simp only [ofBody] at read
    split at read <;> cases read
    trivial
  | image | flashImage =>
    simp only [ofBody] at read
    cases shown : ImageRef.decode .buffered body <;> rw [shown] at read <;> cases read
    trivial
  | plain | xml | json | app | poke =>
    refine Shape.record_all ?_ read
    exact .map (.required anything) fun _ _ => trivial
  | voice =>
    refine Shape.record_all ?_ read
    exact .both (.both (.map (.optional anything) fun _ _ _ _ _ _ => trivial)
      (.optional anything)) (.optional anything)

theorem body_of_decodeWithin {depth : Nat} {medium : Shape.Medium} {value : Json}
    {segment : Segment} (read : decodeWithin (depth + 1) medium value = .ok segment) :
    ∃ tag body, ofBody (Shape.list (decodeWithin depth .buffered)) tag body = .ok segment := by
  have chosen : ∀ {mark body : Json},
      (Tag.decode medium mark >>= fun tag =>
        ofBody (Shape.list (decodeWithin depth .buffered)) tag body) = .ok segment →
      ∃ tag body, ofBody (Shape.list (decodeWithin depth .buffered)) tag body = .ok segment := by
    intro mark body read
    cases found : Tag.decode medium mark with
    | error fault =>
      rw [found] at read
      cases read
    | ok tag =>
      rw [found] at read
      exact ⟨tag, body, read⟩
  cases value with
  | object members =>
    simp only [decodeWithin] at read
    split at read
    · cases read
    · exact chosen read
  | array items =>
    cases items with
    | nil => cases read
    | cons mark items => exact chosen read
  | _ => cases read

theorem fits_of_decodeWithin {depth : Nat} {medium : Shape.Medium} {value : Json}
    {segment : Segment} (read : decodeWithin depth medium value = .ok segment) : segment.Fits := by
  induction depth generalizing medium value segment with
  | zero => cases read
  | succ depth ih =>
    obtain ⟨tag, body, read⟩ := body_of_decodeWithin read
    refine fits_of_body (fun value segments shown => ?_) read
    exact allFit_iff.mpr (Shape.list_all (fun _ _ inner => ih inner) shown)

def members : Segment → List (String × Option Json)
  | .source id time =>
    [("type", some (.str "Source")), ("id", some id.encode), ("time", some (.int time))]
  | .quote id groupId senderId targetId origin =>
    [("type", some (.str "Quote")), ("id", some id.encode), ("groupId", some groupId.encode),
      ("senderId", some senderId.encode), ("targetId", some (.int targetId)),
      ("origin", some (.array (encodeAll origin)))]
  | .mention target display =>
    [("type", some (.str "At")), ("target", some target.encode), ("display", some (.str display))]
  | .mentionAll => [("type", some (.str "AtAll"))]
  | .face faceId name =>
    [("type", some (.str "Face")), ("faceId", faceId.map .int), ("name", name.map .str)]
  | .plain text => [("type", some (.str "Plain")), ("text", some (.str text))]
  | .image ref => ("type", some (.str "Image")) :: ref.members
  | .flashImage ref => ("type", some (.str "FlashImage")) :: ref.members
  | .voice voiceId url path =>
    [("type", some (.str "Voice")), ("voiceId", voiceId.map .str), ("url", url.map .str),
      ("path", path.map .str)]
  | .xml content => [("type", some (.str "Xml")), ("xml", some (.str content))]
  | .json content => [("type", some (.str "Json")), ("json", some (.str content))]
  | .app content => [("type", some (.str "App")), ("content", some (.str content))]
  | .poke name => [("type", some (.str "Poke")), ("name", some (.str name))]
  | .unknown => [("type", some (.str "Unknown"))]

def tag : Segment → Tag
  | .source .. => .source
  | .quote .. => .quote
  | .mention .. => .mention
  | .mentionAll => .mentionAll
  | .face .. => .face
  | .plain _ => .plain
  | .image _ => .image
  | .flashImage _ => .flashImage
  | .voice .. => .voice
  | .xml _ => .xml
  | .json _ => .json
  | .app _ => .app
  | .poke _ => .poke
  | .unknown => .unknown

theorem Tag.ofName_name (tag : Tag) : Tag.ofName tag.name = tag := by
  cases tag <;> decide

variable (segment : Segment)

theorem encode_eq : segment.encode = .object (Json.presentMembers segment.members) := by
  cases segment <;> rfl

theorem members_distinct : (segment.members.map Prod.fst).Nodup := by
  cases segment <;> simp [members, ImageRef.members]

theorem lookup_members (key : String) :
    Json.lookup key (Json.presentMembers segment.members) = Json.present? key segment.members :=
  Json.lookup_presentMembers key segment.members_distinct

theorem present?_type : Json.present? "type" segment.members = some (.str segment.tag.name) := by
  cases segment <;> rfl

theorem decodeWithin_of_body {depth : Nat} {medium : Shape.Medium}
    (read : ofBody (Shape.list (decodeWithin depth .buffered)) segment.tag segment.encode =
      .ok segment) :
    decodeWithin (depth + 1) medium segment.encode = .ok segment := by
  rw [encode_eq] at read ⊢
  simp only [decodeWithin, lookup_members, present?_type, Tag.decode, Tag.ofName_name]
  exact read

theorem body_of_encode {decodeOrigin : Shape.Decoder (List Segment)} (fits : segment.Fits)
    (origins : ∀ id groupId senderId targetId origin,
      segment = .quote id groupId senderId targetId origin →
        decodeOrigin (.array (encodeAll origin)) = .ok origin) :
    ofBody decodeOrigin segment.tag segment.encode = .ok segment := by
  have shown := segment.lookup_members
  rw [encode_eq]
  generalize Json.presentMembers segment.members = held at shown
  have texts : ∀ {option : Option String}, ∀ text ∈ option,
      Shape.text (.str text) = .ok text ∧ Json.str text ≠ .null := fun text _ => ⟨rfl, nofun⟩
  cases segment with
  | mentionAll | unknown => rfl
  | source id time =>
    refine Shape.recordOfMembers_ok ?_
    simp only [Fields.fromMembers_seq, Fields.fromMembers_map,
      Fields.fromMembers_required (shown "id") (MessageId.decode_encode fits.1),
      Fields.fromMembers_required (shown "time") (Shape.int64_int fits.2), Shape.combine_ok]
  | quote id groupId senderId targetId origin =>
    obtain ⟨number, group, sender, target, quoted⟩ := fits
    refine Shape.recordOfMembers_ok ?_
    simp only [Fields.fromMembers_seq, Fields.fromMembers_map,
      Fields.fromMembers_required (shown "id") (MessageId.decode_encode number),
      Fields.fromMembers_defaulted (shown "groupId") (GroupId.decode_encode group),
      Fields.fromMembers_required (shown "senderId") (UserId.decode_encode sender),
      Fields.fromMembers_defaulted (shown "targetId") (Shape.int64_int target),
      Fields.fromMembers_defaulted (shown "origin") (origins _ _ _ _ _ rfl), Shape.combine_ok]
  | mention target display =>
    refine Shape.recordOfMembers_ok ?_
    simp only [Fields.fromMembers_seq, Fields.fromMembers_map,
      Fields.fromMembers_required (shown "target") (UserId.decode_encode fits),
      Fields.fromMembers_defaulted (shown "display") (text_str display), Shape.combine_ok]
  | face faceId name =>
    refine Shape.recordOfMembers_ok ?_
    simp only [Fields.fromMembers_seq, Fields.fromMembers_map,
      Fields.fromMembers_optional (shown "faceId") fun id member =>
        ⟨Shape.int32_int (fits id member), nofun⟩,
      Fields.fromMembers_optional (shown "name") texts, Shape.combine_ok]
  | voice voiceId url path =>
    refine Shape.recordOfMembers_ok ?_
    simp only [Fields.fromMembers_seq, Fields.fromMembers_map,
      Fields.fromMembers_optional (shown "voiceId") texts,
      Fields.fromMembers_optional (shown "url") texts,
      Fields.fromMembers_optional (shown "path") texts, Shape.combine_ok]
  | image ref | flashImage ref =>
    have imageId : Json.lookup "imageId" held = ref.imageId.map .str := shown "imageId"
    have url : Json.lookup "url" held = ref.url.map .str := shown "url"
    have path : Json.lookup "path" held = ref.path.map .str := shown "path"
    have read : ImageRef.decode .buffered (.object held) = .ok ref := by
      refine Shape.recordOfMembers_ok ?_
      simp only [ImageRef.fields, Fields.fromMembers_seq, Fields.fromMembers_map,
        Fields.fromMembers_optional imageId texts, Fields.fromMembers_optional url texts,
        Fields.fromMembers_optional path texts, Shape.combine_ok]
    simp only [tag, ofBody, read]
    rfl
  | plain text =>
    refine Shape.recordOfMembers_ok ?_
    simp only [Fields.fromMembers_map, Fields.fromMembers_required (shown "text") (text_str text),
      Shape.combine_ok]
  | xml content =>
    refine Shape.recordOfMembers_ok ?_
    simp only [Fields.fromMembers_map, Fields.fromMembers_required (shown "xml") (text_str content),
      Shape.combine_ok]
  | json content =>
    refine Shape.recordOfMembers_ok ?_
    simp only [Fields.fromMembers_map,
      Fields.fromMembers_required (shown "json") (text_str content), Shape.combine_ok]
  | app content =>
    refine Shape.recordOfMembers_ok ?_
    simp only [Fields.fromMembers_map,
      Fields.fromMembers_required (shown "content") (text_str content), Shape.combine_ok]
  | poke name =>
    refine Shape.recordOfMembers_ok ?_
    simp only [Fields.fromMembers_map, Fields.fromMembers_required (shown "name") (text_str name),
      Shape.combine_ok]

theorem depth_le_of_lookup {key : String} {members : List (String × Json)} {value : Json}
    (found : Json.lookup key members = some value) : value.depth ≤ Json.depthOfMembers members := by
  induction members with
  | nil => cases found
  | cons head rest ih =>
    obtain ⟨other, held⟩ := head
    rw [Json.depthOfMembers]
    by_cases same : key = other
    · rw [Json.lookup, if_pos same] at found
      cases found
      exact Nat.le_max_left _ _
    · rw [Json.lookup, if_neg same] at found
      exact Nat.le_trans (ih found) (Nat.le_max_right _ _)

theorem depth_le_of_mem {items : List Json} {item : Json} (listed : item ∈ items) :
    item.depth ≤ Json.depthOfItems items := by
  induction items with
  | nil => cases listed
  | cons first items ih =>
    rw [Json.depthOfItems]
    rcases List.mem_cons.mp listed with rfl | later
    · exact Nat.le_max_left _ _
    · exact Nat.le_trans (ih later) (Nat.le_max_right _ _)

theorem depth_of_origin (id : MessageId) (groupId : GroupId) (senderId : UserId) (targetId : Int)
    (origin : List Segment) : Json.depthOfItems (encodeAll origin) + 2 ≤
      (encode (.quote id groupId senderId targetId origin)).depth := by
  rw [encode_eq, Json.depth]
  have inside := depth_le_of_lookup (lookup_members (.quote id groupId senderId targetId origin)
    "origin" : _ = some (.array (encodeAll origin)))
  rw [Json.depth] at inside
  omega

mutual

theorem decodeWithin_encode (segment : Segment) {depth : Nat} {medium : Shape.Medium}
    (fits : segment.Fits) (deep : segment.encode.depth < depth) :
    decodeWithin depth medium segment.encode = .ok segment := by
  obtain ⟨depth, rfl⟩ : ∃ less, depth = less + 1 := Nat.exists_eq_succ_of_ne_zero (by omega)
  refine decodeWithin_of_body segment (body_of_encode segment fits ?_)
  rintro id groupId senderId targetId origin rfl
  have shallow := depth_of_origin id groupId senderId targetId origin
  exact itemsFrom_encodeAll origin fits.2.2.2.2 (by omega)

theorem itemsFrom_encodeAll (segments : List Segment) {depth position : Nat}
    {medium : Shape.Medium} (fit : AllFit segments)
    (deep : Json.depthOfItems (encodeAll segments) < depth) :
    Shape.itemsFrom (decodeWithin depth medium) position (encodeAll segments) = .ok segments := by
  cases segments with
  | nil => rfl
  | cons segment rest =>
    rw [encodeAll, Json.depthOfItems] at deep
    rw [encodeAll, Shape.itemsFrom, decodeWithin_encode segment fit.1 (by omega),
      itemsFrom_encodeAll rest fit.2 (by omega)]
    rfl

end

theorem decode_encode {segment : Segment} (fits : segment.Fits) :
    decode segment.encode = .ok segment :=
  decodeWithin_encode segment fits (Nat.lt_succ_self _)

theorem list_encodeAll {segments : List Segment} (fit : AllFit segments) :
    Shape.list decode (.array (encodeAll segments)) = .ok segments := by
  rw [Shape.list]
  generalize 0 = position
  induction segments generalizing position with
  | nil => rfl
  | cons segment rest ih =>
    rw [encodeAll, Shape.itemsFrom, decode_encode fit.1, ih fit.2]
    rfl

end Segment

/-- Not both of two segments are texts. -/
def Segment.Apart (first second : Segment) : Prop := first.text? = none ∨ second.text? = none

/-- No two plain segments follow each other. -/
def Merged (segments : List Segment) : Prop := segments.IsChain Segment.Apart

/-- A segment that is appended stands at the end, or it is a text and continues the last one. -/
theorem appendSegment_cases (segments : List Segment) (segment : Segment) :
    ((∀ last ∈ segments.getLast?, last.Apart segment) ∧
      appendSegment segments segment = segments ++ [segment]) ∨
    ∃ front before text, segments = front ++ [.plain before] ∧ segment = .plain text ∧
      appendSegment segments segment = front ++ [.plain (before ++ text)] := by
  fun_induction appendSegment segments segment with
  | case1 segment => exact .inl ⟨fun _ member => (nomatch member), rfl⟩
  | case2 before text => exact .inr ⟨[], before, text, rfl, rfl, rfl⟩
  | case3 last segment other =>
    refine .inl ⟨?_, rfl⟩
    rintro _ ⟨⟩
    cases last with
    | plain before =>
      cases segment with
      | plain text => exact absurd rfl (other before text rfl)
      | _ => exact .inr rfl
    | _ => exact .inl rfl
  | case4 first next rest segment ih =>
    rcases ih with ⟨apart, same⟩ | ⟨front, before, text, split, plain, same⟩
    · refine .inl ⟨?_, by rw [same]; rfl⟩
      rwa [List.getLast?_cons_cons]
    · exact .inr ⟨first :: front, before, text, by rw [split]; rfl, plain, by rw [same]; rfl⟩

theorem merged_concat {segments : List Segment} {segment : Segment} :
    Merged (segments ++ [segment]) ↔
      Merged segments ∧ ∀ last ∈ segments.getLast?, last.Apart segment := by
  simp only [Merged, List.isChain_append, List.head?_cons, Option.mem_some_iff, forall_eq',
    List.isChain_singleton, true_and]

theorem Segment.Apart.plain {last : Segment} {before : String}
    (apart : last.Apart (.plain before)) (text : String) : last.Apart (.plain text) := by
  rcases apart with none_last | none_text
  · exact .inl none_last
  · cases none_text

theorem merged_append (segments : List Segment) (segment : Segment) (merged : Merged segments) :
    Merged (appendSegment segments segment) := by
  rcases appendSegment_cases segments segment with
    ⟨apart, same⟩ | ⟨front, before, text, rfl, rfl, same⟩
  · rw [same]
    exact merged_concat.mpr ⟨merged, apart⟩
  · rw [same]
    obtain ⟨front_merged, apart⟩ := merged_concat.mp merged
    exact merged_concat.mpr ⟨front_merged, fun last member => (apart last member).plain _⟩

theorem appendSegment_of_merged {segments : List Segment} {segment : Segment}
    (merged : Merged (segments ++ [segment])) :
    appendSegment segments segment = segments ++ [segment] := by
  rcases appendSegment_cases segments segment with ⟨-, same⟩ | ⟨front, before, text, rfl, rfl, -⟩
  · exact same
  · have apart := (merged_concat.mp merged).2 (.plain before) List.getLast?_concat
    rcases apart with nothing | nothing <;> cases nothing

theorem allFit_append (segments : List Segment) (segment : Segment)
    (fit : Segment.AllFit segments) (fits : segment.Fits) :
    Segment.AllFit (appendSegment segments segment) := by
  rw [Segment.allFit_iff] at fit ⊢
  rcases appendSegment_cases segments segment with ⟨-, same⟩ | ⟨front, before, text, rfl, rfl, same⟩
  · rw [same]
    exact List.forall_mem_append.mpr ⟨fit, List.forall_mem_singleton.mpr fits⟩
  · rw [same]
    exact List.forall_mem_append.mpr ⟨(List.forall_mem_append.mp fit).1,
      List.forall_mem_singleton.mpr trivial⟩

namespace Message

/-- What is true of every message: its plain segments are merged and its numbers in their ranges. -/
structure Proper (message : Message) : Prop where
  merged : Merged message.segments
  fit : Segment.AllFit message.segments

theorem proper_empty : empty.Proper := ⟨List.IsChain.nil, trivial⟩

namespace Proper

variable {message : Message}

theorem push (proper : message.Proper) {segment : Segment} (fits : segment.Fits) :
    (message.push segment).Proper :=
  ⟨merged_append _ _ proper.merged, allFit_append _ _ proper.fit fits⟩

theorem extend (proper : message.Proper) {segments : List Segment}
    (fit : ∀ segment ∈ segments, segment.Fits) : (message.extend segments).Proper := by
  induction segments generalizing message with
  | nil => exact proper
  | cons segment rest ih =>
    exact ih (proper.push (fit segment List.mem_cons_self)) fun later member =>
      fit later (List.mem_cons_of_mem _ member)

end Proper

/-- The messages that can be made. -/
inductive Built : Message → Prop
  | empty : Built .empty
  | ofText (text : String) : Built (.ofText text)
  | ofSegments (segments : List Segment) (fit : ∀ segment ∈ segments, segment.Fits) :
      Built (.ofSegments segments)
  | push (message : Message) (segment : Segment) (built : Built message) (fits : segment.Fits) :
      Built (message.push segment)
  | extend (message : Message) (segments : List Segment) (built : Built message)
      (fit : ∀ segment ∈ segments, segment.Fits) : Built (message.extend segments)
  | plain (message : Message) (text : String) (built : Built message) : Built (message.plain text)
  | mention (message : Message) (target : UserId) (built : Built message)
      (fits : FitsInt64 target.number) : Built (message.mention target)
  | mentionAll (message : Message) (built : Built message) : Built message.mentionAll
  | image (message : Message) (ref : ImageRef) (built : Built message) : Built (message.image ref)
  | decoded (value : Json) (message : Message) (read : decode value = .ok message) : Built message
  /-- The content of a chain is a message. -/
  | content (chain : Message) (built : Built chain) :
      Built (ReceivedMessage.ofMessage chain).content
  /-- What a chain quotes is a message. -/
  | origin (chain : Message) (quoted : QuotedMessage) (built : Built chain)
      (quotes : (ReceivedMessage.ofMessage chain).quote = some quoted) : Built quoted.origin

theorem proper_parts {chain : Message} (proper : chain.Proper) :
    (ReceivedMessage.ofMessage chain).content.Proper ∧
      ∀ quoted ∈ (ReceivedMessage.ofMessage chain).quote, quoted.origin.Proper := by
  have parts : ∀ (segments : List Segment) (received : ReceivedMessage),
      Segment.AllFit segments → received.content.Proper →
      (∀ quoted ∈ received.quote, quoted.origin.Proper) →
      (segments.foldl ReceivedMessage.receive received).content.Proper ∧
        ∀ quoted ∈ (segments.foldl ReceivedMessage.receive received).quote,
          quoted.origin.Proper := by
    intro segments
    induction segments with
    | nil => exact fun _ _ content quoted => ⟨content, quoted⟩
    | cons segment rest ih =>
      intro received fit content quoted
      cases segment with
      | source id time => exact ih _ fit.2 content quoted
      | quote id groupId senderId targetId origin =>
        refine ih _ fit.2 content ?_
        rintro _ ⟨⟩
        exact proper_empty.extend (Segment.allFit_iff.mp fit.1.2.2.2.2)
      | _ => exact ih _ fit.2 (content.push fit.1) quoted
  exact parts _ _ proper.fit proper_empty fun _ member => nomatch member

theorem proper_of_decode {value : Json} {message : Message} (read : decode value = .ok message) :
    message.Proper := by
  rw [decode] at read
  cases shown : Shape.list Segment.decode value with
  | error fault =>
    rw [shown] at read
    cases read
  | ok segments =>
    rw [shown] at read
    cases read
    exact proper_empty.extend
      (Shape.list_all (fun _ _ inner => Segment.fits_of_decodeWithin inner) shown)

theorem Built.proper {message : Message} (built : Built message) : message.Proper := by
  induction built with
  | empty => exact proper_empty
  | ofText text => exact proper_empty.push trivial
  | ofSegments segments fit => exact proper_empty.extend fit
  | push message segment built fits ih => exact ih.push fits
  | extend message segments built fit ih => exact ih.extend fit
  | plain message text built ih => exact ih.push trivial
  | mention message target built fits ih => exact ih.push fits
  | mentionAll message built ih => exact ih.push trivial
  | image message ref built ih => exact ih.push trivial
  | decoded value message read => exact proper_of_decode read
  | content chain built ih => exact (proper_parts ih).1
  | origin chain quoted built quotes ih => exact (proper_parts ih).2 quoted quotes

theorem extend_of_merged (front : List Segment) {segments : List Segment}
    (merged : Merged (front ++ segments)) :
    (Message.mk front).extend segments = ⟨front ++ segments⟩ := by
  induction segments generalizing front with
  | nil => rw [List.append_nil]; rfl
  | cons segment rest ih =>
    rw [List.append_cons] at merged ⊢
    have first : Merged (front ++ [segment]) := List.IsChain.left_of_append merged
    rw [← ih _ merged, ← appendSegment_of_merged first]
    rfl

theorem Proper.decode_encode {message : Message} (proper : message.Proper) :
    decode message.encode = .ok message := by
  rw [decode, encode, Segment.list_encodeAll proper.fit]
  exact congrArg Except.ok (extend_of_merged [] proper.merged)

end Message

theorem Segment.Tag.ofName_of_others {name : String} (others : ∀ tag : Tag, tag.name ≠ name) :
    Tag.ofName name = .unknown := by
  have unnamed : (Tag.names.find? fun entry => entry.1 = name) = none := by
    have names : ∀ entry ∈ Tag.names, entry.2.name = entry.1 := by decide
    refine List.find?_eq_none.mpr fun entry member => ?_
    rw [decide_eq_true_eq]
    exact fun same => others entry.2 ((names entry member).trans same)
  rw [Tag.ofName, unnamed]

/-- A segment of a kind that is not modelled is read as such, whatever else it holds. -/
theorem Segment.decode_of_others {members : List (String × Json)} {name : String}
    (named : Json.lookup "type" members = some (.str name))
    (others : ∀ tag : Tag, tag.name ≠ name) : decode (.object members) = .ok .unknown := by
  simp only [decode, decodeWithin, named, Tag.decode, Tag.ofName_of_others others]
  rfl

/-- Segments and messages survive the wire: a segment is read back as it was, whatever it quotes and
whichever of its options are set, and so is every message that can be made. What is read at all is
read again from what it is written as. In it no two texts follow each other, and segments of kinds
that are not modelled were read as unknown ones. -/
theorem survives_wire :
    (∀ segment : Segment, segment.Fits → Segment.decode segment.encode = .ok segment) ∧
    (∀ message : Message, message.Built → Message.decode message.encode = .ok message) ∧
    (∀ value message, Message.decode value = .ok message →
      Message.decode message.encode = .ok message ∧ Merged message.segments) ∧
    ∀ members name, Json.lookup "type" members = some (.str name) →
      (∀ tag : Segment.Tag, tag.name ≠ name) →
        Segment.decode (.object members) = .ok .unknown := by
  refine ⟨fun segment fits => Segment.decode_encode fits,
    fun message built => built.proper.decode_encode, ?_,
    fun members name named others => Segment.decode_of_others named others⟩
  intro value message read
  have proper := Message.proper_of_decode read
  exact ⟨proper.decode_encode, proper.merged⟩

/-- An answer to an answer to a picture: quotes within quotes, with options set and unset. -/
def nestedQuote : Segment :=
  .quote ⟨-3⟩ ⟨9223372036854775807⟩ ⟨5⟩ 0
    [.source ⟨2⟩ 1600000000, .quote ⟨1⟩ ⟨0⟩ ⟨7⟩ 7 [.image (.ofUrl "u"), .face (some 178) none],
      .plain "a", .plain "b"]

def looseChain : Json :=
  .array [.ofMembers [("type", .str "Plain"), ("text", .str "a")],
    .ofMembers [("type", .str "Plain"), ("text", .str "b")],
    .ofMembers [("type", .str "MarketFace"), ("id", .int 1)]]

/-- The quote survives, also in a message, and the chain is read as two segments that survive. -/
theorem nested_quote_survives :
    (nestedQuote.Fits ∧ Segment.decode nestedQuote.encode = .ok nestedQuote) ∧
    (((Message.ofText "x").push nestedQuote).Built ∧
      Message.decode ((Message.ofText "x").push nestedQuote).encode =
        .ok ((Message.ofText "x").push nestedQuote)) ∧
    (Message.decode looseChain = .ok ⟨[.plain ("a" ++ "b"), .unknown]⟩ ∧
      Message.decode (Message.mk [.plain ("a" ++ "b"), .unknown]).encode =
        .ok ⟨[.plain ("a" ++ "b"), .unknown]⟩) ∧
    Segment.decode (.object [("id", .int 1), ("type", .str "MarketFace")]) = .ok .unknown := by
  obtain ⟨segments, messages, chains, others⟩ := survives_wire
  have fits : nestedQuote.Fits := by
    simp [nestedQuote, Segment.Fits, Segment.AllFit, FitsInt64, FitsInt32]
  have built := Message.Built.push _ nestedQuote (.ofText "x") fits
  have read : Message.decode looseChain = .ok ⟨[.plain ("a" ++ "b"), .unknown]⟩ := by rfl
  exact ⟨⟨fits, segments _ fits⟩, ⟨built, messages _ built⟩, ⟨read, (chains _ _ read).1⟩,
    others _ "MarketFace" rfl (by intro tag; cases tag <;> decide)⟩

end Switchboard
