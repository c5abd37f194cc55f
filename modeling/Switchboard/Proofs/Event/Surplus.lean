import Switchboard.Proofs.Event.Places
import Switchboard.Proofs.Message.Wire

set_option autoImplicit false

namespace Switchboard

open Place (values)
open Shape (Fields MembersAlike RecordsAlike)
open Shape.Fields (Blind)

theorem value_alike {α : Type} (decode : Shape.Decoder α) (value value' : Json)
    (alike : Alike .value value value') : decode value = decode value' :=
  congrArg decode alike.eq_of_value

theorem Friend.decode_alike (value value' : Json) (alike : Alike .friend value value') :
    Friend.decode value = Friend.decode value' := by
  have blind : Friend.fields.Blind Alike Friend.fields (values ["id", "nickname", "remark"]) :=
    ((Blind.map _ (.required (value_alike _))).seq (.defaulted (value_alike _))).seq
      (.defaulted (value_alike _))
  exact Shape.record_alike blind (alike.record fun _ => rfl)

theorem Group.decode_alike (value value' : Json) (alike : Alike .group value value') :
    Group.decode value = Group.decode value' := by
  have blind : Group.fields.Blind Alike Group.fields (values ["id", "name", "permission"]) :=
    ((Blind.map _ (.required (value_alike _))).seq (.defaulted (value_alike _))).seq
      (.required (value_alike _))
  exact Shape.record_alike blind (alike.record fun _ => rfl)

theorem Member.decode_alike (value value' : Json) (alike : Alike .member value value') :
    Member.decode value = Member.decode value' := by
  have blind : Member.fields.Blind Alike Member.fields
      (values ["id", "memberName", "permission"] ++ [("group", .group)]) :=
    (((Blind.map _ (.required (value_alike _))).seq (.defaulted (value_alike _))).seq
      (.required (value_alike _))).seq (.required Group.decode_alike)
  exact Shape.record_alike blind (alike.record fun _ => rfl)

/-- Like values, each less deep than a bound of its own. -/
def AlikeWithin (bound bound' : Nat) (place : Place) (value value' : Json) : Prop :=
  Alike place value value' ∧ value.depth < bound ∧ value'.depth < bound'

namespace Segment

theorem Tag.said_of_decode {medium : Shape.Medium} {mark : Json} {tag : Tag}
    (read : Tag.decode medium mark = .ok tag) : Tag.said mark = tag := by
  cases mark with
  | str name =>
    cases read
    rfl
  | int index =>
    rw [Tag.decode] at read
    split at read
    · next within =>
      cases read
      rw [said, if_pos within.2]
    · cases read
  | _ => cases read

section Body

variable {Like : Place → Json → Json → Prop} {origin origin' : Shape.Decoder (List Segment)}
  {body body' : Json}

theorem ofBody_alike (exactly : ∀ value value', Like .value value value' → value = value')
    (origins : ∀ value value', Like .chain value value' → origin value = origin' value') {tag : Tag}
    (alike : RecordsAlike Like tag.wire body body') :
    ofBody origin tag body = ofBody origin' tag body' := by
  have plain : ∀ {α : Type} (decode : Shape.Decoder α) value value',
      Like .value value value' → decode value = decode value' :=
    fun decode value value' like => congrArg decode (exactly value value' like)
  have unset : ∀ value value', Like .value value value' → (value = .null ↔ value' = .null) :=
    fun value value' like => by rw [exactly value value' like]
  have image : ∀ {body body'}, RecordsAlike Like (values ["imageId", "url", "path"]) body body' →
      ImageRef.decode .buffered body = ImageRef.decode .buffered body' :=
    Shape.record_alike (((Blind.map _ (.optional (plain _) unset)).seq
      (.optional (plain _) unset)).seq (.optional (plain _) unset))
  cases tag with
  | source =>
    exact Shape.record_alike ((Blind.map _ (.required (plain _))).seq (.required (plain _))) alike
  | quote =>
    exact Shape.record_alike (((((Blind.map _ (.required (plain _))).seq (.defaulted (plain _))).seq
      (.required (plain _))).seq (.defaulted (plain _))).seq (.defaulted origins)) alike
  | mention =>
    exact Shape.record_alike ((Blind.map _ (.required (plain _))).seq (.defaulted (plain _))) alike
  | face =>
    exact Shape.record_alike ((Blind.map _ (.optional (plain _) unset)).seq
      (.optional (plain _) unset)) alike
  | plain | xml | json | app | poke =>
    exact Shape.record_alike (.map _ (.required (plain _))) alike
  | image => exact congrArg (Segment.image <$> ·) (image alike)
  | flashImage => exact congrArg (Segment.flashImage <$> ·) (image alike)
  | voice =>
    exact Shape.record_alike (((Blind.map _ (.optional (plain _) unset)).seq
      (.optional (plain _) unset)).seq (.optional (plain _) unset)) alike
  | mentionAll | unknown =>
    -- nothing but the length of an array counts
    cases alike with
    | members => rfl
    | neither => rfl
    | items alike =>
      have length := alike.length
      rcases alike.cases with ⟨rfl, rfl⟩ | ⟨_, _, _, _, rfl, rfl⟩
      · rfl
      · simp only [ofBody, length]

end Body

theorem list_alike {bound bound' : Nat} {decode decode' : Shape.Decoder Segment}
    (each : ∀ value value', AlikeWithin bound bound' .segment value value' →
      decode value = decode' value') (value value' : Json)
    (like : AlikeWithin bound bound' .chain value value') :
    Shape.list decode value = Shape.list decode' value' := by
  obtain ⟨alike, deep, deep'⟩ := like
  cases alike.form with
  | members => rfl
  | items length inside =>
    rw [Json.depth] at deep deep'
    refine Shape.itemsFrom_alike length (fun i item item' found found' => ?_) 0
    have shallow := depth_le_of_mem (List.mem_of_getElem? found)
    have shallow' := depth_le_of_mem (List.mem_of_getElem? found')
    exact each item item' ⟨inside i item item' found found', by omega, by omega⟩
  | neither no_object no_array =>
    cases value with
    | array items => exact absurd rfl (no_array items)
    | _ => rfl

theorem tagged_alike {medium : Shape.Medium} {origin origin' : Shape.Decoder (List Segment)}
    {mark body body' : Json}
    (same : ∀ tag, Tag.said mark = tag → ofBody origin tag body = ofBody origin' tag body') :
    (Tag.decode medium mark >>= fun tag => ofBody origin tag body) =
      Tag.decode medium mark >>= fun tag => ofBody origin' tag body' := by
  cases read : Tag.decode medium mark with
  | error fault => rfl
  | ok tag => exact same tag (Tag.said_of_decode read)

section Step

variable {bound bound' : Nat} {mark : Json} {held held' : List (String × Json)}
  {items items' : List Json}

theorem members_within
    (same : MembersAlike Alike (Place.fields (Json.lookup "type" held) .segment)
      (fun key => Json.lookup key held) fun key => Json.lookup key held')
    (found : Json.lookup "type" held = some mark) (deep : (Json.object held).depth < bound + 1)
    (deep' : (Json.object held').depth < bound' + 1) :
    RecordsAlike (AlikeWithin bound bound') (Tag.said mark).wire (.object held)
      (.object held') := by
  rw [Json.depth] at deep deep'
  rw [found] at same
  refine .members ⟨fun key kind listed => same.absent key kind (.tail _ listed), ?_⟩
  intro key kind value value' listed there there'
  have shallow := depth_le_of_lookup there
  have shallow' := depth_le_of_lookup there'
  exact ⟨same.each key kind value value' (.tail _ listed) there there', by omega, by omega⟩

theorem items_within (length : (mark :: items).length = (mark :: items').length)
    (each : ∀ (i : Nat) value value', (mark :: items)[i]? = some value →
      (mark :: items')[i]? = some value' →
      Alike (Place.ofItem .segment (mark :: items) i) value value')
    (deep : (Json.array (mark :: items)).depth < bound + 1)
    (deep' : (Json.array (mark :: items')).depth < bound' + 1) :
    RecordsAlike (AlikeWithin bound bound') (Tag.said mark).wire (.array items)
      (.array items') := by
  rw [Json.depth] at deep deep'
  refine .items ⟨Nat.succ.inj length, fun i kind value value' expected found found' => ?_⟩
  rw [List.getElem?_map] at expected
  obtain ⟨field, listed, rfl⟩ := Option.map_eq_some_iff.mp expected
  have placed : Place.ofItem .segment (mark :: items) (i + 1) = field.2 :=
    Place.ofItem_of_field listed
  have shallow := depth_le_of_mem (List.mem_cons_of_mem mark (List.mem_of_getElem? found))
  have shallow' := depth_le_of_mem (List.mem_cons_of_mem mark (List.mem_of_getElem? found'))
  exact ⟨placed ▸ each (i + 1) value value' found found', by omega, by omega⟩

theorem decodeWithin_succ_alike {medium : Shape.Medium} {value value' : Json}
    (origins : ∀ value value', AlikeWithin bound bound' .chain value value' →
      Shape.list (decodeWithin bound .buffered) value =
        Shape.list (decodeWithin bound' .buffered) value')
    (like : AlikeWithin (bound + 1) (bound' + 1) .segment value value') :
    decodeWithin (bound + 1) medium value = decodeWithin (bound' + 1) medium value' := by
  obtain ⟨alike, deep, deep'⟩ := like
  have body : ∀ tag {body body' : Json},
      RecordsAlike (AlikeWithin bound bound') tag.wire body body' →
      ofBody (Shape.list (decodeWithin bound .buffered)) tag body =
        ofBody (Shape.list (decodeWithin bound' .buffered)) tag body' :=
    fun tag => ofBody_alike (fun value value' like => like.1.eq_of_value) origins
  cases alike.form with
  | @members held held' same =>
    have marks := same.lookup_value List.mem_cons_self
    simp only [decodeWithin, ← marks]
    cases found : Json.lookup "type" held with
    | none => rfl
    | some mark =>
      have fields := members_within same found deep deep'
      exact tagged_alike fun tag said => body tag (said ▸ fields)
  | @items items items' length each =>
    cases items with
    | nil => rw [List.eq_nil_of_length_eq_zero length.symm]; rfl
    | cons mark items =>
      obtain ⟨mark', items', rfl⟩ := List.exists_cons_of_length_eq_add_one length.symm
      obtain rfl : mark = mark' := (each 0 mark mark' rfl rfl).eq_of_value
      have fields := items_within length each deep deep'
      exact tagged_alike fun tag said => body tag (said ▸ fields)
  | neither no_object no_array =>
    cases value with
    | object held => exact absurd rfl (no_object held)
    | array items => exact absurd rfl (no_array items)
    | _ => rfl

end Step

/-- Like segments are read alike, however deep they are. The two need not be equally deep, so each
has a bound of its own. -/
theorem decodeWithin_alike {bound bound' : Nat} (medium : Shape.Medium) (value value' : Json)
    (like : AlikeWithin bound bound' .segment value value') :
    decodeWithin bound medium value = decodeWithin bound' medium value' := by
  -- the segments that a segment quotes are below both bounds
  induction bound generalizing bound' medium value value' with
  | zero => exact absurd like.2.1 (Nat.not_lt_zero _)
  | succ bound ih =>
    have positive := like.2.2
    obtain ⟨bound', rfl⟩ : ∃ less, bound' = less + 1 := Nat.exists_eq_succ_of_ne_zero (by omega)
    exact decodeWithin_succ_alike (list_alike fun value value' => ih .buffered value value') like

end Segment

/-- Like chains are received as the same message, or fail in the same way. -/
theorem ReceivedMessage.decode_alike (value value' : Json) (alike : Alike .chain value value') :
    ReceivedMessage.decode value = ReceivedMessage.decode value' := by
  have segments : Shape.list Segment.decode value = Shape.list Segment.decode value' := by
    refine @Segment.list_alike (value.depth + 1) (value'.depth + 1) _ _ ?_ value value'
      ⟨alike, Nat.lt_succ_self _, Nat.lt_succ_self _⟩
    intro item item' like
    exact Segment.decodeWithin_alike .document item item'
      ⟨like.1, Nat.lt_succ_self _, Nat.lt_succ_self _⟩
  rw [decode, decode, Message.decode, Message.decode, segments]

namespace Event

/-- The fields of an event cannot tell like members apart. -/
abbrev Reads {α : Type} (fields : Fields α) (wire : List (String × Place)) : Prop :=
  fields.Blind Alike fields wire

theorem friendMessage_reads :
    Reads friendMessageFields [("messageChain", .chain), ("sender", .friend)] :=
  (Blind.map _ (.required ReceivedMessage.decode_alike)).seq (.required Friend.decode_alike)

theorem memberMessage_reads :
    Reads memberMessageFields [("messageChain", .chain), ("sender", .member)] :=
  (Blind.map _ (.required ReceivedMessage.decode_alike)).seq (.required Member.decode_alike)

theorem botOnline_reads (kind : OnlineKind) : Reads (botOnlineFields kind) (values ["qq"]) :=
  .map _ (.required (value_alike _))

theorem botOffline_reads (kind : OfflineKind) : Reads (botOfflineFields kind) (values ["qq"]) :=
  .map _ (.required (value_alike _))

theorem botPermission_reads :
    Reads botPermissionFields (values ["origin", "current"] ++ [("group", .group)]) :=
  ((Blind.map _ (.required (value_alike _))).seq (.required (value_alike _))).seq
    (.required Group.decode_alike)

theorem botMuted_reads :
    Reads botMutedFields (values ["durationSeconds"] ++ [("operator", .member)]) :=
  (Blind.map _ (.required (value_alike _))).seq (.required Member.decode_alike)

theorem botUnmuted_reads : Reads botUnmutedFields [("operator", .member)] :=
  .map _ (.required Member.decode_alike)

theorem groupNotice_reads : Reads groupNoticeFields [("group", .group)] :=
  .map _ (.required Group.decode_alike)

theorem operator_reads :
    Reads (.optional "operator" Member.decode) [("operator", .member)] :=
  .optional Member.decode_alike fun _ _ => Alike.null_iff

theorem groupRecall_reads : Reads groupRecallFields
    (values ["authorId", "messageId", "time"] ++ [("group", .group), ("operator", .member)]) :=
  ((((Blind.map _ (.required (value_alike _))).seq (.required (value_alike _))).seq
    (.required (value_alike _))).seq (.required Group.decode_alike)).seq operator_reads

theorem friendRecall_reads :
    Reads friendRecallFields (values ["authorId", "messageId", "time", "operator"]) :=
  (((Blind.map _ (.required (value_alike _))).seq (.required (value_alike _))).seq
    (.required (value_alike _))).seq (.required (value_alike _))

theorem groupText_reads : Reads groupTextFields
    (values ["origin", "current"] ++ [("group", .group), ("operator", .member)]) :=
  (((Blind.map _ (.required (value_alike _))).seq (.required (value_alike _))).seq
    (.required Group.decode_alike)).seq operator_reads

theorem setting_reads (setting : GroupSetting) : Reads (settingFields setting)
    (values ["origin", "current"] ++ [("group", .group), ("operator", .member)]) :=
  (((Blind.map _ (.required (value_alike _))).seq (.required (value_alike _))).seq
    (.required Group.decode_alike)).seq operator_reads

theorem memberNotice_reads : Reads memberNoticeFields [("member", .member)] :=
  .map _ (.required Member.decode_alike)

theorem memberAction_reads :
    Reads memberActionFields [("member", .member), ("operator", .member)] :=
  (Blind.map _ (.required Member.decode_alike)).seq operator_reads

theorem memberCard_reads : Reads memberCardFields
    (values ["origin", "current"] ++ [("member", .member), ("operator", .member)]) :=
  (((Blind.map _ (.required (value_alike _))).seq (.required (value_alike _))).seq
    (.required Member.decode_alike)).seq operator_reads

theorem memberTitle_reads :
    Reads memberTitleFields (values ["origin", "current"] ++ [("member", .member)]) :=
  ((Blind.map _ (.required (value_alike _))).seq (.required (value_alike _))).seq
    (.required Member.decode_alike)

theorem memberPermission_reads :
    Reads memberPermissionFields (values ["origin", "current"] ++ [("member", .member)]) :=
  ((Blind.map _ (.required (value_alike _))).seq (.required (value_alike _))).seq
    (.required Member.decode_alike)

theorem memberMuted_reads : Reads memberMutedFields
    (values ["durationSeconds"] ++ [("member", .member), ("operator", .member)]) :=
  ((Blind.map _ (.required (value_alike _))).seq (.required Member.decode_alike)).seq
    operator_reads

theorem friendRequest_reads : Reads friendRequestFields
    (values ["eventId", "fromId", "groupId", "nick", "message"]) :=
  ((((Blind.map _ (.required (value_alike _))).seq (.required (value_alike _))).seq
    (.defaulted (value_alike _))).seq (.defaulted (value_alike _))).seq
    (.defaulted (value_alike _))

theorem groupRequest_reads : Reads groupRequestFields
    (values ["eventId", "fromId", "groupId", "groupName", "nick", "message"]) :=
  (((((Blind.map _ (.required (value_alike _))).seq (.required (value_alike _))).seq
    (.required (value_alike _))).seq (.defaulted (value_alike _))).seq
    (.defaulted (value_alike _))).seq (.defaulted (value_alike _))

theorem fields?_reads {name : String} {fields : Fields Event}
    (known : fields? name = some fields) : Reads fields (wire name) := by
  unfold fields? at known
  -- the cases are the names in the order of the definition; for any other there are no fields
  split at known <;> cases known
  · exact .map _ friendMessage_reads
  · exact .map _ memberMessage_reads
  · exact .map _ memberMessage_reads
  · exact .map _ (botOnline_reads _)
  · exact .map _ (botOnline_reads _)
  · exact .map _ (botOffline_reads _)
  · exact .map _ (botOffline_reads _)
  · exact .map _ (botOffline_reads _)
  · exact .map _ botPermission_reads
  · exact .map _ botMuted_reads
  · exact .map _ botUnmuted_reads
  · exact .map _ groupNotice_reads
  · exact .map _ groupNotice_reads
  · exact .map _ groupNotice_reads
  · exact .map _ groupRecall_reads
  · exact .map _ friendRecall_reads
  · exact .map _ groupText_reads
  · exact .map _ groupText_reads
  · exact .map _ (setting_reads _)
  · exact .map _ (setting_reads _)
  · exact .map _ (setting_reads _)
  · exact .map _ (setting_reads _)
  · exact .map _ memberNotice_reads
  · exact .map _ memberAction_reads
  · exact .map _ memberNotice_reads
  · exact .map _ memberCard_reads
  · exact .map _ memberTitle_reads
  · exact .map _ memberPermission_reads
  · exact .map _ memberMuted_reads
  · exact .map _ memberAction_reads
  · exact .map _ friendRequest_reads
  · exact .map _ groupRequest_reads
  · exact .map _ groupRequest_reads

/-- Frames that differ in surplus only are read as the same event, or fail in the same way. -/
theorem ofJson_alike {value value' : Json} (alike : Alike .event value value') :
    ofJson value = ofJson value' := by
  cases alike.form with
  | @members held held' same =>
    have names := same.lookup_value List.mem_cons_self
    simp only [ofJson, Json.member?, ← names]
    split
    · next name found =>
      rw [found] at same
      cases known : fields? name with
      | none => rfl
      | some fields =>
        have inside : MembersAlike Alike (wire name) (Json.object held).member?
            (Json.object held').member? :=
          ⟨fun key kind listed => same.absent key kind (.tail _ listed),
            fun key kind value value' listed => same.each key kind value value' (.tail _ listed)⟩
        dsimp only
        rw [Shape.recordOfMembers, Shape.recordOfMembers, (fields?_reads known).ofMembers inside]
    · rfl
  | items => rfl
  | neither => rfl

/-- Members that are no fields may be added to every record of a frame, and segments of unknown
kinds may change but for their names: the event is the same, and so is the fault. -/
theorem surplus_ignored :
    (∀ (place : Place) (held : List (String × Json)) (key : String) (value : Json),
      place.isRecord = true → key ∉ (place.fields (Json.lookup "type" held)).map Prod.fst →
      Alike place (.object held) (.object (Json.insertMember key value held))) ∧
    (∀ (name : String) (held held' : List (String × Json)), Segment.Tag.ofName name = .unknown →
      Json.lookup "type" held = some (.str name) → Json.lookup "type" held' = some (.str name) →
      Alike .segment (.object held) (.object held')) ∧
    ∀ value value' : Json, Alike .event value value' → ofJson value = ofJson value' := by
  refine ⟨fun place held key value isRecord surplus => ?_,
    fun name held held' other named named' => ?_, fun value value' alike => ?_⟩
  · exact .added isRecord surplus value
  · exact .unknown other named named'
  · exact ofJson_alike alike

def quotedRoll (points : Int) : Json :=
  .object [("messageChain", .array [.object [("id", .int 1),
      ("origin", .array [.object [("type", .str "Dice"), ("value", .int points)]]),
      ("senderId", .int 2), ("type", .str "Quote")]]),
    ("sender", .object [("id", .int 2)]), ("type", .str "FriendMessage")]

/-- Neither another roll nor a member of a later version of the server makes a difference. -/
theorem quotedRoll_ignored :
    ofJson (quotedRoll 3) = ofJson ((quotedRoll 6).withMember "setting" .null) ∧
      (ofJson (quotedRoll 3)).toOption.map Event.kind = some .friendMessage := by
  obtain ⟨added, unknown, same⟩ := surplus_ignored
  have rolled : Alike .segment (.object [("type", .str "Dice"), ("value", .int 3)])
      (.object [("type", .str "Dice"), ("value", .int 6)]) := unknown "Dice" _ _ rfl rfl rfl
  have quoted : Alike .event (quotedRoll 3) (quotedRoll 6) :=
    @Alike.under .event _ _ _ "messageChain" .chain rfl (by decide) rfl
      (@Alike.within .chain _ _ _ 0 nofun rfl
        (@Alike.under .segment _ _ _ "origin" .chain rfl (by decide) rfl
          (@Alike.within .chain _ _ _ 0 nofun rfl rolled)))
  refine ⟨(same _ _ quoted).trans (same _ _ ?_), by rfl⟩
  exact added .event _ "setting" .null rfl (by decide)

end Event

end Switchboard
