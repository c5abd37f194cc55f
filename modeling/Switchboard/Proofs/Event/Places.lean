import Switchboard.Event.Wire
import Switchboard.Proofs.Shape.Likeness

set_option autoImplicit false

namespace Switchboard

open Shape (MembersAlike RecordsAlike)

/-- What is expected at a place of a frame. Where it is a record, the members under the names of its
fields count, and the items of an array in their order; what is expected there in turn is again a
place. -/
inductive Place where
  /-- Something without a record in it. -/
  | value
  | friend
  | group
  | member
  | segment
  /-- An array of segments. -/
  | chain
  | event
deriving DecidableEq

def Place.values (names : List String) : List (String × Place) :=
  names.map fun name => (name, .value)

open Place (values)

namespace Segment

def Tag.said : Json → Tag
  | .str name => .ofName name
  | .int index => if 0 ≤ index then .ofIndex index.toNat else .unknown
  | _ => .unknown

def Tag.wire : Tag → List (String × Place)
  | .source => values ["id", "time"]
  | .quote => values ["id", "groupId", "senderId", "targetId"] ++ [("origin", .chain)]
  | .mention => values ["target", "display"]
  | .face => values ["faceId", "name"]
  | .plain => values ["text"]
  | .image | .flashImage => values ["imageId", "url", "path"]
  | .voice => values ["voiceId", "url", "path"]
  | .xml => values ["xml"]
  | .json => values ["json"]
  | .app => values ["content"]
  | .poke => values ["name"]
  | .mentionAll | .unknown => []

end Segment

/-- The fields of the event with a name, besides its name. -/
def Event.wire : String → List (String × Place)
  | "FriendMessage" => [("messageChain", .chain), ("sender", .friend)]
  | "GroupMessage" | "TempMessage" => [("messageChain", .chain), ("sender", .member)]
  | "BotOnlineEvent" | "BotReloginEvent" | "BotOfflineEventActive" | "BotOfflineEventForce"
  | "BotOfflineEventDropped" => values ["qq"]
  | "BotGroupPermissionChangeEvent" => values ["origin", "current"] ++ [("group", .group)]
  | "BotMuteEvent" => values ["durationSeconds"] ++ [("operator", .member)]
  | "BotUnmuteEvent" => [("operator", .member)]
  | "BotJoinGroupEvent" | "BotLeaveEventActive" | "BotLeaveEventKick" => [("group", .group)]
  | "GroupRecallEvent" =>
    values ["authorId", "messageId", "time"] ++ [("group", .group), ("operator", .member)]
  | "FriendRecallEvent" => values ["authorId", "messageId", "time", "operator"]
  | "GroupNameChangeEvent" | "GroupEntranceAnnouncementChangeEvent" | "GroupMuteAllEvent"
  | "GroupAllowAnonymousChatEvent" | "GroupAllowConfessTalkEvent" | "GroupAllowMemberInviteEvent" =>
    values ["origin", "current"] ++ [("group", .group), ("operator", .member)]
  | "MemberJoinEvent" | "MemberLeaveEventQuit" => [("member", .member)]
  | "MemberLeaveEventKick" | "MemberUnmuteEvent" => [("member", .member), ("operator", .member)]
  | "MemberCardChangeEvent" =>
    values ["origin", "current"] ++ [("member", .member), ("operator", .member)]
  | "MemberSpecialTitleChangeEvent" | "MemberPermissionChangeEvent" =>
    values ["origin", "current"] ++ [("member", .member)]
  | "MemberMuteEvent" =>
    values ["durationSeconds"] ++ [("member", .member), ("operator", .member)]
  | "NewFriendRequestEvent" => values ["eventId", "fromId", "groupId", "nick", "message"]
  | "MemberJoinRequestEvent" | "BotInvitedJoinGroupRequestEvent" =>
    values ["eventId", "fromId", "groupId", "groupName", "nick", "message"]
  | _ => []

namespace Place

/-- The names that the record at a place reads, in the order of an array, with what is expected
under each. Segments and events have a tag, which says what else they have. -/
def fields (tag : Option Json) : Place → List (String × Place)
  | .value | .chain => []
  | .friend => values ["id", "nickname", "remark"]
  | .group => values ["id", "name", "permission"]
  | .member => values ["id", "memberName", "permission"] ++ [("group", .group)]
  | .segment => ("type", .value) :: (tag.elim .unknown Segment.Tag.said).wire
  | .event => ("type", .value) :: Event.wire ((tag.bind Json.str?).getD "")

def isRecord : Place → Bool
  | .value | .chain => false
  | _ => true

def ofItem (place : Place) (items : List Json) (i : Nat) : Place :=
  match (place.fields items.head?)[i]? with
  | some field => field.2
  | none => if place = .chain then .segment else .value

theorem ofItem_of_field {place : Place} {items : List Json} {i : Nat} {field : String × Place}
    (listed : (place.fields items.head?)[i]? = some field) : place.ofItem items i = field.2 := by
  rw [ofItem, listed]

end Place

/-- Two values differ at most in members that are no fields: members of the object at this place, or
of an object inside it. -/
inductive Alike : Place → Json → Json → Prop
  | same (place : Place) (value : Json) : Alike place value value
  /-- The fields are there in both objects or in neither, and hold like values. -/
  | members {place : Place} {held held' : List (String × Json)} (isRecord : place.isRecord = true)
      (absent : ∀ key kind, (key, kind) ∈ place.fields (Json.lookup "type" held) →
        (Json.lookup key held = none ↔ Json.lookup key held' = none))
      (each : ∀ key kind value value', (key, kind) ∈ place.fields (Json.lookup "type" held) →
        Json.lookup key held = some value → Json.lookup key held' = some value' →
        Alike kind value value') :
      Alike place (.object held) (.object held')
  /-- There are as many items, and each is like the other one at its position. -/
  | items {place : Place} {items items' : List Json} (inside : place ≠ .value)
      (length : items.length = items'.length)
      (each : ∀ (i : Nat) value value', items[i]? = some value → items'[i]? = some value' →
        Alike (place.ofItem items i) value value') :
      Alike place (.array items) (.array items')

namespace Alike

variable {place : Place} {value value' : Json}

theorem eq_of_value (alike : Alike .value value value') : value = value' := by
  cases alike with
  | same => rfl
  | members isRecord => cases isRecord
  | items inside => exact absurd rfl inside

theorem null_iff (alike : Alike place value value') : value = .null ↔ value' = .null := by
  cases alike with
  | same => exact Iff.rfl
  | members => exact iff_of_false nofun nofun
  | items => exact iff_of_false nofun nofun

/-- Like values as they are read: a value is as good as any other that is like it in the members, or
the items, that count. -/
inductive Form (place : Place) : Json → Json → Prop
  | members {held held' : List (String × Json)}
      (alike : MembersAlike Alike (place.fields (Json.lookup "type" held))
        (fun key => Json.lookup key held) fun key => Json.lookup key held') :
      Form place (.object held) (.object held')
  | items {items items' : List Json} (length : items.length = items'.length)
      (each : ∀ (i : Nat) value value', items[i]? = some value → items'[i]? = some value' →
        Alike (place.ofItem items i) value value') :
      Form place (.array items) (.array items')
  | neither {value : Json} (no_object : ∀ held, value ≠ .object held)
      (no_array : ∀ items, value ≠ .array items) : Form place value value

theorem form (alike : Alike place value value') : Form place value value' := by
  cases alike with
  | same =>
    cases value with
    | object held =>
      refine .members ⟨fun _ _ _ => Iff.rfl, fun key kind value value' _ found found' => ?_⟩
      cases found.symm.trans found'
      exact .same kind value
    | array items =>
      refine .items rfl fun i value value' found found' => ?_
      cases found.symm.trans found'
      exact .same _ value
    | _ => exact .neither nofun nofun
  | members _ absent each => exact .members ⟨absent, each⟩
  | items _ length each => exact .items length each

theorem record {wire : List (String × Place)} (untagged : ∀ tag, place.fields tag = wire)
    (alike : Alike place value value') : RecordsAlike Alike wire value value' := by
  cases alike.form with
  | members same => exact .members (untagged _ ▸ same)
  | @items items items' length each =>
    refine .items ⟨length, fun i kind value value' expected found found' => ?_⟩
    rw [List.getElem?_map] at expected
    obtain ⟨field, listed, rfl⟩ := Option.map_eq_some_iff.mp expected
    have placed : place.ofItem items i = field.2 :=
      Place.ofItem_of_field (by rw [untagged]; exact listed)
    exact placed ▸ each i value value' found found'
  | neither no_object no_array => exact .neither no_object no_array

section Changes

variable {held : List (String × Json)} {key : String} {items : List Json} {i : Nat}

theorem added (isRecord : place.isRecord = true)
    (surplus : key ∉ (place.fields (Json.lookup "type" held)).map Prod.fst) (value : Json) :
    Alike place (.object held) (.object (Json.insertMember key value held)) := by
  have kept : ∀ name kind, (name, kind) ∈ place.fields (Json.lookup "type" held) →
      Json.lookup name (Json.insertMember key value held) = Json.lookup name held := by
    intro name kind listed
    apply Json.lookup_insertMember_of_ne
    rintro rfl
    exact surplus (List.mem_map_of_mem listed)
  refine .members isRecord (fun name kind listed => by rw [kept name kind listed]) ?_
  intro name kind value value' listed found found'
  rw [kept name kind listed] at found'
  cases found.symm.trans found'
  exact .same kind value

theorem under {kind : Place} (isRecord : place.isRecord = true)
    (named : ∀ field ∈ place.fields (Json.lookup "type" held), field.1 = key → field.2 = kind)
    (found : Json.lookup key held = some value) (alike : Alike kind value value') :
    Alike place (.object held) (.object (Json.insertMember key value' held)) := by
  refine .members isRecord (fun name _ _ => ?_) fun name kind' old new listed there there' => ?_
  · by_cases same : name = key
    · subst same
      rw [found, Json.lookup_insertMember_self]
      exact iff_of_false nofun nofun
    · rw [Json.lookup_insertMember_of_ne _ _ same]
  · by_cases same : name = key
    · subst same
      rw [Json.lookup_insertMember_self] at there'
      cases found.symm.trans there
      cases there'
      obtain rfl : kind' = kind := named _ listed rfl
      exact alike
    · rw [Json.lookup_insertMember_of_ne _ _ same] at there'
      cases there.symm.trans there'
      exact .same kind' old

theorem within (inside : place ≠ .value) (found : items[i]? = some value)
    (alike : Alike (place.ofItem items i) value value') :
    Alike place (.array items) (.array (items.set i value')) := by
  refine .items inside List.length_set.symm fun j old new there there' => ?_
  by_cases same : i = j
  · subst same
    have bounded : i < items.length := (List.getElem?_eq_some_iff.mp found).1
    rw [List.getElem?_set_self bounded] at there'
    cases found.symm.trans there
    cases there'
    exact alike
  · rw [List.getElem?_set_ne same] at there'
    cases there.symm.trans there'
    exact .same _ old

theorem unknown {name : String} {held held' : List (String × Json)}
    (other : Segment.Tag.ofName name = .unknown)
    (named : Json.lookup "type" held = some (.str name))
    (named' : Json.lookup "type" held' = some (.str name)) :
    Alike .segment (.object held) (.object held') := by
  have fields : Place.fields (Json.lookup "type" held) .segment = [("type", .value)] := by
    rw [named]
    change ("type", Place.value) :: (Segment.Tag.ofName name).wire = _
    rw [other]
    rfl
  refine .members rfl ?_ ?_
  · intro key kind listed
    rw [fields] at listed
    cases List.mem_singleton.mp listed
    rw [named, named']
  · intro key kind value value' listed found found'
    rw [fields] at listed
    cases List.mem_singleton.mp listed
    cases named.symm.trans found
    cases named'.symm.trans found'
    exact .same _ _

end Changes

end Alike

theorem Shape.MembersAlike.lookup_value {wire : List (String × Place)}
    {get get' : String → Option Json}
    (alike : MembersAlike Alike wire get get') {key : String} (listed : (key, .value) ∈ wire) :
    get key = get' key := by
  cases found : get key with
  | none => exact ((alike.absent key .value listed).mp found).symm
  | some value =>
    cases found' : get' key with
    | none => exact absurd (found.symm.trans ((alike.absent key .value listed).mpr found')) nofun
    | some value' => rw [(alike.each key .value value value' listed found found').eq_of_value]

end Switchboard
