import Switchboard.Proofs.Message.Wire

set_option autoImplicit false

namespace Switchboard

def Segment.isText (segment : Segment) : Bool := segment.text?.isSome

def textOf (segments : List Segment) : String := String.join (segments.filterMap Segment.text?)

/-- Every maximal run of texts becomes one text. -/
def normalise : List Segment → List Segment
  | [] => []
  | segment :: rest =>
    match segment with
    | .plain text =>
      .plain (text ++ textOf (rest.takeWhile Segment.isText)) ::
        normalise (rest.dropWhile Segment.isText)
    | other => other :: normalise rest
termination_by segments => segments.length
decreasing_by
  · have shorter := (List.dropWhile_sublist (l := rest) Segment.isText).length_le
    simp only [List.length_cons]
    omega
  · simp only [List.length_cons]
    omega

@[simp] theorem normalise_nil : normalise [] = [] := by rw [normalise]

theorem normalise_plain (text : String) (rest : List Segment) :
    normalise (.plain text :: rest) =
      .plain (text ++ textOf (rest.takeWhile Segment.isText)) ::
        normalise (rest.dropWhile Segment.isText) := by
  rw [normalise]

theorem normalise_other {segment : Segment} (other : segment.text? = none) (rest : List Segment) :
    normalise (segment :: rest) = segment :: normalise rest := by
  rw [normalise]
  intro text same
  subst same
  cases other

@[simp] theorem textOf_nil : textOf [] = "" := rfl

theorem textOf_cons (segment : Segment) (segments : List Segment) :
    textOf (segment :: segments) = segment.text?.getD "" ++ textOf segments := by
  unfold textOf
  cases segment with
  | plain text => exact String.join_cons
  | _ => exact String.empty_append.symm

theorem textOf_append (front back : List Segment) :
    textOf (front ++ back) = textOf front ++ textOf back := by
  unfold textOf
  rw [List.filterMap_append, String.join_append]

/-- A segment put before segments in normal form; a text takes up the text that it meets. -/
def prependSegment : Segment → List Segment → List Segment
  | .plain text, .plain next :: rest => .plain (text ++ next) :: rest
  | segment, rest => segment :: rest

theorem prependSegment_other {segment : Segment} (other : segment.text? = none)
    (segments : List Segment) : prependSegment segment segments = segment :: segments := by
  cases segment with
  | plain text => cases other
  | _ => rfl

theorem prependSegment_plain (text : String) {next : Segment} (other : next.text? = none)
    (rest : List Segment) :
    prependSegment (.plain text) (next :: rest) = .plain text :: next :: rest := by
  cases next with
  | plain text => cases other
  | _ => rfl

theorem normalise_cons (segment : Segment) (rest : List Segment) :
    normalise (segment :: rest) = prependSegment segment (normalise rest) := by
  cases plain : segment.text? with
  | none => rw [normalise_other plain, prependSegment_other plain]
  | some text =>
    obtain rfl : segment = .plain text := by
      cases segment <;> cases plain
      rfl
    rw [normalise_plain]
    cases rest with
    | nil =>
      rw [List.takeWhile_nil, List.dropWhile_nil, textOf_nil, normalise_nil, String.append_empty]
      rfl
    | cons next rest =>
      cases following : next.text? with
      | none =>
        have no_text : ¬ next.isText := by simp [Segment.isText, following]
        rw [List.takeWhile_cons_of_neg no_text, List.dropWhile_cons_of_neg no_text, textOf_nil,
          normalise_other following, prependSegment_plain text following, String.append_empty]
      | some after =>
        obtain rfl : next = .plain after := by
          cases next <;> cases following
          rfl
        rw [List.takeWhile_cons_of_pos rfl, List.dropWhile_cons_of_pos rfl, textOf_cons,
          normalise_plain, prependSegment]
        rfl

theorem appendSegment_prependSegment (first last : Segment) (segments : List Segment) :
    appendSegment (prependSegment first segments) last =
      prependSegment first (appendSegment segments last) := by
  cases segments with
  | nil => cases first <;> cases last <;> rfl
  | cons next rest =>
    cases plain : first.text? with
    | none =>
      rw [prependSegment_other plain, prependSegment_other plain, appendSegment]
    | some text =>
      obtain rfl : first = .plain text := by
        cases first <;> cases plain
        rfl
      cases rest with
      | nil =>
        cases next <;> cases last <;>
          simp [prependSegment, appendSegment, String.append_assoc]
      | cons second rest => cases next <;> rfl

theorem normalise_concat (segments : List Segment) (segment : Segment) :
    normalise (segments ++ [segment]) = appendSegment (normalise segments) segment := by
  induction segments with
  | nil =>
    rw [List.nil_append, normalise_cons, normalise_nil]
    cases segment <;> rfl
  | cons first rest ih =>
    rw [List.cons_append, normalise_cons, ih, normalise_cons, appendSegment_prependSegment]

theorem merged_normalise (segments : List Segment) : Merged (normalise segments) := by
  induction segments using List.reverseRecOn with
  | nil =>
    rw [normalise_nil]
    exact List.IsChain.nil
  | append_singleton segments segment ih =>
    rw [normalise_concat]
    exact merged_append _ _ ih

theorem textOf_appendSegment (segments : List Segment) (segment : Segment) :
    textOf (appendSegment segments segment) = textOf segments ++ segment.text?.getD "" := by
  rcases appendSegment_cases segments segment with ⟨-, same⟩ | ⟨front, before, text, rfl, rfl, same⟩
  · rw [same, textOf_append, textOf_cons, textOf_nil, String.append_empty]
  · rw [same]
    simp only [textOf_append, textOf_cons, textOf_nil, Segment.text?, Option.getD_some,
      String.append_empty, String.append_assoc]

theorem textOf_normalise (segments : List Segment) :
    textOf (normalise segments) = textOf segments := by
  induction segments using List.reverseRecOn with
  | nil => rw [normalise_nil]
  | append_singleton segments segment ih =>
    rw [normalise_concat, textOf_appendSegment, ih, textOf_append, textOf_cons, textOf_nil,
      String.append_empty]

theorem normalise_of_merged {segments : List Segment} (merged : Merged segments) :
    normalise segments = segments := by
  induction segments using List.reverseRecOn with
  | nil => exact normalise_nil
  | append_singleton segments segment ih =>
    have front : Merged segments := (merged_concat.mp merged).1
    rw [normalise_concat, ih front, appendSegment_of_merged merged]

namespace Message

theorem extend_normalise (front back : List Segment) :
    extend ⟨normalise front⟩ back = ⟨normalise (front ++ back)⟩ := by
  induction back generalizing front with
  | nil => rw [List.append_nil]; rfl
  | cons segment back ih =>
    rw [List.append_cons, ← ih, normalise_concat]
    rfl

theorem ofSegments_eq (segments : List Segment) : ofSegments segments = ⟨normalise segments⟩ := by
  have appended := extend_normalise [] segments
  rw [normalise_nil] at appended
  exact appended

theorem extend_append (message : Message) (front back : List Segment) :
    message.extend (front ++ back) = (message.extend front).extend back := List.foldl_append

/-- How a message is begun. -/
inductive Beginning where
  | empty
  | text (text : String)
  | segment (segment : Segment)
  | segments (segments : List Segment)
  /-- A chain from the wire. -/
  | wire (chain : Json)

/-- The message that is begun, unless a chain cannot be read. -/
def Beginning.message : Beginning → Except Shape.Fault Message
  | .empty => .ok Message.empty
  | .text content => .ok (ofText content)
  | .segment only => .ok (ofSegments [only])
  | .segments all => .ok (ofSegments all)
  | .wire chain => decode chain

def Beginning.given : Beginning → Except Shape.Fault (List Segment)
  | .empty => .ok []
  | .text content => .ok [.plain content]
  | .segment only => .ok [only]
  | .segments all => .ok all
  | .wire chain => Shape.list Segment.decode chain

/-- The ways to add to a message. -/
inductive Addition where
  | push (segment : Segment)
  | extend (segments : List Segment)
  | plain (text : String)
  | mention (target : UserId)
  | mentionAll
  | image (ref : ImageRef)

def add (message : Message) : Addition → Message
  | .push segment => message.push segment
  | .extend segments => message.extend segments
  | .plain text => message.plain text
  | .mention target => message.mention target
  | .mentionAll => message.mentionAll
  | .image ref => message.image ref

def Addition.given : Addition → List Segment
  | .push segment => [segment]
  | .extend segments => segments
  | .plain text => [.plain text]
  | .mention target => [.mentionOf target]
  | .mentionAll => [.mentionAll]
  | .image ref => [.image ref]

/-- How a message is made: it is begun, and then added to. -/
structure Making where
  beginning : Beginning
  additions : List Addition

namespace Making

/-- The message that is made, unless a chain cannot be read. -/
def message (making : Making) : Except Shape.Fault Message :=
  making.beginning.message.map fun begun => making.additions.foldl add begun

def given (making : Making) : Except Shape.Fault (List Segment) :=
  making.beginning.given.map fun begun => begun ++ making.additions.flatMap Addition.given

end Making

theorem Beginning.message_eq (beginning : Beginning) :
    beginning.message = beginning.given.map fun given => ⟨normalise given⟩ := by
  cases beginning with
  | empty => exact congrArg Except.ok (ofSegments_eq [])
  | text content => exact congrArg Except.ok (ofSegments_eq [.plain content])
  | segment only => exact congrArg Except.ok (ofSegments_eq [only])
  | segments all => exact congrArg Except.ok (ofSegments_eq all)
  | wire chain =>
    have merges : ofSegments = fun given => ⟨normalise given⟩ := funext ofSegments_eq
    rw [message, given, decode, merges]

theorem add_eq (message : Message) (addition : Addition) :
    message.add addition = message.extend addition.given := by
  cases addition <;> rfl

theorem foldl_add (message : Message) (additions : List Addition) :
    additions.foldl add message = message.extend (additions.flatMap Addition.given) := by
  induction additions generalizing message with
  | nil => rfl
  | cons addition rest ih =>
    rw [List.foldl_cons, ih, add_eq, List.flatMap_cons, extend_append]

theorem Making.message_eq (making : Making) :
    making.message = making.given.map fun given => ⟨normalise given⟩ := by
  rw [message, given, Beginning.message_eq]
  cases making.beginning.given with
  | error fault => rfl
  | ok begun =>
    have added := extend_normalise begun (making.additions.flatMap Addition.given)
    exact congrArg Except.ok ((foldl_add _ _).trans added)

end Message

/-- Messages stay in normal form and lose no text. However a message is begun, and whatever is added
to it, it is the normal form of all segments that were put in, in their order; it cannot be made
only if a chain cannot be read. No two texts follow each other in it, its text is all texts that
were put in, and to collect its segments gives it back. To add segments in two portions is to add
them at once. -/
theorem messages_stay_normal :
    (∀ making : Message.Making,
      making.message.map Message.segments = making.given.map normalise) ∧
    (∀ (making : Message.Making) (message : Message), making.message = .ok message →
      Merged message.segments ∧
      making.given.map textOf = .ok message.plainText ∧
      Message.ofSegments message.segments = message) ∧
    ∀ (message : Message) (front back : List Segment),
      (message.extend front).extend back = message.extend (front ++ back) := by
  refine ⟨?_, ?_, fun message front back => (message.extend_append front back).symm⟩
  · intro making
    rw [Message.Making.message_eq]
    cases making.given <;> rfl
  · intro making message made
    rw [Message.Making.message_eq] at made
    cases given : making.given with
    | error fault =>
      rw [given] at made
      cases made
    | ok segments =>
      rw [given] at made
      cases made
      have merged := merged_normalise segments
      refine ⟨merged, ?_, ?_⟩
      · exact congrArg Except.ok (textOf_normalise segments).symm
      · rw [Message.ofSegments_eq, normalise_of_merged merged]

/-- A chain of two texts from the wire, to which texts are added in two ways, one of them empty,
with a mention between them. -/
def greeting : Message.Making where
  beginning := .wire (.array [.ofMembers [("type", .str "Plain"), ("text", .str "good ")],
    .ofMembers [("type", .str "Plain"), ("text", .str "mor")]])
  additions := [.plain "ning", .mention ⟨7⟩, .extend [.plain "", .plain "!"], .push .mentionAll]

/-- The greeting is four segments, and collecting them gives it back. -/
theorem greeting_stays_normal :
    greeting.message =
      .ok ⟨[.plain "good morning", .mentionOf ⟨7⟩, .plain "!", .mentionAll]⟩ ∧
    Merged [.plain "good morning", .mentionOf ⟨7⟩, .plain "!", .mentionAll] ∧
    greeting.given.map textOf = .ok "good morning!" ∧
    Message.ofSegments [.plain "good morning", .mentionOf ⟨7⟩, .plain "!", .mentionAll] =
      ⟨[.plain "good morning", .mentionOf ⟨7⟩, .plain "!", .mentionAll]⟩ := by
  have made : greeting.message =
      .ok ⟨[.plain "good morning", .mentionOf ⟨7⟩, .plain "!", .mentionAll]⟩ := by rfl
  exact ⟨made, messages_stay_normal.2.1 greeting _ made⟩

end Switchboard
