import Mathlib.Data.List.TakeWhile
import Switchboard.Config.Valid

set_option autoImplicit false

namespace Switchboard

namespace Url

def cutScheme? : List Char → Option (List Char × List Char)
  | ':' :: '/' :: '/' :: behind => some ([], behind)
  | c :: rest => (cutScheme? rest).map fun (scheme, behind) => (c :: scheme, behind)
  | [] => none

def endsAuthority (c : Char) : Bool := c = '/' || c = '?' || c = '#'

def authority (text : List Char) : List Char := text.takeWhile fun c => !endsAuthority c

def behindAuthority (text : List Char) : List Char := text.dropWhile fun c => !endsAuthority c

/-- The user of an authority, if there is one, and the rest. -/
def cutUser (text : List Char) : Option (List Char) × List Char :=
  match text.reverse.dropWhile (· ≠ '@') with
  | [] => (none, text)
  | _ :: user => (some user.reverse, (text.reverse.takeWhile (· ≠ '@')).reverse)

/-- The port of a text, which is to be a decimal number. -/
def readPort? (digits : List Char) : Option Nat :=
  if digits ≠ [] ∧ digits.all Char.isDigit then some (Nat.ofDigitChars 10 digits 0) else none

/-- The host, and the port if there is one. A host in brackets ends with the bracket, and any other
before the first colon. -/
def cutPort? : List Char → Option (List Char × Option Nat)
  | '[' :: rest =>
    match rest.dropWhile (· ≠ ']') with
    | [']'] => some ('[' :: rest, none)
    | ']' :: ':' :: digits =>
      (readPort? digits).map fun port => ('[' :: rest.takeWhile (· ≠ ']') ++ [']'], some port)
    | _ => none
  | text =>
    match text.dropWhile (· ≠ ':') with
    | [] => some (text, none)
    | _ :: digits => (readPort? digits).map fun port => (text.takeWhile (· ≠ ':'), some port)

/-- An address taken apart. -/
structure Parts where
  scheme : List Char
  user : Option (List Char)
  host : List Char
  port : Option Nat
  /-- The path, the query and the fragment. -/
  rest : List Char
deriving DecidableEq

def read? (address : List Char) : Option Parts := do
  let (scheme, behind) ← cutScheme? address
  let (user, place) := cutUser (authority behind)
  let (host, port) ← cutPort? place
  return ⟨scheme, user, host, port, behindAuthority behind⟩

/-- What stands outside of brackets in a text, in which a bracket may be open already. -/
def outside : Bool → List Char → List Char
  | _, [] => []
  | false, '[' :: rest => outside true rest
  | true, ']' :: rest => outside false rest
  | false, c :: rest => c :: outside false rest
  | true, _ :: rest => outside true rest

/-- What a host may be: without white space and without the characters that divide an address, or
the same and colons in a pair of brackets. -/
structure IsHost (text : List Char) : Prop where
  visible : ∀ c ∈ text, Text.isBlank c = false
  within : ∀ c ∈ text, endsAuthority c = false
  anonymous : '@' ∉ text
  closed : (text.head? ≠ some '[' ∧ ':' ∉ text) ∨
    ∃ inner, text = '[' :: inner ++ [']'] ∧ ']' ∉ inner

variable {text scheme host digits : List Char}

theorem cutScheme?_append (noColon : ':' ∉ scheme) (behind : List Char) :
    cutScheme? (scheme ++ ':' :: '/' :: '/' :: behind) = some (scheme, behind) := by
  induction scheme with
  | nil => rfl
  | cons c scheme ih =>
    obtain ⟨differs, noColon⟩ := List.ne_and_not_mem_of_not_mem_cons noColon
    rw [List.cons_append, cutScheme?, ih noColon]
    · rfl
    · exact fun _ same _ => absurd same.symm differs

theorem takeWhile_append_cons {p : Char → Bool} {front : List Char} (held : ∀ c ∈ front, p c)
    {stop : Char} (stops : p stop = false) (back : List Char) :
    (front ++ stop :: back).takeWhile p = front ∧
      (front ++ stop :: back).dropWhile p = stop :: back := by
  rw [List.takeWhile_append_of_pos held, List.dropWhile_append_of_pos held,
    List.takeWhile_cons_of_neg (by simp [stops]), List.dropWhile_cons_of_neg (by simp [stops]),
    List.append_nil]
  exact ⟨rfl, rfl⟩

/-- The authority is the whole text exactly if nothing in the text ends it. -/
theorem authority_eq_self_iff :
    authority text = text ↔ ∀ c ∈ text, endsAuthority c = false := by
  simp only [authority, List.takeWhile_eq_self_iff, Bool.not_eq_true']

theorem behindAuthority_eq_nil_iff :
    behindAuthority text = [] ↔ ∀ c ∈ text, endsAuthority c = false := by
  simp only [behindAuthority, List.dropWhile_eq_nil_iff, Bool.not_eq_true']

theorem cutUser_of_not_mem (anonymous : '@' ∉ text) : cutUser text = (none, text) := by
  have none_left : text.reverse.dropWhile (· ≠ '@') = [] := by
    rw [List.dropWhile_eq_nil_iff]
    intro c member
    have differs : c ≠ '@' := fun same => anonymous (same ▸ List.mem_reverse.mp member)
    simpa using differs
  rw [cutUser, none_left]

theorem readPort?_toString (port : Nat) : readPort? (toString port).toList = some port := by
  rw [Nat.toString_eq_ofList_toDigits, String.toList_ofList, readPort?, if_pos,
    Nat.ofDigitChars_ten_toDigits]
  refine ⟨Nat.toDigits_ne_nil, List.all_eq_true.mpr fun c member => ?_⟩
  exact Nat.isDigit_of_mem_toDigits (by omega) (by omega) member

theorem isDigit_of_mem_port {port : Nat} {c : Char} (member : c ∈ (toString port).toList) :
    c.isDigit = true := by
  rw [Nat.toString_eq_ofList_toDigits, String.toList_ofList] at member
  exact Nat.isDigit_of_mem_toDigits (by omega) (by omega) member

theorem divides_of_isDigit {c : Char} (digit : c.isDigit = true) :
    endsAuthority c = false ∧ c ≠ '@' := by
  have other : ∀ divider : Char, divider.isDigit = false → c ≠ divider :=
    fun divider none same => Bool.false_ne_true (none.symm.trans (same ▸ digit))
  simp only [endsAuthority, Bool.or_eq_false_iff, decide_eq_false_iff_not]
  exact ⟨⟨⟨other '/' rfl, other '?' rfl⟩, other '#' rfl⟩, other '@' rfl⟩

theorem not_mem_takeWhile_ne (stop : Char) (text : List Char) :
    stop ∉ text.takeWhile (· ≠ stop) := by
  intro member
  have differs := List.mem_takeWhile_imp member
  simp at differs

theorem cutPort?_of_head?_ne (bare : text.head? ≠ some '[') :
    cutPort? text = match text.dropWhile (· ≠ ':') with
      | [] => some (text, none)
      | _ :: digits =>
        (readPort? digits).map fun port => (text.takeWhile (· ≠ ':'), some port) := by
  rw [cutPort?]
  rintro rest rfl
  exact bare rfl

theorem head?_append_colon (host digits : List Char) (bare : host.head? ≠ some '[') :
    (host ++ ':' :: digits).head? ≠ some '[' := by
  cases host with
  | nil => simp
  | cons c host => exact bare

theorem cutPort?_bare (host : List Char) (port : Nat) (bare : host.head? ≠ some '[') :
    cutPort? (host ++ ':' :: (toString port).toList) = some (host, some port) ↔ ':' ∉ host := by
  rw [cutPort?_of_head?_ne (head?_append_colon host _ bare)]
  constructor
  · intro cut colon
    split at cut
    · cases (Prod.mk.inj (Option.some.inj cut)).2
    · obtain ⟨_, _, same⟩ := Option.map_eq_some_iff.mp cut
      exact not_mem_takeWhile_ne ':' _ ((Prod.mk.inj same).1 ▸ colon)
  · intro noColon
    have held : ∀ c ∈ host, decide (c ≠ ':') = true :=
      fun c member => decide_eq_true fun same => noColon (same ▸ member)
    obtain ⟨taken, dropped⟩ := takeWhile_append_cons held (decide_eq_false fun h => h rfl)
      (toString port).toList
    rw [dropped, taken]
    simp only [readPort?_toString, Option.map_some]

theorem cutPort?_bracket (rest : List Char) (port : Nat) :
    cutPort? ('[' :: rest ++ ':' :: (toString port).toList) = some ('[' :: rest, some port) ↔
      ∃ inner, rest = inner ++ [']'] ∧ ']' ∉ inner := by
  rw [List.cons_append, cutPort?]
  constructor
  · intro cut
    split at cut
    · cases (Prod.mk.inj (Option.some.inj cut)).2
    · obtain ⟨_, _, same⟩ := Option.map_eq_some_iff.mp cut
      exact ⟨_, (List.cons.inj (Prod.mk.inj same).1).2.symm, not_mem_takeWhile_ne ']' _⟩
    · cases cut
  · rintro ⟨inner, rfl, unclosed⟩
    have held : ∀ c ∈ inner, decide (c ≠ ']') = true :=
      fun c member => decide_eq_true fun same => unclosed (same ▸ member)
    obtain ⟨taken, dropped⟩ := takeWhile_append_cons held (decide_eq_false fun h => h rfl)
      (':' :: (toString port).toList)
    rw [List.append_assoc, List.singleton_append, dropped, taken]
    simp only [readPort?_toString, Option.map_some, List.cons_append]

/-- A host is told apart from its port if it is without brackets and colons, or between the only
brackets, and no other host is. -/
theorem cutPort?_eq_some_iff (host : List Char) (port : Nat) :
    cutPort? (host ++ ':' :: (toString port).toList) = some (host, some port) ↔
      (host.head? ≠ some '[' ∧ ':' ∉ host) ∨
        ∃ inner, host = '[' :: inner ++ [']'] ∧ ']' ∉ inner := by
  by_cases bracket : host.head? = some '['
  · obtain ⟨rest, rfl⟩ : ∃ rest, host = '[' :: rest := by
      cases host with
      | nil => cases bracket
      | cons c rest => exact ⟨rest, by rw [Option.some.inj bracket]⟩
    rw [cutPort?_bracket]
    simp [bracket]
  · rw [cutPort?_bare host port bracket]
    refine ⟨fun noColon => .inl ⟨bracket, noColon⟩, ?_⟩
    rintro (⟨_, noColon⟩ | ⟨inner, rfl, _⟩)
    · exact noColon
    · exact absurd rfl bracket

theorem mem_of_mem_outside {c : Char} {inside : Bool} (member : c ∈ outside inside text) :
    c ∈ text := by
  induction text generalizing inside with
  | nil => cases inside <;> cases member
  | cons first text ih =>
    unfold outside at member
    split at member
    · next empty => cases empty
    · next same =>
      cases same
      exact List.mem_cons_of_mem _ (ih member)
    · next same =>
      cases same
      exact List.mem_cons_of_mem _ (ih member)
    · next same =>
      cases same
      exact List.mem_cons.mpr ((List.mem_cons.mp member).imp_right ih)
    · next same =>
      cases same
      exact List.mem_cons_of_mem _ (ih member)

theorem outside_true (unclosed : ']' ∉ text) (rest : List Char) :
    outside true (text ++ ']' :: rest) = outside false rest := by
  induction text with
  | nil => rfl
  | cons c text ih =>
    obtain ⟨differs, unclosed⟩ := List.ne_and_not_mem_of_not_mem_cons unclosed
    rw [List.cons_append, outside, ih unclosed]
    exact fun same => differs same.symm

theorem IsHost.unported (host : IsHost text) : ':' ∉ outside false text := by
  rcases host.closed with ⟨-, noColon⟩ | ⟨inner, rfl, unclosed⟩
  · exact fun member => noColon (mem_of_mem_outside member)
  · rw [List.cons_append, outside, outside_true unclosed]
    exact List.not_mem_nil

end Url

namespace Endpoint

open Url

variable {endpoint : Endpoint}

def place (endpoint : Endpoint) : List Char :=
  endpoint.host.toList ++ ':' :: (toString endpoint.port).toList

/-- An address of the server as it is meant: behind the scheme nothing but the authority, which is
the host and the port, with a host that can be told apart, and the host and the port are what is
read back. -/
structure Leads (endpoint : Endpoint) (scheme base : String) : Prop where
  behind : cutScheme? base.toList = some (scheme.toList, endpoint.place)
  whole : authority endpoint.place = endpoint.place
  named : endpoint.host ≠ ""
  visible : ∀ c ∈ endpoint.host.toList, Text.isBlank c = false
  anonymous : '@' ∉ endpoint.host.toList
  unported : ':' ∉ outside false endpoint.host.toList
  recovered : read? base.toList =
    some ⟨scheme.toList, none, endpoint.host.toList, some endpoint.port, []⟩

theorem check_eq_ok_iff :
    endpoint.check = .ok () ↔ endpoint.hasBlankHost = false ∧
      Text.occursIn "://".toList endpoint.host.toList = false ∧ endpoint.port ≠ 0 ∧
      endpoint.requestTimeout.nanos ≠ 0 := by
  unfold check
  split
  · simp_all
  · split
    · simp_all
    · split
      · simp_all
      · split <;> simp_all

theorem address_toList (endpoint : Endpoint) (scheme : String) :
    (endpoint.address scheme).toList = scheme.toList ++ ':' :: '/' :: '/' :: endpoint.place := by
  simp [address, place, String.toList_append]

theorem host_ne_empty (named : endpoint.hasBlankHost = false) : endpoint.host ≠ "" := by
  intro empty
  rw [hasBlankHost, empty] at named
  cases named

theorem mem_place {c : Char} :
    c ∈ endpoint.place ↔
      c ∈ endpoint.host.toList ∨ c = ':' ∨ c ∈ (toString endpoint.port).toList := by
  rw [place, List.mem_append, List.mem_cons]

theorem within_place_iff :
    (∀ c ∈ endpoint.place, endsAuthority c = false) ↔
      ∀ c ∈ endpoint.host.toList, endsAuthority c = false := by
  refine ⟨fun within c member => within c (mem_place.mpr (.inl member)), fun within c member => ?_⟩
  rcases mem_place.mp member with member | rfl | member
  · exact within c member
  · rfl
  · exact (divides_of_isDigit (isDigit_of_mem_port member)).1

theorem anonymous_place (anonymous : '@' ∉ endpoint.host.toList) : '@' ∉ endpoint.place := by
  intro member
  rcases mem_place.mp member with member | same | member
  · exact anonymous member
  · exact absurd same (by decide)
  · exact (divides_of_isDigit (isDigit_of_mem_port member)).2 rfl

/-- An address is read by its authority, if nothing in the host ends that or makes a user. -/
theorem read?_address {scheme : String} (noColon : ':' ∉ scheme.toList)
    (within : ∀ c ∈ endpoint.host.toList, endsAuthority c = false)
    (anonymous : '@' ∉ endpoint.host.toList) :
    read? (endpoint.address scheme).toList = (cutPort? endpoint.place).map fun (host, port) =>
      ⟨scheme.toList, none, host, port, []⟩ := by
  have whole := within_place_iff.mpr within
  rw [read?, address_toList, cutScheme?_append noColon]
  simp only [Option.bind_eq_bind, Option.bind_some, authority_eq_self_iff.mpr whole,
    behindAuthority_eq_nil_iff.mpr whole, cutUser_of_not_mem (anonymous_place anonymous)]
  cases cutPort? endpoint.place <;> rfl

theorem leads_iff_isHost {scheme : String} (noColon : ':' ∉ scheme.toList)
    (named : endpoint.host ≠ "") :
    endpoint.Leads scheme (endpoint.address scheme) ↔ IsHost endpoint.host.toList := by
  constructor
  · intro leads
    have within := within_place_iff.mp (authority_eq_self_iff.mp leads.whole)
    have recovered := leads.recovered
    rw [read?_address noColon within leads.anonymous] at recovered
    obtain ⟨⟨host, port⟩, cut, same⟩ := Option.map_eq_some_iff.mp recovered
    obtain ⟨-, -, rfl, rfl, -⟩ := Parts.mk.inj same
    exact ⟨leads.visible, within, leads.anonymous, (cutPort?_eq_some_iff _ _).mp cut⟩
  · intro host
    refine ⟨?_, authority_eq_self_iff.mpr (within_place_iff.mpr host.within), named, host.visible,
      host.anonymous, host.unported, ?_⟩
    · rw [address_toList, cutScheme?_append noColon]
    · rw [read?_address noColon host.within host.anonymous, place,
        (cutPort?_eq_some_iff _ _).mpr host.closed]
      rfl

/-- Both addresses of the server are as they are meant. -/
def WellAddressed (endpoint : Endpoint) : Prop :=
  endpoint.Leads (if endpoint.useTls then "https" else "http") endpoint.httpBase ∧
    endpoint.Leads (if endpoint.useTls then "wss" else "ws") endpoint.streamBase

theorem wellAddressed_iff_isHost (named : endpoint.host ≠ "") :
    endpoint.WellAddressed ↔ IsHost endpoint.host.toList := by
  have http : ':' ∉ (if endpoint.useTls then "https" else "http" : String).toList := by
    split <;> decide
  have stream : ':' ∉ (if endpoint.useTls then "wss" else "ws" : String).toList := by
    split <;> decide
  exact (and_congr (leads_iff_isHost http named) (leads_iff_isHost stream named)).trans
    (and_self_iff)

end Endpoint

namespace Config

variable {config : Config}

theorem connection_of_check (valid : config.check = .ok ()) : config.connection.check = .ok () := by
  unfold check at valid
  cases checked : config.connection.check with
  | ok value => rfl
  | error error =>
    rw [checked] at valid
    cases valid

/-- The addresses of a valid configuration are well formed exactly if its host is a host: the checks
ask no more of it than to be there and to bring no scheme. -/
theorem well_addressed_exactly_hosts (config : Config) (valid : config.check = .ok ()) :
    config.connection.port ≠ 0 ∧
      (config.connection.WellAddressed ↔ Url.IsHost config.connection.host.toList) := by
  obtain ⟨named, -, ported, -⟩ := Endpoint.check_eq_ok_iff.mp (connection_of_check valid)
  exact ⟨ported, Endpoint.wellAddressed_iff_isHost (Endpoint.host_ne_empty named)⟩

def withHost (host : String) : Config :=
  { default with connection := { Endpoint.default with host := host } }

theorem loopback_isHost : Url.IsHost "[::1]".toList where
  visible c member := Bool.eq_false_iff.mpr
    (List.any_eq_false.mp (by decide : "[::1]".toList.any Text.isBlank = false) c member)
  within c member := Bool.eq_false_iff.mpr
    (List.any_eq_false.mp (by decide : "[::1]".toList.any Url.endsAuthority = false) c member)
  anonymous := by decide
  closed := .inr ⟨"::1".toList, rfl, by decide⟩

/-- An address of the sixth version in brackets. -/
theorem loopback_addressed :
    (withHost "[::1]").check = .ok () ∧ (withHost "[::1]").connection.WellAddressed ∧
      (withHost "[::1]").connection.httpBase = "http://[::1]:8080" := by
  have valid : (withHost "[::1]").check = .ok () := by decide
  exact ⟨valid, (well_addressed_exactly_hosts _ valid).2.mpr loopback_isHost, by decide⟩

/-- A host with a path behind it passes the checks. The port is read as the end of the path. -/
theorem path_taken_for_host :
    (withHost "localhost/bot").check = .ok () ∧
      Url.read? (withHost "localhost/bot").connection.httpBase.toList =
        some ⟨"http".toList, none, "localhost".toList, none, "/bot:8080".toList⟩ ∧
      ¬ (withHost "localhost/bot").connection.WellAddressed := by
  refine ⟨by decide, by decide, fun leads => ?_⟩
  exact absurd leads.1.recovered (by decide)

end Config
end Switchboard
