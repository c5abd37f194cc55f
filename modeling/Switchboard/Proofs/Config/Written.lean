import Switchboard.Config.Basic
import Switchboard.Proofs.Duration.Written
import Switchboard.Proofs.Message.Wire

set_option autoImplicit false

namespace Switchboard

open Shape (Fields)

theorem LogLevel.decode_encode (medium : Shape.Medium) (level : LogLevel) :
    decode medium level.encode = .ok level := by
  cases level <;> rfl

theorem LogFormat.decode_encode (medium : Shape.Medium) (format : LogFormat) :
    decode medium format.encode = .ok format := by
  cases format <;> rfl

theorem LogOutput.decode_encode (medium : Shape.Medium) (output : LogOutput) :
    decode medium output.encode = .ok output := by
  cases output <;> rfl

theorem LogRotation.decode_encode (medium : Shape.Medium) (rotation : LogRotation) :
    decode medium rotation.encode = .ok rotation := by
  cases rotation <;> rfl

section

variable (medium : Shape.Medium)

theorem SpanEvents.decode_encode (events : SpanEvents) :
    decode medium events.encode = .ok events := by
  apply Shape.record_ofMembers (by simp)
  intro held shown
  simp only [fields, Fields.fromMembers_seq, Fields.fromMembers_map,
    Fields.fromMembers_defaulted (shown "new") (Shape.bool_bool events.opened),
    Fields.fromMembers_defaulted (shown "enter") (Shape.bool_bool events.entered),
    Fields.fromMembers_defaulted (shown "exit") (Shape.bool_bool events.exited),
    Fields.fromMembers_defaulted (shown "close") (Shape.bool_bool events.closed),
    Shape.combine_ok]

theorem LogLevel.membersOf_encode (levels : List (String × LogLevel)) :
    Shape.membersOf (decode medium) (levels.map fun held => (held.1, held.2.encode)) =
      .ok levels := by
  induction levels with
  | nil => rfl
  | cons head levels ih =>
    rw [List.map_cons, Shape.membersOf, decode_encode, ih]
    rfl

theorem LogLevel.dictionary_encode {levels : List (String × LogLevel)}
    (ascending : (levels.map Prod.fst).Pairwise (· < ·)) :
    Shape.dictionary (decode medium) (.ofMembers (levels.map fun held =>
      (held.1, held.2.encode))) = .ok levels := by
  rw [Json.ofMembers_of_ordered]
  · exact membersOf_encode medium levels
  · refine ⟨?_, Json.membersOrdered_iff.mpr fun member listed => ?_⟩
    · rw [Json.Ascending, List.map_map]
      exact ascending
    · obtain ⟨_, _, rfl⟩ := List.mem_map.mp listed
      trivial

theorem LoggingConfig.decode_encode {config : LoggingConfig}
    (ascending : (config.filters.map Prod.fst).Pairwise (· < ·)) :
    decode medium config.encode = .ok config := by
  apply Shape.record_ofPresent (by simp)
  intro held shown
  simp only [fields, Fields.fromMembers_seq, Fields.fromMembers_map,
    Fields.fromMembers_defaulted (shown "level") (LogLevel.decode_encode medium config.level),
    Fields.fromMembers_defaulted (shown "format") (LogFormat.decode_encode medium config.format),
    Fields.fromMembers_defaulted (shown "output") (LogOutput.decode_encode medium config.output),
    Fields.fromMembers_defaulted (shown "filters") (LogLevel.dictionary_encode medium ascending),
    Fields.fromMembers_optional (shown "file_path") fun path _ =>
      ⟨show Shape.filePath (.str path) = .ok path from rfl, nofun⟩,
    Fields.fromMembers_defaulted (shown "rotation")
      (LogRotation.decode_encode medium config.rotation),
    Fields.fromMembers_defaulted (shown "thread_ids") (Shape.bool_bool config.threadIds),
    Fields.fromMembers_defaulted (shown "file_location") (Shape.bool_bool config.fileLocation),
    Fields.fromMembers_defaulted (shown "span_events")
      (SpanEvents.decode_encode medium config.spanEvents),
    Shape.combine_ok]

/-- The endpoint without what its timeout has below milliseconds. -/
def Endpoint.rounded (endpoint : Endpoint) : Endpoint :=
  { endpoint with requestTimeout := endpoint.requestTimeout.rounded }

theorem Endpoint.decode_encode {endpoint : Endpoint} (port : endpoint.port ≤ 65535)
    (writable : endpoint.requestTimeout.Writable) :
    decode medium endpoint.encode = .ok endpoint.rounded := by
  apply Shape.record_ofMembers (by simp)
  intro held shown
  have read : Shape.nat16 (.int endpoint.port) = .ok endpoint.port := Shape.natUpTo_int port _
  simp only [fields, Fields.fromMembers_seq, Fields.fromMembers_map,
    Fields.fromMembers_defaulted (shown "host") (Shape.text_str endpoint.host),
    Fields.fromMembers_defaulted (shown "port") read,
    Fields.fromMembers_defaulted (shown "use_tls") (Shape.bool_bool endpoint.useTls),
    Fields.fromMembers_defaulted (shown "request_timeout") (Duration.decode_encode writable),
    Shape.combine_ok, rounded]

/-- The policy without what its delays have below milliseconds. -/
def Retry.rounded (retry : Retry) : Retry :=
  { retry with initialDelay := retry.initialDelay.rounded, maxDelay := retry.maxDelay.rounded }

theorem Retry.decode_encode {retry : Retry} (maxRetries : retry.maxRetries ≤ 4294967295)
    (initial : retry.initialDelay.Writable) (greatest : retry.maxDelay.Writable) :
    decode medium retry.encode = .ok retry.rounded := by
  apply Shape.record_ofMembers (by simp)
  intro held shown
  have read : Shape.nat32 (.int retry.maxRetries) = .ok retry.maxRetries :=
    Shape.natUpTo_int maxRetries _
  simp only [fields, Fields.fromMembers_seq, Fields.fromMembers_map,
    Fields.fromMembers_defaulted (shown "max_retries") read,
    Fields.fromMembers_defaulted (shown "initial_delay") (Duration.decode_encode initial),
    Fields.fromMembers_defaulted (shown "max_delay") (Duration.decode_encode greatest),
    Fields.fromMembers_defaulted (shown "multiplier")
      (show Shape.float (.float retry.multiplier) = .ok retry.multiplier from rfl),
    Shape.combine_ok, rounded]

theorem SessionSettings.decode_encode {settings : SessionSettings}
    (botId : FitsInt64 settings.botId.number)
    (cacheSize : ∀ size ∈ settings.cacheSize, FitsInt32 size) :
    decode medium settings.encode = .ok settings := by
  apply Shape.record_ofPresent (by simp)
  intro held shown
  simp only [fields, Fields.fromMembers_seq, Fields.fromMembers_map,
    Fields.fromMembers_defaulted (shown "auth_key") (Shape.text_str settings.authKey),
    Fields.fromMembers_defaulted (shown "bot_id") (UserId.decode_encode botId),
    Fields.fromMembers_optional (shown "cache_size") fun size set =>
      ⟨Shape.int32_int (cacheSize size set), nofun⟩,
    Fields.fromMembers_optional (shown "enable_websocket") fun enabled _ =>
      ⟨Shape.bool_bool enabled, nofun⟩,
    Shape.combine_ok]

end

namespace Config

/-- The numbers of a configuration are in the ranges of their types, and its targets are in
ascending order. -/
structure Typed (config : Config) : Prop where
  port : config.connection.port ≤ 65535
  botId : FitsInt64 config.session.botId.number
  cacheSize : ∀ size ∈ config.session.cacheSize, FitsInt32 size
  maxRetries : config.stream.retry.maxRetries ≤ 4294967295
  filters : (config.logging.filters.map Prod.fst).Pairwise (· < ·)

/-- All durations of a configuration. -/
def durations (config : Config) : List Duration :=
  [config.connection.requestTimeout, config.stream.retry.initialDelay,
    config.stream.retry.maxDelay]

/-- The configuration without what its durations have below milliseconds. -/
def rounded (config : Config) : Config :=
  { config with
    connection := config.connection.rounded
    stream := { config.stream with retry := config.stream.retry.rounded } }

theorem rounded_eq_self {config : Config}
    (whole : ∀ d ∈ config.durations, d.nanos % 1000000 = 0) : config.rounded = config := by
  rw [durations, List.forall_mem_cons, List.forall_mem_cons, List.forall_mem_singleton] at whole
  obtain ⟨timeout, initial, greatest⟩ := whole
  rw [rounded, Endpoint.rounded, Retry.rounded, Duration.rounded_eq_self timeout,
    Duration.rounded_eq_self initial, Duration.rounded_eq_self greatest]

theorem decode_encode (medium : Shape.Medium) {config : Config} (typed : config.Typed)
    (writable : ∀ d ∈ config.durations, d.Writable) :
    decode medium config.encode = .ok config.rounded := by
  rw [durations, List.forall_mem_cons, List.forall_mem_cons, List.forall_mem_singleton] at writable
  obtain ⟨timeout, initial, greatest⟩ := writable
  have stream : StreamSettings.decode medium config.stream.encode =
      .ok { config.stream with retry := config.stream.retry.rounded } := by
    apply Shape.record_ofMembers (by simp)
    intro held shown
    simp only [StreamSettings.fields, Fields.fromMembers_seq, Fields.fromMembers_map,
      Fields.fromMembers_defaulted (shown "auto_reconnect")
        (Shape.bool_bool config.stream.autoReconnect),
      Fields.fromMembers_defaulted (shown "retry")
        (Retry.decode_encode medium typed.maxRetries initial greatest),
      Shape.combine_ok]
  apply Shape.record_ofMembers (by simp)
  intro held shown
  simp only [fields, Fields.fromMembers_seq, Fields.fromMembers_map,
    Fields.fromMembers_defaulted (shown "connection")
      (Endpoint.decode_encode medium typed.port timeout),
    Fields.fromMembers_defaulted (shown "session")
      (SessionSettings.decode_encode medium typed.botId typed.cacheSize),
    Fields.fromMembers_defaulted (shown "stream") stream,
    Fields.fromMembers_defaulted (shown "logging")
      (LoggingConfig.decode_encode medium typed.filters),
    Shape.combine_ok, rounded]

end Config

end Switchboard
